import GraphBoard.Panel.Basic
import GraphBoard.Input.Event
import GraphBoard.Text.Quoted

namespace GraphBoard

structure Container where
  id : String
  title : String
  hasPlot : Bool
  visible : Bool
  attached : Bool
  deriving DecidableEq, Repr

namespace Container

def new (id title : String) (hasPlot : Bool) : Container := ⟨id, title, hasPlot, true, true⟩

def detached (id : String) : Container := ⟨id, "", false, true, false⟩

def hidden (c : Container) : Container := { c with visible := false }

end Container

def Viewer.pointAt (url : String) : Viewer → Viewer × List Effect
  | chart feed =>
    let (feed, effects) := (feed.setUrl url).request
    (chart feed, effects)
  | outside _ => (outside url, [.ask (.refresh url)])

def Viewer.new (container url : String) : ViewerKind → Viewer × List Effect
  | .chart =>
    let (feed, effects) := Feed.new url
    (chart feed, effects)
  | .outside => (outside url, [.ask (.attach container url)])

def Content.request (container url : String) (kind : ViewerKind) : Content → Content × List Effect
  | picture shown pending => (picture shown (pending + 1), [.start (.image url)])
  | plot (some viewer) =>
    let (viewer, effects) := viewer.pointAt url
    (plot (some viewer), effects)
  | plot none =>
    let (viewer, effects) := Viewer.new container url kind
    (plot (some viewer), effects)

namespace Panel

def logName (p : Panel) : String := "Panel '" ++ p.id ++ "'"

/-- An address is given to the viewer, or asked for as a picture. Earlier requests go on. -/
def display (p : Panel) (url : String) : Panel × List Effect :=
  let (content, effects) := p.content.request p.id url p.setting.viewer
  ({ p with currentUrl := some url, content }, effects)

def load (p : Panel) : Panel × List Effect :=
  let p := { p with lastRange := some p.range, lastIndex := some p.active }
  let url := p.url
  let (p, effects) := p.display url
  ({ p with controls := p.controls.map (·.select p.range) },
    .debug (p.logName ++ " loading " ++ url) :: effects)

def setUp (p : Panel) : Panel × List Effect :=
  let (p, effects) := { p with controls := some .new }.load
  ({ p with initialized := true }, effects ++ [.info (p.logName ++ " initialized")])

def splitSources (sources : String) : List String :=
  (sources.toList.splitOn ';').map fun piece => String.ofList (Text.trim piece)

theorem splitSources_pos (sources : String) : 0 < (splitSources sources).length := by
  simp [splitSources, List.length_pos_iff]

def handleText : Option String → String
  | some id => "Some(" ++ Text.quote id ++ ")"
  | none => "None"

def bare (container : Container) (sources : String) (handle : Option String) (setting : Setting) :
    Panel where
  id := container.id
  title := container.title
  visible := container.visible
  controls := none
  content := if container.hasPlot then .plot none else .picture .nothing 0
  sources := splitSources sources
  active := 0
  active_lt := splitSources_pos sources
  lastIndex := none
  range := .day
  lastRange := none
  currentUrl := none
  expanded := container.visible
  initialized := false
  handle := handle.map (⟨·, false⟩)
  setting := setting
  inbox := []

/-- A panel as it is made. One with a handle waits to be opened, any other loads at once. -/
def make (container : Container) (sources : String) (handle : Option String) (setting : Setting) :
    Panel × List Effect :=
  let p := bare container sources handle setting
  let created := Effect.debug (p.logName ++ " created with " ++ Nat.repr p.sources.length ++
    " source(s), toggle handle: " ++ handleText handle)
  if handle.isNone then
    let (p, effects) := p.setUp
    (p, created :: effects)
  else (p, [created])

def new (container : Container) (sources : String) (handle : Option String) (setting : Setting) :
    Except BoardError (Panel × List Effect) :=
  if !container.attached then
    .error (.invalidArgument
      ("Need a valid container to attach to (got '" ++ container.id ++ "')"))
  else if Text.allBlank sources.toList then
    .error (.invalidArgument ("Need a non-empty source list for '" ++ container.id ++ "'"))
  else .ok (make container sources handle setting)

def reload (p : Panel) : Panel × List Effect := if p.shouldReload then p.load else (p, [])

def openUp (p : Panel) : Panel × List Effect :=
  let (p, first) := if p.initialized then (p, []) else p.setUp
  let (p, second) := p.reload
  ({ p with
      visible := true
      expanded := true
      handle := p.handle.map ({ · with isOpen := true }) },
    first ++ second)

def close (p : Panel) : Panel :=
  { p with
    visible := false
    expanded := false
    handle := p.handle.map ({ · with isOpen := false }) }

def click (p : Panel) : Panel × List Effect :=
  if p.handle.isNone then (p, [])
  else if p.visible then (p.close, [])
  else p.openUp

def hearsClick (p : Panel) : Bool := p.handle.isSome

/-- A time range is chosen, and asked for even if it was chosen before. -/
def selectRange (p : Panel) (range : TimeRange) : Panel × List Effect := { p with range }.load

def selectSource (p : Panel) (index : Nat) : Panel × List Effect :=
  if h : index < p.sources.length then ({ p with active := index, active_lt := h }, [])
  else
    (p, [.debug (p.logName ++ " ignoring source index " ++ Nat.repr index ++ " (" ++
      Nat.repr p.sources.length ++ " sources)")])

def publication (p : Panel) (url : String) : Publication :=
  ⟨Job.plainUrl url, p.setting.dashboard.header, p.setting.dashboard.endpoint, p.setting.page⟩

def publish (p : Panel) : List Effect :=
  if p.controls.isNone then [.debug (p.logName ++ " has no controls yet, ignoring publish")]
  else
    match p.displayedUrl with
    | none => [.warn (p.logName ++ " has nothing displayed to publish")]
    | some url => [.start (.probe (p.publication url))]

/-- What an event does to the panel it is meant for. The ranges can be chosen only once there are
buttons for them. -/
def act (p : Panel) : Event → Panel × List Effect
  | .toggleSelected => p.click
  | .selectRange range => if p.controls.isSome then p.selectRange range else (p, [])
  | .selectSource index => p.selectSource index
  | .publishSelected => (p, p.publish)
  | .selectNext => (p, [])
  | .selectPrevious => (p, [])
  | .quit => (p, [])

def receive (p : Panel) : Message → Panel
  | .notice notice => { p with inbox := p.inbox ++ [notice] }
  | .series url outcome =>
    match p.content with
    | .plot (some (.chart feed)) =>
      { p with content := .plot (some (.chart (feed.receive url outcome))) }
    | _ => p

def loadErrorText : String := "Error loading image"

/-- Something else is shown in the place for a picture, and one more picture has been applied. -/
def showPicture (p : Panel) (shown : Shown) : Panel :=
  match p.content with
  | .picture _ pending => { p with content := .picture shown (pending - 1) }
  | .plot _ => p

def setPublish (p : Panel) (state : PublishState) : Panel :=
  { p with controls := p.controls.map ({ · with publish := state }) }

def apply (p : Panel) : Notice → Panel × List Effect
  | .image url (.ok picture) =>
    (p.showPicture (.picture url picture), [.debug (p.logName ++ " showing " ++ url)])
  | .image url (.error e) =>
    (p.showPicture (.error loadErrorText),
      [.debug (p.logName ++ " failed " ++ url ++ ": " ++ e.message)])
  | .published (.ok _) => (p.setPublish .success, [])
  | .published (.error e) =>
    (p.setPublish .alert, [.debug (p.logName ++ " publish failed: " ++ e.message)])

def applyAll (p : Panel) : List Notice → Panel × List Effect
  | [] => (p, [])
  | notice :: rest =>
    let (p, first) := p.apply notice
    let (p, later) := p.applyAll rest
    (p, first ++ later)

def pollViewer (p : Panel) : Panel × List Effect :=
  match p.content with
  | .plot (some (.chart feed)) =>
    let (feed, effects) := feed.poll
    ({ p with content := .plot (some (.chart feed)) }, effects)
  | _ => (p, [])

def hasNews (p : Panel) : Bool :=
  !p.inbox.isEmpty ||
    match p.content with
    | .plot (some (.chart feed)) => feed.hasNews
    | _ => false

def poll (p : Panel) : Panel × List Effect :=
  let (p, first) := { p with inbox := [] }.applyAll p.inbox
  let (p, second) := p.pollViewer
  (p, first ++ second)

end Panel

end GraphBoard
