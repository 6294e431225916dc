import GraphBoard.Board.Basic
import GraphBoard.Screen.Paragraph
import GraphBoard.Screen.Plot
import GraphBoard.Screen.Rows

namespace GraphBoard

open GraphBoard.Screen

def messageBox (text : String) (style : Style) (wraps : Bool) : Paragraph :=
  ⟨Paragraph.textLines text, style, .center, wraps⟩

def helpLine (text : String) : Paragraph := messageBox text (.ofFg .yellow) false

def errorBox (text : String) : Paragraph := messageBox text (.ofColors .white .red) false

def emptyMessage (text : String) : Paragraph :=
  messageBox text (Style.ofFg .gray).withItalic true

def focusStyle (focused : Bool) (style : Style) : Style :=
  if focused then style.withBold else style.withDim

def rangeStyle (active : Bool) : Style :=
  if active then (Style.ofColors .black .cyan).withBold else .ofFg .gray

def publishStyle : PublishState → Style
  | .idle => .ofFg .gray
  | .success => .ofColors .black .green
  | .alert => .ofColors .white .red

def oneLine (spans : List Span) (alignment : TextAlign) : Paragraph :=
  ⟨[spans], .none, alignment, false⟩

namespace Feed

def draw (feed : Feed) (g : Grid) (a : Area) : Grid :=
  match feed.status with
  | .loading =>
    (messageBox "Loading graph..." (.ofFg .darkGray) false).draw g
      ⟨a.x, a.y + a.height / 2, a.width, min a.height 1⟩
  | .failed _ => (errorBox "Error loading graph").draw g a
  | .ready series =>
    match ChartBounds.ofSeries? series with
    | some bounds => drawChart bounds series g a
    | none => (messageBox "No data" (.ofFg .darkGray) false).draw g a

end Feed

namespace PictureCache

/-- The cache with the picture of a panel: one that was asked for at the same address is kept. -/
def keep (cache : PictureCache) (id url : String) (picture : Picture) : PictureCache :=
  match cache.lookup id with
  | some cached =>
    if cached.url == url then cache
    else
      { cache with pictures := (id, ⟨url, picture⟩) :: cache.pictures.filter (·.1 != id) }
  | none => { cache with pictures := (id, ⟨url, picture⟩) :: cache.pictures }

def draw (cache : PictureCache) (id url : String) (picture : Picture) (g : Grid) (a : Area) :
    PictureCache × Grid :=
  let cache := keep cache id url picture
  (cache, cache.paint (((cache.lookup id).map CachedPicture.picture).getD picture) g a)

end PictureCache

def spinnerSigns : List String := ["⠷", "⠯", "⠟", "⠻", "⠽", "⠾"]

structure Canvas where
  grid : Grid
  cache : PictureCache
  spinner : Nat

def Canvas.drawSpinner (c : Canvas) (a : Area) : Canvas :=
  let a := a.row 0
  let spinner := c.spinner % spinnerSigns.length
  let g := c.grid.restyle a (.ofFg .cyan)
  let (g, x) := drawTicker g a.x a.y 2 (spinnerSigns.getD spinner "" ++ " ")
  let label := "Loading graph..."
  let g := if a.right ≤ x then g else (drawTicker g x a.y label.length label).1
  { c with grid := g, spinner }

namespace Panel

/-- Sign, title, choice of source, and a star if the choice is not loaded. -/
def headerSpans (p : Panel) (selected : Bool) : List Span :=
  let sign := p.handle.elim "•" Handle.glyph
  let style := focusStyle selected (.ofFg (if selected then .cyan else .white))
  [.styled (sign ++ " ") style, .styled p.title style] ++
    (if 1 < p.sources.length then
      [.styled ("  [source " ++ Nat.repr (p.active + 1) ++ "/" ++ Nat.repr p.sources.length ++ "]")
        (.ofFg .darkGray)]
    else []) ++
    (if p.initialized && p.shouldReload then [.styled " *" (.ofFg .yellow)] else [])

def drawHeader (p : Panel) (selected : Bool) (g : Grid) (a : Area) : Grid :=
  (oneLine (p.headerSpans selected) .left).draw g a

def drawControls (p : Panel) (g : Grid) (a : Area) : Grid :=
  match p.controls with
  | none => g
  | some controls =>
    let publish := " " ++ Controls.publishLabel ++ " "
    let (left, right) := splitRight a publish.length
    let buttons := controls.buttons.flatMap fun (range, active) =>
      [.styled (" " ++ range.label ++ " ") (rangeStyle active), .plain " "]
    let g := (oneLine buttons .left).draw g left
    (oneLine [.styled publish (publishStyle controls.publish)] .right).draw g right

def drawContent (p : Panel) (c : Canvas) (a : Area) : Canvas :=
  match p.viewer? with
  | some (.chart feed) => { c with grid := feed.draw c.grid a }
  | some (.outside _) => c
  | none =>
    match p.shown with
    | .nothing =>
      if p.isLoading then c
      else { c with grid := (emptyMessage "No graph loaded").draw c.grid a }
    | .error text => { c with grid := (errorBox text).draw c.grid a }
    | .picture url picture =>
      let (cache, grid) := PictureCache.draw c.cache p.id url picture c.grid a
      { c with cache, grid }

def drawBody (p : Panel) (c : Canvas) (a : Area) : Canvas :=
  let title := " " ++ p.currentUrl.getD "" ++ " "
  let c := { c with grid := drawTitledFrame c.grid a (.ofFg .darkGray) title }
  let inner := a.inside
  let c := p.drawContent c inner
  if p.isLoading && 0 < inner.height then c.drawSpinner inner else c

def draw (p : Panel) (selected : Bool) (c : Canvas) (a : Area) : Canvas :=
  if !p.visible then { c with grid := p.drawHeader selected c.grid a }
  else
    let (header, controls, body) := headerControlsBody a
    let grid := p.drawHeader selected c.grid header
    p.drawBody { c with grid := p.drawControls grid controls } body

def rowSize (p : Panel) : RowSize := if p.visible then .stretch else .fixed 1

end Panel

namespace Board

def helpText : String :=
  "↑/↓ select · Enter toggle · d/w/m/y range · 1-9 source · a add to dashboard · q quit"

def drawPanels (selected : Nat) (i : Nat) (c : Canvas) : List (Panel × Area) → Canvas
  | [] => c
  | (p, a) :: rest => drawPanels selected (i + 1) (p.draw (i == selected) c a) rest

def draw (b : Board) (g : Grid) (a : Area) : Board × Grid :=
  let (title, body, help) := titleBodyHelp a
  let g := (messageBox ("Graphs · " ++ b.page) (Style.ofFg .white).withBold false).draw g title
  let c : Canvas := ⟨g, b.cache, b.spinner⟩
  let c :=
    if b.panels.isEmpty then
      { c with grid := (emptyMessage "No graphs configured").draw c.grid body }
    else
      drawPanels b.selected 0 c (b.panels.zip (divideRows body (b.panels.map Panel.rowSize)))
  ({ b with cache := c.cache, spinner := c.spinner }, (helpLine helpText).draw c.grid help)

end Board

end GraphBoard
