import GraphBoard.Config.Read
import GraphBoard.Http.Client
import GraphBoard.Input.Key
import GraphBoard.Panel.Operations
import GraphBoard.Screen.Image

namespace GraphBoard

abbrev PanelEffect := Nat × Effect

structure CachedPicture where
  url : String
  picture : Picture
  deriving DecidableEq, Repr

/-- The pictures kept for drawing, each for the panel of an id, and the way to draw them. -/
structure PictureCache where
  paint : Screen.Painter
  pictures : List (String × CachedPicture)

namespace PictureCache

def new (paint : Screen.Painter) : PictureCache := ⟨paint, []⟩

@[simp] theorem paint_new (paint : Screen.Painter) : (new paint).paint = paint := rfl

def lookup (cache : PictureCache) (id : String) : Option CachedPicture := cache.pictures.lookup id

end PictureCache

structure Board where
  running : Bool
  panels : List Panel
  selected : Nat
  page : String
  spinner : Nat
  cache : PictureCache

namespace Board

/-- The step after a step of the sign of loading; after 127 it starts again. -/
def nextSpin (n : Nat) : Nat := if n < 127 then n + 1 else 0

def new (paint : Screen.Painter) (page : String) (panels : List Panel) : Board :=
  ⟨true, panels, 0, page, 0, .new paint⟩

def actOn (b : Board) (i : Nat) (f : Panel → Panel × List Effect) : Board × List PanelEffect :=
  match b.panels[i]? with
  | some p =>
    let (p, effects) := f p
    ({ b with panels := b.panels.set i p }, effects.map (i, ·))
  | none => (b, [])

def act (b : Board) (event : Event) : Board × List PanelEffect :=
  match event with
  | .quit => ({ b with running := false }, [])
  | .selectNext =>
    (if b.panels.isEmpty then b
    else { b with selected := (b.selected + 1) % b.panels.length }, [])
  | .selectPrevious =>
    (if b.panels.isEmpty then b
    else { b with selected := (b.selected + b.panels.length - 1) % b.panels.length }, [])
  | event => b.actOn b.selected (·.act event)

def actAll (b : Board) : List Event → Board × List PanelEffect
  | [] => (b, [])
  | event :: rest =>
    let (b, first) := b.act event
    let (b, later) := b.actAll rest
    (b, first ++ later)

def receive (b : Board) (i : Nat) (message : Message) : Board :=
  { b with panels := b.panels.modify i (·.receive message) }

def pollPanels (i : Nat) : List Panel → List Panel × List PanelEffect
  | [] => ([], [])
  | p :: rest =>
    let (p, first) := p.poll
    let (rest, later) := pollPanels (i + 1) rest
    (p :: rest, first.map (i, ·) ++ later)

def isLoading (b : Board) : Bool := b.panels.any fun p => p.isLoading && p.visible

/-- All panels are polled, and the sign of loading goes on if any can be seen waiting. Tells whether
anything changed. -/
def poll (b : Board) : Board × List PanelEffect × Bool :=
  let news := b.panels.any Panel.hasNews
  let (panels, effects) := pollPanels 0 b.panels
  let b := { b with panels }
  if b.isLoading then ({ b with spinner := nextSpin b.spinner }, effects, true)
  else (b, effects, news)

end Board

end GraphBoard
