import GraphBoard.Board.Draw

/-!
# The main loop

The loop draws when something may have changed, waits for a signal and acts on it, until the board
stops running. Keys go through the same queue as what they ask for.
-/
namespace GraphBoard

open GraphBoard.Screen

inductive Signal where
  | tick
  | key (key : Key)
  | resize
  | other
  | event (event : Event)
  deriving DecidableEq, Repr

structure Loop where
  board : Board
  dirty : Bool
  frame : Grid
  queue : List Signal

namespace Loop

def new (board : Board) (width height : Nat) (queue : List Signal) : Loop :=
  ⟨board, true, .blank width height, queue⟩

/-- A frame is drawn from scratch on a screen that ends with the area, if there is need for one. -/
def redraw (l : Loop) (a : Area) : Loop :=
  if l.dirty then
    let (board, frame) := l.board.draw (.blank a.right a.bottom) a
    { l with board, frame, dirty := false }
  else l

def handle (l : Loop) : Signal → Loop × List PanelEffect
  | .tick =>
    let (board, effects, changed) := l.board.poll
    ({ l with board, dirty := changed }, effects)
  | .key key => ({ l with queue := l.queue ++ (key.event?.map Signal.event).toList }, [])
  | .resize => ({ l with dirty := true }, [])
  | .other => (l, [])
  | .event event =>
    let (board, effects) := l.board.act event
    ({ l with board, dirty := true }, effects)

/-- The loop over the signals that wait, until the board stops or none is left. `fuel` bounds the
number of signals. -/
def run (a : Area) : Nat → Loop → Loop × List PanelEffect
  | 0, l => (l, [])
  | fuel + 1, l =>
    if l.board.running then
      let l := l.redraw a
      match l.queue with
      | [] => (l, [])
      | signal :: queue =>
        let (l, first) := { l with queue }.handle signal
        let (l, later) := run a fuel l
        (l, first ++ later)
    else (l, [])

end Loop

end GraphBoard
