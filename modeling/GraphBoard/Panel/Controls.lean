import GraphBoard.TimeRange

namespace GraphBoard

inductive PublishState where
  /-- None has ended yet. -/
  | idle
  | success
  | alert
  deriving DecidableEq, Repr

structure Controls where
  active : Option TimeRange
  publish : PublishState
  deriving DecidableEq, Repr

namespace Controls

def publishLabel : String := "Add graph to dashboard"

def new : Controls := ⟨none, .idle⟩

def buttons (controls : Controls) : List (TimeRange × Bool) :=
  TimeRange.all.map fun range => (range, controls.active == some range)

def select (controls : Controls) (range : TimeRange) : Controls :=
  { controls with active := some range }

theorem buttons_select (controls : Controls) (range : TimeRange) :
    ((controls.select range).buttons.filter (·.2)).map (·.1) = [range] := by
  cases range <;> rfl

end Controls

end GraphBoard
