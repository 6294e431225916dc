import GraphBoard.Input.Event

namespace GraphBoard

inductive KeyCode where
  | char (c : Char)
  | enter
  | esc
  | up
  | down
  | other
  deriving DecidableEq, Repr

inductive Modifier where
  | control
  | shift
  | alt
  | super
  deriving DecidableEq, Repr

inductive KeyPhase where
  | press
  | again
  | release
  deriving DecidableEq, Repr

structure Key where
  code : KeyCode
  modifiers : List Modifier
  phase : KeyPhase
  deriving DecidableEq, Repr

def Key.isControlOnly (key : Key) : Bool :=
  key.modifiers.contains .control && key.modifiers.all (· == .control)

def TimeRange.ofHotkey? (c : Char) : Option TimeRange := TimeRange.all.find? (·.hotkey == c)

/-- What a character asks for. Sources are counted from one on the keys. -/
def eventOfChar? (control : Bool) (c : Char) : Option Event :=
  if c == 'q' then some .quit
  else if c == 'c' && control then some .quit
  else if c == 'j' then some .selectNext
  else if c == 'k' then some .selectPrevious
  else if c == ' ' then some .toggleSelected
  else if c == 'a' then some .publishSelected
  else if '1' ≤ c && c ≤ '9' then some (.selectSource (c.toNat - '1'.toNat))
  else (TimeRange.ofHotkey? c).map .selectRange

/-- What a key asks for. One that is let go asks for nothing, so that each press counts once. -/
def Key.event? (key : Key) : Option Event :=
  if key.phase == .release then none
  else
    match key.code with
    | .esc => some .quit
    | .down => some .selectNext
    | .up => some .selectPrevious
    | .enter => some .toggleSelected
    | .char c => eventOfChar? key.isControlOnly c
    | .other => none

end GraphBoard
