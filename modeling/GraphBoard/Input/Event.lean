import GraphBoard.TimeRange

namespace GraphBoard

inductive Event where
  | selectNext
  | selectPrevious
  | toggleSelected
  | selectRange (range : TimeRange)
  | selectSource (index : Nat)
  | publishSelected
  | quit
  deriving DecidableEq, Repr

end GraphBoard
