namespace GraphBoard

inductive TimeRange where
  | day
  | week
  | month
  | year
  deriving DecidableEq, Repr

namespace TimeRange

/-- All ranges, in the order of their buttons. -/
def all : List TimeRange := [.day, .week, .month, .year]

def name : TimeRange → String
  | .day => "day"
  | .week => "week"
  | .month => "month"
  | .year => "year"

def label : TimeRange → String
  | .day => "Day"
  | .week => "Week"
  | .month => "Month"
  | .year => "Year"

def hotkey : TimeRange → Char
  | .day => 'd'
  | .week => 'w'
  | .month => 'm'
  | .year => 'y'

def ofName? (name : String) : Option TimeRange := all.find? (·.name == name)

end TimeRange

end GraphBoard
