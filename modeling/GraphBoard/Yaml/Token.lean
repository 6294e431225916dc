namespace GraphBoard.Yaml

inductive Token where
  | version (major minor : Nat)
  | tagHandle (handle expansion : List Char)
  | documentStart
  | documentEnd
  | blockSequenceStart
  | blockMappingStart
  | blockEnd
  | flowSequenceStart
  | flowSequenceEnd
  | flowMappingStart
  | flowMappingEnd
  | blockEntry
  | flowEntry
  | key
  | value
  | reference (name : List Char)
  | anchor (name : List Char)
  | tag (handle suffix : List Char)
  /-- A scalar, and whether it is written without quotes or a block mark. -/
  | scalar (plain : Bool) (text : List Char)
  deriving DecidableEq, Repr

end GraphBoard.Yaml
