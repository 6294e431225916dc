namespace GraphBoard.Json

structure Numeral where
  negative : Bool
  digits : Nat
  /-- The power of ten; none when neither fraction nor exponent is written. -/
  exponent : Option Int
  deriving DecidableEq, Repr

inductive Value where
  | null
  | bool (b : Bool)
  | number (numeral : Numeral)
  | string (text : Option String)
  | array (items : List Value)
  | object (members : List (Option String × Value))
  deriving Repr

end GraphBoard.Json
