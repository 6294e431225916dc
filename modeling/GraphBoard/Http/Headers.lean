namespace GraphBoard.Http

abbrev Headers := List (String × String)

namespace Headers

def isNameChar (c : Char) : Bool :=
  c.isAlphanum || "!#$%&*+-.^_|~".toList.contains c || c == '\x27' || c == '\x60'

def isName (name : String) : Bool := !name.isEmpty && name.toList.all isNameChar

/-- Whether a character of a value is readable as text: a tab or a visible ASCII character. -/
def isReadable (c : Char) : Bool := c == '\t' || (0x20 ≤ c.toNat && c.toNat < 0x7F)

def fold (name : String) : String := String.ofList (name.toList.map Char.toLower)

/-- The value of the first header of a name, if it is readable. -/
def text? (headers : Headers) (name : String) : Option String :=
  if isName name then
    match headers.find? fun (other, _) => fold other == fold name with
    | some (_, value) => if value.toList.all isReadable then some value else none
    | none => none
  else none

end Headers

end GraphBoard.Http
