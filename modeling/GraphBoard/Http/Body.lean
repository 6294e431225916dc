import GraphBoard.Text.Utf8

namespace GraphBoard

/-- A decoded picture. Its pixels are only handed on, to whatever shows them. -/
structure Picture where
  width : Nat
  height : Nat
  pixels : List UInt8
  deriving DecidableEq, Repr

def Picture.black (width height : Nat) : Picture :=
  ⟨width, height, List.replicate (3 * width * height) 0⟩

namespace Http

open GraphBoard.Text

/-- A body is a picture or no picture; which one it is, the decoder says. -/
inductive Body where
  | data (bytes : List UInt8)
  | picture (picture : Picture)
  deriving DecidableEq, Repr

def Body.ofText (s : String) : Body := .data (Utf8.ofString s)

def Body.bytes? : Body → Option (List UInt8)
  | .data bytes => some bytes
  | .picture _ => none

def Body.picture? : Body → Option Picture
  | .data _ => none
  | .picture found => some found

end Http

end GraphBoard
