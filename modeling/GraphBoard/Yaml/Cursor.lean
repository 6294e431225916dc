namespace GraphBoard.Yaml

structure Cursor where
  rest : List Char
  index : Nat
  line : Nat
  column : Nat
  deriving DecidableEq, Repr

def isAllowed (c : Char) : Bool :=
  let n := c.toNat
  n == 9 || n == 10 || n == 13 || (0x20 ≤ n && n ≤ 0x7E) || n == 0x85 ||
  (0xA0 ≤ n && n ≤ 0xFFFD) || 0x10000 ≤ n

def isBlank (c : Char) : Bool := c == ' ' || c == '\t'

def isBreak (c : Char) : Bool :=
  c == '\r' || c == '\n' || c == '\x85' || c == '\u2028' || c == '\u2029'

def isWord (c : Char) : Bool := c.isAlphanum || c == '-' || c == '_'

def atSpace : List Char → Bool
  | [] => true
  | c :: _ => isBlank c || isBreak c

def atLineEnd : List Char → Bool
  | [] => true
  | c :: _ => isBreak c

def opensWithThree (mark : Char) : List Char → Bool
  | a :: b :: c :: rest => a == mark && b == mark && c == mark && atSpace rest
  | _ => false

namespace Cursor

def start (cs : List Char) : Cursor := ⟨cs, 0, 0, 0⟩

def skip (n : Nat) (cur : Cursor) : Cursor :=
  ⟨cur.rest.drop n, cur.index + n, cur.line, cur.column + n⟩

/-- The start of the next line, from the end of a line. A carriage return and the line feed after
it end one line. -/
def skipBreak (cur : Cursor) : Cursor :=
  match cur.rest with
  | '\r' :: '\n' :: rest => ⟨rest, cur.index + 2, cur.line + 1, 0⟩
  | c :: rest => if isBreak c then ⟨rest, cur.index + 1, cur.line + 1, 0⟩ else cur
  | [] => cur

/-- The line break that stands here as it counts in a scalar: a line feed, but the two separators
of Unicode as themselves. -/
def breakText (cur : Cursor) : List Char :=
  match cur.rest with
  | c :: _ => if c == '\u2028' || c == '\u2029' then [c] else if isBreak c then ['\n'] else []
  | [] => []

def skipWhile (p : Char → Bool) (cur : Cursor) : Cursor :=
  cur.skip (cur.rest.takeWhile p).length

def skipToLineEnd (cur : Cursor) : Cursor := cur.skipWhile (!isBreak ·)

def atDocumentMark (cur : Cursor) : Bool :=
  cur.column == 0 && (opensWithThree '-' cur.rest || opensWithThree '.' cur.rest)

/-- The place after blanks, a comment and the end of the line; none when anything else stands on
the line. -/
def finishLine? (cur : Cursor) : Option Cursor :=
  let cur := cur.skipWhile isBlank
  let cur := if cur.rest.head? == some '#' then cur.skipToLineEnd else cur
  if atLineEnd cur.rest then some cur.skipBreak else none

end Cursor

end GraphBoard.Yaml
