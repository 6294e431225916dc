import GraphBoard.Text.Percent
import GraphBoard.Yaml.Cursor

namespace GraphBoard.Yaml

open GraphBoard.Text

structure Gap where
  blanks : List Char
  /-- Whether a break was seen, so that later blanks do not count. -/
  broken : Bool
  first : List Char
  later : List Char
  deriving Repr

namespace Gap

def empty : Gap := ⟨[], false, [], []⟩

/-- What a gap adds when more text follows: a single break becomes a space and each further one a
line feed. -/
def text (gap : Gap) : List Char :=
  if gap.broken then
    if gap.first.head? == some '\n' then
      if gap.later.isEmpty then [' '] else gap.later
    else gap.first ++ gap.later
  else gap.blanks.reverse

/-- The gap that begins here, with the place after it. In a plain scalar no tab may stand in the
indentation of a continuation line. -/
def read? (indent : Option Nat) : Nat → Gap → Cursor → Option (Gap × Cursor)
  | 0, _, _ => none
  | fuel + 1, gap, cur =>
    match cur.rest with
    | [] => some (gap, cur)
    | c :: _ =>
      if isBlank c then
        if c == '\t' && gap.broken && indent.any (cur.column < ·) then none
        else read? indent fuel (if gap.broken then gap else { gap with blanks := c :: gap.blanks })
          (cur.skip 1)
      else if isBreak c then
        read? indent fuel
          (if gap.broken then { gap with later := gap.later ++ cur.breakText }
          else { gap with broken := true, first := cur.breakText })
          cur.skipBreak
      else some (gap, cur)

end Gap

def escapeLetter? : Char → Option Char
  | '0' => some '\x00'
  | 'a' => some '\x07'
  | 'b' => some '\x08'
  | 't' => some '\t'
  | '\t' => some '\t'
  | 'n' => some '\n'
  | 'v' => some '\x0b'
  | 'f' => some '\x0c'
  | 'r' => some '\r'
  | 'e' => some '\x1b'
  | ' ' => some ' '
  | '"' => some '"'
  | '/' => some '/'
  | '\\' => some '\\'
  | 'N' => some '\x85'
  | '_' => some '\xa0'
  | 'L' => some '\u2028'
  | 'P' => some '\u2029'
  | _ => none

def escapeDigits? : Char → Option Nat
  | 'x' => some 2
  | 'u' => some 4
  | 'U' => some 8
  | _ => none

def hexNumeral? (digits : List Char) : Option Nat :=
  digits.foldl (fun acc c => do return 16 * (← acc) + (← Percent.hexValue? c)) (some 0)

def escape? : List Char → Option (Char × Nat)
  | [] => none
  | c :: rest =>
    match escapeLetter? c, escapeDigits? c with
    | some d, _ => some (d, 1)
    | none, some n =>
      if (rest.take n).length == n then
        match hexNumeral? (rest.take n) with
        | some v => if v.isValidChar then some (Char.ofNat v, n + 1) else none
        | none => none
      else none
    | none, none => none

def apostrophe : Char := '\x27'

/-- The text of a quoted scalar from after its opening quote; `acc` holds what was read, last
character first. -/
def quoted? (single : Bool) : Nat → List Char → Cursor → Option (List Char × Cursor)
  | 0, _, _ => none
  | fuel + 1, acc, cur =>
    if cur.atDocumentMark then none
    else
      match cur.rest with
      | [] => none
      | c :: rest =>
        if single && c == apostrophe then
          if rest.head? == some apostrophe then quoted? single fuel (c :: acc) (cur.skip 2)
          else some (acc.reverse, cur.skip 1)
        else if !single && c == '"' then some (acc.reverse, cur.skip 1)
        else if !single && c == '\\' then
          match rest with
          | d :: _ =>
            if isBreak d then do
              let (gap, cur) ← Gap.read? none (cur.rest.length + 1)
                { Gap.empty with broken := true } (cur.skip 1).skipBreak
              quoted? single fuel (gap.text.reverse ++ acc) cur
            else do
              let (e, n) ← escape? rest
              quoted? single fuel (e :: acc) (cur.skip (n + 1))
          | [] => none
        else if isBlank c || isBreak c then do
          let (gap, cur) ← Gap.read? none (cur.rest.length + 1) Gap.empty cur
          quoted? single fuel (gap.text.reverse ++ acc) cur
        else quoted? single fuel (c :: acc) (cur.skip 1)

def isFlowMark (c : Char) : Bool := [',', '[', ']', '{', '}'].contains c

def plainEnds (flow : Bool) : List Char → Bool
  | [] => true
  | c :: rest => (c == ':' && atSpace rest) || (flow && isFlowMark c)

def plainForbids (flow : Bool) : List Char → Bool
  | ':' :: d :: _ => flow && (d == '?' || isFlowMark d)
  | _ => false

/-- The text of a plain scalar, the place after it, and whether a line ended last. Continuation
lines in a block have to reach `indent`. -/
def plain? (flow : Bool) (indent : Nat) :
    Nat → List Char → Gap → Cursor → Option (List Char × Bool × Cursor)
  | 0, _, _, _ => none
  | fuel + 1, acc, gap, cur =>
    let stop : Option (List Char × Bool × Cursor) := some (acc.reverse, gap.broken, cur)
    match cur.rest with
    | [] => stop
    | c :: _ =>
      if isBlank c || isBreak c then do
        let (gap, cur) ← Gap.read? (some indent) (cur.rest.length + 1) gap cur
        let stop : Option (List Char × Bool × Cursor) := some (acc.reverse, gap.broken, cur)
        if !flow && cur.column < indent then stop
        else if cur.atDocumentMark then stop
        else
          match cur.rest with
          | '#' :: _ => stop
          | _ => plain? flow indent fuel acc gap cur
      else if plainForbids flow cur.rest then none
      else if plainEnds flow cur.rest then stop
      else plain? flow indent fuel (c :: (gap.text.reverse ++ acc)) Gap.empty (cur.skip 1)

inductive Chomping where
  | strip
  | clip
  | keep
  deriving DecidableEq, Repr

def blockHeader? (cur : Cursor) : Option (Chomping × Option Nat × Cursor) :=
  let chomping? (c : Char) : Option Chomping :=
    if c == '+' then some .keep else if c == '-' then some .strip else none
  match cur.rest with
  | a :: b :: _ =>
    match chomping? a with
    | some chomping =>
      if b.isDigit then
        if b == '0' then none else some (chomping, some (b.toNat - 48), cur.skip 2)
      else some (chomping, none, cur.skip 1)
    | none =>
      if a.isDigit then
        if a == '0' then none
        else
          match chomping? b with
          | some chomping => some (chomping, some (a.toNat - 48), cur.skip 2)
          | none => some (.clip, some (a.toNat - 48), cur.skip 1)
      else some (.clip, none, cur)
  | [a] =>
    match chomping? a with
    | some chomping => some (chomping, none, cur.skip 1)
    | none =>
      if a == '0' then none
      else if a.isDigit then some (.clip, some (a.toNat - 48), cur.skip 1)
      else some (.clip, none, cur)
  | [] => some (.clip, none, cur)

/-- Blank lines and indentation up to `indent`, or up to the first character when it is not known
yet: the breaks passed, the deepest column seen, and the place after them. -/
def blockBreaks? (indent : Option Nat) :
    Nat → List Char → Nat → Cursor → Option (List Char × Nat × Cursor)
  | 0, _, _, _ => none
  | fuel + 1, breaks, deepest, cur =>
    let spaces := (cur.rest.takeWhile (· == ' ')).length
    let cur := cur.skip (match indent with
      | some n => min spaces (n - cur.column)
      | none => spaces)
    let deepest := max deepest cur.column
    match cur.rest with
    | [] => some (breaks, deepest, cur)
    | c :: _ =>
      if c == '\t' && (indent.all (cur.column < ·)) then none
      else if isBreak c then
        blockBreaks? indent fuel (breaks ++ cur.breakText) deepest cur.skipBreak
      else some (breaks, deepest, cur)

/-- The lines of a block scalar from the start of a line on. `lead` is the break before this line
and `trail` the breaks of blank lines in between; `deep` tells whether the line before opened with
a blank. -/
def blockLines? (literal : Bool) (indent : Nat) :
    Nat → List Char → List Char → List Char → Bool → Cursor →
      Option (List Char × List Char × List Char × Cursor)
  | 0, _, _, _, _, _ => none
  | fuel + 1, acc, lead, trail, deep, cur =>
    match cur.rest with
    | [] => some (acc, lead, trail, cur)
    | c :: _ =>
      if cur.column != indent then some (acc, lead, trail, cur)
      else
        let blank := isBlank c
        let joint :=
          if !literal && lead.head? == some '\n' && !deep && !blank then
            if trail.isEmpty then [' '] else trail
          else lead ++ trail
        let line := cur.rest.takeWhile (!isBreak ·)
        let after := cur.skip line.length
        do
          let (trail, _, next) ←
            blockBreaks? (some indent) (cur.rest.length + 1) [] 0 after.skipBreak
          blockLines? literal indent fuel (acc ++ joint ++ line) after.breakText trail blank next

/-- The text of a block scalar from after its sign. `parent` is the column of the innermost block
around it. -/
def block? (literal : Bool) (parent : Option Nat) (cur : Cursor) :
    Option (List Char × Cursor) := do
  let (chomping, increment, cur) ← blockHeader? cur
  let cur ← cur.finishLine?
  let fuel := cur.rest.length + 1
  let indent := increment.map (parent.getD 0 + ·)
  let (trail, deepest, cur) ← blockBreaks? indent fuel [] 0 cur
  let indent := indent.getD (max deepest (max (parent.elim 0 (· + 1)) 1))
  let (text, lead, trail, cur) ← blockLines? literal indent fuel [] [] trail false cur
  let tail := match chomping with
    | .strip => []
    | .clip => lead
    | .keep => lead ++ trail
  return (text ++ tail, cur)

end GraphBoard.Yaml
