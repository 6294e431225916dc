import GraphBoard.Yaml.Name
import GraphBoard.Yaml.Scalar

/-!
# Cutting a text into tokens

The lexer keeps the columns of the blocks it is in, so that a line further to the left closes them.
Whether a scalar is a key shows only at the colon behind it. So every place where a key may have
begun is remembered until its line ends, and the colon puts the key mark there after the fact.
-/
namespace GraphBoard.Yaml

structure Candidate where
  required : Bool
  number : Nat
  index : Nat
  line : Nat
  column : Nat
  deriving DecidableEq, Repr

structure Lexer where
  cur : Cursor
  tokens : List Token
  blocks : List Nat
  candidate : Option Candidate
  /-- For every open flow collection, the candidate of the level around it. -/
  outer : List (Option Candidate)
  keyAllowed : Bool
  deriving Repr

namespace Lexer

def start (cs : List Char) : Lexer := ⟨Cursor.start cs, [], [], none, [], true⟩

def inFlow (lx : Lexer) : Bool := !lx.outer.isEmpty

def emit (lx : Lexer) (token : Token) (cur : Cursor) : Lexer :=
  { lx with tokens := token :: lx.tokens, cur }

def closeBlocks (lx : Lexer) (isOpen : Nat → Bool) : Lexer :=
  if lx.inFlow then lx
  else
    let closing := lx.blocks.takeWhile (!isOpen ·)
    { lx with
      tokens := List.replicate closing.length .blockEnd ++ lx.tokens
      blocks := lx.blocks.drop closing.length }

def insertToken (tokens : List Token) (number : Nat) (token : Token) : List Token :=
  let later := tokens.length - number
  tokens.take later ++ token :: tokens.drop later

def openBlock (lx : Lexer) (column number : Nat) (token : Token) : Lexer :=
  if lx.inFlow || lx.blocks.head?.any (column ≤ ·) then lx
  else
    { lx with
      tokens := insertToken lx.tokens number token
      blocks := column :: lx.blocks }

def dropCandidate? (lx : Lexer) : Option Lexer :=
  if lx.candidate.any Candidate.required then none else some { lx with candidate := none }

def noteCandidate? (lx : Lexer) : Option Lexer :=
  if lx.keyAllowed then do
    let lx ← lx.dropCandidate?
    let required := !lx.inFlow && lx.blocks.head? == some lx.cur.column
    let number := lx.tokens.length
    let candidate := some ⟨required, number, lx.cur.index, lx.cur.line, lx.cur.column⟩
    some { lx with candidate }
  else some lx

/-- A candidate ends with its line, and after 1024 characters. -/
def Candidate.expire? (cur : Cursor) (candidate : Option Candidate) : Option (Option Candidate) :=
  match candidate with
  | some c =>
    if c.line < cur.line || c.index + 1024 < cur.index then
      if c.required then none else some none
    else some (some c)
  | none => some none

def expire? (lx : Lexer) : Option Lexer := do
  let candidate ← Candidate.expire? lx.cur lx.candidate
  let outer ← lx.outer.mapM (Candidate.expire? lx.cur)
  return { lx with candidate, outer }

def skipFiller : Nat → Lexer → Lexer
  | 0, lx => lx
  | fuel + 1, lx =>
    let cur := lx.cur
    let cur := if cur.index == 0 && cur.rest.head? == some '\ufeff' then cur.skip 1 else cur
    let cur := cur.skipWhile fun c => c == ' ' || (c == '\t' && (lx.inFlow || !lx.keyAllowed))
    let cur := if cur.rest.head? == some '#' then cur.skipToLineEnd else cur
    match cur.rest with
    | c :: _ =>
      if isBreak c then
        skipFiller fuel { lx with cur := cur.skipBreak, keyAllowed := lx.keyAllowed || !lx.inFlow }
      else { lx with cur }
    | [] => { lx with cur }

def documentToken? (lx : Lexer) (token : Token) (cur : Cursor) : Option Lexer := do
  let lx ← (lx.closeBlocks fun _ => false).dropCandidate?
  return { lx.emit token cur with keyAllowed := false }

def openFlow? (lx : Lexer) (token : Token) : Option Lexer := do
  let lx ← lx.noteCandidate?
  return { lx.emit token (lx.cur.skip 1) with
    candidate := none, outer := lx.candidate :: lx.outer, keyAllowed := true }

def closeFlow? (lx : Lexer) (token : Token) : Option Lexer := do
  let lx ← lx.dropCandidate?
  let lx := { lx.emit token (lx.cur.skip 1) with keyAllowed := false }
  match lx.outer with
  | candidate :: outer => return { lx with candidate, outer }
  | [] => return lx

def blockMark? (lx : Lexer) (opening : Token) : Option Lexer :=
  if lx.inFlow then some lx
  else if lx.keyAllowed then some (lx.openBlock lx.cur.column lx.tokens.length opening)
  else none

def entryMark? (lx : Lexer) : Option Lexer := do
  let lx ← lx.blockMark? .blockSequenceStart
  let lx ← lx.dropCandidate?
  return { lx.emit .blockEntry (lx.cur.skip 1) with keyAllowed := true }

def keyMark? (lx : Lexer) : Option Lexer := do
  let lx ← lx.blockMark? .blockMappingStart
  let lx ← lx.dropCandidate?
  return { lx.emit .key (lx.cur.skip 1) with keyAllowed := !lx.inFlow }

/-- A colon makes a key of the candidate of its level, or of nothing. -/
def valueMark? (lx : Lexer) : Option Lexer :=
  match lx.candidate with
  | some c =>
    let lx := { lx with
      tokens := insertToken lx.tokens c.number .key, candidate := none, keyAllowed := false }
    let lx := lx.openBlock c.column c.number .blockMappingStart
    some (lx.emit .value (lx.cur.skip 1))
  | none => do
    let lx ← lx.blockMark? .blockMappingStart
    return { lx.emit .value (lx.cur.skip 1) with keyAllowed := !lx.inFlow }

def nodeToken? (lx : Lexer) (read? : Cursor → Option (Token × Cursor)) : Option Lexer := do
  let lx ← lx.noteCandidate?
  let (token, cur) ← read? lx.cur
  return { lx.emit token cur with keyAllowed := false }

def blockScalar? (lx : Lexer) (literal : Bool) : Option Lexer := do
  let lx ← lx.dropCandidate?
  let (text, cur) ← block? literal lx.blocks.head? (lx.cur.skip 1)
  return { lx.emit (.scalar false text) cur with keyAllowed := true }

def plainScalar? (lx : Lexer) : Option Lexer := do
  let lx ← lx.noteCandidate?
  let (text, broken, cur) ←
    plain? lx.inFlow (lx.blocks.head?.elim 0 (· + 1)) (2 * lx.cur.rest.length + 1) [] Gap.empty
      lx.cur
  return { lx.emit (.scalar true text) cur with keyAllowed := broken }

def opensPlain (flow : Bool) : List Char → Bool
  | [] => false
  | c :: rest =>
    if c == '-' then !(rest.head?.any isBlank)
    else if c == '?' || c == ':' then !flow && !atSpace rest
    else !(isBlank c || isBreak c || ",[]\x7b\x7d#&*!|>\x27\"%@".toList.contains c || c == '\x60')

def next? (lx : Lexer) : Option Lexer :=
  match lx.cur.rest with
  | [] => some lx
  | c :: rest =>
    let mark := lx.inFlow || atSpace rest
    if lx.cur.column == 0 && c == '%' then do
      let lx ← (lx.closeBlocks fun _ => false).dropCandidate?
      let (token, cur) ← directive? lx.cur
      return { lx.emit token cur with keyAllowed := false }
    else if lx.cur.atDocumentMark then
      lx.documentToken? (if c == '-' then .documentStart else .documentEnd) (lx.cur.skip 3)
    else if c == '[' then lx.openFlow? .flowSequenceStart
    else if c == '{' then lx.openFlow? .flowMappingStart
    else if c == ']' then lx.closeFlow? .flowSequenceEnd
    else if c == '}' then lx.closeFlow? .flowMappingEnd
    else if c == ',' then do
      let lx ← lx.dropCandidate?
      return { lx.emit .flowEntry (lx.cur.skip 1) with keyAllowed := true }
    else if c == '-' && atSpace rest then lx.entryMark?
    else if c == '?' && mark then lx.keyMark?
    else if c == ':' && mark then lx.valueMark?
    else if c == '*' then
      lx.nodeToken? fun cur =>
        (anchorName? (cur.skip 1)).map fun (name, cur) => (.reference name, cur)
    else if c == '&' then
      lx.nodeToken? fun cur =>
        (anchorName? (cur.skip 1)).map fun (name, cur) => (.anchor name, cur)
    else if c == '!' then lx.nodeToken? (tag? lx.inFlow)
    else if (c == '|' || c == '>') && !lx.inFlow then lx.blockScalar? (c == '|')
    else if c == apostrophe || c == '"' then
      lx.nodeToken? fun cur =>
        (quoted? (c == apostrophe) (cur.rest.length + 1) [] (cur.skip 1)).map fun (text, cur) =>
          (.scalar false text, cur)
    else if opensPlain lx.inFlow lx.cur.rest then lx.plainScalar?
    else none

def run? : Nat → Lexer → Option (List Token)
  | 0, _ => none
  | fuel + 1, lx => do
    let lx ← (skipFiller (lx.cur.rest.length + 1) lx).expire?
    if lx.cur.rest.isEmpty then
      let lx ← (lx.closeBlocks fun _ => false).dropCandidate?
      some lx.tokens.reverse
    else
      let lx ← (lx.closeBlocks (· ≤ lx.cur.column)).next?
      run? fuel lx

end Lexer

def tokens? (cs : List Char) : Option (List Token) :=
  if cs.all isAllowed then Lexer.run? (cs.length + 1) (Lexer.start cs) else none

end GraphBoard.Yaml
