import GraphBoard.Text.Percent
import GraphBoard.Yaml.Cursor
import GraphBoard.Yaml.Token

namespace GraphBoard.Yaml

open GraphBoard.Text

def endsAnchor (cs : List Char) : Bool :=
  atSpace cs || ['?', ':', ',', ']', '}', '%', '@', '\x60'].contains (cs.headD ' ')

def anchorName? (cur : Cursor) : Option (List Char × Cursor) :=
  let name := cur.rest.takeWhile isWord
  let after := cur.skip name.length
  if !name.isEmpty && endsAnchor after.rest then some (name, after) else none

/-- The characters of a tag. Only a tag between angle brackets may hold marks of flow
collections. -/
def isTagChar (verbatim : Bool) (c : Char) : Bool :=
  isWord c || ";/?:@&=+$.!~*\x27()%".toList.contains c || (verbatim && [',', '[', ']'].contains c)

def tagOctet? : List Char → Option UInt8
  | '%' :: h :: l :: _ => do
    return UInt8.ofNat (16 * (← Percent.hexValue? h) + (← Percent.hexValue? l))
  | _ => none

def octetCount? (b : UInt8) : Option Nat :=
  if b < 0x80 then some 1
  else if b < 0xC0 then none
  else if b < 0xE0 then some 2
  else if b < 0xF0 then some 3
  else if b < 0xF8 then some 4
  else none

def tagEscape? (cs : List Char) : Option (Char × Nat) := do
  let first ← tagOctet? cs
  let count ← octetCount? first
  let later ← (List.range (count - 1)).mapM fun i => tagOctet? (cs.drop (3 * (i + 1)))
  if later.all Utf8.isContinuation then
    return (((Utf8.decode? (first :: later)).bind List.head?).getD '\ufffd', 3 * count)
  else none

def tagText? (verbatim : Bool) : Nat → List Char → Cursor → Option (List Char × Cursor)
  | 0, _, _ => none
  | fuel + 1, acc, cur =>
    match cur.rest with
    | '%' :: _ => do
      let (c, n) ← tagEscape? cur.rest
      tagText? verbatim fuel (c :: acc) (cur.skip n)
    | c :: _ =>
      if isTagChar verbatim c then tagText? verbatim fuel (c :: acc) (cur.skip 1)
      else some (acc.reverse, cur)
    | [] => some (acc.reverse, cur)

/-- What opens a tag: an exclamation mark, or a name between two. Without the second mark the name
belongs to the tag itself. -/
def tagHandle? (cur : Cursor) : Option (List Char × Cursor) :=
  match cur.rest with
  | '!' :: rest =>
    let name := rest.takeWhile isWord
    match rest.drop name.length with
    | '!' :: _ => some ('!' :: name ++ ['!'], cur.skip (name.length + 2))
    | _ => some ('!' :: name, cur.skip (name.length + 1))
  | _ => none

def isFullHandle (handle : List Char) : Bool :=
  2 ≤ handle.length && handle.getLast? == some '!'

def tag? (flow : Bool) (cur : Cursor) : Option (Token × Cursor) := do
  let fuel := cur.rest.length + 1
  let (token, after) ←
    match cur.rest with
    | '!' :: '<' :: _ => do
      let (text, after) ← tagText? true fuel [] (cur.skip 2)
      if !text.isEmpty && after.rest.head? == some '>' then
        some (Token.tag [] text, after.skip 1)
      else none
    | _ => do
      let (handle, after) ← tagHandle? cur
      if isFullHandle handle then
        let (text, after) ← tagText? false fuel [] after
        if text.isEmpty then none else some (Token.tag handle text, after)
      else
        let (text, after) ← tagText? false fuel handle.tail.reverse after
        if text.isEmpty then some (Token.tag [] ['!'], after)
        else some (Token.tag ['!'] text, after)
  if atSpace after.rest || (flow && after.rest.head? == some ',') then some (token, after) else none

def versionNumber? (cur : Cursor) : Option (Nat × Cursor) :=
  let digits := cur.rest.takeWhile Char.isDigit
  if digits.isEmpty || 9 < digits.length then none
  else some (digits.foldl (fun n d => 10 * n + (d.toNat - 48)) 0, cur.skip digits.length)

def directive? (cur : Cursor) : Option (Token × Cursor) := do
  let name := (cur.rest.drop 1).takeWhile isWord
  let after := cur.skip (name.length + 1)
  let (token, after) ←
    if !atSpace after.rest then none
    else if name == "YAML".toList then do
      let (major, after) ← versionNumber? (after.skipWhile isBlank)
      if after.rest.head? != some '.' then none
      let (minor, after) ← versionNumber? (after.skip 1)
      some (Token.version major minor, after)
    else if name == "TAG".toList then do
      let (handle, after) ← tagHandle? (after.skipWhile isBlank)
      if !(handle == ['!'] || isFullHandle handle) then none
      if !(after.rest.head?.any isBlank) then none
      let after := after.skipWhile isBlank
      let (text, after) ← tagText? true (after.rest.length + 1) [] after
      if text.isEmpty || !atSpace after.rest then none
      some (Token.tagHandle handle text, after)
    else none
  return (token, ← after.finishLine?)

end GraphBoard.Yaml
