import GraphBoard.Yaml.Lexer
import GraphBoard.Yaml.Node

namespace GraphBoard.Yaml

structure Source where
  tokens : List Token
  handles : List (List Char × List Char)
  anchors : List (List Char × Nat)
  deriving Repr

namespace Source

def drop (src : Source) (n : Nat) : Source := { src with tokens := src.tokens.drop n }

/-- A name takes the number of names in force, also when it had a number before. -/
def define (src : Source) (name : List Char) : Source :=
  { src with anchors :=
      (name, src.anchors.length) :: src.anchors.filter fun (other, _) => other != name }

def expand? (src : Source) (handle suffix : List Char) : Option (List Char) :=
  if handle.isEmpty then some suffix
  else (src.handles.lookup handle).map (· ++ suffix)

def properties? (src : Source) : Option (Properties × Source) := do
  match src.tokens with
  | .anchor name :: .tag handle suffix :: _ =>
    let tag ← src.expand? handle suffix
    return (⟨some src.anchors.length, some tag⟩, (src.drop 2).define name)
  | .tag handle suffix :: .anchor name :: _ =>
    let tag ← src.expand? handle suffix
    return (⟨some src.anchors.length, some tag⟩, (src.drop 2).define name)
  | .anchor name :: _ => return (⟨some src.anchors.length, none⟩, (src.drop 1).define name)
  | .tag handle suffix :: _ =>
    let tag ← src.expand? handle suffix
    return (⟨none, some tag⟩, src.drop 1)
  | _ => return (⟨none, none⟩, src)

end Source

def Node.empty : Node := .scalar ⟨none, none⟩ true []

structure Place where
  block : Bool
  /-- Whether the entries of a block sequence may stand in the column of the key before them. -/
  indentless : Bool
  deriving DecidableEq, Repr

def flowPlace : Place := ⟨false, false⟩
def entryPlace : Place := ⟨true, false⟩
def pairPlace : Place := ⟨true, true⟩

def opensWith (tokens marks : List Token) : Bool := tokens.head?.any marks.contains

mutual

def node? (place : Place) : Nat → Source → Option (Node × Source)
  | 0, _ => none
  | fuel + 1, src =>
    match src.tokens with
    | .reference name :: _ => (src.anchors.lookup name).map fun n => (.reference n, src.drop 1)
    | _ => do
      let (props, src) ← src.properties?
      match src.tokens with
      | .blockEntry :: _ =>
        if place.indentless then do
          let (items, src) ← indentlessItems? fuel src
          return (.sequence props items, src)
        else missing? props src
      | .scalar plain text :: _ =>
        let tag := if props.tag == some ['!'] then none else props.tag
        return (.scalar { props with tag } plain text, src.drop 1)
      | .flowSequenceStart :: _ => do
        let (items, src) ← flowItems? true fuel (src.drop 1)
        return (.sequence props items, src)
      | .flowMappingStart :: _ => do
        let (entries, src) ← flowEntries? true fuel (src.drop 1)
        return (.mapping props entries, src)
      | .blockSequenceStart :: _ =>
        if place.block then do
          let (items, src) ← blockItems? fuel (src.drop 1)
          return (.sequence props items, src)
        else missing? props src
      | .blockMappingStart :: _ =>
        if place.block then do
          let (entries, src) ← blockEntries? fuel (src.drop 1)
          return (.mapping props entries, src)
        else missing? props src
      | _ => missing? props src
where
  /-- Only an anchor or a tag can make up for a node that is not there. -/
  missing? (props : Properties) (src : Source) : Option (Node × Source) :=
    if props.anchor.isSome || props.tag.isSome then some (.scalar props true [], src) else none

def optionalNode? (place : Place) (stops : List Token) : Nat → Source → Option (Node × Source)
  | 0, _ => none
  | fuel + 1, src =>
    if opensWith src.tokens stops then some (Node.empty, src) else node? place fuel src

def value? (place : Place) (stops : List Token) : Nat → Source → Option (Node × Source)
  | 0, _ => none
  | fuel + 1, src =>
    match src.tokens with
    | .value :: _ => optionalNode? place stops fuel (src.drop 1)
    | _ => some (Node.empty, src)

def flowItems? (first : Bool) : Nat → Source → Option (List Node × Source)
  | 0, _ => none
  | fuel + 1, src => do
    if opensWith src.tokens [.flowSequenceEnd] then return ([], src.drop 1)
    let src ←
      if first then some src
      else if opensWith src.tokens [.flowEntry] then some (src.drop 1)
      else none
    match src.tokens with
    | .flowSequenceEnd :: _ => return ([], src.drop 1)
    | .key :: _ =>
      let stops := [Token.flowEntry, .flowSequenceEnd]
      let src := src.drop 1
      let (key, src) ←
        if opensWith src.tokens (.value :: stops) then some (Node.empty, src.drop 1)
        else node? flowPlace fuel src
      let (value, src) ← value? flowPlace stops fuel src
      let (items, src) ← flowItems? false fuel src
      return (.mapping ⟨none, none⟩ [(key, value)] :: items, src)
    | _ =>
      let (item, src) ← node? flowPlace fuel src
      let (items, src) ← flowItems? false fuel src
      return (item :: items, src)

def flowEntries? (first : Bool) : Nat → Source → Option (List (Node × Node) × Source)
  | 0, _ => none
  | fuel + 1, src => do
    if opensWith src.tokens [.flowMappingEnd] then return ([], src.drop 1)
    let src ←
      if first then some src
      else if opensWith src.tokens [.flowEntry] then some (src.drop 1)
      else none
    match src.tokens with
    | .flowMappingEnd :: _ => return ([], src.drop 1)
    | .key :: _ =>
      let stops := [Token.flowEntry, .flowMappingEnd]
      let (key, src) ← optionalNode? flowPlace (.value :: stops) fuel (src.drop 1)
      let (value, src) ← value? flowPlace stops fuel src
      let (entries, src) ← flowEntries? false fuel src
      return ((key, value) :: entries, src)
    | _ =>
      let (key, src) ← node? flowPlace fuel src
      let (entries, src) ← flowEntries? false fuel src
      return ((key, Node.empty) :: entries, src)

def blockItems? : Nat → Source → Option (List Node × Source)
  | 0, _ => none
  | fuel + 1, src =>
    match src.tokens with
    | .blockEntry :: _ => do
      let (item, src) ← optionalNode? entryPlace [.blockEntry, .blockEnd] fuel (src.drop 1)
      let (items, src) ← blockItems? fuel src
      return (item :: items, src)
    | .blockEnd :: _ => some ([], src.drop 1)
    | _ => none

def indentlessItems? : Nat → Source → Option (List Node × Source)
  | 0, _ => none
  | fuel + 1, src =>
    match src.tokens with
    | .blockEntry :: _ => do
      let (item, src) ←
        optionalNode? entryPlace [.blockEntry, .key, .value, .blockEnd] fuel (src.drop 1)
      let (items, src) ← indentlessItems? fuel src
      return (item :: items, src)
    | _ => some ([], src)

def blockEntries? : Nat → Source → Option (List (Node × Node) × Source)
  | 0, _ => none
  | fuel + 1, src =>
    match src.tokens with
    | .key :: _ => do
      let stops := [Token.key, .value, .blockEnd]
      let (key, src) ← optionalNode? pairPlace stops fuel (src.drop 1)
      let (value, src) ← value? pairPlace stops fuel src
      let (entries, src) ← blockEntries? fuel src
      return ((key, value) :: entries, src)
    | .blockEnd :: _ => some ([], src.drop 1)
    | _ => none

end

def defaultHandles : List (List Char × List Char) :=
  [(['!'], ['!']), (['!', '!'], "tag:yaml.org,2002:".toList)]

def directives? (versioned : Bool) (handles : List (List Char × List Char)) :
    List Token → Option (List (List Char × List Char) × List Token)
  | .version major minor :: rest =>
    if !versioned && major == 1 && (minor == 1 || minor == 2) then directives? true handles rest
    else none
  | .tagHandle handle expansion :: rest =>
    if (handles.lookup handle).isSome then none
    else directives? versioned (handles ++ [(handle, expansion)]) rest
  | rest => some (handles, rest)

/-- A document has a start mark if it has directives; without content it is an empty scalar. -/
def document? (tokens : List Token) : Option (Node × List Token) := do
  let (handles, rest) ← directives? false [] tokens
  let fuel := 4 * tokens.length + 4
  let source (tokens : List Token) : Source := ⟨tokens, handles ++ defaultHandles, []⟩
  let (root, src) ←
    match tokens, rest with
    | _, .documentStart :: rest =>
      if rest.isEmpty || (match rest with
          | .version _ _ :: _ => true
          | .tagHandle _ _ :: _ => true
          | _ => opensWith rest [.documentStart, .documentEnd]) then
        some (Node.empty, source rest)
      else node? entryPlace fuel (source rest)
    | .version _ _ :: _, _ => none
    | .tagHandle _ _ :: _, _ => none
    | [], _ => none
    | _, rest => node? entryPlace fuel (source rest)
  return (root, src.tokens)

def parse? (cs : List Char) : Option Node := do
  let (root, rest) ← document? (← tokens? cs)
  if (rest.dropWhile (· == .documentEnd)).isEmpty then some root else none

end GraphBoard.Yaml
