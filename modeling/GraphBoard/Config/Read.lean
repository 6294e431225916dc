import GraphBoard.Config.Basic
import GraphBoard.Text.Utf8
import GraphBoard.TimeRange
import GraphBoard.Yaml.Document

namespace GraphBoard.Config

open GraphBoard.Yaml

def isNull (text : List Char) : Bool :=
  ["~", "null", "Null", "NULL"].any (·.toList == text)

def nullTag : List Char := "tag:yaml.org,2002:null".toList

def text? (root node : Node) : Option String :=
  match node.follow root with
  | some (.scalar _ _ text) => some (String.ofList text)
  | _ => none

def optionalText? (root node : Node) : Option (Option String) :=
  match node.follow root with
  | some (.scalar props true text) =>
    match props.tag with
    | none => some (if text.isEmpty || isNull text then none else some (String.ofList text))
    | some tag =>
      if tag == nullTag then if isNull text then some none else none
      else some (some (String.ofList text))
  | some (.scalar _ false text) => some (some (String.ofList text))
  | _ => none

def items? (root node : Node) : Option (List Node) :=
  match node.follow root with
  | some (.sequence _ items) => some items
  | some (.scalar _ true []) => some []
  | _ => none

def fields? (root node : Node) : Option (List (String × Node)) :=
  match node.follow root with
  | some (.mapping _ entries) => entries.mapM fun (key, value) => (text? root key).map (·, value)
  | some (.scalar _ true []) => some []
  | _ => none

/-- The value of a field, if it is there. It may not be there twice. -/
def field? (fields : List (String × Node)) (name : String) : Option (Option Node) :=
  match fields.filter (·.1 == name) with
  | [] => some none
  | [(_, node)] => some (some node)
  | _ => none

def fieldD? {α : Type} (fields : List (String × Node)) (name : String) (absent : Option α)
    (read? : Node → Option α) : Option α := do
  match ← field? fields name with
  | some node => read? node
  | none => absent

/-- One word out of several, told by `ofName?`. It may be written as a tag of nothing. -/
def choice? {α : Type} (ofName? : String → Option α) (root node : Node) : Option α :=
  let tagged (tag : Option (List Char)) : Option (List Char) :=
    match tag with
    | some ('!' :: name@(_ :: _)) => some name
    | some ['!'] => some ['!']
    | _ => none
  match node.follow root with
  | some (.scalar props plain text) =>
    match tagged props.tag with
    | some name =>
      if plain && (text.isEmpty || isNull text) then ofName? (String.ofList name) else none
    | none => ofName? (String.ofList text)
  | _ => none

def displayOfName? (name : String) : Option Display :=
  [Display.image, .series].find? (·.name == name)

def dashboard? (root node : Node) : Option Dashboard := do
  let fields ← fields? root node
  let endpoint ←
    fieldD? fields "add_graph_widget_url" (some Dashboard.standard.endpoint) (text? root)
  let header ← fieldD? fields "canonical_url_header" (some Dashboard.standard.header) (text? root)
  return { endpoint, header }

def graph? (root node : Node) : Option Graph := do
  let fields ← fields? root node
  let id ← fieldD? fields "id" none (text? root)
  let title ← fieldD? fields "title" (some none) (optionalText? root)
  let sources ← fieldD? fields "urls" none (text? root)
  let handle ← fieldD? fields "handler_id" (some none) (optionalText? root)
  let display ← fieldD? fields "display" (some .image) (choice? displayOfName? root)
  return { id, title, sources, handle, display }

def config? (root : Node) : Option Config := do
  let fields ← fields? root root
  let base ← fieldD? fields "base_url" (some none) (optionalText? root)
  let page ← fieldD? fields "page_target" (some "") (text? root)
  let dashboard ← fieldD? fields "dashboard" (some .standard) (dashboard? root)
  let graphs ← fieldD? fields "graphs" none fun node => do
    (← items? root node).mapM (graph? root)
  return { base, page, dashboard, graphs }

def ofYaml (text : String) : Except BoardError Config := do
  match (parse? text.toList).bind config? with
  | some config =>
    config.check
    return config
  | none => throw .yaml

def ofFile (content : Except FileFailure (List UInt8)) : Except BoardError Config :=
  match content with
  | .error failure => .error (.file failure)
  | .ok bytes =>
    match Text.Utf8.toString? bytes with
    | some text => ofYaml text
    | none => .error (.file .notUtf8)

def timeRangeOfYaml (text : String) : Except BoardError TimeRange :=
  match (parse? text.toList).bind fun root => choice? TimeRange.ofName? root root with
  | some range => .ok range
  | none => .error .yaml

end GraphBoard.Config
