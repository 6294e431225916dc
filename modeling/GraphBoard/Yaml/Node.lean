namespace GraphBoard.Yaml

structure Properties where
  anchor : Option Nat
  tag : Option (List Char)
  deriving DecidableEq, Repr

inductive Node where
  /-- A text; `plain` when it is written without quotes or a block mark. -/
  | scalar (props : Properties) (plain : Bool) (text : List Char)
  | sequence (props : Properties) (items : List Node)
  | mapping (props : Properties) (entries : List (Node × Node))
  /-- The node with an anchor of this number. It stands for that node and is not replaced by it, so
  that a tree is finite even if it refers to itself. -/
  | reference (number : Nat)

namespace Node

mutual

/-- The last node below and including this one that has the anchor, in the order of the text. -/
def anchored? (number : Nat) : Node → Option Node
  | .scalar props plain text =>
    if props.anchor == some number then some (.scalar props plain text) else none
  | .sequence props items =>
    (anchoredItem? number items).or
      (if props.anchor == some number then some (.sequence props items) else none)
  | .mapping props entries =>
    (anchoredPair? number entries).or
      (if props.anchor == some number then some (.mapping props entries) else none)
  | .reference _ => none

def anchoredItem? (number : Nat) : List Node → Option Node
  | [] => none
  | node :: rest => (anchoredItem? number rest).or (anchored? number node)

def anchoredPair? (number : Nat) : List (Node × Node) → Option Node
  | [] => none
  | (key, value) :: rest =>
    (anchoredPair? number rest).or ((anchored? number value).or (anchored? number key))

end

def follow (node root : Node) : Option Node :=
  match node with
  | .reference number => root.anchored? number
  | node => some node

end Node

end GraphBoard.Yaml
