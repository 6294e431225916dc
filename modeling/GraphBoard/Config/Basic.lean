import GraphBoard.Error
import GraphBoard.Text.Blank

namespace GraphBoard

inductive Display where
  | image
  | series
  deriving DecidableEq, Repr

def Display.name : Display → String
  | .image => "image"
  | .series => "series"

structure Dashboard where
  endpoint : String
  header : String
  deriving DecidableEq, Repr

def Dashboard.standard : Dashboard := ⟨"/navlets/add-graph-widget/", "X-Where-Am-I"⟩

structure Graph where
  id : String
  title : Option String
  /-- The addresses to choose from, between semicolons. -/
  sources : String
  /-- The handle that opens the graph. A graph without one is open from the start. -/
  handle : Option String
  display : Display
  deriving DecidableEq, Repr

structure Config where
  base : Option String
  page : String
  dashboard : Dashboard
  graphs : List Graph
  deriving DecidableEq, Repr

def Graph.caption (graph : Graph) : String := graph.title.getD graph.id

def isBlankName (name : String) : Bool := Text.allBlank name.toList

/-- The first graph whose name is blank or was used before decides. -/
def checkNames (seen : List String) : List Graph → Except BoardError Unit
  | [] => .ok ()
  | graph :: rest =>
    if isBlankName graph.id then .error (.config "graph with empty id")
    else if seen.contains graph.id then
      .error (.config ("duplicate graph id '" ++ graph.id ++ "'"))
    else checkNames (graph.id :: seen) rest

def Config.check (config : Config) : Except BoardError Unit :=
  if config.graphs.isEmpty then .error (.config "no graphs configured")
  else checkNames [] config.graphs

end GraphBoard
