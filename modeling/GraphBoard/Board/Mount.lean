import GraphBoard.Board.Basic

namespace GraphBoard

/-- The container of a graph. One with a handle starts hidden. -/
def Graph.container (graph : Graph) : Container :=
  let c := Container.new graph.id graph.caption (graph.display == .series)
  if graph.handle.isSome then c.hidden else c

def Graph.panel (graph : Graph) (setting : Setting) : Except BoardError (Panel × List Effect) :=
  match Panel.new graph.container graph.sources graph.handle setting with
  | .ok (p, effects) => .ok (p, effects ++ [.info ("Mounted graph '" ++ graph.id ++ "'")])
  | .error e => .error (.config ("graph '" ++ graph.id ++ "': " ++ e.message))

/-- The panels of graphs, the first with number `i`, and the effects up to the end or the first
failure. -/
def mountGraphs (setting : Setting) (i : Nat) :
    List Graph → Except BoardError (List Panel) × List PanelEffect
  | [] => (.ok [], [])
  | graph :: rest =>
    match graph.panel setting with
    | .error e => (.error e, [])
    | .ok (p, effects) =>
      let (panels, later) := mountGraphs setting (i + 1) rest
      (panels.map (p :: ·), effects.map (i, ·) ++ later)

def Config.setting (config : Config) (viewer : ViewerKind) : Setting :=
  ⟨config.dashboard, config.page, viewer⟩

def Board.mount (paint : Screen.Painter) (config : Config) (viewer : ViewerKind) :
    Except BoardError Board × List PanelEffect :=
  let (panels, effects) := mountGraphs (config.setting viewer) 0 config.graphs
  (panels.map (Board.new paint config.page), effects)

def Board.open (paint : Screen.Painter) (config : Config) :
    Except BoardError Board × List PanelEffect :=
  match Http.Client.open? config.base with
  | .error e => (.error e, [])
  | .ok _ =>
    match Board.mount paint config .chart with
    | (.error e, effects) => (.error e, effects)
    | (.ok b, effects) =>
      (.ok b, effects ++
        [(0, .info ("Mounted " ++ Nat.repr b.panels.length ++ " graph panel(s)"))])

end GraphBoard
