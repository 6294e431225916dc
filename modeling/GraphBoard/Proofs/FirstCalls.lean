import GraphBoard.Proofs.OfflineBoard
import GraphBoard.Proofs.Publishing

set_option autoImplicit false

namespace GraphBoard

def Graph.hasSources (graph : Graph) : Bool := !Text.allBlank graph.sources.toList

def Graph.firstCall (graph : Graph) (kind : ViewerKind) : Call :=
  let url := Panel.urlOf ((Panel.splitSources graph.sources).headD "") .day
  match graph.display, kind with
  | .image, _ => .get url
  | .series, .chart => .get (Job.seriesUrl url)
  | .series, .outside => .attach graph.id url

/-- The calls of graphs mounted one after the other, the first with number `n`: those with a handle
make none. -/
def firstCalls (kind : ViewerKind) (n : Nat) (graphs : List Graph) : List (Nat × Call) :=
  (graphs.zipIdx n).filterMap fun (graph, i) =>
    if graph.handle.isSome then none else some (i, graph.firstCall kind)

def Graph.refusal (graph : Graph) : BoardError :=
  .config ("graph '" ++ graph.id ++ "': " ++
    ("Invalid argument: " ++ ("Need a non-empty source list for '" ++ graph.id ++ "'")))

theorem boardCalls_map (n : Nat) (effects : List Effect) :
    boardCalls (effects.map (n, ·)) = (effects.filterMap Effect.call?).map (n, ·) := by
  rw [boardCalls, List.filterMap_map, List.map_filterMap]
  rfl

namespace Graph

variable {graph : Graph}

theorem hasSources_iff :
    graph.hasSources = true ↔ ∃ c ∈ graph.sources.toList, Text.isBlank c = false := by
  simp [hasSources, Text.allBlank]

theorem attached_container : graph.container.attached = true := by
  unfold container
  split <;> rfl

theorem panel_of_not_hasSources (h : graph.hasSources = false) (setting : Setting) :
    graph.panel setting = .error graph.refusal := by
  have hblank : Text.allBlank graph.sources.toList = true := by simpa [hasSources] using h
  have hnew : Panel.new graph.container graph.sources graph.handle setting =
      .error (.invalidArgument ("Need a non-empty source list for '" ++ graph.id ++ "'")) := by
    rw [Panel.new, attached_container, hblank, graph.id_container]
    rfl
  rw [panel, hnew]
  rfl

theorem calls_setUp (graph : Graph) (setting : Setting) :
    (Panel.bare graph.container graph.sources graph.handle setting).setUp.2.filterMap
      Effect.call? = [graph.firstCall setting.viewer] := by
  let p := Panel.bare graph.container graph.sources graph.handle setting
  have hurl : p.url = Panel.urlOf ((Panel.splitSources graph.sources).headD "") .day := by
    rw [List.headD_eq_head?_getD, List.head?_eq_getElem?,
      List.getElem?_eq_getElem (Panel.splitSources_pos graph.sources)]
    rfl
  have hid : p.id = graph.id := graph.id_container
  have hcontent : p.content =
      if graph.display = .series then .plot none else .picture .nothing 0 := by
    change (if graph.container.hasPlot = true then _ else _) = _
    unfold container
    split <;> cases graph.display <;> rfl
  rw [Panel.calls_setUp]
  change [p.content.fetch p.id p.url setting.viewer] = _
  unfold firstCall
  rw [hcontent, hid, hurl]
  cases graph.display with
  | image => rfl
  | series => cases setting.viewer <;> rfl

theorem panel_of_hasSources (h : graph.hasSources = true) (setting : Setting) :
    ∃ p effects, graph.panel setting = .ok (p, effects) ∧
      (p.id, p.title, p.sources) =
        (graph.id, graph.title.getD graph.id, Panel.splitSources graph.sources) ∧
      effects.filterMap Effect.call? =
        if graph.handle.isSome then [] else [graph.firstCall setting.viewer] := by
  let p := Panel.bare graph.container graph.sources graph.handle setting
  have hbare : (p.id, p.title, p.sources) =
      (graph.id, graph.title.getD graph.id, Panel.splitSources graph.sources) := by
    change (graph.container.id, graph.container.title, _) = _
    unfold container
    split <;> rfl
  have hblank : Text.allBlank graph.sources.toList = false := by simpa [hasSources] using h
  have hnew : Panel.new graph.container graph.sources graph.handle setting =
      .ok (Panel.make graph.container graph.sources graph.handle setting) := by
    rw [Panel.new, attached_container, hblank]
    rfl
  have hpanel : graph.panel setting = .ok ((Panel.make graph.container graph.sources graph.handle
      setting).1, (Panel.make graph.container graph.sources graph.handle setting).2 ++
        [.info ("Mounted graph '" ++ graph.id ++ "'")]) := by
    rw [panel, hnew]
  -- A panel with a handle waits for it and is not set up.
  obtain ⟨line, ⟨hnone, hmade⟩ | ⟨hsome, hmade⟩⟩ := Panel.new_ok hnew
  · rw [hmade] at hpanel
    refine ⟨_, _, hpanel, hbare, ?_⟩
    rw [List.filterMap_append, List.filterMap_cons_none rfl, graph.calls_setUp, hnone,
      if_neg (by simp)]
    rfl
  · rw [hmade] at hpanel
    refine ⟨_, _, hpanel, hbare, ?_⟩
    rw [if_pos hsome]
    rfl

end Graph

section
variable {graph : Graph} {graphs front : List Graph}

theorem firstCalls_cons (kind : ViewerKind) (n : Nat) (graph : Graph) (graphs : List Graph) :
    firstCalls kind n (graph :: graphs) =
      (if graph.handle.isSome then [] else [graph.firstCall kind]).map (n, ·) ++
        firstCalls kind (n + 1) graphs := by
  cases hhandle : graph.handle.isSome <;> simp [firstCalls, List.zipIdx_cons, hhandle]

theorem mountGraphs_of_hasSources (h : graph.hasSources = true) (setting : Setting) (n : Nat)
    (graphs : List Graph) : ∃ p,
    (p.id, p.title, p.sources) =
      (graph.id, graph.title.getD graph.id, Panel.splitSources graph.sources) ∧
    (mountGraphs setting n (graph :: graphs)).1 =
      (mountGraphs setting (n + 1) graphs).1.map (p :: ·) ∧
    boardCalls (mountGraphs setting n (graph :: graphs)).2 =
      (if graph.handle.isSome then [] else [graph.firstCall setting.viewer]).map (n, ·) ++
        boardCalls (mountGraphs setting (n + 1) graphs).2 := by
  obtain ⟨p, effects, hpanel, hmember, hcalls⟩ := Graph.panel_of_hasSources h setting
  have hmount : mountGraphs setting n (graph :: graphs) =
      ((mountGraphs setting (n + 1) graphs).1.map (p :: ·),
        effects.map (n, ·) ++ (mountGraphs setting (n + 1) graphs).2) := by
    rw [mountGraphs, hpanel]
  refine ⟨p, hmember, ?_, ?_⟩
  · rw [hmount]
  · rw [hmount, boardCalls_append, boardCalls_map, hcalls]

theorem mountGraphs_ok (h : ∀ graph ∈ graphs, graph.hasSources = true) (setting : Setting)
    (n : Nat) : ∃ panels, (mountGraphs setting n graphs).1 = .ok panels ∧
      panels.map (fun p => (p.id, p.title, p.sources)) = graphs.map (fun graph =>
        (graph.id, graph.title.getD graph.id, Panel.splitSources graph.sources)) ∧
      boardCalls (mountGraphs setting n graphs).2 = firstCalls setting.viewer n graphs := by
  induction graphs generalizing n with
  | nil => exact ⟨[], rfl, rfl, rfl⟩
  | cons graph graphs ih =>
    obtain ⟨hgraph, hrest⟩ := List.forall_mem_cons.1 h
    obtain ⟨p, hmember, hmount, hcalls⟩ := mountGraphs_of_hasSources hgraph setting n graphs
    obtain ⟨panels, hpanels, hmembers, hlater⟩ := ih hrest (n + 1)
    refine ⟨p :: panels, ?_, ?_, ?_⟩
    · rw [hmount, hpanels]
      rfl
    · rw [List.map_cons, List.map_cons, hmember, hmembers]
    · rw [hcalls, hlater, firstCalls_cons]

theorem mountGraphs_error (hfront : ∀ graph ∈ front, graph.hasSources = true)
    (hgraph : graph.hasSources = false) (setting : Setting) (n : Nat) (back : List Graph) :
    (mountGraphs setting n (front ++ graph :: back)).1 = .error graph.refusal ∧
      boardCalls (mountGraphs setting n (front ++ graph :: back)).2 =
        firstCalls setting.viewer n front := by
  induction front generalizing n with
  | nil =>
    rw [List.nil_append, mountGraphs, Graph.panel_of_not_hasSources hgraph]
    exact ⟨rfl, rfl⟩
  | cons head front ih =>
    obtain ⟨hhead, hrest⟩ := List.forall_mem_cons.1 hfront
    obtain ⟨p, -, hmount, hcalls⟩ :=
      mountGraphs_of_hasSources hhead setting n (front ++ graph :: back)
    obtain ⟨herror, hlater⟩ := ih hrest (n + 1)
    refine ⟨?_, ?_⟩
    · rw [List.cons_append, hmount, herror]
      rfl
    · rw [List.cons_append, hcalls, hlater, firstCalls_cons]

theorem hasSources_cases (graphs : List Graph) : (∀ graph ∈ graphs, graph.hasSources = true) ∨
    ∃ front graph back, graphs = front ++ graph :: back ∧
      (∀ graph ∈ front, graph.hasSources = true) ∧ graph.hasSources = false := by
  induction graphs with
  | nil => exact .inl nofun
  | cons head graphs ih =>
    cases hhead : head.hasSources with
    | false => exact .inr ⟨[], head, graphs, rfl, nofun, hhead⟩
    | true =>
      obtain h | ⟨front, graph, back, rfl, hfront, hgraph⟩ := ih
      · exact .inl (List.forall_mem_cons.2 ⟨hhead, h⟩)
      · exact .inr ⟨head :: front, graph, back, rfl, List.forall_mem_cons.2 ⟨hhead, hfront⟩, hgraph⟩

end

namespace Board

variable {paint : Screen.Painter} {config : Config}

/-- There is a board for all graphs, or there are the graphs up to the first without sources. -/
theorem mount_cases (paint : Screen.Painter) (config : Config) (kind : ViewerKind) :
    ((∀ graph ∈ config.graphs, graph.hasSources = true) ∧
      ∃ board, (Board.mount paint config kind).1 = .ok board ∧
        board.panels.map (fun p => (p.id, p.title, p.sources)) = config.graphs.map (fun graph =>
          (graph.id, graph.title.getD graph.id, Panel.splitSources graph.sources)) ∧
        boardCalls (Board.mount paint config kind).2 = firstCalls kind 0 config.graphs) ∨
    ∃ front graph back, config.graphs = front ++ graph :: back ∧
      (∀ graph ∈ front, graph.hasSources = true) ∧ graph.hasSources = false ∧
      (Board.mount paint config kind).1 = .error graph.refusal ∧
      boardCalls (Board.mount paint config kind).2 = firstCalls kind 0 front := by
  have hmount : Board.mount paint config kind =
      ((mountGraphs (config.setting kind) 0 config.graphs).1.map (Board.new paint config.page),
        (mountGraphs (config.setting kind) 0 config.graphs).2) := rfl
  rw [hmount]
  obtain h | ⟨front, graph, back, hgraphs, hfront, hgraph⟩ := hasSources_cases config.graphs
  · obtain ⟨panels, hpanels, hmembers, hcalls⟩ := mountGraphs_ok h (config.setting kind) 0
    rw [hpanels]
    exact .inl ⟨h, Board.new paint config.page panels, rfl, hmembers, hcalls⟩
  · obtain ⟨herror, hcalls⟩ := mountGraphs_error hfront hgraph (config.setting kind) 0 back
    rw [← hgraphs] at herror hcalls
    rw [herror]
    exact .inr ⟨front, graph, back, hgraphs, hfront, hgraph, rfl, hcalls⟩

theorem open_error {text : String} {failure : Url.Failure} (hbase : config.base = some text)
    (hparse : Url.parse text = .error failure) :
    Board.open paint config = (.error (.invalidUrl (text ++ ": " ++ failure.message)), []) := by
  simp only [Board.open, Http.Client.open?, hbase, hparse]
  rfl

theorem open_of_base (hbase : ∀ text ∈ config.base, ∃ base, Url.parse text = .ok base) :
    (Board.open paint config).1 = (Board.mount paint config .chart).1 ∧
      boardCalls (Board.open paint config).2 = boardCalls (Board.mount paint config .chart).2 := by
  have hclient : ∃ client, Http.Client.open? config.base = .ok client := by
    cases hconfig : config.base with
    | none => exact ⟨_, rfl⟩
    | some text =>
      obtain ⟨base, hparse⟩ := hbase text hconfig
      exact ⟨⟨some base⟩, by rw [Http.Client.open?, hparse]⟩
  obtain ⟨client, hclient⟩ := hclient
  rw [Board.open, hclient]
  split
  · contradiction
  · obtain ⟨mounted, effects⟩ := Board.mount paint config .chart
    cases mounted with
    | error e => exact ⟨rfl, rfl⟩
    | ok board => exact ⟨rfl, by simp [boardCalls, Effect.call?, Effect.info]⟩

end Board

/-- Mounting gives a board exactly if every graph has sources, and then a panel for each in its
place. Otherwise the first graph without sources is refused. In both cases the graphs in front of
the end, of those without a handle, have each asked for their first source once, in order, and there
were no other calls. A base that is no address ends it all before. -/
theorem mounting_in_order (paint : Screen.Painter) (config : Config) (kind : ViewerKind) :
    ((∃ board, (Board.mount paint config kind).1 = .ok board) ↔
      ∀ graph ∈ config.graphs, ∃ c ∈ graph.sources.toList, Text.isBlank c = false) ∧
    (∀ board effects, Board.mount paint config kind = (.ok board, effects) →
      board.panels.map (fun p => (p.id, p.title, p.sources)) = config.graphs.map (fun graph =>
        (graph.id, graph.title.getD graph.id, (graph.sources.toList.splitOn ';').map
          fun piece => String.ofList (Text.trim piece))) ∧
      boardCalls effects = firstCalls kind 0 config.graphs) ∧
    (∀ e effects, Board.mount paint config kind = (.error e, effects) →
      ∃ front graph back, config.graphs = front ++ graph :: back ∧
        (∀ graph ∈ front, ∃ c ∈ graph.sources.toList, Text.isBlank c = false) ∧
        (∀ c ∈ graph.sources.toList, Text.isBlank c = true) ∧
        e = graph.refusal ∧ boardCalls effects = firstCalls kind 0 front) ∧
    (∀ text failure, config.base = some text → Url.parse text = .error failure →
      Board.open paint config = (.error (.invalidUrl (text ++ ": " ++ failure.message)), [])) ∧
    ((∀ text ∈ config.base, ∃ base, Url.parse text = .ok base) →
      (Board.open paint config).1 = (Board.mount paint config .chart).1 ∧
        boardCalls (Board.open paint config).2 =
          boardCalls (Board.mount paint config .chart).2) := by
  have hnot : ∀ graph : Graph, graph.hasSources = false ↔
      ∀ c ∈ graph.sources.toList, Text.isBlank c = true := by
    simp [Graph.hasSources, Text.allBlank]
  simp only [← Graph.hasSources_iff, ← hnot]
  -- Three statements are left, each to be shown where there is a board and where there is none.
  refine ⟨?_, ?_, ?_, fun text failure => Board.open_error, Board.open_of_base⟩
  all_goals
    obtain ⟨hall, board, hboard, hmembers, hcalls⟩ |
      ⟨front, graph, back, hgraphs, hfront, hgraph, herror, hcalls⟩ :=
        Board.mount_cases paint config kind
  · exact iff_of_true ⟨board, hboard⟩ hall
  · refine iff_of_false (by simp [herror]) fun hall => ?_
    have hsources := hall graph (by simp [hgraphs])
    simp [hgraph] at hsources
  · intro b effects hmount
    rw [hmount] at hboard hcalls
    cases hboard
    exact ⟨hmembers, hcalls⟩
  · intro b effects hmount
    rw [hmount] at herror
    contradiction
  · intro e effects hmount
    rw [hmount] at hboard
    contradiction
  · intro e effects hmount
    rw [hmount] at herror hcalls
    cases herror
    exact ⟨front, graph, back, hgraphs, hfront, hgraph, rfl, hcalls⟩

example : firstCalls .chart 0 [⟨"load", none, " l ;m", none, .series⟩,
    ⟨"octets", none, "o", some "more", .image⟩, ⟨"users", none, "u?a", none, .image⟩] =
      [(0, .get "l?timeframe=day&format=json"), (2, .get "u?a&timeframe=day")] := by decide

end GraphBoard
