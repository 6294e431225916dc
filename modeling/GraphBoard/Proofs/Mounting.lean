import GraphBoard.Board.Mount
import GraphBoard.Proofs.Offline

set_option autoImplicit false

namespace GraphBoard

def effectsOf (n : Nat) (effects : List PanelEffect) : List Effect :=
  (effects.filter (·.1 == n)).map (·.2)

theorem effectsOf_append (n : Nat) (effects more : List PanelEffect) :
    effectsOf n (effects ++ more) = effectsOf n effects ++ effectsOf n more := by
  simp [effectsOf]

theorem effectsOf_own (n : Nat) (effects : List Effect) :
    effectsOf n (effects.map (n, ·)) = effects := by
  simp [effectsOf, List.filter_map, Function.comp_def]

theorem effectsOf_other {n m : Nat} (h : m ≠ n) (effects : List Effect) :
    effectsOf n (effects.map (m, ·)) = [] := by
  simp [effectsOf, List.filter_map, Function.comp_def, h]

theorem Graph.panel_ok {graph : Graph} {setting : Setting} {made : Panel × List Effect}
    (h : graph.panel setting = .ok made) :
    ∃ effects line, Panel.new graph.container graph.sources graph.handle setting =
      .ok (made.1, effects) ∧ made.2 = effects ++ [.tell line] := by
  unfold Graph.panel at h
  split at h
  · rename_i p effects hnew
    cases h
    exact ⟨effects, _, hnew, rfl⟩
  · contradiction

theorem Graph.container_of_handle {graph : Graph} (h : graph.handle.isSome) :
    graph.container.id = graph.id ∧ graph.container.hasPlot = (graph.display == .series) ∧
      graph.container.visible = false := by
  simp [Graph.container, h, Container.new, Container.hidden]

theorem Graph.panel_of_handle {graph : Graph} {setting : Setting} {made : Panel × List Effect}
    (h : graph.panel setting = .ok made) (hhandle : graph.handle.isSome) :
    made.1 = Panel.bare graph.container graph.sources graph.handle setting ∧ Remarks made.2 := by
  obtain ⟨effects, mounted, hnew, heffects⟩ := Graph.panel_ok h
  obtain ⟨created, ⟨hnone, -⟩ | ⟨-, hmade⟩⟩ := Panel.new_ok hnew
  · simp [hnone] at hhandle
  · obtain ⟨hbare, rfl⟩ := Prod.mk.inj hmade
    exact ⟨hbare, [created, mounted], heffects⟩

section
variable {setting : Setting} {n : Nat} {graph : Graph} {graphs : List Graph} {panels : List Panel}
  {effects : List PanelEffect}

theorem mountGraphs_cons (h : mountGraphs setting n (graph :: graphs) = (.ok panels, effects)) :
    ∃ p first rest later, graph.panel setting = .ok (p, first) ∧
      mountGraphs setting (n + 1) graphs = (.ok rest, later) ∧
        panels = p :: rest ∧ effects = first.map (n, ·) ++ later := by
  simp only [mountGraphs] at h
  split at h
  · cases h
  · rename_i p first hpanel
    obtain ⟨hpanels, heffects⟩ := Prod.mk.inj h
    cases hrest : mountGraphs setting (n + 1) graphs with
    | mk mounted later =>
      cases mounted with
      | error e =>
        rw [hrest] at hpanels
        contradiction
      | ok rest =>
        rw [hrest] at hpanels heffects
        cases hpanels
        exact ⟨p, first, rest, later, hpanel, rfl, rfl, heffects.symm⟩

/-- Panels that are mounted later have no effects under the numbers before. -/
theorem effectsOf_mountGraphs (h : mountGraphs setting n graphs = (.ok panels, effects)) {i : Nat}
    (hi : i < n) : effectsOf i effects = [] := by
  induction graphs generalizing n panels effects with
  | nil =>
    cases h
    rfl
  | cons graph graphs ih =>
    obtain ⟨p, first, rest, later, -, hlater, -, rfl⟩ := mountGraphs_cons h
    rw [effectsOf_append, effectsOf_other (by omega), ih hlater (by omega), List.append_nil]

theorem mountGraphs_getElem? (h : mountGraphs setting n graphs = (.ok panels, effects)) {i : Nat}
    (hgraph : graphs[i]? = some graph) :
    ∃ p, panels[i]? = some p ∧ graph.panel setting = .ok (p, effectsOf (n + i) effects) := by
  induction graphs generalizing n panels effects i with
  | nil => simp at hgraph
  | cons head graphs ih =>
    obtain ⟨p, first, rest, later, hpanel, hlater, rfl, rfl⟩ := mountGraphs_cons h
    cases i with
    | zero =>
      cases hgraph
      refine ⟨p, rfl, ?_⟩
      rw [effectsOf_append, Nat.add_zero, effectsOf_own,
        effectsOf_mountGraphs hlater (Nat.lt_succ_self n), List.append_nil]
      exact hpanel
    | succ i =>
      obtain ⟨q, hq, hmade⟩ := ih hlater hgraph
      refine ⟨q, hq, ?_⟩
      rw [effectsOf_append, effectsOf_other (by omega), List.nil_append,
        show n + (i + 1) = n + 1 + i by omega]
      exact hmade

end

theorem Board.mount_ok {paint : Screen.Painter} {config : Config} {kind : ViewerKind}
    {board : Board} {effects : List PanelEffect}
    (hmount : Board.mount paint config kind = (.ok board, effects)) :
    board = Board.new paint config.page board.panels ∧
      mountGraphs (config.setting kind) 0 config.graphs = (.ok board.panels, effects) := by
  unfold Board.mount at hmount
  cases hgraphs : mountGraphs (config.setting kind) 0 config.graphs with
  | mk mounted own =>
    simp only [hgraphs] at hmount
    cases mounted with
    | error e => cases hmount
    | ok panels =>
      cases hmount
      exact ⟨rfl, rfl⟩

theorem Board.mount_getElem? {paint : Screen.Painter} {config : Config} {kind : ViewerKind}
    {board : Board} {effects : List PanelEffect}
    (hmount : Board.mount paint config kind = (.ok board, effects)) {i : Nat}
    {graph : Graph} (hgraph : config.graphs[i]? = some graph) :
    ∃ p, board.panels[i]? = some p ∧
      graph.panel (config.setting kind) = .ok (p, effectsOf i effects) := by
  obtain ⟨p, hp, hmade⟩ := mountGraphs_getElem? (Board.mount_ok hmount).2 hgraph
  rw [Nat.zero_add] at hmade
  exact ⟨p, hp, hmade⟩

theorem checkNames_eq_ok_iff {seen : List String} {graphs : List Graph} :
    checkNames seen graphs = .ok () ↔ (∀ graph ∈ graphs, isBlankName graph.id = false) ∧
      (graphs.map Graph.id).Nodup ∧ ∀ id ∈ graphs.map Graph.id, id ∉ seen := by
  induction graphs generalizing seen with
  | nil => simp [checkNames]
  | cons graph graphs ih =>
    rw [checkNames]
    split_ifs with hblank hseen
    · simp [hblank]
    · have hmem : graph.id ∈ seen := by simpa using hseen
      simp [hmem]
    · have hfresh : graph.id ∉ seen := by simpa using hseen
      -- No later graph may have the name that has joined those seen.
      have hnames : (∀ id ∈ graphs.map Graph.id, id ∉ graph.id :: seen) ↔
          graph.id ∉ graphs.map Graph.id ∧ ∀ id ∈ graphs.map Graph.id, id ∉ seen := by
        simp only [List.mem_cons, not_or]
        exact ⟨fun h => ⟨fun hmem => (h _ hmem).1 rfl, fun id hid => (h id hid).2⟩,
          fun h id hid => ⟨fun heq => h.1 (heq ▸ hid), h.2 id hid⟩⟩
      rw [ih, hnames, List.map_cons, List.nodup_cons, List.forall_mem_cons, List.forall_mem_cons]
      simp only [eq_false_of_ne_true hblank, hfresh, not_false_iff, true_and, and_assoc]
      tauto

theorem Graph.id_container (graph : Graph) : graph.container.id = graph.id := by
  unfold container
  split <;> rfl

theorem Graph.panel_member {graph : Graph} {setting : Setting} {made : Panel × List Effect}
    (h : graph.panel setting = .ok made) :
    (made.1.id, made.1.sources) = (graph.id, Panel.splitSources graph.sources) := by
  obtain ⟨effects, line, hnew, -⟩ := Graph.panel_ok h
  obtain ⟨created, ⟨-, hmade⟩ | ⟨-, hmade⟩⟩ := Panel.new_ok hnew
  all_goals
    have hmember := congrArg (fun done => (done.1.id, done.1.sources)) hmade
    exact hmember.trans (congrArg (·, _) graph.id_container)

theorem mountGraphs_members {setting : Setting} {n : Nat} {graphs : List Graph}
    {panels : List Panel} {effects : List PanelEffect}
    (h : mountGraphs setting n graphs = (.ok panels, effects)) :
    panels.map (fun p => (p.id, p.sources)) =
      graphs.map fun graph => (graph.id, Panel.splitSources graph.sources) := by
  induction graphs generalizing n panels effects with
  | nil =>
    cases h
    rfl
  | cons graph graphs ih =>
    obtain ⟨p, first, rest, later, hpanel, hlater, rfl, rfl⟩ := mountGraphs_cons h
    rw [List.map_cons, List.map_cons, ih hlater, Graph.panel_member hpanel]

theorem mountGraphs_ids {setting : Setting} {n : Nat} {graphs : List Graph} {panels : List Panel}
    {effects : List PanelEffect} (h : mountGraphs setting n graphs = (.ok panels, effects)) :
    panels.map Panel.id = graphs.map Graph.id := by
  have hids := congrArg (List.map Prod.fst) (mountGraphs_members h)
  rwa [List.map_map, List.map_map] at hids

theorem Board.mount_panel {paint : Screen.Painter} {config : Config} {kind : ViewerKind}
    {board : Board} {effects : List PanelEffect}
    (hmount : Board.mount paint config kind = (.ok board, effects)) {i : Nat}
    {p : Panel} (hp : board.panels[i]? = some p) : ∃ graph, config.graphs[i]? = some graph ∧
      graph.panel (config.setting kind) = .ok (p, effectsOf i effects) := by
  have hlength : board.panels.length = config.graphs.length := by
    have hids := congrArg List.length (mountGraphs_ids (Board.mount_ok hmount).2)
    rwa [List.length_map, List.length_map] at hids
  obtain ⟨hi, -⟩ := List.getElem?_eq_some_iff.1 hp
  have hgraph := List.getElem?_eq_getElem (hlength ▸ hi)
  obtain ⟨made, hmade, hpanel⟩ := Board.mount_getElem? hmount hgraph
  rw [hp] at hmade
  cases hmade
  exact ⟨_, hgraph, hpanel⟩

theorem Config.check_eq_ok_iff {config : Config} : config.check = .ok () ↔ config.graphs ≠ [] ∧
    (∀ graph ∈ config.graphs, isBlankName graph.id = false) ∧
      (config.graphs.map Graph.id).Nodup := by
  unfold check
  split_ifs with hgraphs
  · simp [List.isEmpty_iff.1 hgraphs]
  · rw [checkNames_eq_ok_iff]
    simp [List.isEmpty_iff.not.1 hgraphs]

/-- The panels of a configuration that passed its check have ids of their own. -/
theorem Board.nodup_ids_mount {paint : Screen.Painter} {config : Config} {kind : ViewerKind}
    {board : Board} {effects : List PanelEffect}
    (hcheck : config.check = .ok ())
    (hmount : Board.mount paint config kind = (.ok board, effects)) :
    (board.panels.map Panel.id).Nodup := by
  rw [mountGraphs_ids (Board.mount_ok hmount).2]
  exact (Config.check_eq_ok_iff.1 hcheck).2.2

end GraphBoard
