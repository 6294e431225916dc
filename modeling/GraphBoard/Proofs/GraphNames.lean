import GraphBoard.Proofs.Frames
import Mathlib.Data.Nat.Find

set_option autoImplicit false

namespace GraphBoard

open GraphBoard.Screen

/-- Whether the name in a place cannot be used: it is blank, or `seen`, or that of a graph in
front. -/
def IsFaulty (seen : List String) (graphs : List Graph) (i : Nat) : Prop :=
  ∃ graph, graphs[i]? = some graph ∧ ((∀ c ∈ graph.id.toList, Text.isBlank c = true) ∨
    graph.id ∈ seen ∨ ∃ earlier ∈ graphs.take i, earlier.id = graph.id)

section
variable {seen : List String} {graph : Graph} {graphs : List Graph} {i : Nat}

theorem isBlankName_iff (name : String) :
    isBlankName name = true ↔ ∀ c ∈ name.toList, Text.isBlank c = true := List.all_eq_true

theorem isFaulty_zero : IsFaulty seen (graph :: graphs) 0 ↔
    isBlankName graph.id = true ∨ graph.id ∈ seen := by
  simp [IsFaulty, isBlankName_iff]

theorem isFaulty_succ : IsFaulty seen (graph :: graphs) (i + 1) ↔
    IsFaulty (graph.id :: seen) graphs i := by
  simp only [IsFaulty, List.getElem?_cons_succ, List.take_succ_cons, List.mem_cons,
    exists_eq_or_imp, eq_comm (a := graph.id), or_left_comm (a := _ ∈ seen), or_assoc]

theorem checkNames_of_isFaulty (hgraph : graphs[i]? = some graph) (hfault : IsFaulty seen graphs i)
    (hfirst : ∀ j < i, ¬ IsFaulty seen graphs j) :
    checkNames seen graphs = .error (.config (if isBlankName graph.id then "graph with empty id"
      else "duplicate graph id '" ++ graph.id ++ "'")) := by
  induction graphs generalizing seen i with
  | nil => simp at hgraph
  | cons head graphs ih =>
    cases i with
    | zero =>
      obtain rfl : head = graph := Option.some.inj hgraph
      rw [isFaulty_zero] at hfault
      by_cases hblank : isBlankName head.id = true
      · simp [checkNames, hblank]
      · simp [checkNames, hblank, hfault.resolve_left hblank]
    | succ i =>
      have hhead := hfirst 0 (Nat.succ_pos i)
      rw [isFaulty_zero, not_or] at hhead
      rw [checkNames, if_neg hhead.1, if_neg (by simpa using hhead.2)]
      exact ih hgraph (isFaulty_succ.1 hfault) fun j hj hfaulty =>
        hfirst (j + 1) (Nat.succ_lt_succ hj) (isFaulty_succ.2 hfaulty)

theorem exists_isFaulty (h : checkNames seen graphs ≠ .ok ()) : ∃ i, IsFaulty seen graphs i := by
  induction graphs generalizing seen with
  | nil => exact absurd rfl h
  | cons head graphs ih =>
    by_cases hhead : isBlankName head.id = true ∨ head.id ∈ seen
    · exact ⟨0, isFaulty_zero.2 hhead⟩
    · rw [not_or] at hhead
      rw [checkNames, if_neg hhead.1, if_neg (by simpa using hhead.2)] at h
      obtain ⟨i, hi⟩ := ih h
      exact ⟨i + 1, isFaulty_succ.2 hi⟩

end

namespace Config

variable {config : Config}

theorem check_of_isFaulty {graph : Graph} {i : Nat} (hgraph : config.graphs[i]? = some graph)
    (hfault : IsFaulty [] config.graphs i) (hfirst : ∀ j < i, ¬ IsFaulty [] config.graphs j) :
    config.check = .error (.config (if isBlankName graph.id then "graph with empty id"
      else "duplicate graph id '" ++ graph.id ++ "'")) := by
  have hne : config.graphs.isEmpty = false := by
    cases hgraphs : config.graphs with
    | nil => simp [hgraphs] at hgraph
    | cons head graphs => rfl
  rw [check, hne, if_neg Bool.false_ne_true]
  exact checkNames_of_isFaulty hgraph hfault hfirst

theorem check_eq_error_iff {e : BoardError} : config.check = .error e ↔
    (config.graphs = [] ∧ e = .config "no graphs configured") ∨
    ∃ i graph, config.graphs[i]? = some graph ∧ IsFaulty [] config.graphs i ∧
      (∀ j < i, ¬ IsFaulty [] config.graphs j) ∧
      e = .config (if isBlankName graph.id then "graph with empty id"
        else "duplicate graph id '" ++ graph.id ++ "'") := by
  constructor
  · intro h
    by_cases hgraphs : config.graphs = []
    · rw [check, hgraphs, List.isEmpty_nil, if_pos rfl] at h
      exact .inl ⟨hgraphs, (Except.error.inj h).symm⟩
    · have hnames : checkNames [] config.graphs ≠ .ok () := by
        intro hok
        rw [check, if_neg (by simpa using hgraphs), hok] at h
        contradiction
      -- Of the faulty places there is a first.
      classical
      have hexists := exists_isFaulty hnames
      have hfault := Nat.find_spec hexists
      have hfirst := fun j hj => Nat.find_min hexists (m := j) hj
      obtain ⟨graph, hgraph, -⟩ := id hfault
      have herror := check_of_isFaulty hgraph hfault hfirst
      exact .inr ⟨_, graph, hgraph, hfault, hfirst, Except.error.inj (h.symm.trans herror)⟩
  · rintro (⟨hgraphs, rfl⟩ | ⟨i, graph, hgraph, hfault, hfirst, rfl⟩)
    · rw [check, hgraphs, List.isEmpty_nil, if_pos rfl]
    · exact check_of_isFaulty hgraph hfault hfirst

theorem check_of_ofYaml {text : String} (h : ofYaml text = .ok config) : config.check = .ok () := by
  unfold ofYaml at h
  split at h
  · rename_i read hread
    cases hcheck : read.check with
    | error e =>
      rw [hcheck] at h
      contradiction
    | ok =>
      rw [hcheck] at h
      obtain rfl : read = config := Except.ok.inj h
      exact hcheck
  · contradiction

end Config

/-- Drawing panels with names of their own keeps their pictures apart. -/
theorem Panel.lookup_draw_of_getElem? {panels : List Panel} (hids : (panels.map Panel.id).Nodup)
    {i j : Nat} (hij : i ≠ j) {p q : Panel} (hp : panels[i]? = some p) (hq : panels[j]? = some q)
    (selected : Bool) (c : Canvas) (a : Area) :
    (p.draw selected c a).cache.lookup q.id = c.cache.lookup q.id := by
  have hne : q.id ≠ p.id := by
    intro heq
    have hi : i < (panels.map Panel.id).length := by
      rw [List.length_map]
      exact (List.getElem?_eq_some_iff.1 hp).1
    refine hij ((List.getElem?_inj hi hids).1 ?_)
    rw [List.getElem?_map, List.getElem?_map, hp, hq, Option.map_some, Option.map_some, heq]
  rw [Panel.cache_draw, Panel.lookup_kept_of_ne hne]

/-- A configuration is accepted exactly if it has graphs, none of a blank name and no two of the
same, and is refused for the first name that is to blame. All that is read from a text has passed
this check, so its panels have the names of its graphs and, as long as the board runs, no two of
them share a picture that is kept for drawing. -/
theorem names_checked (config : Config) :
    (config.check = .ok () ↔ config.graphs ≠ [] ∧
      (∀ graph ∈ config.graphs, ∃ c ∈ graph.id.toList, Text.isBlank c = false) ∧
      (config.graphs.map Graph.id).Nodup) ∧
    (∀ e, config.check = .error e ↔
      (config.graphs = [] ∧ e = .config "no graphs configured") ∨
      ∃ i graph, config.graphs[i]? = some graph ∧ IsFaulty [] config.graphs i ∧
        (∀ j < i, ¬ IsFaulty [] config.graphs j) ∧
        e = .config (if isBlankName graph.id then "graph with empty id"
          else "duplicate graph id '" ++ graph.id ++ "'")) ∧
    (∀ text, Config.ofYaml text = .ok config → config.check = .ok ()) ∧
    ∀ paint kind board effects, config.check = .ok () →
      Board.mount paint config kind = (.ok board, effects) →
      board.panels.map Panel.id = config.graphs.map Graph.id ∧
      (board.panels.map Panel.id).Nodup ∧
      ∀ screen queue happenings,
        let panels := ((Watch.start board screen queue).run happenings).loop.board.panels
        ∀ (i j : Nat) (p q : Panel), i ≠ j → panels[i]? = some p → panels[j]? = some q →
          ∀ selected c a, (p.draw selected c a).cache.lookup q.id = c.cache.lookup q.id := by
  refine ⟨?_, fun e => Config.check_eq_error_iff, fun text => Config.check_of_ofYaml, ?_⟩
  · simp only [Config.check_eq_ok_iff, ← Bool.not_eq_true, isBlankName_iff, not_forall, exists_prop]
  · intro paint kind board effects hcheck hmount
    have hids := Board.nodup_ids_mount hcheck hmount
    refine ⟨mountGraphs_ids (Board.mount_ok hmount).2, hids, ?_⟩
    intro screen queue happenings panels i j p q hij hp hq selected c a
    have hcurrent := (Watch.current_start hids screen queue).run happenings
    exact Panel.lookup_draw_of_getElem? hcurrent.ids hij hp hq selected c a

end GraphBoard
