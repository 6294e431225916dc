import GraphBoard.Proofs.Frames
import Mathlib.Data.List.Nodup
import Mathlib.Data.List.Perm.Subperm
import Mathlib.Data.Nat.ModEq

set_option autoImplicit false

namespace GraphBoard

theorem Fetching.fetches {effects : List Effect} (h : Fetching effects) :
    fetches effects = effects.filterMap Effect.call? := List.filter_eq_self.2 h

def Panel.callsOf (p : Panel) (operation : Operation) : List Call :=
  match p.publication? operation with
  | some publication => [.head publication.probe]
  | none =>
    if p.asks operation then
      [p.content.fetch p.id (p.operate operation).1.url p.setting.viewer]
    else []

theorem Panel.calls_operate (p : Panel) (operation : Operation) :
    (p.operate operation).2.filterMap Effect.call? = p.callsOf operation := by
  obtain ⟨hquiet, hfetching⟩ | ⟨publication, hclick, hprobe⟩ := p.operate_publishes operation
  · have hfollows := p.operate_follows operation
    rw [callsOf, hquiet, ← hfetching.fetches]
    cases hasks : p.asks operation with
    | false =>
      rw [hasks] at hfollows
      exact Quiet.fetches hfollows
    | true =>
      rw [hasks] at hfollows
      exact Asked.fetches hfollows
  · rw [callsOf, hclick, hprobe]
    rfl

inductive BoardMove where
  | event (event : Event)
  | poll
  | receive (k : Nat) (message : Message)

namespace Board

def step (b : Board) : BoardMove → Board
  | .event event => (b.act event).1
  | .poll => b.poll.1
  | .receive k message => b.receive k message

def run (b : Board) (moves : List BoardMove) : Board := moves.foldl step b

/-- The selection moved on by a number of panels, and round. -/
def turnBy (b : Board) (d : Nat) : Board :=
  { b with selected := (b.selected + d) % b.panels.length }

variable {b : Board} {d : Nat}

theorem turnBy_turnBy (b : Board) (d e : Nat) : (b.turnBy d).turnBy e = b.turnBy (d + e) := by
  simp only [turnBy, Nat.mod_add_mod, Nat.add_assoc]

theorem turnBy_mul_length (h : b.selected < b.panels.length) (k : Nat) :
    b.turnBy (b.panels.length * k) = b := by
  simp only [turnBy, Nat.add_mul_mod_self_left, Nat.mod_eq_of_lt h]

theorem turnBy_length (h : b.selected < b.panels.length) : b.turnBy b.panels.length = b := by
  simpa using turnBy_mul_length h 1

theorem act_selectNext (h : 0 < b.panels.length) : b.act .selectNext = (b.turnBy 1, []) := by
  have hpanels : b.panels.isEmpty = false := by
    simpa [List.isEmpty_eq_false_iff] using List.ne_nil_of_length_pos h
  simp only [act, hpanels, turnBy]
  rfl

theorem act_selectPrevious (h : 0 < b.panels.length) :
    b.act .selectPrevious = (b.turnBy (b.panels.length - 1), []) := by
  have hpanels : b.panels.isEmpty = false := by
    simpa [List.isEmpty_eq_false_iff] using List.ne_nil_of_length_pos h
  simp only [act, hpanels, turnBy, Nat.add_sub_assoc (show 1 ≤ b.panels.length from h)]
  rfl

theorem turnBy_one (h : b.selected < b.panels.length) : b.turnBy 1 =
    { b with selected := if b.selected + 1 = b.panels.length then 0 else b.selected + 1 } := by
  unfold turnBy
  split
  · rename_i hlast
    rw [hlast, Nat.mod_self]
  · rw [Nat.mod_eq_of_lt (by omega)]

theorem turnBy_pred (h : b.selected < b.panels.length) : b.turnBy (b.panels.length - 1) =
    { b with selected := if b.selected = 0 then b.panels.length - 1 else b.selected - 1 } := by
  unfold turnBy
  split
  · rename_i hfirst
    rw [hfirst, Nat.zero_add, Nat.mod_eq_of_lt (by omega)]
  · have hround : b.selected + (b.panels.length - 1) = b.selected - 1 + b.panels.length := by omega
    rw [hround, Nat.add_mod_right, Nat.mod_eq_of_lt (by omega)]

/-- An event that moves the selection of a board with `n` panels, and by how many it does. -/
def Strides (n : Nat) (event : Event) (d : Nat) : Prop :=
  d.Coprime n ∧ ∀ b : Board, b.panels.length = n → b.act event = (b.turnBy d, [])

theorem strides_selectNext {n : Nat} (hn : 0 < n) : Strides n .selectNext 1 :=
  ⟨Nat.coprime_one_left n, fun _ hlength => act_selectNext (hlength ▸ hn)⟩

theorem strides_selectPrevious {n : Nat} (hn : 0 < n) : Strides n .selectPrevious (n - 1) := by
  refine ⟨?_, fun b hlength => ?_⟩
  · exact ((Nat.coprime_self_sub_right hn).2 (Nat.coprime_one_right n)).symm
  · rw [act_selectPrevious (hlength ▸ hn), hlength]

theorem Strides.actAll {event : Event} (h : Strides b.panels.length event d)
    (hselected : b.selected < b.panels.length) (k : Nat) :
    b.actAll (List.replicate k event) = (b.turnBy (d * k), []) := by
  induction k generalizing b with
  | zero =>
    rw [Nat.mul_zero, ← Nat.mul_zero b.panels.length, turnBy_mul_length hselected]
    rfl
  | succ k ih =>
    have hturned : (b.turnBy d).selected < (b.turnBy d).panels.length :=
      Nat.mod_lt _ (Nat.zero_lt_of_lt hselected)
    simp only [List.replicate_succ, Board.actAll, h.2 b rfl, ih (b := b.turnBy d) h hturned,
      turnBy_turnBy, List.append_nil, Nat.mul_succ, Nat.add_comm]

/-- Strides that have no divisor in common with the number of places lead to each place once. -/
theorem tour_perm {n : Nat} (hn : 0 < n) (hd : d.Coprime n) (s : Nat) :
    ((List.range n).map fun k => (s + d * k) % n).Perm (List.range n) := by
  have hinj : ∀ x ∈ List.range n, ∀ y ∈ List.range n,
      (s + d * x) % n = (s + d * y) % n → x = y := by
    intro x hx y hy hxy
    have hstrides : d * x ≡ d * y [MOD n] := Nat.ModEq.add_left_cancel' s hxy
    have hcongr : x ≡ y [MOD n] := Nat.ModEq.cancel_left_of_coprime hd.symm hstrides
    exact hcongr.eq_of_lt_of_lt (List.mem_range.1 hx) (List.mem_range.1 hy)
  have hplaces : ((List.range n).map fun k => (s + d * k) % n) ⊆ List.range n := by
    intro i hi
    obtain ⟨k, -, rfl⟩ := List.mem_map.1 hi
    exact List.mem_range.2 (Nat.mod_lt _ hn)
  refine ((List.nodup_range.map_on hinj).subperm hplaces).perm_of_length_le ?_
  rw [List.length_map]

theorem Strides.tour {event : Event} (h : Strides b.panels.length event d)
    (hselected : b.selected < b.panels.length) :
    b.actAll (List.replicate b.panels.length event) = (b, []) ∧
      ((List.range b.panels.length).map fun k =>
        (b.actAll (List.replicate k event)).1.selected).Perm (List.range b.panels.length) := by
  refine ⟨?_, ?_⟩
  · rw [h.actAll hselected, Nat.mul_comm, turnBy_mul_length hselected]
  · simp only [h.actAll hselected]
    exact tour_perm (Nat.zero_lt_of_lt hselected) h.1 b.selected

theorem actOn_eq {i : Nat} {p : Panel} (h : b.panels[i]? = some p)
    (f : Panel → Panel × List Effect) :
    b.actOn i f = ({ b with panels := b.panels.set i (f p).1 }, (f p).2.map (i, ·)) := by
  simp only [actOn, h]

structure Seated (b : Board) (members : List (String × List String)) : Prop where
  selected : b.selected < b.panels.length
  members : b.panels.map (fun p => (p.id, p.sources)) = members

theorem fixed_member : Panel.Fixed fun p => (p.id, p.sources) where
  operate p operation :=
    Prod.ext (Panel.fixed_id.operate p operation) (Panel.fixed_sources.operate p operation)
  offline h := Prod.ext (Panel.fixed_id.offline h) (Panel.fixed_sources.offline h)

variable {members : List (String × List String)}

theorem selected_actOn (b : Board) (i : Nat) (f : Panel → Panel × List Effect) :
    (b.actOn i f).1.selected = b.selected := by
  unfold actOn
  split <;> rfl

theorem Seated.of_map (h : b.Seated members) {c : Board}
    (hmap : c.panels.map (fun p => (p.id, p.sources)) = b.panels.map (fun p => (p.id, p.sources)))
    (hselected : c.selected < b.panels.length) : c.Seated members := by
  have hlength := congrArg List.length hmap
  rw [List.length_map, List.length_map] at hlength
  exact ⟨hlength ▸ hselected, hmap.trans h.members⟩

theorem Seated.act (h : b.Seated members) (event : Event) : (b.act event).1.Seated members := by
  refine h.of_map (map_act fixed_member b event) ?_
  obtain rfl | ⟨move, hmove, hact⟩ | hact := act_cases event
  · exact h.selected
  · rw [hact]
    exact hmove _ _ h.selected
  · rw [hact, selected_actOn]
    exact h.selected

theorem selected_poll (b : Board) : b.poll.1.selected = b.selected := by
  obtain ⟨spinner, hpoll⟩ := b.poll_board
  rw [hpoll]

theorem Seated.step (h : b.Seated members) (move : BoardMove) : (b.step move).Seated members := by
  cases move with
  | event event => exact h.act event
  | poll => exact h.of_map (map_poll fixed_member b) (b.selected_poll.symm ▸ h.selected)
  | receive k message => exact h.of_map (map_receive fixed_member b k message) h.selected

theorem Seated.run (h : b.Seated members) (moves : List BoardMove) :
    (b.run moves).Seated members := by
  induction moves generalizing b with
  | nil => exact h
  | cons move moves ih => exact ih (h.step move)

theorem seated_mount {paint : Screen.Painter} {config : Config} {kind : ViewerKind}
    {board : Board} {effects : List PanelEffect}
    (hcheck : config.check = .ok ())
    (hmount : Board.mount paint config kind = (.ok board, effects)) :
    board.Seated (config.graphs.map fun graph => (graph.id, Panel.splitSources graph.sources)) := by
  obtain ⟨hnew, hgraphs⟩ := Board.mount_ok hmount
  have hmembers := mountGraphs_members hgraphs
  have hlength := congrArg List.length hmembers
  rw [List.length_map, List.length_map] at hlength
  refine ⟨?_, hmembers⟩
  rw [hlength, hnew]
  exact List.length_pos_of_ne_nil (Config.check_eq_ok_iff.1 hcheck).1

end Board

/-- Whatever has happened to a board of a configuration that passed its check, a panel is selected
and the panels are those of the configuration. An event that selects another panel moves the
selection to the next place or back, round the ends, and does nothing else; as many of them as there
are panels lead past each once and back. Any other event but the one that quits is the selected
panel's alone, and so are all calls that come of it. -/
theorem selection_run {paint : Screen.Painter} {config : Config} {kind : ViewerKind}
    {board : Board} {effects : List PanelEffect}
    (hcheck : config.check = .ok ())
    (hmount : Board.mount paint config kind = (.ok board, effects)) (moves : List BoardMove) :
    let b := board.run moves
    let n := b.panels.length
    let next := { b with selected := if b.selected + 1 = n then 0 else b.selected + 1 }
    let previous := { b with selected := if b.selected = 0 then n - 1 else b.selected - 1 }
    b.selected < n ∧
    b.panels.map (fun p => (p.id, p.sources)) =
      config.graphs.map (fun graph => (graph.id, Panel.splitSources graph.sources)) ∧
    (b.act .selectNext = (next, []) ∧ b.act .selectPrevious = (previous, [])) ∧
    (next.act .selectPrevious = (b, []) ∧ previous.act .selectNext = (b, [])) ∧
    (∀ event ∈ [Event.selectNext, Event.selectPrevious],
      b.actAll (List.replicate n event) = (b, []) ∧
      ((List.range n).map fun k => (b.actAll (List.replicate k event)).1.selected).Perm
        (List.range n)) ∧
    (∀ event, event ≠ .quit → event ≠ .selectNext → event ≠ .selectPrevious →
      ∃ p, b.panels[b.selected]? = some p ∧
        b.act event = ({ b with panels := b.panels.set b.selected (p.act event).1 },
          (p.act event).2.map (b.selected, ·)) ∧
        (p.act event).2.filterMap Effect.call? = p.callsOf (.event event)) ∧
    b.act .quit = ({ b with running := false }, []) := by
  intro b n next previous
  have hseated := (Board.seated_mount hcheck hmount).run moves
  have hselected : b.selected < b.panels.length := hseated.selected
  have hpos : 0 < b.panels.length := Nat.zero_lt_of_lt hselected
  have hnext : b.turnBy 1 = next := Board.turnBy_one hselected
  have hprevious : b.turnBy (n - 1) = previous := Board.turnBy_pred hselected
  have hround : n - 1 + 1 = n := Nat.sub_add_cancel hpos
  refine ⟨hselected, hseated.members, ⟨?_, ?_⟩, ⟨?_, ?_⟩, ?_, ?_, rfl⟩
  · rw [Board.act_selectNext hpos, hnext]
  · rw [Board.act_selectPrevious hpos]
    exact congrArg (·, []) hprevious
  · rw [← hnext, Board.act_selectPrevious (b := b.turnBy 1) hpos, Board.turnBy_turnBy]
    exact congrArg (·, []) (by rw [Nat.add_comm]; exact hround ▸ Board.turnBy_length hselected)
  · rw [← hprevious, Board.act_selectNext (b := b.turnBy (n - 1)) hpos, Board.turnBy_turnBy, hround]
    exact congrArg (·, []) (Board.turnBy_length hselected)
  · intro event hevent
    obtain rfl | rfl := List.mem_pair.1 hevent
    · exact (Board.strides_selectNext hpos).tour hselected
    · exact (Board.strides_selectPrevious hpos).tour hselected
  · intro event hquit hnotNext hnotPrevious
    have hp := List.getElem?_eq_getElem hselected
    refine ⟨_, hp, ?_, Panel.calls_operate _ (.event event)⟩
    rw [Board.act_of_panel hquit hnotNext hnotPrevious, Board.actOn_eq hp]

/-- Back from the first panel to the last, which is opened, and on from there to the first. -/
theorem selection_wrapped :
    let graphs : List Graph := [⟨"load", none, "l", none, .image⟩,
      ⟨"users", none, "u", none, .series⟩, ⟨"octets", none, "a;b;c", some "more", .image⟩]
    let config : Config := ⟨none, "/", .standard, graphs⟩
    let moves : List BoardMove := [.event .selectPrevious, .poll, .event .toggleSelected,
      .receive 0 (.notice (.published (.ok ()))), .event (.selectSource 1)]
    ∃ board effects, config.check = .ok () ∧
      Board.mount Screen.paintBlack config .chart = (.ok board, effects) ∧
      let b := board.run moves
      b.panels.map (fun p => (p.id, p.sources)) =
        [("load", ["l"]), ("users", ["u"]), ("octets", ["a", "b", "c"])] ∧
      b.selected = 2 ∧ b.act .selectNext = ({ b with selected := 0 }, []) ∧
      b.actAll [.selectNext, .selectNext, .selectNext] = (b, []) ∧
      (b.act (.selectRange .week)).2.filterMap (·.2.call?) =
        [.get "b?timeframe=week"] := by
  intro graphs config moves
  obtain ⟨board, effects, hmount, hselected, hlength, hcall⟩ :
      ∃ board effects, Board.mount Screen.paintBlack config .chart = (.ok board, effects) ∧
        (board.run moves).selected = 2 ∧ (board.run moves).panels.length = 3 ∧
        ((board.run moves).act (.selectRange .week)).2.filterMap (·.2.call?) =
          [.get "b?timeframe=week"] :=
    ⟨_, _, rfl, by decide +kernel, by decide +kernel, by decide +kernel⟩
  have hcheck : config.check = .ok () := by decide +kernel
  obtain ⟨-, hmembers, ⟨hnext, -⟩, -, htour, -⟩ := selection_run hcheck hmount moves
  rw [hlength] at hnext htour
  refine ⟨board, effects, hcheck, hmount, ?_, hselected, ?_, (htour .selectNext (by simp)).1, hcall⟩
  · exact hmembers.trans (by decide +kernel)
  · rw [hnext, hselected]
    rfl

end GraphBoard
