import GraphBoard.Proofs.Frames
import GraphBoard.Proofs.Independence

set_option autoImplicit false

namespace GraphBoard

def boardCalls (effects : List PanelEffect) : List (Nat × Call) :=
  effects.filterMap fun effect => effect.2.call?.map (effect.1, ·)

@[simp] theorem boardCalls_append (effects more : List PanelEffect) :
    boardCalls (effects ++ more) = boardCalls effects ++ boardCalls more := List.filterMap_append

theorem boardCalls_remarks {effects : List Effect} (h : Remarks effects) (k : Nat) :
    boardCalls (effects.map (k, ·)) = [] := by
  obtain ⟨lines, rfl⟩ := h
  simp [boardCalls, Effect.call?]

namespace Board

/-- The board as if nothing had ever come in or been drawn. -/
def offline (b : Board) : Board :=
  { b with
    panels := b.panels.map Panel.offline
    spinner := 0
    cache := .new b.cache.paint }

variable {b c : Board}

theorem offline_offline (b : Board) : b.offline.offline = b.offline := by
  have hpanels : (b.panels.map Panel.offline).map Panel.offline = b.panels.map Panel.offline := by
    rw [List.map_map]
    exact List.map_congr_left fun p _ => p.offline_offline
  simp only [offline, hpanels, PictureCache.paint_new]

theorem offline_receive (b : Board) (k : Nat) (message : Message) :
    (b.receive k message).offline = b.offline := by
  have hpanels := map_modify (fun p => p.offline_receive message) k b.panels
  simp only [offline, receive, hpanels]

theorem offline_draw (b : Board) (g : Screen.Grid) (a : Screen.Area) :
    (b.draw g a).1.offline = b.offline := by
  obtain ⟨cache, spinner, hboard⟩ := b.draw_board g a
  rw [hboard]
  rfl

theorem offline_poll (b : Board) : b.poll.1.offline = b.offline := by
  obtain ⟨spinner, hpoll⟩ := b.poll_board
  have hpanels : (b.panels.map (·.poll.1)).map Panel.offline = b.panels.map Panel.offline := by
    rw [List.map_map]
    exact List.map_congr_left fun p _ => p.offline_poll
  rw [hpoll]
  simp only [offline, hpanels]

theorem boardCalls_pollPanels (i : Nat) (panels : List Panel) :
    boardCalls (pollPanels i panels).2 = [] := by
  induction panels generalizing i with
  | nil => rfl
  | cons p panels ih =>
    change boardCalls (p.poll.2.map (i, ·) ++ (pollPanels (i + 1) panels).2) = []
    rw [boardCalls_append, boardCalls_remarks p.remarks_poll, ih, List.nil_append]

theorem boardCalls_poll (b : Board) : boardCalls b.poll.2.1 = [] := by
  have heffects : b.poll.2.1 = (pollPanels 0 b.panels).2 := by
    unfold poll
    dsimp only
    split <;> rfl
  rw [heffects, boardCalls_pollPanels]

theorem actOn_offline (b : Board) (k : Nat) (event : Event) :
    (b.offline.actOn k (·.act event)).1.offline = (b.actOn k (·.act event)).1.offline ∧
      (b.offline.actOn k (·.act event)).2 = (b.actOn k (·.act event)).2 := by
  have hpanel : b.offline.panels[k]? = b.panels[k]?.map Panel.offline := List.getElem?_map
  unfold actOn
  rw [hpanel]
  cases b.panels[k]? with
  | none => exact ⟨b.offline_offline, rfl⟩
  | some p =>
    have hsame := Panel.operate_congr p.offline_offline (.event event)
    have hpanels : (b.offline.panels.set k (p.offline.act event).1).map Panel.offline =
        (b.panels.set k (p.act event).1).map Panel.offline := by
      rw [List.map_set, List.map_set]
      exact congrArg₂ (fun panels p => List.set panels k p)
        (congrArg Board.panels b.offline_offline) hsame.offline
    refine ⟨?_, ?_⟩
    · simp only [Option.map_some, offline, PictureCache.paint_new] at hpanels ⊢
      rw [hpanels]
    · exact congrArg (List.map (k, ·)) hsame.effects

theorem act_offline (b : Board) (event : Event) :
    (b.offline.act event).1.offline = (b.act event).1.offline ∧
      (b.offline.act event).2 = (b.act event).2 := by
  obtain rfl | ⟨move, -, hact⟩ | hact := act_cases event
  · exact ⟨congrArg (fun c : Board => { c with running := false }) b.offline_offline, rfl⟩
  · have hlength : b.offline.panels.length = b.panels.length := List.length_map _
    have hselected := congrArg
      (fun c : Board => { c with selected := move b.selected b.panels.length }) b.offline_offline
    rw [hact, hact, hlength]
    exact ⟨hselected, rfl⟩
  · rw [hact, hact]
    exact b.actOn_offline b.selected event

theorem act_congr (h : c.offline = b.offline) (event : Event) :
    (c.act event).1.offline = (b.act event).1.offline ∧ (c.act event).2 = (b.act event).2 := by
  obtain ⟨hboard, heffects⟩ := c.act_offline event
  rw [← hboard, ← heffects, h]
  exact b.act_offline event

theorem running_of_offline (h : c.offline = b.offline) : c.running = b.running := by
  have := congrArg Board.running h
  exact this

theorem running_act (b : Board) {event : Event} (hquit : event ≠ .quit) :
    (b.act event).1.running = b.running := by
  obtain rfl | ⟨move, -, hact⟩ | hact := act_cases event
  · contradiction
  · rw [hact]
  · rw [hact]
    unfold actOn
    split <;> rfl

theorem actAll_append (b : Board) (events more : List Event) :
    b.actAll (events ++ more) = (((b.actAll events).1.actAll more).1,
      (b.actAll events).2 ++ ((b.actAll events).1.actAll more).2) := by
  induction events generalizing b with
  | nil => rfl
  | cons event events ih =>
    change (((b.act event).1.actAll (events ++ more)).1,
      (b.act event).2 ++ ((b.act event).1.actAll (events ++ more)).2) = _
    rw [ih, ← List.append_assoc]
    rfl

theorem running_actAll (b : Board) (events : List Event) :
    (b.actAll events).1.running = (b.running && decide (.quit ∉ events)) := by
  induction events generalizing b with
  | nil => exact (Bool.and_true _).symm
  | cons event events ih =>
    change ((b.act event).1.actAll events).1.running = _
    rw [ih]
    by_cases hquit : event = .quit
    · have hstopped : (b.act .quit).1.running = false := rfl
      simp [hquit, hstopped]
    · have hne : Event.quit ≠ event := fun heq => hquit heq.symm
      simp [b.running_act hquit, hne]

end Board

end GraphBoard
