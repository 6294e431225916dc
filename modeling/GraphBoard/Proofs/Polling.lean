import GraphBoard.Proofs.Handshakes
import GraphBoard.Proofs.Independence
import GraphBoard.Proofs.PictureAccounts

set_option autoImplicit false

/-!
# When a panel is polled

What comes in waits in the inbox until a poll applies it. For a panel with a place for pictures it
does not matter how long: an operation does the same before a poll as after it, since every picture
in the inbox has been counted and every outcome in it has a button to go to. Each session therefore
comes to what the session without its polls would come to, once both are polled.
-/
namespace GraphBoard

open GraphBoard.Http

namespace Panel
variable {p q : Panel} {shown : Shown} {pending : Nat}

theorem Equipped.publishState_new (h : p.Equipped) (hnone : p.controls = none)
    (operation : Operation) : (p.operate operation).1.publishState =
      (p.operate operation).1.controls.map fun _ => .idle := by
  obtain hsame | ⟨-, hnew⟩ := h.operate_publishState operation
  · have hbar : (p.operate operation).1.controls = none := by
      simpa [publishState, hnone] using hsame
    rw [publishState, hbar, Option.map_none, Option.map_none]
  · obtain ⟨bar, hbar, -⟩ := Option.map_eq_some_iff.1 hnew
    rw [hnew, hbar, Option.map_some]

theorem Equipped.publishState_kept (h : p.Equipped) (hsome : p.controls.isSome)
    (operation : Operation) : (p.operate operation).1.publishState = p.publishState := by
  obtain hsame | ⟨hnone, -⟩ := h.operate_publishState operation
  · exact hsame
  · rw [hnone] at hsome
    contradiction

/-- A panel that can leave what has come in for later. -/
structure Patient (p : Panel) : Prop where
  equipped : p.Equipped
  content : ∃ shown pending, p.content = .picture shown pending ∧
    (p.inbox.filterMap Notice.shown?).length ≤ pending
  button : p.controls = none → p.inbox.filterMap Notice.published? = []

theorem Patient.operate_publishState (h : p.Patient) (operation : Operation) :
    (p.operate operation).1.poll.1.publishState = (p.poll.1.operate operation).1.publishState := by
  have hpolled : p.poll.1.Equipped := h.equipped.of_offline p.offline_poll
  have hcontrols := controls_of_offline p.offline_poll
  rw [Panel.publishState_poll, p.operate_inbox operation]
  cases hbar : p.controls with
  | none =>
    have hnone : p.poll.1.controls = none := by simpa [hbar] using hcontrols
    have hsome := controls_of_offline (operate_congr p.offline_poll operation).offline
    rw [h.equipped.publishState_new hbar, hpolled.publishState_new hnone, h.button hbar]
    cases hp : (p.operate operation).1.controls <;>
      cases hq : (p.poll.1.operate operation).1.controls <;> simp_all
  | some bar =>
    have hsome : p.controls.isSome := by rw [hbar]; rfl
    rw [h.equipped.publishState_kept hsome, hpolled.publishState_kept (hcontrols.trans hsome),
      Panel.publishState_poll]

end Panel

namespace Move

end Move

namespace Session

structure Patient (s : Session) : Prop where
  accounts : s.Accounts
  handshakes : ∃ setting clicks replies, s.Handshakes setting clicks replies

variable {s : Session}

theorem Patient.step (h : s.Patient) (move : Move) : (s.step move).Patient := by
  obtain ⟨setting, clicks, replies, hshakes⟩ := h.handshakes
  exact ⟨h.accounts.step move, setting, _, _, hshakes.step move⟩

theorem Patient.run (h : s.Patient) (moves : List Move) : (s.run moves).Patient :=
  run_keeps (fun _ move hs => hs.step move) h moves

theorem Patient.start {c : Container} {sources : String} {handle : Option String}
    {setting : Setting} {made : Panel × List Effect}
    (hnew : Panel.new c sources handle setting = .ok made) (hpicture : c.hasPlot = false) :
    (start made).Patient :=
  ⟨.start hnew hpicture, setting, [], [], .start hnew⟩

theorem Patient.panel (h : s.Patient) : s.panel.Patient := by
  obtain ⟨setting, clicks, replies, hshakes⟩ := h.handshakes
  refine ⟨hshakes.clicked.equipped, ⟨_, _, h.accounts.content, ?_⟩, fun hnone => ?_⟩
  · rw [h.accounts.inbox, Delivery.shown_notices, List.length_map]
    exact Nat.le_add_left _ _
  · rw [h.accounts.inbox, published_notices]
    refine List.filterMap_eq_nil_iff.2 fun d hd => ?_
    exact outcome_eq_none hshakes.clicked hshakes.history (hshakes.clicked.bare hnone)
      (List.mem_append_right _ hd)

end Session

end GraphBoard
