import GraphBoard.Proofs.Publishing

set_option autoImplicit false

namespace GraphBoard

open GraphBoard.Http

def Call.isPost : Call → Bool
  | post _ _ => true
  | _ => false

theorem posts_of_fetching {effects : List Effect} (h : Fetching effects) :
    (effects.filterMap Effect.call?).filter Call.isPost = [] := by
  refine List.filter_eq_nil_iff.2 fun call hcall hpost => ?_
  have hfetch := h call hcall
  cases call <;> contradiction

structure Reply where
  ticket : Ticket
  server : Server

namespace Reply

def delivery? (r : Reply) : Option Delivery :=
  match r.ticket.job.advance r.server with
  | .done _ message => message.map (⟨r.ticket, r.server, ·⟩)
  | .next _ => none

/-- The ticket of a job that goes on to another call. It keeps its number. -/
def onward? (r : Reply) : Option Ticket :=
  match r.ticket.job.advance r.server with
  | .done _ _ => none
  | .next job => some ⟨r.ticket.number, job⟩

theorem eq_of_onward {r : Reply} {onward : Ticket} (h : r.onward? = some onward) :
    onward.number = r.ticket.number ∧ ∃ publication name,
      r.ticket.job = .probe publication ∧ onward.job = .register publication name := by
  unfold onward? at h
  split at h
  · contradiction
  · rename_i next hnext
    cases h
    obtain ⟨publication, name, hprobe, rfl⟩ := Job.eq_of_next hnext
    exact ⟨rfl, publication, name, hprobe, rfl⟩

theorem eq_of_delivery {r : Reply} {d : Delivery} (h : r.delivery? = some d) :
    d.ticket = r.ticket ∧
      ∃ lines, d.ticket.job.advance d.server = .done lines (some d.message) := by
  unfold delivery? at h
  split at h
  · rename_i lines message hdone
    obtain ⟨told, rfl, rfl⟩ := Option.map_eq_some_iff.1 h
    exact ⟨rfl, lines, hdone⟩
  · contradiction

end Reply

namespace Panel
variable (p : Panel)

theorem operate_inbox (operation : Operation) : (p.operate operation).1.inbox = p.inbox := by
  have h := p.operate_outcome operation
  generalize p.operate operation = done at h
  cases h <;> rfl

theorem inbox_poll : p.poll.1.inbox = [] := by
  have happlied := inbox_applyAll { p with inbox := [] } p.inbox
  change ((({ p with inbox := [] } : Panel).applyAll p.inbox).1.pollViewer).1.inbox = []
  simp only [pollViewer]
  split <;> exact happlied

theorem posts_operate (operation : Operation) :
    ((p.operate operation).2.filterMap Effect.call?).filter Call.isPost = [] := by
  obtain ⟨-, hfetching⟩ | ⟨publication, -, hprobe⟩ := p.operate_publishes operation
  · exact posts_of_fetching hfetching
  · rw [hprobe]
    rfl

end Panel

namespace Session

def repliesTo (s : Session) : Move → List Reply
  | .operate _ => []
  | .answer place server => (s.waiting[place]?.map (⟨·, server⟩)).toList
  | .poll => []

def replies (s : Session) : List Move → List Reply
  | [] => []
  | move :: moves => s.repliesTo move ++ (s.step move).replies moves

/-- What came of the replies so far. -/
structure History (s : Session) (replies : List Reply) : Prop where
  deliveries : s.applied ++ s.queued = replies.filterMap Reply.delivery?
  /-- A job has a ticket from its beginning and one if it goes on; each waits or is answered. -/
  perm : (s.waiting ++ replies.map Reply.ticket).Perm
    (tickets 0 s.begun ++ replies.filterMap Reply.onward?)
  inbox : s.panel.inbox = s.queued.filterMap (·.message.notice?)
  posts : s.calls.filter Call.isPost = (replies.filterMap Reply.onward?).map (·.job.call)

variable {s : Session} {replies : List Reply}

theorem History.perform (h : s.History replies) {done : Panel × List Effect}
    (hinbox : done.1.inbox = s.panel.inbox)
    (hposts : (done.2.filterMap Effect.call?).filter Call.isPost = []) :
    (s.perform done).History replies where
  deliveries := h.deliveries
  perm := by
    change (s.waiting ++ _ ++ _).Perm (tickets 0 (s.begun ++ _) ++ _)
    rw [tickets_append, Nat.zero_add, List.append_assoc (tickets 0 s.begun)]
    refine (issued_perm h.perm _).trans ?_
    rw [List.append_assoc]
    exact List.perm_append_comm.append_left _
  inbox := hinbox.trans h.inbox
  posts := by
    change (s.calls ++ done.2.filterMap Effect.call?).filter Call.isPost = _
    rw [List.filter_append, hposts, List.append_nil]
    exact h.posts

theorem History.settle (h : s.History replies) {place : Nat} {ticket : Ticket}
    (at_place : s.waiting[place]? = some ticket) (server : Server) :
    (s.settle place ticket server).History (replies ++ [⟨ticket, server⟩]) := by
  have hperm := answered_perm (perm_cons_eraseIdx at_place) h.perm
  cases hadvance : ticket.job.advance server with
  | done lines message =>
    have honward : (⟨ticket, server⟩ : Reply).onward? = none := by
      simp only [Reply.onward?, hadvance]
    have hdelivery : (⟨ticket, server⟩ : Reply).delivery? =
        message.map (⟨ticket, server, ·⟩) := by
      simp only [Reply.delivery?, hadvance]
    have hdone := hperm []
    simp only [List.nil_append, List.append_nil] at hdone
    have hposts := h.posts
    have hdeliveries := h.deliveries
    simp only [Session.settle, hadvance]
    cases message with
    | none =>
      refine ⟨?_, ?_, h.inbox, ?_⟩ <;>
        simpa [List.filterMap_append, honward, hdelivery]
    | some message =>
      refine ⟨?_, ?_, ?_, ?_⟩
      · simp [← List.append_assoc, hdeliveries, List.filterMap_append, hdelivery]
      · simpa [List.filterMap_append, honward]
      · change (s.panel.receive message).inbox = (s.queued ++ [_]).filterMap _
        rw [List.filterMap_append, ← h.inbox, Panel.inbox_receive]
        cases message <;> rfl
      · simpa [List.filterMap_append, honward]
  | next job =>
    have honward : (⟨ticket, server⟩ : Reply).onward? = some ⟨ticket.number, job⟩ := by
      simp only [Reply.onward?, hadvance]
    have hdelivery : (⟨ticket, server⟩ : Reply).delivery? = none := by
      simp only [Reply.delivery?, hadvance]
    obtain ⟨publication, name, -, rfl⟩ := Job.eq_of_next hadvance
    -- The next ticket stands in the place of the one that was answered.
    simp only [Session.settle, hadvance]
    refine ⟨?_, ?_, h.inbox, ?_⟩
    · simpa [List.filterMap_append, hdelivery] using h.deliveries
    · obtain ⟨hplace, -⟩ := List.getElem?_eq_some_iff.mp at_place
      have hset := List.set_perm_cons_eraseIdx hplace
        (⟨ticket.number, .register publication name⟩ : Ticket)
      simp only [List.map_append, List.map_cons, List.map_nil, List.filterMap_append,
        List.filterMap_cons, List.filterMap_nil, honward]
      rw [← List.append_assoc (tickets 0 s.begun)]
      exact (hset.append_right _).trans (hperm [_])
    · simp [List.filterMap_append, honward, h.posts, Job.call, Call.isPost]

theorem History.poll (h : s.History replies) : s.poll.History replies := by
  rw [poll_eq]
  refine ⟨?_, h.perm, s.panel.inbox_poll, h.posts⟩
  change s.applied ++ s.queued ++ [] = _
  rw [List.append_nil, h.deliveries]

theorem History.step (h : s.History replies) (move : Move) :
    (s.step move).History (replies ++ s.repliesTo move) := by
  cases move with
  | operate operation =>
    rw [repliesTo, List.append_nil]
    exact h.perform (s.panel.operate_inbox operation) (s.panel.posts_operate operation)
  | answer place server =>
    cases hticket : s.waiting[place]? with
    | none =>
      simpa only [Session.step, Session.answer, repliesTo, hticket, Option.map_none,
        Option.toList_none, List.append_nil] using h
    | some ticket =>
      simpa only [Session.step, Session.answer, repliesTo, hticket, Option.map_some,
        Option.toList_some] using h.settle hticket server
  | poll =>
    rw [repliesTo, List.append_nil]
    exact h.poll

end Session

end GraphBoard
