import GraphBoard.Proofs.Pictures

set_option autoImplicit false

namespace GraphBoard

open GraphBoard.Http

namespace Delivery

def isImage (d : Delivery) : Bool := d.message.isImage

def shown (d : Delivery) : Shown := ((d.message.notice?.bind Notice.shown?).getD .nothing)

theorem shown_notices (deliveries : List Delivery) :
    (deliveries.filterMap (·.message.notice?)).filterMap Notice.shown? =
      (deliveries.filter isImage).map shown := by
  induction deliveries with
  | nil => rfl
  | cons d deliveries ih =>
    obtain ⟨ticket, server, message⟩ := d
    cases message with
    | series url outcome => exact ih
    | notice notice =>
      cases notice with
      | image url outcome => exact congrArg (Shown.ofOutcome url outcome :: ·) ih
      | published outcome => exact ih

end Delivery

namespace Session

def issued (s : Session) : List Ticket := (tickets 0 s.begun).filter (·.job.isImage)

/-- The pictures asked for and not answered. -/
def outstanding (s : Session) : List Ticket := s.waiting.filter (·.job.isImage)

def undrained (s : Session) : List Delivery := s.queued.filter Delivery.isImage

def drained (s : Session) : List Delivery := s.applied.filter Delivery.isImage

structure Accounts (s : Session) : Prop where
  content : s.panel.content = .picture ((s.drained.map Delivery.shown).getLast?.getD .nothing)
    (s.outstanding.length + s.undrained.length)
  inbox : s.panel.inbox = s.queued.filterMap (·.message.notice?)
  /-- What was asked for is outstanding, undrained or drained, and only once. -/
  perm : (s.outstanding ++ (s.undrained ++ s.drained).map Delivery.ticket).Perm s.issued
  own : ∀ d ∈ s.applied ++ s.queued,
    ∃ lines, d.ticket.job.advance d.server = .done lines (some d.message)
  calls : s.calls.filter Call.isFetch = s.issued.map (·.job.call)

theorem map_job_filter_tickets (n : Nat) (jobs : List Job) :
    ((tickets n jobs).filter (·.job.isImage)).map Ticket.job = jobs.filter Job.isImage := by
  conv_rhs => rw [← map_job_tickets n jobs, List.filter_map]
  rfl

section
variable {s : Session}

theorem Accounts.perform (h : s.Accounts) {done : Panel × List Effect}
    (hdone : s.panel.Counts done) : (s.perform done).Accounts := by
  let jobs := done.2.filterMap Effect.job?
  let asked := (tickets s.begun.length jobs).filter (·.job.isImage)
  have hasked : asked.map Ticket.job = imageJobs done.2 := map_job_filter_tickets _ jobs
  have hissued : (s.perform done).issued = s.issued ++ asked := by
    simp only [issued, Session.perform, tickets_append, List.filter_append, Nat.zero_add, asked,
      jobs]
  have houtstanding : (s.perform done).outstanding = s.outstanding ++ asked := by
    simp only [outstanding, Session.perform, List.filter_append, asked, jobs]
  refine ⟨?_, hdone.inbox.trans h.inbox, ?_, h.own, ?_⟩
  · have hlength : asked.length = (imageJobs done.2).length := by rw [← hasked, List.length_map]
    change done.1.content = .picture _ _
    rw [hdone.content h.content, houtstanding, List.length_append, hlength]
    congr 1
    change _ = _ + s.undrained.length
    omega
  · rw [hissued, houtstanding]
    change (_ ++ _ ++ (s.undrained ++ s.drained).map Delivery.ticket).Perm _
    exact issued_perm h.perm asked
  · change (s.calls ++ done.2.filterMap Effect.call?).filter Call.isFetch = _
    rw [List.filter_append, h.calls, hissued, List.map_append]
    change _ ++ fetches done.2 = _
    rw [hdone.calls, ← hasked, List.map_map]
    rfl

theorem outstanding_perm {place : Nat} {ticket : Ticket} (h : s.waiting[place]? = some ticket) :
    s.outstanding.Perm ([ticket].filter (·.job.isImage) ++
      (s.waiting.eraseIdx place).filter (·.job.isImage)) := by
  rw [← List.filter_append]
  exact (perm_cons_eraseIdx h).filter _

theorem moved_perm {outstanding waiting arrived undrained drained : List Ticket}
    (h : outstanding.Perm (arrived ++ waiting)) :
    (waiting ++ (undrained ++ arrived ++ drained)).Perm
      (outstanding ++ (undrained ++ drained)) := by
  refine List.Perm.trans ?_ (h.symm.append_right _)
  rw [List.perm_iff_count]
  intro ticket
  simp only [List.count_append]
  omega

theorem Accounts.of_perm (h : s.Accounts) {t : Session} (hpanel : t.panel = s.panel)
    (hbegun : t.begun = s.begun) (hqueued : t.queued = s.queued) (happlied : t.applied = s.applied)
    (hcalls : t.calls.filter Call.isFetch = s.calls.filter Call.isFetch)
    (hperm : t.outstanding.Perm s.outstanding) : t.Accounts := by
  have hissued : t.issued = s.issued := by rw [issued, hbegun, issued]
  have hundrained : t.undrained = s.undrained := by rw [undrained, hqueued, undrained]
  have hdrained : t.drained = s.drained := by rw [drained, happlied, drained]
  refine ⟨?_, ?_, ?_, ?_, ?_⟩
  · rw [hpanel, hundrained, hdrained, hperm.length_eq]
    exact h.content
  · rw [hpanel, hqueued]
    exact h.inbox
  · rw [hissued, hundrained, hdrained]
    exact (hperm.append_right _).trans h.perm
  · rw [happlied, hqueued]
    exact h.own
  · rw [hcalls, hissued]
    exact h.calls

theorem Accounts.message (h : s.Accounts) {place : Nat} {ticket : Ticket} {server : Server}
    {lines : List Log.Line} {message : Message} (at_place : s.waiting[place]? = some ticket)
    (ended : ticket.job.advance server = .done lines (some message)) :
    Accounts { s with
      panel := s.panel.receive message
      waiting := s.waiting.eraseIdx place
      queued := s.queued ++ [⟨ticket, server, message⟩] } := by
  let d : Delivery := ⟨ticket, server, message⟩
  have hperm := outstanding_perm at_place
  have harrived : ([d].filter Delivery.isImage).map Delivery.ticket =
      [ticket].filter (·.job.isImage) := by
    have hmessage : d.isImage = ticket.job.isImage := Job.isImage_of_message ended
    cases himage : ticket.job.isImage <;> simp [hmessage, himage, d]
  have hundrained : (s.queued ++ [d]).filter Delivery.isImage =
      s.undrained ++ [d].filter Delivery.isImage := List.filter_append ..
  refine ⟨?_, ?_, ?_, ?_, h.calls⟩
  · have hlength := hperm.length_eq
    rw [List.length_append, ← harrived, List.length_map] at hlength
    change (s.panel.receive message).content = .picture _
      (((s.waiting.eraseIdx place).filter _).length +
        ((s.queued ++ [d]).filter Delivery.isImage).length)
    rw [Panel.receive_picture h.content, hundrained, List.length_append]
    congr 1
    omega
  · change (s.panel.receive message).inbox = (s.queued ++ [d]).filterMap _
    rw [List.filterMap_append, ← h.inbox, Panel.inbox_receive]
    cases message <;> rfl
  · change ((s.waiting.eraseIdx place).filter _ ++
      (((s.queued ++ [d]).filter Delivery.isImage) ++ s.drained).map Delivery.ticket).Perm s.issued
    rw [hundrained, List.map_append, List.map_append, harrived]
    refine (moved_perm hperm).trans ?_
    rw [← List.map_append]
    exact h.perm
  · intro e he
    rw [← List.append_assoc] at he
    obtain he | he := List.mem_append.1 he
    · exact h.own e he
    · cases List.mem_singleton.1 he
      exact ⟨lines, ended⟩

theorem Accounts.answer (h : s.Accounts) (place : Nat) (server : Server) :
    (s.answer place server).Accounts := by
  have hanswered := s.answered place server
  generalize s.answer place server = t at hanswered
  cases hanswered with
  | nobody => exact h
  | silent at_place ended =>
    have hperm := outstanding_perm at_place
    rw [List.filter_cons_of_neg (by simp [Job.not_isImage_of_silent ended]), List.filter_nil,
      List.nil_append] at hperm
    exact h.of_perm rfl rfl rfl rfl rfl hperm.symm
  | message at_place ended => exact h.message at_place ended
  | @onward ticket job at_place next =>
    obtain ⟨publication, name, hprobe, rfl⟩ := Job.eq_of_next next
    have hperm := outstanding_perm at_place
    rw [List.filter_cons_of_neg (by simp [hprobe, Job.isImage]), List.filter_nil,
      List.nil_append] at hperm
    refine h.of_perm rfl rfl rfl rfl ?_ ?_
    · simp [List.filter_append, Job.isFetch_next next]
    · obtain ⟨hplace, -⟩ := List.getElem?_eq_some_iff.mp at_place
      refine List.Perm.trans ?_ hperm.symm
      refine ((List.set_perm_cons_eraseIdx hplace _).filter _).trans ?_
      rw [List.filter_cons_of_neg (by simp [Job.isImage])]

theorem Accounts.poll (h : s.Accounts) : s.poll.Accounts := by
  have hcontent : s.panel.poll.1.content = .picture
      (((s.drained ++ s.undrained).map Delivery.shown).getLast?.getD .nothing)
      s.outstanding.length := by
    rw [Panel.poll_picture h.content, Panel.content_applyAll (p := { s.panel with inbox := [] })
      h.content, h.inbox, Delivery.shown_notices, List.length_map, List.map_append,
      List.getLast?_append, Option.getD_or]
    congr 1
    exact Nat.add_sub_cancel _ _
  have hdrained : s.poll.drained = s.drained ++ s.undrained := List.filter_append ..
  have hissued : s.poll.issued = s.issued := by rw [poll_eq, issued, issued]
  have houtstanding : s.poll.outstanding = s.outstanding := by
    rw [poll_eq, outstanding, outstanding]
  refine ⟨?_, ?_, ?_, ?_, ?_⟩
  · rw [hdrained, houtstanding]
    exact hcontent
  · change s.panel.poll.1.inbox = []
    rw [Panel.poll_picture h.content, Panel.inbox_applyAll]
  · rw [hissued, houtstanding, hdrained]
    change (s.outstanding ++ (s.drained ++ s.undrained).map Delivery.ticket).Perm _
    exact ((List.perm_append_comm.map _).append_left _).trans h.perm
  · intro d hd
    rw [show s.poll.applied ++ s.poll.queued = s.applied ++ s.queued from List.append_nil _] at hd
    exact h.own d hd
  · rw [hissued, poll_eq]
    exact h.calls

theorem Accounts.step (h : s.Accounts) (move : Move) : (s.step move).Accounts := by
  cases move with
  | operate operation => exact h.perform (Panel.operate_counts h.content operation)
  | answer place server => exact h.answer place server
  | poll => exact h.poll

theorem Accounts.start {c : Container} {sources : String} {handle : Option String}
    {setting : Setting} {made : Panel × List Effect}
    (hnew : Panel.new c sources handle setting = .ok made) (hpicture : c.hasPlot = false) :
    (start made).Accounts := by
  let p := Panel.bare c sources handle setting
  have hcontent : p.content = .picture .nothing 0 := if_neg (by simp [hpicture])
  have hbare : (⟨p, [], [], [], [], []⟩ : Session).Accounts :=
    ⟨hcontent, rfl, .nil, by simp, rfl⟩
  obtain ⟨line, ⟨-, rfl⟩ | ⟨-, rfl⟩⟩ := Panel.new_ok hnew
  · have hsetUp := Panel.counts_setUp hcontent
    have htold : p.Counts (p.setUp.1, .tell line :: p.setUp.2) :=
      ⟨hsetUp.content, hsetUp.inbox, hsetUp.calls⟩
    exact hbare.perform htold
  · have htold : p.Counts (p, [.tell line]) := Panel.counts_quiet rfl rfl rfl rfl
    exact hbare.perform htold

theorem Accounts.run (h : s.Accounts) (moves : List Move) : (s.run moves).Accounts :=
  run_keeps (fun _ move hs => hs.step move) h moves

theorem nodup_issued (s : Session) : s.issued.Nodup := (nodup_tickets 0 s.begun).filter _

theorem Accounts.pending (h : s.Accounts) :
    s.panel.pending = s.outstanding.length + s.undrained.length := by
  simp only [Panel.pending, h.content]

theorem Accounts.total (h : s.Accounts) :
    s.panel.pending + s.drained.length = s.issued.length := by
  have htotal := h.perm.length_eq
  rw [List.length_append, List.length_map, List.length_append] at htotal
  rw [h.pending]
  omega

theorem Accounts.isLoading_iff (h : s.Accounts) : s.panel.isLoading = false ↔
    ∀ ticket ∈ s.issued, ticket ∈ s.drained.map Delivery.ticket := by
  have hloading : s.panel.isLoading = false ↔ s.panel.pending = 0 := by
    simp only [Panel.isLoading, Panel.pending, h.content, decide_eq_false_iff_not]
    omega
  have hperm := h.perm
  rw [List.map_append, ← List.append_assoc] at hperm
  rw [hloading, ← waiting_eq_nil_iff hperm s.nodup_issued, ← List.length_eq_zero_iff,
    List.length_append, List.length_map, h.pending]

theorem Accounts.shown_drained (h : s.Accounts) {d : Delivery} (hd : d ∈ s.drained) :
    ∃ url, d.ticket.job = .image url ∧
      d.shown = Shown.ofOutcome url (Job.pictureOf (d.server.get url)) := by
  obtain ⟨happlied, himage⟩ := List.mem_filter.1 hd
  obtain ⟨lines, ended⟩ := h.own d (List.mem_append_left _ happlied)
  obtain ⟨url, hjob⟩ := Job.eq_image ((Job.isImage_of_message ended).symm.trans himage)
  obtain ⟨_, hdone⟩ := Job.advance_image d.server url
  rw [hjob, hdone] at ended
  injection ended with _ hmessage
  injection hmessage with hmessage
  refine ⟨url, hjob, ?_⟩
  rw [Delivery.shown, ← hmessage]
  rfl

end

end Session

end GraphBoard
