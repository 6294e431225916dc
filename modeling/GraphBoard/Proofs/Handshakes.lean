import GraphBoard.Proofs.Replies

set_option autoImplicit false

/-!
# Publishing in a session

A click on the button begins a handshake: the probe of what is displayed, then, if the answer names
the graph, its registration under this name, then the outcome on the button. Many handshakes can be
under way at once and share the inbox with the pictures. `Session.clicks` and `Session.replies` tell
them apart by their tickets, and each of them is accounted for whatever the order of the answers.
-/
namespace GraphBoard

open GraphBoard.Http

def Call.isHead : Call → Bool
  | head _ => true
  | _ => false

namespace Job

def isProbe : Job → Bool
  | probe _ => true
  | _ => false

def isRegister : Job → Bool
  | register _ _ => true
  | _ => false

theorem not_isProbe_of_isFetch {job : Job} (h : job.call.isFetch = true) : job.isProbe = false := by
  cases job with
  | image url | series url => rfl
  | probe publication | register publication name => contradiction

theorem not_isRegister_of_isFetch {job : Job} (h : job.call.isFetch = true) :
    job.isRegister = false := by
  cases job with
  | image url | series url => rfl
  | probe publication | register publication name => contradiction

end Job

def Delivery.outcome? (d : Delivery) : Option (Except BoardError Unit) :=
  d.message.notice?.bind Notice.published?

theorem published_notices (deliveries : List Delivery) :
    (deliveries.filterMap (·.message.notice?)).filterMap Notice.published? =
      deliveries.filterMap Delivery.outcome? := List.filterMap_filterMap

namespace Reply

/-- The registration that the answer to a probe leads to: under the name in the header that was
asked for, if the server has an answer, with this header, in readable text. -/
def registration? (r : Reply) : Option Ticket :=
  match r.ticket.job with
  | .probe publication =>
    match r.server.head publication.probe with
    | .ok headers =>
      (headers.text? publication.header).map fun name =>
        ⟨r.ticket.number, .register publication name⟩
    | .error _ => none
  | _ => none

theorem onward?_eq_registration? (r : Reply) : r.onward? = r.registration? := by
  obtain ⟨⟨number, job⟩, server⟩ := r
  cases job with
  | image url =>
    obtain ⟨lines, hdone⟩ := Job.advance_image server url
    simp only [onward?, registration?, hdone]
  | series url =>
    obtain ⟨lines, hdone⟩ := Job.advance_series server url
    simp only [onward?, registration?, hdone]
  | register publication name =>
    obtain ⟨lines, hdone⟩ := Job.advance_register server publication name
    simp only [onward?, registration?, hdone]
  | probe publication =>
    cases hhead : server.head publication.probe with
    | error e => simp only [onward?, registration?, Job.advance, Job.failed, hhead]
    | ok headers =>
      cases hname : headers.text? publication.header with
      | none => simp only [onward?, registration?, Job.advance, hhead, hname, Option.map_none]
      | some name => simp only [onward?, registration?, Job.advance, hhead, hname, Option.map_some]

theorem delivery?_register (r : Reply) :
    (r.delivery?.toList.filter (·.outcome?.isSome)).map Delivery.ticket =
      [r.ticket].filter (·.job.isRegister) := by
  obtain ⟨⟨number, job⟩, server⟩ := r
  cases job with
  | image url =>
    obtain ⟨lines, hdone⟩ := Job.advance_image server url
    simp only [delivery?, hdone]
    rfl
  | series url =>
    obtain ⟨lines, hdone⟩ := Job.advance_series server url
    simp only [delivery?, hdone]
    rfl
  | register publication name =>
    obtain ⟨lines, hdone⟩ := Job.advance_register server publication name
    simp only [delivery?, hdone]
    rfl
  | probe publication =>
    obtain ⟨lines, hdone⟩ | ⟨name, hnext⟩ := Job.advance_probe server publication
    · simp only [delivery?, hdone]
      rfl
    · simp only [delivery?, hnext]
      rfl

theorem delivered_registers (replies : List Reply) :
    ((replies.filterMap delivery?).filter (·.outcome?.isSome)).map Delivery.ticket =
      (replies.map ticket).filter (·.job.isRegister) := by
  induction replies with
  | nil => rfl
  | cons r replies ih =>
    have hcons : (r :: replies).filterMap delivery? =
        r.delivery?.toList ++ replies.filterMap delivery? := by
      cases h : r.delivery? <;> simp [h]
    rw [hcons, List.filter_append, List.map_append, ih, r.delivery?_register, ← List.filter_append]
    rfl

theorem outcome_of_delivery {r : Reply} {d : Delivery} (h : r.delivery? = some d)
    {outcome : Except BoardError Unit} (houtcome : d.outcome? = some outcome) :
    ∃ publication name, d.ticket.job = .register publication name ∧
      outcome = d.server.post publication.endpoint (Job.form publication name) := by
  obtain ⟨-, lines, hdone⟩ := eq_of_delivery h
  obtain ⟨⟨number, job⟩, server, message⟩ := d
  cases job with
  | image url =>
    obtain ⟨_, himage⟩ := Job.advance_image server url
    rw [himage] at hdone
    cases hdone
    contradiction
  | series url =>
    obtain ⟨_, hseries⟩ := Job.advance_series server url
    rw [hseries] at hdone
    cases hdone
    contradiction
  | register publication name =>
    obtain ⟨_, hregister⟩ := Job.advance_register server publication name
    rw [hregister] at hdone
    cases hdone
    cases houtcome
    exact ⟨publication, name, rfl, rfl⟩
  | probe publication =>
    obtain ⟨_, hsilent⟩ | ⟨_, hnext⟩ := Job.advance_probe server publication
    · rw [hsilent] at hdone
      cases hdone
    · rw [hnext] at hdone
      cases hdone

end Reply

namespace Session

def clickedBy (s : Session) : Move → List Ticket
  | .operate operation =>
    ((s.panel.publication? operation).map fun publication =>
      ⟨s.begun.length, .probe publication⟩).toList
  | .answer _ _ => []
  | .poll => []

def clicks (s : Session) : List Move → List Ticket
  | [] => []
  | move :: moves => s.clickedBy move ++ (s.step move).clicks moves

def outcomes (s : Session) : List (Except BoardError Unit) := s.applied.filterMap Delivery.outcome?

theorem outcomes_poll (s : Session) :
    s.poll.outcomes = s.outcomes ++ s.queued.filterMap Delivery.outcome? := List.filterMap_append

theorem filter_tickets_eq_nil {f : Job → Bool} (n : Nat) {jobs : List Job}
    (h : ∀ job ∈ jobs, f job = false) : (tickets n jobs).filter (f ·.job) = [] := by
  refine List.filter_eq_nil_iff.2 fun ticket hticket => ?_
  have hjob : ticket.job ∈ (tickets n jobs).map Ticket.job := List.mem_map_of_mem hticket
  rw [map_job_tickets] at hjob
  simp [h ticket.job hjob]

theorem heads_of_fetching {effects : List Effect} (h : Fetching effects) :
    (effects.filterMap Effect.call?).filter Call.isHead = [] := by
  refine List.filter_eq_nil_iff.2 fun call hcall hhead => ?_
  have hfetch := h call hcall
  cases call <;> contradiction

structure Clicked (setting : Setting) (s : Session) (clicks : List Ticket) : Prop where
  same_setting : s.panel.setting = setting
  equipped : s.panel.Equipped
  probes : (tickets 0 s.begun).filter (·.job.isProbe) = clicks
  unregistered : (tickets 0 s.begun).filter (·.job.isRegister) = []
  heads : s.calls.filter Call.isHead = clicks.map (·.job.call)
  bare : s.panel.controls = none → clicks = []
  publication : ∀ click ∈ clicks, ∃ url, click.job = .probe ⟨Job.plainUrl url,
    setting.dashboard.header, setting.dashboard.endpoint, setting.page⟩

section
variable {setting : Setting} {s t : Session} {clicks : List Ticket} {replies : List Reply}

theorem Clicked.of_offline (h : s.Clicked setting clicks)
    (hpanel : t.panel.offline = s.panel.offline) (hbegun : t.begun = s.begun)
    (hheads : t.calls.filter Call.isHead = s.calls.filter Call.isHead) :
    t.Clicked setting clicks := by
  refine ⟨(Panel.setting_of_offline hpanel).trans h.same_setting, h.equipped.of_offline hpanel, ?_,
    ?_, hheads.trans h.heads, fun hnone => h.bare ?_, h.publication⟩
  · rw [hbegun, h.probes]
  · rw [hbegun, h.unregistered]
  · have hcontrols := Panel.controls_of_offline hpanel
    rw [hnone] at hcontrols
    simpa using hcontrols.symm

theorem Clicked.fetch (h : s.Clicked setting clicks) {done : Panel × List Effect}
    (hsetting : done.1.setting = s.panel.setting) (hequipped : done.1.Equipped)
    (hbare : done.1.controls = none → s.panel.controls = none) (hfetching : Fetching done.2) :
    (s.perform done).Clicked setting clicks := by
  have hprobes := filter_tickets_eq_nil s.begun.length
    fun job hjob => Job.not_isProbe_of_isFetch (hfetching.job hjob)
  have hregisters := filter_tickets_eq_nil s.begun.length
    fun job hjob => Job.not_isRegister_of_isFetch (hfetching.job hjob)
  refine ⟨hsetting.trans h.same_setting, hequipped, ?_, ?_, ?_, fun hnone => h.bare (hbare hnone),
    h.publication⟩
  · simp only [perform, tickets_append, Nat.zero_add, List.filter_append, h.probes, hprobes,
      List.append_nil]
  · simp only [perform, tickets_append, Nat.zero_add, List.filter_append, h.unregistered,
      hregisters, List.append_nil]
  · simp only [perform, List.filter_append, h.heads, heads_of_fetching hfetching, List.append_nil]

theorem Clicked.click (h : s.Clicked setting clicks) {operation : Operation}
    {publication : Publication} (hclick : s.panel.publication? operation = some publication) :
    (s.perform (s.panel, [.start (.probe publication)])).Clicked setting
      (clicks ++ [⟨s.begun.length, .probe publication⟩]) := by
  obtain ⟨url, hcontrols, hpublication⟩ := s.panel.publication?_eq_some hclick
  refine ⟨h.same_setting, h.equipped, ?_, ?_, ?_, fun hnone => ?_, fun click hmem => ?_⟩
  · change (tickets 0 (s.begun ++ [.probe publication])).filter _ = _
    rw [tickets_append, Nat.zero_add, List.filter_append, h.probes]
    rfl
  · change (tickets 0 (s.begun ++ [.probe publication])).filter _ = _
    rw [tickets_append, Nat.zero_add, List.filter_append, h.unregistered]
    rfl
  · change (s.calls ++ [Call.head publication.probe]).filter Call.isHead = _
    rw [List.filter_append, h.heads, List.map_append]
    rfl
  · change s.panel.controls = none at hnone
    rw [hnone] at hcontrols
    contradiction
  · obtain hold | hnew := List.mem_append.1 hmem
    · exact h.publication click hold
    · refine ⟨url, ?_⟩
      rw [List.mem_singleton.1 hnew, hpublication, Panel.publication, h.same_setting]

theorem Clicked.operate (h : s.Clicked setting clicks) (operation : Operation) :
    (s.step (.operate operation)).Clicked setting (clicks ++ s.clickedBy (.operate operation)) := by
  obtain ⟨hquiet, hfetching⟩ | ⟨publication, hclick, hprobe⟩ := s.panel.operate_publishes operation
  · rw [clickedBy, hquiet, Option.map_none, Option.toList_none, List.append_nil]
    exact h.fetch (s.panel.operate_setting operation) (h.equipped.operate operation)
      (h.equipped.operate_controls operation) hfetching
  · rw [Session.step, hprobe, clickedBy, hclick]
    exact h.click hclick

theorem Clicked.answer (h : s.Clicked setting clicks) (place : Nat) (server : Server) :
    (s.answer place server).Clicked setting clicks := by
  have hanswered := s.answered place server
  generalize s.answer place server = t at hanswered
  cases hanswered with
  | nobody => exact h
  | silent at_place ended => exact h.of_offline rfl rfl rfl
  | message at_place ended => exact h.of_offline (s.panel.offline_receive _) rfl rfl
  | onward at_place next =>
    obtain ⟨publication, name, -, rfl⟩ := Job.eq_of_next next
    refine h.of_offline rfl rfl ?_
    rw [List.filter_append]
    exact List.append_nil _

theorem Clicked.poll (h : s.Clicked setting clicks) : s.poll.Clicked setting clicks := by
  rw [poll_eq]
  exact h.of_offline s.panel.offline_poll rfl rfl

theorem Clicked.step (h : s.Clicked setting clicks) (move : Move) :
    (s.step move).Clicked setting (clicks ++ s.clickedBy move) := by
  cases move with
  | operate operation => exact h.operate operation
  | answer place server =>
    rw [clickedBy, List.append_nil]
    exact h.answer place server
  | poll =>
    rw [clickedBy, List.append_nil]
    exact h.poll

/-! What the clicks and the replies of a session say together. -/

theorem probes_perm (hclicked : s.Clicked setting clicks) (hhistory : s.History replies) :
    (s.waiting.filter (·.job.isProbe) ++ (replies.map Reply.ticket).filter (·.job.isProbe)).Perm
      clicks := by
  have hperm := hhistory.perm.filter (·.job.isProbe)
  have hnone : (replies.filterMap Reply.onward?).filter (·.job.isProbe) = [] := by
    refine List.filter_eq_nil_iff.2 fun onward honward hprobe => ?_
    obtain ⟨r, -, hr⟩ := List.mem_filterMap.1 honward
    obtain ⟨-, publication, name, -, hregister⟩ := Reply.eq_of_onward hr
    rw [hregister] at hprobe
    contradiction
  rwa [List.filter_append, List.filter_append, hclicked.probes, hnone, List.append_nil] at hperm

theorem registers_perm (hclicked : s.Clicked setting clicks) (hhistory : s.History replies) :
    (s.waiting.filter (·.job.isRegister) ++
      ((s.applied ++ s.queued).filter (·.outcome?.isSome)).map Delivery.ticket).Perm
        (replies.filterMap Reply.onward?) := by
  have hperm := hhistory.perm.filter (·.job.isRegister)
  have hall : (replies.filterMap Reply.onward?).filter (·.job.isRegister) =
      replies.filterMap Reply.onward? := by
    refine List.filter_eq_self.2 fun onward honward => ?_
    obtain ⟨r, -, hr⟩ := List.mem_filterMap.1 honward
    obtain ⟨-, publication, name, -, hregister⟩ := Reply.eq_of_onward hr
    rw [hregister]
    rfl
  rw [List.filter_append, List.filter_append, hclicked.unregistered, hall, List.nil_append] at hperm
  rwa [hhistory.deliveries, Reply.delivered_registers]

theorem click_of_registration (hclicked : s.Clicked setting clicks) (hhistory : s.History replies)
    {post : Ticket} (hpost : post ∈ replies.filterMap Reply.onward?) :
    ∃ click ∈ clicks, click.number = post.number ∧ ∃ publication name,
      click.job = .probe publication ∧ post.job = .register publication name := by
  obtain ⟨r, hr, honward⟩ := List.mem_filterMap.1 hpost
  obtain ⟨hnumber, publication, name, hprobe, hregister⟩ := Reply.eq_of_onward honward
  refine ⟨r.ticket, ?_, hnumber.symm, publication, name, hprobe, hregister⟩
  refine (probes_perm hclicked hhistory).mem_iff.1 (List.mem_append_right _ ?_)
  exact List.mem_filter.2 ⟨List.mem_map_of_mem hr, by rw [hprobe]; rfl⟩

theorem outcome_eq_none (hclicked : s.Clicked setting clicks) (hhistory : s.History replies)
    (h : clicks = []) {d : Delivery} (hd : d ∈ s.applied ++ s.queued) : d.outcome? = none := by
  have hregisters : replies.filterMap Reply.onward? = [] := by
    refine List.eq_nil_iff_forall_not_mem.2 fun post hpost => ?_
    obtain ⟨click, hclick, -⟩ := click_of_registration hclicked hhistory hpost
    rw [h] at hclick
    contradiction
  have hperm := registers_perm hclicked hhistory
  rw [hregisters] at hperm
  have hnone := (List.append_eq_nil_iff.1 hperm.eq_nil).2
  simpa using List.filter_eq_nil_iff.1 (List.map_eq_nil_iff.1 hnone) d hd

theorem Clicked.click_controls (h : s.Clicked setting clicks) {operation : Operation}
    (hclick : operation.publishes = true) (hcontrols : s.panel.controls.isSome) :
    ∃ url, s.panel.displayedUrl = some url ∧
      let click : Ticket := ⟨s.begun.length, .probe ⟨Job.plainUrl url, setting.dashboard.header,
        setting.dashboard.endpoint, setting.page⟩⟩
      s.clickedBy (.operate operation) = [click] ∧
        s.step (.operate operation) = { s with
          begun := s.begun ++ [click.job]
          waiting := s.waiting ++ [click]
          calls := s.calls ++ [.head (Job.plainUrl url)] } := by
  obtain ⟨url, hurl⟩ := h.equipped.displayed hcontrols
  have hpublication : s.panel.publication? operation = some (s.panel.publication url) := by
    simp [Panel.publication?, hclick, hcontrols, hurl]
  have hpublish : s.panel.publish = [.start (.probe (s.panel.publication url))] := by
    obtain ⟨controls, hsome⟩ := Option.isSome_iff_exists.1 hcontrols
    simp [Panel.publish, hsome, hurl]
  rw [← h.same_setting]
  refine ⟨url, hurl, ?_, ?_⟩
  · rw [clickedBy, hpublication]
    rfl
  · rw [Session.step, s.panel.operate_publish hclick, hpublish]
    rfl

end

end Session

def PublishState.after (outcomes : List (Except BoardError Unit)) : PublishState :=
  (outcomes.getLast?.map ofOutcome).getD .idle

theorem PublishState.after_append (outcomes later : List (Except BoardError Unit)) :
    after (outcomes ++ later) = (later.getLast?.map ofOutcome).getD (after outcomes) := by
  rw [after, List.getLast?_append]
  cases later.getLast? <;> rfl

namespace Session

structure Handshakes (setting : Setting) (s : Session) (clicks : List Ticket)
    (replies : List Reply) : Prop where
  clicked : s.Clicked setting clicks
  history : s.History replies
  button : ∀ state ∈ s.panel.publishState, state = .after s.outcomes

section
variable {setting : Setting} {s : Session} {clicks : List Ticket} {replies : List Reply}

theorem publishState_answer (s : Session) (place : Nat) (server : Server) :
    (s.answer place server).panel.publishState = s.panel.publishState ∧
      (s.answer place server).outcomes = s.outcomes := by
  have hanswered := s.answered place server
  generalize s.answer place server = t at hanswered
  cases hanswered with
  | nobody | silent | onward => exact ⟨rfl, rfl⟩
  | message at_place ended => exact ⟨s.panel.publishState_receive _, rfl⟩

theorem Handshakes.button_step (h : s.Handshakes setting clicks replies) (move : Move) :
    ∀ state ∈ (s.step move).panel.publishState, state = .after (s.step move).outcomes := by
  cases move with
  | operate operation =>
    intro state hstate
    change state ∈ (s.panel.operate operation).1.publishState at hstate
    change state = .after s.outcomes
    obtain hsame | ⟨hbare, hnew⟩ := h.clicked.equipped.operate_publishState operation
    · rw [hsame] at hstate
      exact h.button state hstate
    · rw [hnew] at hstate
      cases hstate
      have hnone : s.outcomes = [] := List.filterMap_eq_nil_iff.2 fun d hd =>
        outcome_eq_none h.clicked h.history (h.clicked.bare hbare) (List.mem_append_left _ hd)
      rw [hnone]
      rfl
  | answer place server =>
    obtain ⟨hstate, houtcomes⟩ := s.publishState_answer place server
    simp only [Session.step, hstate, houtcomes]
    exact h.button
  | poll =>
    intro state hstate
    change state ∈ s.panel.poll.1.publishState at hstate
    rw [Panel.publishState_poll, h.history.inbox, published_notices] at hstate
    obtain ⟨before, hbefore, rfl⟩ := Option.map_eq_some_iff.1 hstate
    rw [h.button before hbefore]
    change _ = PublishState.after s.poll.outcomes
    rw [outcomes_poll, PublishState.after_append]

theorem Handshakes.step (h : s.Handshakes setting clicks replies) (move : Move) :
    (s.step move).Handshakes setting (clicks ++ s.clickedBy move) (replies ++ s.repliesTo move) :=
  ⟨h.clicked.step move, h.history.step move, h.button_step move⟩

theorem Handshakes.run (h : s.Handshakes setting clicks replies) (moves : List Move) :
    (s.run moves).Handshakes setting (clicks ++ s.clicks moves) (replies ++ s.replies moves) := by
  induction moves generalizing s clicks replies with
  | nil => simpa only [run_nil, Session.clicks, Session.replies, List.append_nil] using h
  | cons move moves ih =>
    simpa only [run_cons, Session.clicks, Session.replies, List.append_assoc] using ih (h.step move)

theorem Handshakes.start {c : Container} {sources : String} {handle : Option String}
    {made : Panel × List Effect} (hnew : Panel.new c sources handle setting = .ok made) :
    (start made).Handshakes setting [] [] := by
  have hbegin : ∀ {p : Panel} {effects : List Effect}, p.setting = setting → p.Equipped →
      p.inbox = [] → (∀ state ∈ p.publishState, state = .idle) → Fetching effects →
        (Session.start (p, effects)).Handshakes setting [] [] := by
    intro p effects hsetting hequipped hinbox hidle hfetching
    have hclicked : (⟨p, [], [], [], [], []⟩ : Session).Clicked setting [] :=
      ⟨hsetting, hequipped, rfl, rfl, rfl, fun _ => rfl, by simp⟩
    have hhistory : (⟨p, [], [], [], [], []⟩ : Session).History [] := ⟨rfl, .nil, hinbox, rfl⟩
    exact ⟨hclicked.fetch rfl hequipped id hfetching,
      hhistory.perform rfl (posts_of_fetching hfetching), hidle⟩
  obtain ⟨line, ⟨-, rfl⟩ | ⟨-, rfl⟩⟩ := Panel.new_ok hnew
  · have hsetUp := Panel.fetching_setUp (Panel.bare c sources handle setting)
    refine hbegin rfl (Panel.equipped_setUp _) rfl ?_ hsetUp
    rintro state ⟨⟩
    rfl
  · refine hbegin rfl ⟨rfl, fun hsome => ?_⟩ rfl ?_ (fetching_of_remarks ⟨[line], rfl⟩)
    · contradiction
    · rintro state ⟨⟩

end

end Session

end GraphBoard
