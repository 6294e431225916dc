import GraphBoard.Proofs.Jobs
import GraphBoard.Proofs.Offline

set_option autoImplicit false

namespace GraphBoard

open GraphBoard.Http

theorem FeedStatus.ofOutcome_ne_loading (outcome : Except BoardError (List Series)) :
    ofOutcome outcome ≠ .loading := by
  cases outcome <;> exact nofun

inductive FeedMove where
  | setUrl (url : String)
  | request
  | answer (place : Nat) (server : Server)
  | poll

def requestedUrls (url : String) : List FeedMove → List String
  | [] => []
  | .setUrl next :: moves => requestedUrls next moves
  | .request :: moves => url :: requestedUrls url moves
  | .answer _ _ :: moves => requestedUrls url moves
  | .poll :: moves => requestedUrls url moves

structure FeedAnswer where
  ticket : Ticket
  server : Server
  url : String
  outcome : Except BoardError (List Series)

structure FeedSession where
  feed : Feed
  begun : List Job
  waiting : List Ticket
  queued : List FeedAnswer
  applied : List FeedAnswer
  /-- What has been applied since the last request. -/
  recent : List FeedAnswer
  calls : List Call

namespace FeedSession

def perform (s : FeedSession) (done : Feed × List Effect) : FeedSession :=
  { s with
    feed := done.1
    begun := s.begun ++ done.2.filterMap Effect.job?
    waiting := s.waiting ++ tickets s.begun.length (done.2.filterMap Effect.job?)
    calls := s.calls ++ done.2.filterMap Effect.call? }

def start (url : String) : FeedSession :=
  perform ⟨(Feed.new url).1, [], [], [], [], [], []⟩ (Feed.new url)

def settle (s : FeedSession) (place : Nat) (ticket : Ticket) (server : Server) : FeedSession :=
  match ticket.job.advance server with
  | .done _ (some (.series url outcome)) =>
    { s with
      feed := s.feed.receive url outcome
      waiting := s.waiting.eraseIdx place
      queued := s.queued ++ [⟨ticket, server, url, outcome⟩] }
  -- A feed begins no other jobs, so nothing that waits ends like this (`Accounts.settle_eq`).
  | _ => s

def step (s : FeedSession) : FeedMove → FeedSession
  | .setUrl url => { s with feed := s.feed.setUrl url }
  | .request => { s.perform s.feed.request with recent := [] }
  | .answer place server =>
    match s.waiting[place]? with
    | some ticket => s.settle place ticket server
    | none => s
  | .poll =>
    { s.perform s.feed.poll with
      queued := []
      applied := s.applied ++ s.queued
      recent := s.recent ++ s.queued }

def run (s : FeedSession) (moves : List FeedMove) : FeedSession := moves.foldl step s

structure Accounts (s : FeedSession) (urls : List String) : Prop where
  begun : s.begun = urls.map .series
  calls : s.calls = urls.map (.get <| Job.seriesUrl ·)
  /-- Whatever was requested waits or has come in, and only once. -/
  perm : (s.waiting ++ (s.applied ++ s.queued).map FeedAnswer.ticket).Perm (tickets 0 s.begun)
  inbox : s.feed.inbox = s.queued.map fun a => (a.url, a.outcome)
  own : ∀ a ∈ s.applied ++ s.queued, a.ticket.job = .series a.url ∧
    a.outcome = Job.seriesOf (a.server.get (Job.seriesUrl a.url))
  pending : s.feed.pending = s.waiting.length + s.queued.length
  status : s.feed.status = (s.recent.getLast?.map (.ofOutcome ·.outcome)).getD .loading
  recent : s.recent <:+ s.applied
  /-- While nothing has been applied since the last request, that one is still awaited. -/
  awaited : s.recent = [] → 0 < s.feed.pending

variable {s : FeedSession} {urls : List String}

theorem Accounts.series_of_mem (h : s.Accounts urls) {ticket : Ticket}
    (hticket : ticket ∈ s.waiting) : ∃ url, ticket.job = .series url := by
  have hissued := h.perm.mem_iff.1 (List.mem_append_left _ hticket)
  have hjob := List.mem_map_of_mem (f := Ticket.job) hissued
  rw [map_job_tickets, h.begun] at hjob
  obtain ⟨url, -, hurl⟩ := List.mem_map.1 hjob
  exact ⟨url, hurl.symm⟩

theorem Accounts.setUrl (h : s.Accounts urls) (url : String) :
    (s.step (.setUrl url)).Accounts urls :=
  ⟨h.begun, h.calls, h.perm, h.inbox, h.own, h.pending, h.status, h.recent, h.awaited⟩

theorem Accounts.request (h : s.Accounts urls) :
    (s.step .request).Accounts (urls ++ [s.feed.url]) where
  begun := by
    change s.begun ++ [.series s.feed.url] = _
    rw [h.begun, List.map_append]
    rfl
  calls := by
    change s.calls ++ [.get (Job.seriesUrl s.feed.url)] = _
    rw [h.calls, List.map_append]
    rfl
  perm := by
    change (s.waiting ++ tickets _ [.series s.feed.url] ++ _).Perm (tickets 0 (s.begun ++ [_]))
    rw [tickets_append, Nat.zero_add]
    exact issued_perm h.perm _
  inbox := h.inbox
  own := h.own
  pending := by
    change s.feed.pending + 1 = (s.waiting ++ tickets _ [.series s.feed.url]).length + _
    rw [h.pending, List.length_append]
    exact Nat.add_right_comm _ _ _
  status := rfl
  recent := List.nil_suffix
  awaited _ := Nat.succ_pos _

theorem Accounts.settle_eq (h : s.Accounts urls) {place : Nat} {ticket : Ticket}
    (at_place : s.waiting[place]? = some ticket) (server : Server) : ∃ url outcome,
      ticket.job = .series url ∧ outcome = Job.seriesOf (server.get (Job.seriesUrl url)) ∧
      s.settle place ticket server = { s with
        feed := s.feed.receive url outcome
        waiting := s.waiting.eraseIdx place
        queued := s.queued ++ [⟨ticket, server, url, outcome⟩] } := by
  obtain ⟨url, hjob⟩ := h.series_of_mem (List.mem_of_getElem? at_place)
  obtain ⟨lines, hdone⟩ := Job.advance_series server url
  refine ⟨url, _, hjob, rfl, ?_⟩
  simp only [FeedSession.settle, hjob, hdone]

theorem Accounts.answer (h : s.Accounts urls) (place : Nat) (server : Server) :
    (s.step (.answer place server)).Accounts urls := by
  cases at_place : s.waiting[place]? with
  | none => simpa only [FeedSession.step, at_place] using h
  | some ticket =>
    obtain ⟨url, outcome, hjob, houtcome, hsettle⟩ := h.settle_eq at_place server
    have hperm := perm_cons_eraseIdx at_place
    simp only [FeedSession.step, at_place, hsettle]
    refine ⟨h.begun, h.calls, ?_, ?_, ?_, ?_, h.status, h.recent, h.awaited⟩
    · have hanswered := answered_perm hperm h.perm []
      rw [List.nil_append, List.append_nil] at hanswered
      rw [← List.append_assoc, List.map_append]
      exact hanswered
    · rw [List.map_append, ← h.inbox]
      rfl
    · intro a ha
      rw [← List.append_assoc] at ha
      obtain ha | ha := List.mem_append.1 ha
      · exact h.own a ha
      · cases List.mem_singleton.1 ha
        exact ⟨hjob, houtcome⟩
    · have hlength := hperm.length_eq
      have hpending := h.pending
      simp only [Feed.receive, List.length_cons, List.length_append, List.length_nil] at *
      omega

theorem Accounts.poll (h : s.Accounts urls) : (s.step .poll).Accounts urls := by
  have hremarks : Remarks s.feed.poll.2 := Feed.remarks_applyAll _ _
  have hlength : s.feed.inbox.length = s.queued.length := by rw [h.inbox, List.length_map]
  have hpending := h.pending
  simp only [FeedSession.step, FeedSession.perform, hremarks.jobs, hremarks.calls, tickets,
    List.append_nil, s.feed.poll_eq]
  refine ⟨h.begun, h.calls, ?_, rfl, ?_, ?_, ?_, ?_, fun hnone => ?_⟩
  · rw [List.append_nil]
    exact h.perm
  · rw [List.append_nil]
    exact h.own
  · simp only [List.length_nil]
    omega
  · simp only [h.inbox, h.status, List.getLast?_map, Option.map_map, List.getLast?_append,
      Option.map_or, Option.getD_or]
    rfl
  · obtain ⟨old, hold⟩ := h.recent
    exact ⟨old, by rw [← List.append_assoc, hold]⟩
  · obtain ⟨hrecent, hqueued⟩ := List.append_eq_nil_iff.1 hnone
    have hawaited := h.awaited hrecent
    simp only [hqueued, List.length_nil] at *
    omega

theorem accounts_start (url : String) : (start url).Accounts [url] where
  begun := rfl
  calls := rfl
  perm := .refl _
  inbox := rfl
  own := nofun
  pending := rfl
  status := rfl
  recent := List.nil_suffix
  awaited _ := Nat.one_pos

theorem url_answer (s : FeedSession) (place : Nat) (server : Server) :
    (s.step (.answer place server)).feed.url = s.feed.url := by
  simp only [step]
  split
  · simp only [settle]
    split <;> rfl
  · rfl

theorem Accounts.run (h : s.Accounts urls) (moves : List FeedMove) :
    (s.run moves).Accounts (urls ++ requestedUrls s.feed.url moves) := by
  induction moves generalizing s urls with
  | nil =>
    rw [requestedUrls, List.append_nil]
    exact h
  | cons move moves ih =>
    cases move with
    | setUrl url => exact ih (h.setUrl url)
    | request =>
      have hrun := ih h.request
      rwa [List.append_assoc] at hrun
    | answer place server =>
      have hrun := ih (h.answer place server)
      rwa [url_answer] at hrun
    | poll =>
      have hrun := ih h.poll
      rwa [show (s.step .poll).feed.url = s.feed.url from s.feed.url_poll] at hrun

theorem Accounts.total (h : s.Accounts urls) :
    s.feed.pending + s.applied.length = urls.length := by
  have htotal := h.perm.length_eq
  have hpending := h.pending
  rw [length_tickets, h.begun] at htotal
  simp only [List.length_append, List.length_map] at htotal
  omega

theorem Accounts.isLoading_iff (h : s.Accounts urls) : s.feed.isLoading = false ↔
    ∀ ticket ∈ tickets 0 s.begun, ticket ∈ s.applied.map FeedAnswer.ticket := by
  have hloading : s.feed.isLoading = false ↔ s.feed.pending = 0 := by
    simp only [Feed.isLoading, decide_eq_false_iff_not]
    omega
  have hperm : (s.waiting ++ s.queued.map FeedAnswer.ticket ++
      s.applied.map FeedAnswer.ticket).Perm (tickets 0 s.begun) := by
    refine List.Perm.trans ?_ h.perm
    rw [List.append_assoc, List.map_append]
    exact List.perm_append_comm.append_left _
  rw [hloading, ← waiting_eq_nil_iff hperm (nodup_tickets 0 s.begun), ← List.length_eq_zero_iff,
    List.length_append, List.length_map, h.pending]

theorem Accounts.loading (h : s.Accounts urls) (hstatus : s.feed.status = .loading) :
    s.feed.isLoading = true := by
  -- No answer leaves a feed loading, so none has been applied since the last request.
  have hnone : s.recent = [] := by
    cases hlast : s.recent.getLast? with
    | none => exact List.getLast?_eq_none_iff.1 hlast
    | some a =>
      have hready := h.status
      rw [hstatus, hlast] at hready
      exact absurd hready.symm (FeedStatus.ofOutcome_ne_loading a.outcome)
  exact decide_eq_true (h.awaited hnone)

end FeedSession

/-- At any time in any run, every request of a feed is exactly one of waiting, queued and applied.
The feed counts those that are not applied, so it never counts below zero and stops waiting just
when all are applied. It says what it applied last, if that was after its last request, and that it
is loading otherwise: then there is a request to wait for. -/
theorem feed_accounts_run (url : String) (moves : List FeedMove) :
    let s := (FeedSession.start url).run moves
    let urls := url :: requestedUrls url moves
    let issued := tickets 0 (urls.map .series)
    s.calls = urls.map (.get <| Job.seriesUrl ·) ∧
      issued.Nodup ∧
      (s.waiting ++ (s.applied ++ s.queued).map FeedAnswer.ticket).Perm issued ∧
      s.feed.pending = s.waiting.length + s.queued.length ∧
      s.feed.pending + s.applied.length = urls.length ∧
      s.feed.inbox = s.queued.map (fun a => (a.url, a.outcome)) ∧
      s.feed.inbox.length ≤ s.feed.pending ∧
      (s.feed.isLoading = false ↔ ∀ ticket ∈ issued, ticket ∈ s.applied.map FeedAnswer.ticket) ∧
      s.feed.status = (s.recent.getLast?.map (.ofOutcome ·.outcome)).getD .loading ∧
      s.recent <:+ s.applied ∧
      (s.feed.status = .loading → s.feed.isLoading = true) ∧
      (∀ a ∈ s.applied ++ s.queued, a.ticket.job = .series a.url ∧
        a.outcome = Job.seriesOf (a.server.get (Job.seriesUrl a.url))) ∧
      ∀ place ticket server, s.waiting[place]? = some ticket → ∃ a : FeedAnswer,
        a.ticket = ticket ∧ a.server = server ∧
          (s.step (.answer place server)).waiting = s.waiting.eraseIdx place ∧
          (s.step (.answer place server)).queued = s.queued ++ [a] := by
  intro s urls issued
  have h : s.Accounts urls := (FeedSession.accounts_start url).run moves
  have hissued : tickets 0 s.begun = issued := by rw [h.begun]
  refine ⟨h.calls, nodup_tickets 0 _, hissued ▸ h.perm, h.pending, h.total, h.inbox, ?_,
    hissued ▸ h.isLoading_iff, h.status, h.recent, h.loading, h.own, ?_⟩
  · rw [h.inbox, List.length_map, h.pending]
    exact Nat.le_add_left _ _
  · intro place ticket server at_place
    obtain ⟨asked, outcome, -, -, hsettle⟩ := h.settle_eq at_place server
    refine ⟨⟨ticket, server, asked, outcome⟩, rfl, rfl, ?_⟩
    simp only [FeedSession.step, at_place, hsettle, and_self]

end GraphBoard
