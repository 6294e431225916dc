import GraphBoard.Panel.Operations
import Mathlib.Data.List.Nodup
import Mathlib.Data.List.Perm.Basic

set_option autoImplicit false

/-!
# Sessions of a panel

A session is a panel with the jobs it has begun. Operations, answers and polls follow each other in
any order: any job that waits may be the next to be answered, by any server, so nothing is assumed
of what comes back or of when it comes. What was begun, delivered and called is kept on record for
statements about runs; no step looks at the record.
-/
namespace GraphBoard

open GraphBoard.Http

inductive Operation where
  | openUp
  | close
  | click
  | selectRange (range : TimeRange)
  | selectSource (index : Nat)
  | publish
  | event (event : Event)
  deriving DecidableEq, Repr

def Panel.operate (p : Panel) : Operation → Panel × List Effect
  | .openUp => p.openUp
  | .close => (p.close, [])
  | .click => p.click
  | .selectRange range => p.selectRange range
  | .selectSource index => p.selectSource index
  | .publish => (p, p.publish)
  | .event event => p.act event

inductive Move where
  | operate (operation : Operation)
  | answer (place : Nat) (server : Server)
  | poll

/-- A job that waits, with its number among all jobs begun. -/
structure Ticket where
  number : Nat
  job : Job
  deriving DecidableEq, Repr

def tickets : Nat → List Job → List Ticket
  | _, [] => []
  | n, job :: rest => ⟨n, job⟩ :: tickets (n + 1) rest

theorem tickets_append (n : Nat) (jobs more : List Job) :
    tickets n (jobs ++ more) = tickets n jobs ++ tickets (n + jobs.length) more := by
  induction jobs generalizing n with
  | nil => rfl
  | cons job jobs ih =>
    have hlength : n + (job :: jobs).length = n + 1 + jobs.length := by
      rw [List.length_cons]
      omega
    rw [hlength]
    exact congrArg (⟨n, job⟩ :: ·) (ih (n + 1))

theorem map_job_tickets (n : Nat) (jobs : List Job) : (tickets n jobs).map Ticket.job = jobs := by
  induction jobs generalizing n with
  | nil => rfl
  | cons job jobs ih => exact congrArg (job :: ·) (ih (n + 1))

theorem length_tickets (n : Nat) (jobs : List Job) : (tickets n jobs).length = jobs.length := by
  have hlength := congrArg List.length (map_job_tickets n jobs)
  rwa [List.length_map] at hlength

theorem map_number_tickets (n : Nat) (jobs : List Job) :
    (tickets n jobs).map Ticket.number = List.range' n jobs.length := by
  induction jobs generalizing n with
  | nil => rfl
  | cons job jobs ih => exact congrArg (n :: ·) (ih (n + 1))

theorem nodup_tickets (n : Nat) (jobs : List Job) : (tickets n jobs).Nodup := by
  have hnumbers : ((tickets n jobs).map Ticket.number).Nodup := by
    rw [map_number_tickets]
    exact List.nodup_range' 1
  exact hnumbers.of_map Ticket.number

section
variable {waiting rest answered owed : List Ticket} {ticket : Ticket}

theorem perm_cons_eraseIdx {place : Nat} (h : waiting[place]? = some ticket) :
    waiting.Perm (ticket :: waiting.eraseIdx place) := by
  obtain ⟨hplace, rfl⟩ := List.getElem?_eq_some_iff.mp h
  exact (List.getElem_cons_eraseIdx_perm hplace).symm

theorem issued_perm (h : (waiting ++ answered).Perm owed) (issued : List Ticket) :
    (waiting ++ issued ++ answered).Perm (owed ++ issued) := by
  rw [List.append_assoc]
  refine (List.perm_append_comm.append_left _).trans ?_
  rw [← List.append_assoc]
  exact h.append_right issued

/-- A ticket that is answered no longer waits; the one that its job goes on with waits instead. -/
theorem answered_perm (hwaiting : waiting.Perm (ticket :: rest))
    (h : (waiting ++ answered).Perm owed) (onward : List Ticket) :
    (onward ++ rest ++ (answered ++ [ticket])).Perm (owed ++ onward) := by
  rw [List.perm_iff_count] at *
  intro t
  have hw := hwaiting t
  have ho := h t
  simp only [List.count_append, List.count_cons, List.count_nil] at *
  omega

theorem waiting_eq_nil_iff (h : (waiting ++ answered).Perm owed) (hnodup : owed.Nodup) :
    waiting = [] ↔ ∀ ticket ∈ owed, ticket ∈ answered := by
  constructor
  · rintro rfl ticket hticket
    exact h.mem_iff.2 hticket
  · intro hall
    refine List.eq_nil_iff_forall_not_mem.2 fun ticket hwaiting => ?_
    have hdisjoint := (List.nodup_append'.1 (h.nodup_iff.2 hnodup)).2.2
    exact hdisjoint hwaiting (hall ticket (h.mem_iff.1 (List.mem_append_left _ hwaiting)))

end

/-- A message with the ticket of the job it is from, as it was when a server answered it last. -/
structure Delivery where
  ticket : Ticket
  server : Server
  message : Message

structure Session where
  panel : Panel
  begun : List Job
  waiting : List Ticket
  queued : List Delivery
  applied : List Delivery
  calls : List Call

def Effect.job? : Effect → Option Job
  | tell _ => none
  | ask _ => none
  | start job => some job

namespace Session

def perform (s : Session) (done : Panel × List Effect) : Session :=
  { s with
    panel := done.1
    begun := s.begun ++ done.2.filterMap Effect.job?
    waiting := s.waiting ++ tickets s.begun.length (done.2.filterMap Effect.job?)
    calls := s.calls ++ done.2.filterMap Effect.call? }

def start (made : Panel × List Effect) : Session :=
  perform ⟨made.1, [], [], [], [], []⟩ made

def settle (s : Session) (place : Nat) (ticket : Ticket) (server : Server) : Session :=
  match ticket.job.advance server with
  | .done _ none => { s with waiting := s.waiting.eraseIdx place }
  | .done _ (some message) =>
    { s with
      panel := s.panel.receive message
      waiting := s.waiting.eraseIdx place
      queued := s.queued ++ [⟨ticket, server, message⟩] }
  | .next job =>
    { s with
      waiting := s.waiting.set place ⟨ticket.number, job⟩
      calls := s.calls ++ [job.call] }

def answer (s : Session) (place : Nat) (server : Server) : Session :=
  match s.waiting[place]? with
  | some ticket => s.settle place ticket server
  | none => s

def poll (s : Session) : Session :=
  { s.perform s.panel.poll with queued := [], applied := s.applied ++ s.queued }

def step (s : Session) : Move → Session
  | .operate operation => s.perform (s.panel.operate operation)
  | .answer place server => s.answer place server
  | .poll => s.poll

def run (s : Session) (moves : List Move) : Session := moves.foldl step s

@[simp] theorem run_nil (s : Session) : s.run [] = s := rfl

@[simp] theorem run_cons (s : Session) (move : Move) (moves : List Move) :
    s.run (move :: moves) = (s.step move).run moves := rfl

theorem run_append (s : Session) (moves more : List Move) :
    s.run (moves ++ more) = (s.run moves).run more := List.foldl_append

theorem run_keeps {I : Session → Prop} (hstep : ∀ s move, I s → I (s.step move))
    {s : Session} (hs : I s) (moves : List Move) : I (s.run moves) := by
  induction moves generalizing s with
  | nil => exact hs
  | cons move moves ih => exact ih (hstep s move hs)

inductive Answered (s : Session) (place : Nat) (server : Server) : Session → Prop where
  | nobody : Answered s place server s
  | silent {ticket : Ticket} {lines : List Log.Line} (at_place : s.waiting[place]? = some ticket)
      (ended : ticket.job.advance server = .done lines none) :
      Answered s place server { s with waiting := s.waiting.eraseIdx place }
  | message {ticket : Ticket} {lines : List Log.Line} {message : Message}
      (at_place : s.waiting[place]? = some ticket)
      (ended : ticket.job.advance server = .done lines (some message)) :
      Answered s place server
        { s with
          panel := s.panel.receive message
          waiting := s.waiting.eraseIdx place
          queued := s.queued ++ [⟨ticket, server, message⟩] }
  | onward {ticket : Ticket} {job : Job} (at_place : s.waiting[place]? = some ticket)
      (next : ticket.job.advance server = .next job) :
      Answered s place server
        { s with
          waiting := s.waiting.set place ⟨ticket.number, job⟩
          calls := s.calls ++ [job.call] }

theorem answered (s : Session) (place : Nat) (server : Server) :
    Answered s place server (s.answer place server) := by
  cases hticket : s.waiting[place]? with
  | none =>
    simp only [answer, hticket]
    exact .nobody
  | some ticket =>
    simp only [answer, hticket, settle]
    split
    · exact .silent hticket ‹_›
    · exact .message hticket ‹_›
    · exact .onward hticket ‹_›

end Session

end GraphBoard
