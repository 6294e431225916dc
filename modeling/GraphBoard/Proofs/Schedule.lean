import GraphBoard.Proofs.Independence
import GraphBoard.Work.Backlog
import Mathlib.Data.List.Perm.Basic

set_option autoImplicit false

/-!
# The backlog keeps to sessions

A backlog decides by its line and its gates which job is answered next, where a session leaves it
open. A panel at work with a backlog goes through nothing that a session does not: for each of its
runs there is one of a session with the same operations that ends in the same panel after the same
calls.

Sessions are what theorems about runs are stated for, and the backlog is what runs. `desk_run` is
what carries these theorems over: what holds of the panel and of the calls at the end of every
session holds of a panel whose jobs a backlog works off, whatever its gates hold back.
-/
namespace GraphBoard

open GraphBoard.Http

structure Desk where
  panel : Panel
  backlog : Backlog
  calls : List Call

inductive Turn where
  | operate (operation : Operation)
  | poll
  | work (server : Server)
  | hold (key : String)
  | release (key : String)

namespace Desk

def perform (d : Desk) (done : Panel × List Effect) : Desk where
  panel := done.1
  backlog := d.backlog.startAll 0 done.2
  calls := d.calls ++ done.2.filterMap Effect.call?

def start (gates : Backlog) (made : Panel × List Effect) : Desk := perform ⟨made.1, gates, []⟩ made

def work (d : Desk) (server : Server) : Desk where
  panel := (d.backlog.run server).messages.foldl (fun p message => p.receive message.2) d.panel
  backlog := (d.backlog.run server).backlog
  calls := d.calls ++ (d.backlog.run server).calls

def step (d : Desk) : Turn → Desk
  | .operate operation => d.perform (d.panel.operate operation)
  | .poll => d.perform d.panel.poll
  | .work server => d.work server
  | .hold key => { d with backlog := d.backlog.hold key }
  | .release key => { d with backlog := (d.backlog.release key).1 }

def run (d : Desk) (turns : List Turn) : Desk := turns.foldl step d

end Desk

def Turn.operation? : Turn → Option Operation
  | operate operation => some operation
  | poll => none
  | work _ => none
  | hold _ => none
  | release _ => none

namespace Backlog

def jobs (b : Backlog) : List Job := (b.ready ++ b.parked).map Task.job

theorem jobs_take (b : Backlog) (call : Call) : (b.take call).1.jobs = b.jobs := by
  unfold take
  split <;> rfl

theorem jobs_start (b : Backlog) (owner : Nat) (job : Job) :
    (b.start owner job).jobs.Perm (b.jobs ++ [job]) := by
  rw [← b.jobs_take job.call]
  simp only [start, jobs, List.map_append, List.map_cons, List.map_nil, List.append_assoc]
  exact List.perm_append_comm.append_left _

theorem jobs_startAll (b : Backlog) (owner : Nat) (effects : List Effect) :
    (b.startAll owner effects).jobs.Perm (b.jobs ++ effects.filterMap Effect.job?) := by
  induction effects generalizing b with
  | nil => rw [List.filterMap_nil, List.append_nil]; exact .refl _
  | cons effect effects ih =>
    cases effect with
    | tell line => exact ih b
    | ask call => exact ih b
    | start job =>
      refine (ih (b.start owner job)).trans ?_
      refine ((b.jobs_start owner job).append_right _).trans ?_
      rw [List.append_assoc]
      exact .refl _

theorem jobs_release (b : Backlog) (key : String) : (b.release key).1.jobs.Perm b.jobs := by
  unfold release
  split
  · rename_i i _
    simp only [jobs, List.partition_eq_filter_filter, List.append_assoc]
    refine List.Perm.map _ ?_
    exact (List.filter_append_perm _ b.parked).append_left _
  · exact .refl _

end Backlog
namespace Session

/-- The session is where a run of the backlog is that began at `d` and has `rest` still in line. -/
structure Keeps (s : Session) (d : Desk) (past : Backlog.Run) (rest : List Task) : Prop where
  panel : s.panel = past.messages.foldl (fun p message => p.receive message.2) d.panel
  calls : s.calls = d.calls ++ past.calls
  jobs : (s.waiting.map Ticket.job).Perm (rest.map Task.job ++ past.backlog.jobs)

variable {s : Session} {d : Desk} {past : Backlog.Run} {task : Task} {rest : List Task}

theorem Keeps.ticket (h : s.Keeps d past (task :: rest)) :
    ∃ (place : Nat) (ticket : Ticket),
      s.waiting[place]? = some ticket ∧ ticket.job = task.job := by
  have hmem : task.job ∈ s.waiting.map Ticket.job :=
    h.jobs.mem_iff.2 (List.mem_append_left _ List.mem_cons_self)
  obtain ⟨ticket, hticket, hjob⟩ := List.mem_map.1 hmem
  obtain ⟨place, hplace⟩ := List.mem_iff_getElem?.1 hticket
  exact ⟨place, ticket, hplace, hjob⟩

theorem Keeps.others (h : s.Keeps d past (task :: rest)) {place : Nat} {ticket : Ticket}
    (at_place : s.waiting[place]? = some ticket) (hjob : ticket.job = task.job) :
    ((s.waiting.eraseIdx place).map Ticket.job).Perm (rest.map Task.job ++ past.backlog.jobs) := by
  obtain ⟨hplace, hticket⟩ := List.getElem?_eq_some_iff.mp at_place
  have hperm := (List.getElem_cons_eraseIdx_perm hplace).map Ticket.job
  rw [hticket, List.map_cons, hjob] at hperm
  exact (hperm.trans h.jobs).cons_inv

theorem Keeps.done (h : s.Keeps d past (task :: rest)) {server : Server} {lines : List Log.Line}
    {message : Option Message} (ended : task.job.advance server = .done lines message) :
    ∃ place, (s.answer place server).Keeps d
      { past with
        lines := past.lines ++ lines
        messages := past.messages ++ message.toList.map (task.owner, ·) } rest := by
  obtain ⟨place, ticket, at_place, hjob⟩ := h.ticket
  have hothers := h.others at_place hjob
  refine ⟨place, ?_⟩
  simp only [answer, at_place, settle, hjob, ended]
  cases message with
  | none =>
    simp only [Option.toList_none, List.map_nil, List.append_nil]
    exact ⟨h.panel, h.calls, hothers⟩
  | some message =>
    refine ⟨?_, h.calls, hothers⟩
    simp only [Option.toList_some, List.map_cons, List.map_nil, List.foldl_append, List.foldl_cons,
      List.foldl_nil, h.panel]

theorem Keeps.next (h : s.Keeps d past (task :: rest)) {server : Server} {job : Job}
    (next : task.job.advance server = .next job) :
    ∃ place, (s.answer place server).Keeps d
      { past with
        backlog := (past.backlog.take job.call).1
        calls := past.calls ++ [job.call] }
      (⟨task.owner, job, (past.backlog.take job.call).2⟩ :: rest) := by
  obtain ⟨place, ticket, at_place, hjob⟩ := h.ticket
  have hothers := h.others at_place hjob
  refine ⟨place, ?_⟩
  simp only [answer, at_place, settle, hjob, next]
  refine ⟨h.panel, ?_, ?_⟩
  · simp only [h.calls, List.append_assoc]
  · obtain ⟨hplace, -⟩ := List.getElem?_eq_some_iff.mp at_place
    have hset := (List.set_perm_cons_eraseIdx hplace ⟨ticket.number, job⟩).map Ticket.job
    simp only [Backlog.jobs_take]
    exact hset.trans (hothers.cons job)

theorem Keeps.work (server : Server) (h : s.Keeps d past (task :: rest)) :
    ∃ moves, moves.filterMap Move.operation? = [] ∧
      (s.run moves).Keeps d (Backlog.work server past task) rest := by
  -- A job goes on for as many calls as it can; each one is one more answer.
  fun_induction Backlog.work server past task generalizing s with
  | case1 past task hgo lines message ended =>
    obtain ⟨place, hanswer⟩ := h.done ended
    exact ⟨[.answer place server], rfl, hanswer⟩
  | case2 past task hgo job next backlog gate htake ih =>
    obtain ⟨place, hanswer⟩ := h.next next
    rw [htake] at hanswer
    obtain ⟨moves, hmoves, hkeeps⟩ := ih hanswer
    exact ⟨.answer place server :: moves, hmoves, hkeeps⟩
  | case3 past task hwait =>
    refine ⟨[], rfl, h.panel, h.calls, h.jobs.trans ?_⟩
    simp only [Backlog.jobs, List.map_append, List.map_cons, List.map_nil]
    rw [List.perm_iff_count]
    intro job
    simp only [List.count_append, List.count_cons, List.count_nil]
    omega

theorem Keeps.workAll (server : Server) (h : s.Keeps d past rest) :
    ∃ moves, moves.filterMap Move.operation? = [] ∧
      (s.run moves).Keeps d (rest.foldl (Backlog.work server) past) [] := by
  induction rest generalizing s past with
  | nil => exact ⟨[], rfl, h⟩
  | cons task rest ih =>
    obtain ⟨moves, hmoves, hkeeps⟩ := h.work server
    obtain ⟨more, hmore, hlast⟩ := ih hkeeps
    refine ⟨moves ++ more, ?_, ?_⟩
    · rw [List.filterMap_append, hmoves, hmore, List.append_nil]
    · rw [run_append]
      exact hlast

structure Fits (s : Session) (d : Desk) : Prop where
  panel : s.panel = d.panel
  calls : s.calls = d.calls
  jobs : (s.waiting.map Ticket.job).Perm d.backlog.jobs

theorem Fits.perform (h : s.Fits d) (done : Panel × List Effect) :
    (s.perform done).Fits (d.perform done) := by
  refine ⟨rfl, ?_, ?_⟩
  · simp only [Session.perform, Desk.perform, h.calls]
  · simp only [Session.perform, Desk.perform, List.map_append, map_job_tickets]
    exact (h.jobs.append_right _).trans (d.backlog.jobs_startAll 0 done.2).symm

theorem Fits.work (h : s.Fits d) (server : Server) :
    ∃ moves, moves.filterMap Move.operation? = [] ∧ (s.run moves).Fits (d.work server) := by
  have hkeeps : s.Keeps d ⟨{ d.backlog with ready := [] }, [], [], []⟩ d.backlog.ready := by
    refine ⟨h.panel, h.calls.trans (List.append_nil _).symm, h.jobs.trans ?_⟩
    simp only [Backlog.jobs, List.map_append, List.nil_append]
    exact .refl _
  obtain ⟨moves, hmoves, hlast⟩ := hkeeps.workAll server
  exact ⟨moves, hmoves, hlast.panel, hlast.calls, hlast.jobs⟩

theorem Fits.step (h : s.Fits d) (turn : Turn) :
    ∃ moves, moves.filterMap Move.operation? = turn.operation?.toList ∧
      (s.run moves).Fits (d.step turn) := by
  cases turn with
  | operate operation =>
    refine ⟨[.operate operation], rfl, ?_⟩
    change (s.perform (s.panel.operate operation)).Fits (d.perform (d.panel.operate operation))
    rw [← h.panel]
    exact h.perform _
  | poll =>
    refine ⟨[.poll], rfl, ?_⟩
    change s.poll.Fits (d.perform d.panel.poll)
    rw [← h.panel]
    have hdone := h.perform s.panel.poll
    exact ⟨hdone.panel, hdone.calls, hdone.jobs⟩
  | work server => exact h.work server
  | hold key => exact ⟨[], rfl, h.panel, h.calls, h.jobs⟩
  | release key =>
    exact ⟨[], rfl, h.panel, h.calls, h.jobs.trans (d.backlog.jobs_release key).symm⟩

theorem Fits.run (h : s.Fits d) (turns : List Turn) :
    ∃ moves, moves.filterMap Move.operation? = turns.filterMap Turn.operation? ∧
      (s.run moves).Fits (d.run turns) := by
  induction turns generalizing s d with
  | nil => exact ⟨[], rfl, h⟩
  | cons turn turns ih =>
    obtain ⟨moves, hmoves, hfits⟩ := h.step turn
    obtain ⟨more, hmore, hlast⟩ := ih hfits
    refine ⟨moves ++ more, ?_, ?_⟩
    · rw [List.filterMap_append, hmoves, hmore, List.filterMap_cons]
      cases turn.operation? <;> rfl
    · rw [run_append]
      exact hlast

end Session

/-- Every run of a panel at its backlog is a run of a session with the same operations. -/
theorem desk_run (gates : List Gate) (made : Panel × List Effect) (turns : List Turn) :
    let d := (Desk.start ⟨gates, [], []⟩ made).run turns
    ∃ moves, moves.filterMap Move.operation? = turns.filterMap Turn.operation? ∧
      ((Session.start made).run moves).panel = d.panel ∧
      ((Session.start made).run moves).calls = d.calls := by
  intro d
  have hempty : (⟨made.1, [], [], [], [], []⟩ : Session).Fits ⟨made.1, ⟨gates, [], []⟩, []⟩ :=
    ⟨rfl, rfl, .refl _⟩
  obtain ⟨moves, hmoves, hfits⟩ := (hempty.perform made).run turns
  exact ⟨moves, hmoves, hfits.panel, hfits.calls⟩

end GraphBoard
