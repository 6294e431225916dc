import GraphBoard.Work.Job

/-!
# The backlog

Jobs that wait to be gone on with, in the order in which they became ready. The answer to a call can
be held back by a gate: the oldest gate of the call that no other call has taken. A job that comes
to a closed gate leaves the line and joins its end again when the gate opens.
-/
namespace GraphBoard

open GraphBoard.Http

structure Gate where
  key : String
  taken : Bool
  isOpen : Bool
  deriving DecidableEq, Repr

structure Task where
  owner : Nat
  job : Job
  gate : Option Nat
  deriving DecidableEq, Repr

structure Backlog where
  gates : List Gate
  ready : List Task
  parked : List Task
  deriving DecidableEq, Repr

def Call.key : Call → String
  | .get url => "GET " ++ url
  | .head url => "HEAD " ++ url
  | .post url _ => "POST " ++ url
  | .attach _ url => "CREATE " ++ url
  | .refresh url => "REQUEST " ++ url

namespace Backlog

def empty : Backlog := ⟨[], [], []⟩

def hold (b : Backlog) (key : String) : Backlog :=
  { b with gates := b.gates ++ [⟨key, false, false⟩] }

/-- The backlog after a call, and the gate that the call takes. -/
def take (b : Backlog) (call : Call) : Backlog × Option Nat :=
  match b.gates.findIdx? fun gate => gate.key == call.key && !gate.taken with
  | some i => ({ b with gates := b.gates.modify i fun gate => { gate with taken := true } }, some i)
  | none => (b, none)

def canGoOn (b : Backlog) (task : Task) : Bool :=
  match task.gate with
  | some i => (b.gates[i]?.map Gate.isOpen).getD true
  | none => true

def release (b : Backlog) (key : String) : Backlog × Bool :=
  match b.gates.findIdx? fun gate => gate.key == key && !gate.isOpen with
  | some i =>
    let b := { b with gates := b.gates.modify i fun gate => { gate with isOpen := true } }
    let (freed, parked) := b.parked.partition b.canGoOn
    ({ b with ready := b.ready ++ freed, parked }, true)
  | none => (b, false)

def start (b : Backlog) (owner : Nat) (job : Job) : Backlog :=
  let (b, gate) := b.take job.call
  { b with ready := b.ready ++ [⟨owner, job, gate⟩] }

def startAll (b : Backlog) (owner : Nat) (effects : List Effect) : Backlog :=
  effects.foldl (fun b effect =>
    match effect with
    | .start job => b.start owner job
    | _ => b) b

structure Run where
  backlog : Backlog
  calls : List Call
  lines : List Log.Line
  messages : List (Nat × Message)

def work (server : Server) (run : Run) (task : Task) : Run :=
  if run.backlog.canGoOn task then
    match _h : task.job.advance server with
    | .done lines message =>
      { run with
        lines := run.lines ++ lines
        messages := run.messages ++ message.toList.map (task.owner, ·) }
    | .next job =>
      let (backlog, gate) := run.backlog.take job.call
      work server { run with backlog, calls := run.calls ++ [job.call] } ⟨task.owner, job, gate⟩
  else
    { run with backlog := { run.backlog with parked := run.backlog.parked ++ [task] } }
termination_by task.job.callsLeft
decreasing_by exact Job.callsLeft_lt _h

def run (server : Server) (b : Backlog) : Run :=
  b.ready.foldl (work server) ⟨{ b with ready := [] }, [], [], []⟩

end Backlog

end GraphBoard
