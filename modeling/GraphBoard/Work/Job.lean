import GraphBoard.Http.Server
import GraphBoard.Link.Query
import GraphBoard.Log.Line
import GraphBoard.Series.Basic

namespace GraphBoard

open GraphBoard.Http

inductive Call where
  | get (url : String)
  | head (url : String)
  | post (url : String) (form : Form)
  | attach (container url : String)
  | refresh (url : String)
  deriving DecidableEq, Repr

structure Publication where
  probe : String
  header : String
  endpoint : String
  page : String
  deriving DecidableEq, Repr

inductive Job where
  | image (url : String)
  | series (url : String)
  | probe (publication : Publication)
  | register (publication : Publication) (name : String)
  deriving DecidableEq, Repr

inductive Notice where
  | image (url : String) (outcome : Except BoardError Picture)
  | published (outcome : Except BoardError Unit)

inductive Message where
  | notice (notice : Notice)
  | series (url : String) (outcome : Except BoardError (List Series))

namespace Job

/-- The address of the numbers that a picture at `url` is drawn from. -/
def seriesUrl (url : String) : String := Link.addParameter url "format" "json"

/-- The address that stands for a graph, whatever form it was asked for in. -/
def plainUrl (url : String) : String := Link.removeParameter url "format"

def form (publication : Publication) (name : String) : Form :=
  [("url", plainUrl name), ("target", publication.page)]

def call : Job → Call
  | image url => .get url
  | series url => .get (seriesUrl url)
  | probe publication => .head publication.probe
  | register publication name => .post publication.endpoint (form publication name)

inductive Progress where
  | done (lines : List Log.Line) (message : Option Message)
  | next (job : Job)

def failed (text : String) (e : BoardError) (message : Option Message) : Progress :=
  .done [⟨.warn, text ++ e.message⟩] message

def pictureOf (answer : Except BoardError Body) : Except BoardError Picture := do
  match (← answer).picture? with
  | some picture => return picture
  | none => throw .image

def seriesOf (answer : Except BoardError Body) : Except BoardError (List Series) := do
  match (← answer).bytes?.bind Series.parse? with
  | some found => return found
  | none => throw .json

def advance (server : Server) : Job → Progress
  | image url =>
    let outcome := pictureOf (server.get url)
    match outcome with
    | .ok _ => .done [] (some (.notice (.image url outcome)))
    | .error e =>
      failed ("Image load for " ++ url ++ " failed: ") e (some (.notice (.image url outcome)))
  | series url =>
    let outcome := seriesOf (server.get (seriesUrl url))
    match outcome with
    | .ok _ => .done [] (some (.series url outcome))
    | .error e =>
      failed ("Series request for " ++ url ++ " failed: ") e (some (.series url outcome))
  | probe publication =>
    match server.head publication.probe with
    | .error e => failed ("HEAD " ++ publication.probe ++ " failed, not publishing: ") e none
    | .ok headers =>
      match headers.text? publication.header with
      | some name => .next (register publication name)
      | none =>
        .done [⟨.info, "No " ++ publication.header ++ " header for " ++ publication.probe ++
          ", not publishing"⟩] none
  | register publication name =>
    let outcome := server.post publication.endpoint (form publication name)
    match outcome with
    | .ok _ =>
      .done [⟨.info, "Published " ++ publication.probe ++ " to dashboard"⟩]
        (some (.notice (.published outcome)))
    | .error e =>
      failed ("Dashboard POST for " ++ publication.probe ++ " failed: ") e
        (some (.notice (.published outcome)))

def callsLeft : Job → Nat
  | probe _ => 1
  | _ => 0

theorem callsLeft_lt {server : Server} {job next : Job} (h : job.advance server = .next next) :
    next.callsLeft < job.callsLeft := by
  cases job with
  | image _ =>
    simp only [advance, failed] at h
    split at h <;> contradiction
  | series _ =>
    simp only [advance, failed] at h
    split at h <;> contradiction
  | register _ _ =>
    simp only [advance, failed] at h
    split at h <;> contradiction
  | probe _ =>
    simp only [advance, failed] at h
    split at h
    · contradiction
    · split at h
      · injection h with h
        subst h
        exact Nat.zero_lt_one
      · contradiction

end Job

inductive Effect where
  | tell (line : Log.Line)
  | ask (call : Call)
  /-- The first call of a job is made at once and the rest left to the background. -/
  | start (job : Job)
  deriving DecidableEq, Repr

namespace Effect

def info (text : String) : Effect := .tell ⟨.info, text⟩
def warn (text : String) : Effect := .tell ⟨.warn, text⟩
def debug (text : String) : Effect := .tell ⟨.debug, text⟩

def call? : Effect → Option Call
  | tell _ => none
  | ask call => some call
  | start job => some job.call

def line? : Effect → Option Log.Line
  | tell line => some line
  | _ => none

end Effect

end GraphBoard
