import GraphBoard.Work.Job

/-!
# Feeds

A feed keeps a chart supplied with series. Every request counts until its answer is applied, and
the answer that is applied last is shown, whichever request it belongs to.
-/
namespace GraphBoard

inductive FeedStatus where
  | loading
  | ready (series : List Series)
  | failed (text : String)

structure Feed where
  url : String
  status : FeedStatus
  pending : Nat
  inbox : List (String × Except BoardError (List Series))

namespace Feed

def isLoading (feed : Feed) : Bool := 0 < feed.pending

def request (feed : Feed) : Feed × List Effect :=
  ({ feed with status := .loading, pending := feed.pending + 1 },
    [.start (.series feed.url), .debug ("Requesting series from " ++ feed.url)])

def new (url : String) : Feed × List Effect := request ⟨url, .loading, 0, []⟩

def setUrl (feed : Feed) (url : String) : Feed := { feed with url }

def receive (feed : Feed) (url : String) (outcome : Except BoardError (List Series)) : Feed :=
  { feed with inbox := feed.inbox ++ [(url, outcome)] }

def apply (feed : Feed) (url : String) :
    Except BoardError (List Series) → Feed × List Effect
  | .ok series =>
    ({ feed with status := .ready series, pending := feed.pending - 1 },
      [.debug ("Series ready for " ++ url ++ " (" ++ Nat.repr series.length ++ " targets)")])
  | .error e =>
    ({ feed with status := .failed e.message, pending := feed.pending - 1 },
      [.debug ("Series failed for " ++ url ++ ": " ++ e.message)])

def applyAll (feed : Feed) : List (String × Except BoardError (List Series)) → Feed × List Effect
  | [] => (feed, [])
  | (url, outcome) :: rest =>
    let (feed, first) := feed.apply url outcome
    let (feed, later) := feed.applyAll rest
    (feed, first ++ later)

def hasNews (feed : Feed) : Bool := !feed.inbox.isEmpty

def poll (feed : Feed) : Feed × List Effect := { feed with inbox := [] }.applyAll feed.inbox

end Feed

end GraphBoard
