import GraphBoard.Config.Basic
import GraphBoard.Link.Escape
import GraphBoard.Panel.Controls
import GraphBoard.Series.Feed

/-!
# Panels

A panel shows one graph out of several sources, over a time range that can be chosen. What it shows
is up to date or not by what it last asked for, never by what came back. Index, range and address of
the last load are kept apart, since different operations write them.
-/
namespace GraphBoard

inductive ViewerKind where
  | chart
  /-- By someone outside of the board, who is only told what to show. -/
  | outside
  deriving DecidableEq, Repr

inductive Viewer where
  | chart (feed : Feed)
  | outside (url : String)

namespace Viewer

def url : Viewer → String
  | chart feed => feed.url
  | outside url => url

def isLoading : Viewer → Bool
  | chart feed => feed.isLoading
  | outside _ => false

end Viewer

inductive Shown where
  | nothing
  | picture (url : String) (picture : Picture)
  | error (text : String)
  deriving DecidableEq, Repr

inductive Content where
  /-- A place for pictures, with the number of those asked for and not yet applied. -/
  | picture (shown : Shown) (pending : Nat)
  | plot (viewer : Option Viewer)

structure Handle where
  id : String
  isOpen : Bool
  deriving DecidableEq, Repr

def Handle.glyph (handle : Handle) : String := if handle.isOpen then "▾" else "▸"

structure Load where
  index : Nat
  range : TimeRange
  url : String
  deriving DecidableEq, Repr

structure Setting where
  dashboard : Dashboard
  page : String
  viewer : ViewerKind
  deriving DecidableEq, Repr

structure Panel where
  id : String
  title : String
  visible : Bool
  controls : Option Controls
  content : Content
  sources : List String
  active : Nat
  active_lt : active < sources.length
  lastIndex : Option Nat
  range : TimeRange
  lastRange : Option TimeRange
  currentUrl : Option String
  expanded : Bool
  initialized : Bool
  handle : Option Handle
  setting : Setting
  inbox : List Notice

namespace Panel

def source (p : Panel) : String := p.sources.get ⟨p.active, p.active_lt⟩

def urlOf (source : String) (range : TimeRange) : String :=
  Link.addParameter (Link.escape source) "timeframe" range.name

def url (p : Panel) : String := urlOf p.source p.range

/-- What the panel last asked for, if all of it is on record. -/
def loaded (p : Panel) : Option Load := do
  return ⟨← p.lastIndex, ← p.lastRange, ← p.currentUrl⟩

def shouldReload (p : Panel) : Bool :=
  p.lastRange != some p.range || p.lastIndex != some p.active

def viewer? (p : Panel) : Option Viewer :=
  match p.content with
  | .plot viewer => viewer
  | .picture _ _ => none

def hasPlot (p : Panel) : Bool :=
  match p.content with
  | .plot _ => true
  | .picture _ _ => false

def shown (p : Panel) : Shown :=
  match p.content with
  | .picture shown _ => shown
  | .plot _ => .nothing

def isLoading (p : Panel) : Bool :=
  match p.content with
  | .picture _ pending => 0 < pending
  | .plot viewer => viewer.any Viewer.isLoading

/-- The address that is published: the viewer's, or else that of the last load. -/
def displayedUrl (p : Panel) : Option String := (p.viewer?.map Viewer.url).or p.currentUrl

end Panel

end GraphBoard
