import GraphBoard.Text.Percent

/-!
# Escaping the path of a graph address

A graph source is an address as a person writes it, absolute or relative. Escaping rewrites the
segments of its path and nothing else: the scheme and authority in front and the query behind are
kept to the letter, and no slash is added or lost.
-/
namespace GraphBoard.Link

open GraphBoard.Text

/-- An address in three: scheme and authority (or nothing), path, and the query with its mark. -/
structure Parts where
  origin : List Char
  path : List Char
  query : List Char
  deriving DecidableEq, Repr

def isScheme : List Char → Bool
  | [] => false
  | c :: cs => c.isAlpha && cs.all fun c => c.isAlphanum || c == '+' || c == '-' || c == '.'

def cutAuthority : List Char → Option (List Char × List Char)
  | [] => none
  | ':' :: '/' :: '/' :: rest => some ([], rest)
  | c :: rest => (cutAuthority rest).map fun (before, after) => (c :: before, after)

/-- The length of the scheme and authority that open a text, zero when it opens with none. -/
def originLength (cs : List Char) : Nat :=
  match cutAuthority cs with
  | some (scheme, after) =>
    if isScheme scheme then scheme.length + 3 + (after.takeWhile (· != '/')).length else 0
  | none => 0

def Parts.ofChars (cs : List Char) : Parts :=
  let head := cs.takeWhile (· != '?')
  let n := originLength head
  { origin := head.take n, path := head.drop n, query := cs.dropWhile (· != '?') }

def Parts.toChars (p : Parts) : List Char := p.origin ++ p.path ++ p.query

/-- A path with every segment percent-encoded, so that only its slashes separate segments. -/
def escapePath (cs : List Char) : List Char :=
  ['/'].intercalate ((cs.splitOn '/').map (Percent.encode Percent.isUnreserved))

def escapeChars (cs : List Char) : List Char :=
  let p := Parts.ofChars cs
  { p with path := escapePath p.path }.toChars

def escape (url : String) : String := String.ofList (escapeChars url.toList)

theorem Parts.toChars_ofChars (cs : List Char) : (Parts.ofChars cs).toChars = cs := by
  simp [Parts.ofChars, Parts.toChars, List.takeWhile_append_dropWhile]

end GraphBoard.Link
