import GraphBoard.Url.Host

namespace GraphBoard.Url

open GraphBoard.Text

inductive Path where
  | flat (text : List Char)
  | rooted (segments : List (List Char))
  deriving DecidableEq, Repr

structure Address where
  scheme : List Char
  user : List Char
  /-- A password is never empty. -/
  password : Option (List Char)
  host : Option Host
  /-- The port, unless it is the one the scheme implies. -/
  port : Option Nat
  path : Path
  query : Option (List Char)
  fragment : Option (List Char)
  deriving DecidableEq, Repr

def serverPort? (scheme : List Char) : Option Nat :=
  [("http".toList, 80), ("https".toList, 443), ("ws".toList, 80), ("wss".toList, 443),
    ("ftp".toList, 21)].lookup scheme

def fileScheme : List Char := "file".toList

def isServerScheme (scheme : List Char) : Bool := (serverPort? scheme).isSome

def isSpecialScheme (scheme : List Char) : Bool := isServerScheme scheme || scheme == fileScheme

def Path.toChars : Path → List Char
  | .flat text => text
  | .rooted segments => segments.flatMap ('/' :: ·)

def Address.credentials (a : Address) : List Char :=
  match a.password with
  | some password => a.user ++ ':' :: password ++ ['@']
  | none => if a.user.isEmpty then [] else a.user ++ ['@']

/-- What stands between scheme and path. Without a host, a path that opens with an empty segment
is kept from looking like one. -/
def Address.authorityChars (a : Address) : List Char :=
  match a.host, a.path with
  | some host, _ =>
    "//".toList ++ a.credentials ++ host.toChars ++
      (match a.port with
      | some port => ':' :: Nat.toDigits 10 port
      | none => [])
  | none, .rooted ([] :: _ :: _) => "/.".toList
  | none, _ => []

def Address.resourceChars (a : Address) : List Char :=
  a.scheme ++ ':' :: a.authorityChars ++ a.path.toChars ++
    (match a.query with
    | some query => '?' :: query
    | none => [])

def Address.toChars (a : Address) : List Char :=
  a.resourceChars ++
    (match a.fragment with
    | some fragment => '#' :: fragment
    | none => [])

instance : ToString Address := ⟨fun a => String.ofList a.toChars⟩

def Address.target (a : Address) : String :=
  String.ofList (a.path.toChars ++
    (match a.query with
    | some query => '?' :: query
    | none => []))

end GraphBoard.Url
