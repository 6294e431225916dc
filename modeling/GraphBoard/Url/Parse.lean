import GraphBoard.Url.Path

namespace GraphBoard.Url

open GraphBoard.Text

/-- The text that counts: no controls or spaces at the ends, no tabs or line breaks anywhere. -/
def significant (cs : List Char) : List Char :=
  let outer (c : Char) : Bool := c.toNat ≤ 0x20
  ((cs.dropWhile outer).reverse.dropWhile outer).reverse.filter fun c =>
    !(['\t', '\n', '\r'].contains c)

def cutScheme (cs : List Char) : Option (List Char × List Char) :=
  let name := cs.takeWhile fun c => c.isAlphanum || c == '+' || c == '-' || c == '.'
  match name, cs.drop name.length with
  | first :: _, ':' :: rest => if first.isAlpha then some (name.map Char.toLower, rest) else none
  | _, _ => none

def readTail (special : Bool) (cs : List Char) : Option (List Char) × Option (List Char) :=
  let fragment? (cs : List Char) : Option (List Char) :=
    match cs with
    | '#' :: rest => some (Percent.encode keepInFragment rest)
    | _ => none
  match cs with
  | '?' :: rest =>
    let query := rest.takeWhile (· != '#')
    (some (Percent.encode (keepInQuery special) query), fragment? (rest.drop query.length))
  | _ => (none, fragment? cs)

def isPathEnd (c : Char) : Bool := c == '?' || c == '#'

def Address.withReference (a : Address) (base : List (List Char)) (cs : List Char) : Address :=
  let path := cs.takeWhile (!isPathEnd ·)
  let (query, fragment) := readTail (isSpecialScheme a.scheme) (cs.drop path.length)
  { a with path := .rooted (readPath a.scheme base path), query, fragment }

/-- Name and password, when the text before the host holds an at sign. The last one counts. -/
def readCredentials (authority : List Char) : List Char × Option (List Char) × List Char :=
  match authority.reverse.span (· != '@') with
  | (_, []) => ([], none, authority)
  | (host, _ :: userinfo) =>
    let userinfo := userinfo.reverse
    let user := userinfo.takeWhile (· != ':')
    let encode := Percent.encode keepInCredentials
    match userinfo.drop user.length with
    | _ :: password@(_ :: _) => (encode user, some (encode password), host.reverse)
    | _ => (encode user, none, host.reverse)

def readPort (scheme digits : List Char) : Except Failure (Option Nat) :=
  if digits.isEmpty then .ok none
  else
    match (if digits.all Char.isDigit then numeral? 10 digits else none) with
    | some port =>
      if port < 65536 then .ok (if serverPort? scheme == some port then none else some port)
      else .error .invalidPort
    | none => .error .invalidPort

/-- The length of the host in a text of host and port: a colon between brackets does not end
it. -/
def hostLength (inBrackets : Bool) : List Char → Nat
  | [] => 0
  | '[' :: rest => hostLength true rest + 1
  | ']' :: rest => hostLength false rest + 1
  | ':' :: rest => if inBrackets then hostLength true rest + 1 else 0
  | _ :: rest => hostLength inBrackets rest + 1

/-- The path after an authority: a scheme with servers always has one. -/
def Address.withPathStart (a : Address) (cs : List Char) : Address :=
  match cs with
  | '/' :: rest => a.withReference [] rest
  | c :: rest =>
    if isSpecialScheme a.scheme then a.withReference [] (if c == '\\' then rest else cs)
    else if isPathEnd c then
      let (query, fragment) := readTail false cs
      { a with path := .rooted [], query, fragment }
    else a.withReference [] cs
  | [] => if isSpecialScheme a.scheme then a.withReference [] cs else { a with path := .rooted [] }

def Address.ofScheme (scheme : List Char) : Address :=
  { scheme, user := [], password := none, host := none, port := none, path := .rooted [],
    query := none, fragment := none }

def readAuthority (scheme cs : List Char) : Except Failure Address := do
  let special := isSpecialScheme scheme
  let authority := cs.takeWhile fun c => !(isSlash special c || isPathEnd c)
  let rest := cs.drop authority.length
  let (user, password, server) := readCredentials authority
  let hasCredentials := !user.isEmpty || password.isSome
  let hostText := server.take (hostLength false server)
  if authority == ['@'] && !rest.isEmpty then throw .emptyHost
  if special && hostText.isEmpty then throw .emptyHost
  let host ← if special then Host.ofChars? hostText else Host.ofOpenChars? hostText
  let portText := server.drop hostText.length
  if hostText.isEmpty && (!portText.isEmpty || hasCredentials) then throw .emptyHost
  let digits := (portText.drop 1).takeWhile (· != '\\')
  let port ← readPort scheme digits
  let rest := portText.drop (digits.length + 1) ++ rest
  return { Address.ofScheme scheme with user, password, host := some host, port }.withPathStart rest

def readFileHost (cs : List Char) : Except Failure Host :=
  if cs.isEmpty then .ok (.domain [])
  else (Host.ofChars? cs).map fun host =>
    if host == .domain "localhost".toList then .domain [] else host

def dropSlash (cs : List Char) : List Char :=
  match cs with
  | c :: rest => if isSlash true c then rest else cs
  | [] => []

def opensWithDrive (cs : List Char) : Bool :=
  isDriveLetter (cs.take 2) &&
    match cs.drop 2 with
    | [] => true
    | c :: _ => isSlash true c || isPathEnd c

def Path.segments : Path → List (List Char)
  | .flat _ => []
  | .rooted segments => segments

def readFile (base : Option Address) (cs : List Char) : Except Failure Address :=
  let blank := { Address.ofScheme fileScheme with host := some (.domain []) }
  match cs with
  | a :: b :: rest =>
    if isSlash true a && isSlash true b then
      let name := rest.takeWhile fun c => !(isSlash true c || isPathEnd c)
      if isDriveLetter name then .ok (blank.withReference [] rest)
      else (readFileHost name).map fun host =>
        { blank with host := some host }.withReference [] (dropSlash (rest.drop name.length))
    else below blank base cs
  | _ => below blank base cs
where
  below (blank : Address) (base : Option Address) (cs : List Char) : Except Failure Address :=
    match base, cs with
    | none, _ => .ok (blank.withReference [] (dropSlash cs))
    | some base, [] => .ok { base with fragment := none }
    | some base, c :: rest =>
      if isSlash true c then
        match opensWithDrive rest, base.path.segments with
        | true, _ => .ok (blank.withReference [] rest)
        | false, drive :: _ =>
          if isNormalDriveLetter drive then .ok (blank.withReference [drive] rest)
          else .ok ({ blank with host := base.host }.withReference [] rest)
        | false, [] => .ok ({ blank with host := base.host }.withReference [] rest)
      else if isPathEnd c then
        let (query, fragment) := readTail true cs
        .ok { base with query := if c == '?' then query else base.query, fragment }
      else if opensWithDrive cs then .ok (blank.withReference [] cs)
      else
        .ok ({ base with fragment := none }.withReference
          (shorten base.path.segments.reverse).reverse cs)

def parse (url : String) : Except Failure Address :=
  match cutScheme (significant url.toList) with
  | none => .error .relativeWithoutBase
  | some (scheme, rest) =>
    if scheme == fileScheme then readFile none rest
    else if isServerScheme scheme then readAuthority scheme (rest.dropWhile (isSlash true))
    else
      match rest with
      | '/' :: '/' :: rest => readAuthority scheme rest
      | '/' :: rest => .ok ((Address.ofScheme scheme).withReference [] rest)
      | _ =>
        let text := rest.takeWhile (!isPathEnd ·)
        let (query, fragment) := readTail false (rest.drop text.length)
        .ok { Address.ofScheme scheme with
          path := .flat (Percent.encode (!isControl ·) text), query, fragment }

def readRelative (base : Address) (cs : List Char) : Except Failure Address :=
  match cs with
  | [] => .ok { base with fragment := none }
  | '#' :: _ => .ok { base with fragment := (readTail (isSpecialScheme base.scheme) cs).2 }
  | '?' :: _ =>
    let (query, fragment) := readTail (isSpecialScheme base.scheme) cs
    .ok { base with query, fragment }
  | c :: rest =>
    if isSlash true c then
      match rest with
      | d :: after =>
        if isSlash true d then
          readAuthority base.scheme
            (if c == '/' && d == '/' then after else after.dropWhile (isSlash true))
        else .ok (base.withReference [] rest)
      | [] => .ok (base.withReference [] rest)
    else .ok (base.withReference base.path.segments.dropLast cs)

def join (base : Address) (reference : String) : Except Failure Address :=
  let cs := significant reference.toList
  match base.path, cs with
  | _, '#' :: _ => .ok { base with fragment := (readTail (isSpecialScheme base.scheme) cs).2 }
  | .flat _, _ => .error .relativeToFlatBase
  | .rooted _, _ =>
    if base.scheme == fileScheme then readFile (some base) cs else readRelative base cs

end GraphBoard.Url
