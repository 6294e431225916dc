import GraphBoard.Url.Address

namespace GraphBoard.Url

open GraphBoard.Text

def keepInFragment (c : Char) : Bool := !isControl c && !([' ', '"', '<', '>', '\x60'].contains c)

def keepInPath (c : Char) : Bool := keepInFragment c && !(['#', '?', '{', '}'].contains c)

def keepInCredentials (c : Char) : Bool :=
  keepInPath c && !(['/', ':', ';', '=', '@', '[', '\\', ']', '^', '|'].contains c)

def keepInQuery (special : Bool) (c : Char) : Bool :=
  !isControl c && !([' ', '"', '#', '<', '>'].contains c) && !(special && c == '\x27')

def isSingleDot (segment : List Char) : Bool :=
  [".".toList, "%2e".toList].contains (segment.map Char.toLower)

def isDoubleDot (segment : List Char) : Bool :=
  ["..".toList, ".%2e".toList, "%2e.".toList, "%2e%2e".toList].contains
    (segment.map Char.toLower)

def isDriveLetter : List Char → Bool
  | [c, d] => c.isAlpha && (d == ':' || d == '|')
  | _ => false

def isNormalDriveLetter : List Char → Bool
  | [c, ':'] => c.isAlpha
  | _ => false

/-- One directory up, where `up` holds the segments from the last to the first. A drive is never
left. -/
def shorten (up : List (List Char)) : List (List Char) :=
  match up with
  | [] => []
  | last :: above => if isDriveLetter last then up else above

/-- A segment as it is stored. The first segment of a file path may be a drive letter. -/
def storeSegment (file : Bool) (up : List (List Char)) (segment : List Char) : List Char :=
  if file && up.isEmpty && isDriveLetter segment then segment.take 1 ++ [':']
  else Percent.encode keepInPath segment

/-- The segments read below `up`, both from the last to the first. Only the last segment of a path
can be empty for want of a name after a slash. -/
def descend (file : Bool) (up : List (List Char)) : List (List Char) → List (List Char)
  | [] => up
  | [segment] =>
    if isDoubleDot segment then [] :: shorten up
    else if isSingleDot segment then [] :: up
    else storeSegment file up segment :: up
  | segment :: rest =>
    if isDoubleDot segment then descend file (shorten up) rest
    else if isSingleDot segment then descend file up rest
    else descend file (storeSegment file up segment :: up) rest

def isSlash (special : Bool) (c : Char) : Bool := c == '/' || (special && c == '\\')

def readPath (scheme : List Char) (base : List (List Char)) (cs : List Char) :
    List (List Char) :=
  let file := scheme == fileScheme
  let path := (descend file base.reverse (cs.splitOnP (isSlash (isSpecialScheme scheme)))).reverse
  if file then
    match path.dropWhile List.isEmpty with
    | [] => [[]]
    | kept => kept
  else path

end GraphBoard.Url
