import GraphBoard.Text.Percent

namespace GraphBoard.Link

open GraphBoard.Text

def beforeQuery (cs : List Char) : List Char := cs.takeWhile (· != '?')

def query? (cs : List Char) : Option (List Char) :=
  match cs.dropWhile (· != '?') with
  | [] => none
  | _ :: q => some q

/-- The pairs of a query: `&` and `;` both separate. -/
def pairs (query : List Char) : List (List Char) := query.splitOnP fun c => c == '&' || c == ';'

def isPairOf (name pair : List Char) : Bool :=
  (Percent.encode Percent.isUnreserved name ++ ['=']).isPrefixOf pair

/-- The address without the pairs of one parameter; without pairs left, without the mark. -/
def removeParameterChars (cs name : List Char) : List Char :=
  match query? cs with
  | none => cs
  | some q =>
    match (pairs q).filter fun pair => !isPairOf name pair with
    | [] => beforeQuery cs
    | kept => beforeQuery cs ++ '?' :: ['&'].intercalate kept

def separator (cs : List Char) : List Char :=
  if !cs.contains '?' then ['?']
  else if cs.getLast? == some '?' || cs.getLast? == some '&' then []
  else ['&']

def addParameterChars (cs name value : List Char) : List Char :=
  cs ++ separator cs ++ name ++ '=' :: value

def removeParameter (url name : String) : String :=
  String.ofList (removeParameterChars url.toList name.toList)

def addParameter (url name value : String) : String :=
  String.ofList (addParameterChars url.toList name.toList value.toList)

end GraphBoard.Link
