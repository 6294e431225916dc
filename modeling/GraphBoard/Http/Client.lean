import GraphBoard.Error
import GraphBoard.Http.Body
import GraphBoard.Url.Parse

namespace GraphBoard.Http

open GraphBoard.Text

structure Client where
  base : Option Url.Address
  deriving Repr

def refuse (url reason : String) : BoardError := .invalidUrl (url ++ ": " ++ reason)

def Client.open? : Option String → Except BoardError Client
  | none => .ok ⟨none⟩
  | some text =>
    match Url.parse text with
    | .ok address => .ok ⟨some address⟩
    | .error e => .error (refuse text e.message)

def Client.resolve (client : Client) (url : String) : Except BoardError Url.Address :=
  match Url.parse url with
  | .ok address => .ok address
  | .error .relativeWithoutBase =>
    match client.base with
    | none => .error (refuse url "relative URL without base_url")
    | some base => (Url.join base url).mapError fun e => refuse url e.message
  | .error e => .error (refuse url e.message)

inductive Method where
  | get
  | head
  | post
  deriving DecidableEq, Repr

def Method.name : Method → String
  | .get => "GET"
  | .head => "HEAD"
  | .post => "POST"

structure Request where
  method : Method
  target : String
  contentType : Option String
  body : String
  deriving DecidableEq, Repr

structure Response where
  status : Nat
  headers : List (String × String)
  body : Body

def keepInForm (c : Char) : Bool :=
  c.isAlphanum || c == '*' || c == '-' || c == '.' || c == '_'

def formText (s : String) : List Char :=
  s.toList.flatMap fun c => if c == ' ' then ['+'] else Percent.encodeChar keepInForm c

def formBody (form : List (String × String)) : String :=
  String.ofList (['&'].intercalate
    (form.map fun (key, value) => formText key ++ '=' :: formText value))

def Request.of (method : Method) (address : Url.Address) (form : List (String × String)) :
    Request :=
  match method with
  | .post =>
    ⟨.post, address.target, some "application/x-www-form-urlencoded", formBody form⟩
  | _ => ⟨method, address.target, none, ""⟩

/-- An answer that reports no failure of its own: every status outside the 400s and 500s. -/
def Response.check (response : Response) : Except BoardError Response :=
  if 400 ≤ response.status ∧ response.status < 600 then
    .error (.http (.status response.status))
  else .ok response

/-- What a client sends for a call, and what the call gives back when `serve` answers it. An answer
that sends the client elsewhere is handed back as it came: going there is left to `serve`, which
then answers for the place that it ends at. -/
def Client.call (client : Client) (serve : Request → Response) (method : Method) (url : String)
    (form : List (String × String)) : Option Request × Except BoardError Response :=
  match client.resolve url with
  | .error e => (none, .error e)
  | .ok address =>
    if address.scheme == "http".toList || address.scheme == "https".toList then
      let request := Request.of method address form
      (some request, (serve request).check)
    else (none, .error (.http .scheme))

end GraphBoard.Http
