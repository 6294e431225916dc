namespace GraphBoard

inductive HttpFailure where
  /-- The server answered with a status of the 400s or 500s. -/
  | status (code : Nat)
  | scheme
  deriving DecidableEq, Repr

inductive FileFailure where
  | notFound
  | isDirectory
  | notDirectory
  | notUtf8
  deriving DecidableEq, Repr

inductive BoardError where
  | invalidArgument (reason : String)
  | invalidUrl (reason : String)
  | http (failure : HttpFailure)
  | file (failure : FileFailure)
  | json
  | yaml
  | image
  /-- A configuration that is well formed but makes no board. -/
  | config (reason : String)
  deriving DecidableEq, Repr

def HttpFailure.message : HttpFailure → String
  | .status code => "status " ++ Nat.repr code
  | .scheme => "not an http address"

def FileFailure.message : FileFailure → String
  | .notFound => "no such file"
  | .isDirectory => "is a directory"
  | .notDirectory => "not a directory"
  | .notUtf8 => "not UTF-8"

def BoardError.message : BoardError → String
  | .invalidArgument reason => "Invalid argument: " ++ reason
  | .invalidUrl reason => "Invalid URL: " ++ reason
  | .http failure => "HTTP error: " ++ failure.message
  | .file failure => "IO error: " ++ failure.message
  | .json => "JSON error: not a list of series"
  | .yaml => "YAML error: not a configuration"
  | .image => "Image error: not a picture"
  | .config reason => "Config error: " ++ reason

end GraphBoard
