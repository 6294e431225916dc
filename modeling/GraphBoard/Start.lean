import GraphBoard.Config.Read
import GraphBoard.Files
import GraphBoard.Log.Folder

namespace GraphBoard

def standardConfigFile : String := "graphfetcher.yml"

def traceFile : String := "trace.log"

/-- The files after the start, and the configuration the program runs with. -/
def start (files : Files (List UInt8)) (logFolder : String) (argument : Option String) :
    Files (List UInt8) × Except BoardError Config :=
  match files.makeFolders [] (Files.pathOf logFolder) with
  | (files, .error failure) => (files, .error (.file failure))
  | (files, .ok place) =>
    match files.write (place ++ [traceFile]) [] with
    | .error failure => (files, .error (.file failure))
    | .ok files => (files, Config.ofFile (files.read (argument.getD standardConfigFile)))

end GraphBoard
