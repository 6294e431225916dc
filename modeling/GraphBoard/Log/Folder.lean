import GraphBoard.Files
import GraphBoard.Log.Line

namespace GraphBoard.Log

def folderName (setting : Option String) : String := setting.getD "./logs"

abbrev LogFiles := Files (List String)

/-- The empty files of a log in a folder. The first that cannot be written ends it. -/
def openFiles (place : List String) : List Level → LogFiles → LogFiles × Except FileFailure Unit
  | [], files => (files, .ok ())
  | level :: rest, files =>
    match files.write (place ++ [level.fileName]) [] with
    | .ok files => openFiles place rest files
    | .error failure => (files, .error failure)

def openLog (files : LogFiles) (path : String) : LogFiles × Except FileFailure (List String) :=
  match files.makeFolders [] (Files.pathOf path) with
  | (files, .error failure) => (files, .error failure)
  | (files, .ok place) =>
    let (files, opened) := openFiles place Level.all files
    (files, opened.map fun _ => place)

def textsAt (files : LogFiles) (place : List String) (level : Level) : Option (List String) :=
  match files.entry? (place ++ [level.fileName]) with
  | some (.file texts) => some texts
  | _ => none

def append (files : LogFiles) (place : List String) (line : Line) : LogFiles :=
  files.put (place ++ [line.level.fileName])
    (.file ((textsAt files place line.level).getD [] ++ [line.text]))

end GraphBoard.Log
