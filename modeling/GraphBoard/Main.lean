import GraphBoard.Board.Draw
import GraphBoard.Board.Mount
import GraphBoard.Start

namespace GraphBoard

def screenArea : Screen.Area := ⟨0, 0, 80, 24⟩

def readContent (path : String) : IO (Except FileFailure (List UInt8)) := do
  match ← (IO.FS.readBinFile path).toBaseIO with
  | .ok bytes => return .ok bytes.toList
  | .error (.inappropriateType ..) => return .error .isDirectory
  | .error _ => return .error .notFound

def Board.rows (b : Board) : List String :=
  let (_, grid) := b.draw (.blank screenArea.right screenArea.bottom) screenArea
  grid.rows.map fun row => (String.ofList (row.flatMap Screen.Cell.symbol)).trimAsciiEnd.toString

/-- The board at the start, when no picture has come in and the painter has nothing to show. -/
def openBoard (content : Except FileFailure (List UInt8)) : Except BoardError Board :=
  (Config.ofFile content).bind fun config => (Board.open Screen.paintBlack config).1

end GraphBoard

open GraphBoard in
def main (arguments : List String) : IO UInt32 := do
  let folder := Log.folderName (← IO.getEnv "GRAPHFETCHER_LOG_DIR")
  IO.FS.createDirAll folder
  IO.FS.writeFile (folder ++ "/" ++ traceFile) ""
  match openBoard (← readContent (arguments.head?.getD standardConfigFile)) with
  | .ok board =>
    board.rows.forM (IO.println ·)
    return 0
  | .error e =>
    IO.eprintln ("Error: " ++ e.message)
    return 1
