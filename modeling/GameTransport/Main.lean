import GameTransport.Options

/-!
# The command line

`gametransport [path]` reads the options of a server, tells what it made of them and whether a
server can be made from them.
-/

namespace GameTransport.CommandLine

/-- Where the options are looked for if no path is given. -/
def standardPath : String := "config/serveroptions.txt"

/-- The octets of a file, or none if there is no such file. -/
def readFile? (path : String) : IO (Option Bytes) := do
  try
    return some (← IO.FS.readBinFile path).toList
  catch
    | .noFileOrDirectory .. => return none
    | fault => throw fault

def printNotes (notes : List Note) : IO Unit :=
  notes.forM fun note => IO.println (note.severity.name ++ " " ++ note.text)

/-- Checks the options in a file.  Whether a server can be made from them. -/
def check (path : String) : IO Bool := do
  match Options.loadOrDefault path (← readFile? path) with
  | .error fault =>
    IO.eprintln (fault.message path)
    return false
  | .ok (options, notes) =>
    printNotes (notes ++ options.summary)
    match options.config with
    | .error problem =>
      IO.eprintln problem.refusal
      return false
    | .ok config =>
      printNotes config.notes
      return true

end GameTransport.CommandLine

def main (arguments : List String) : IO UInt32 := do
  let path := arguments.head?.getD GameTransport.CommandLine.standardPath
  return if ← GameTransport.CommandLine.check path then 0 else 1
