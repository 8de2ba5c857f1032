import RunTriage.Command

/-!
Contract: the program.

Owns: reading the files that a command asks for, and writing what it answers.

Does not own: any decision, which are in `RunTriage.Command`.
-/

namespace RunTriage.Main

/-- The contents of a file, if it can be read. -/
def readContents (path : String) : IO (Option (List UInt8)) := do
  try
    return some (← IO.FS.readBinFile path).toList
  catch _ =>
    return none

/-- The names of the files in a directory, if there is one. -/
def readListing (path : String) : IO (Option (List String)) := do
  try
    let directory ← IO.FS.realPath path
    if ← directory.isDir then
      let entries ← (← directory.readDir).toList.filterM fun entry => do
        return !(← entry.path.isDir)
      return some (entries.map fun entry => entry.fileName)
    else
      return none
  catch _ =>
    return none

/-- What is known of paths that were looked up. -/
def filesOf (contents : List (String × List UInt8)) (listings : List (String × List String)) :
    Files where
  contents? path := contents.lookup path
  listing? path := listings.lookup path

/-- Look up several paths. -/
def lookUp {α : Type} (read : String → IO (Option α)) (paths : List String) :
    IO (List (String × α)) := do
  let found ← paths.mapM fun path => do
    return (← read path).map fun value => (path, value)
  return found.filterMap id

/-- Read everything that a command asks for. -/
def readFiles (command : Command) : IO Files := do
  let settingsPath := command.request.settingsPath
  let listings ← lookUp readListing (settingsPath :: command.request.paths)
  let settings ← lookUp readContents [settingsPath]
  let rules ← lookUp readContents (command.rulesPath? (filesOf settings listings)).toList
  let logs ← lookUp readContents (collectLogs (filesOf [] listings) command.request.paths)
  return filesOf (settings ++ rules ++ logs) listings

/-- Carry out the command of arguments. The result is the exit code. -/
def execute (arguments : List String) : IO UInt32 := do
  match Command.ofArguments arguments with
  | .error error =>
    IO.eprintln ("error: " ++ error.message)
    return 2
  | .ok command =>
    match command.run (← readFiles command) with
    | .error failure =>
      IO.eprintln ("Error: " ++ failure.message)
      return 1
    | .ok output =>
      IO.print output.report
      for (path, text) in output.exports do
        IO.FS.writeFile path text
      return 0

end RunTriage.Main

def main (arguments : List String) : IO UInt32 :=
  RunTriage.Main.execute arguments
