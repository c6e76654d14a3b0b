import ScriptCensus.Cli.Run
import ScriptCensus.Programs.Machine

/-!
# The command line

Reads the files below the working directory, carries out the command line on them, and writes back
what changed. Each name of a file is read as if it were the only one.
-/

namespace ScriptCensus

/-- Reads what is at a path. -/
partial def readEntry (path : String) : IO Entry := do
  let place ← IO.FS.realPath path
  match (← place.metadata).type with
  | .dir =>
    let mut entries : Array (String × Entry) := #[]
    for e in ← place.readDir do
      let kind := (← e.path.symlinkMetadata).type
      let found : Entry ←
        if kind == .symlink then
          try pure (Entry.link (← IO.FS.realPath e.path).toString)
          catch _ => pure (Entry.link "")
        else readEntry e.path.toString
      entries := entries.push (e.fileName, found)
    return .directory entries.toList
  | .file => return .file (← IO.FS.readBinFile path)
  | _ => return .device

/-- Makes the file system whose only content is an entry at a location. -/
def onlyAt (e : Entry) : List String → Entry
  | [] => e
  | name :: rest => .directory [(name, onlyAt e rest)]

/-- Writes the entries that differ from those that were read. -/
partial def writeChanges (path : String) (before? : Option Entry) : Entry → IO Unit
  | .directory entries => do
    IO.FS.createDirAll path
    for (name, e) in entries do
      writeChanges (path ++ "/" ++ name) (before?.bind (·.child? name)) e
    match before? with
    | some (.directory old) =>
      for (name, _) in old do
        if (entries.lookup name).isNone then IO.FS.removeFile (path ++ "/" ++ name)
    | _ => pure ()
  | .file content => do
    match before? with
    | some (.file old) => if old == content then return
    | _ => pure ()
    IO.FS.writeBinFile path content
  | _ => pure ()

/-- Carries out a command line in the working directory. -/
def runHere (arguments : List String) : IO UInt32 := do
  let place := (← IO.currentDir).toString
  let location := (place.splitOn "/").filter (· ≠ "")
  let before ← readEntry place
  let outcome := Cli.run (Dispatcher.ofTarget .basic) arguments
    { top := onlyAt before location, here := location }
  IO.print outcome.output
  IO.eprint outcome.complaints
  match outcome.files.top.at? location with
  | some after => writeChanges place (some before) after
  | none => pure ()
  return outcome.code.toUInt32

end ScriptCensus

/-- Carries out a command line in the working directory and ends as it says. -/
def main (arguments : List String) : IO UInt32 :=
  ScriptCensus.runHere arguments
