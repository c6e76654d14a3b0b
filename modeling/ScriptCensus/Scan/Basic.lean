import ScriptCensus.Concrete.Parse
import ScriptCensus.Config.Settings
import ScriptCensus.Discovery
import ScriptCensus.Ignore.Files
import ScriptCensus.Report.Basic
import ScriptCensus.Source.Utf8

/-!
# Scans

A scan looks at the source files of some paths, one path after another (`ScanRequest.plan`), and
collects their functions into a report (`ScanRequest.report`). What cannot be read is warned of and
left out.
-/

namespace ScriptCensus

/-- The paths to scan, of which there is at least one, and where the report goes. -/
structure ScanRequest where
  roots : List Path
  destination : Path
  roots_ne_nil : roots ≠ []
deriving Repr, DecidableEq

/-- What a scan goes by, whatever the path. -/
structure ScanOptions where
  /-- Globs for what is not scanned, besides those that hold for every scan. -/
  exclude : List String := []
  order : FunctionOrder := .sourceLine
deriving Repr, BEq, DecidableEq, Inhabited

/-- The options that settings give. -/
def Settings.scanOptions (s : Settings) : ScanOptions :=
  ⟨s.exclude, s.order⟩

namespace FileSystem

/-- The functions of a file; none if it cannot be read. Bytes that are no text are replaced. -/
def functionsOf? (fs : FileSystem) (order : FunctionOrder) (path : Path) :
    Logged (Option (List FunctionRecord)) :=
  match fs.read path with
  | .error _ => ⟨none, [.unreadableFile]⟩
  | .ok content => do
    let functions ← (Language.ofExplicitFile path).functionsOf order (textOfBytes content)
    pure (some functions)

/-- Adds the functions of a file to a report, and tells how many there are. -/
def addFile (fs : FileSystem) (order : FunctionOrder) (r : Report) (path : Path) :
    Logged (Report × Nat) := do
  match ← fs.functionsOf? order path with
  | none => pure (r, 0)
  | some functions =>
    match FileReport.of? path functions with
    | some file => pure (r.push file, functions.length)
    | none => pure (r, 0)

/-- The report on some files. -/
def reportOn (fs : FileSystem) (order : FunctionOrder) (paths : List Path) : Logged Report :=
  paths.foldlM (fun r path => do return (← fs.addFile order r path).1) {}

end FileSystem

namespace ScanRequest

/-- A request for some paths, if there are any. The report goes to the given destination or else to
the default one. -/
def of? (roots : List Path) (destination? : Option Path) : Option ScanRequest :=
  match roots with
  | [] => none
  | root :: more => some ⟨root :: more, destination?.getD Settings.defaultOutput, by simp⟩

/-- The files of one path. Each path has ignore rules of its own. -/
def sourcesOf (fs : FileSystem) (options : ScanOptions) (limit : Glob.SizeLimit) (root : Path) :
    Logged (List Path) := do
  let rules ← fs.ignoreRules root options.exclude
  fs.sources root rules limit

/-- The files that a scan looks at, path by path. -/
def plan (q : ScanRequest) (options : ScanOptions) (fs : FileSystem) (limit : Glob.SizeLimit := {}) :
    Logged (List Path) := do
  return (← q.roots.mapM (sourcesOf fs options limit)).flatten

/-- The report of a scan. -/
def report (q : ScanRequest) (options : ScanOptions) (fs : FileSystem)
    (limit : Glob.SizeLimit := {}) : Logged Report := do
  fs.reportOn options.order (← q.plan options fs limit)

end ScanRequest

end ScriptCensus
