import ScriptCensus.Inference.Dispatch
import ScriptCensus.Report.Store
import ScriptCensus.Scan.Basic

/-!
# Runs

A run scans, stores the report and hands it on. The report is handed on once, after it was stored; if
it cannot be stored it is not handed on (`Report.deliver`). A `Delivery` records what was handed on.
-/

namespace ScriptCensus

/-- Why a run fails. -/
inductive RunError where
  /-- There is nothing to scan. -/
  | nothingToScan
  | notStored (destination : Path) (cause : FileError)
  | notHandedOn (cause : InferenceError)
deriving Inhabited

/-- The wording of an error, followed by that of its cause if that is told apart. -/
def RunError.chain : RunError → List String
  | nothingToScan => ["invalid scan request: at least one path to scan is required"]
  | notStored destination cause => ["failed to write report to " ++ destination.text, cause.message]
  | notHandedOn cause => [cause.message]

/-- What a run that succeeds comes to. -/
structure RunOutcome where
  /-- The absolute path of the report. -/
  reportPath : Path
  fileCount : Nat
  functionCount : Nat
  payload : Payload
deriving Inhabited

/-- A call of a dispatcher: the path that it was given, and the files that it saw. -/
structure DispatchCall where
  path : Path
  files : FileSystem
deriving Inhabited

/-- What delivering a report comes to. -/
structure Delivery where
  result : Except RunError RunOutcome
  files : FileSystem
  warnings : List Warning
  /-- The calls of the dispatcher, in order. -/
  calls : List DispatchCall
deriving Inhabited

/-- Stores a report and hands it on. -/
def Report.deliver (r : Report) (destination : Path) (dispatcher : Dispatcher) (fs : FileSystem)
    (refusals : Refusals := {}) : Delivery :=
  let storage := r.store destination fs refusals
  match storage.result with
  | .error cause => ⟨.error (.notStored destination cause), storage.files, storage.warnings, []⟩
  | .ok path =>
    let (answer, files) := dispatcher path storage.files
    let result := match answer with
      | .error cause => .error (.notHandedOn cause)
      | .ok payload => .ok ⟨path, r.files.length, r.functionCount, payload⟩
    ⟨result, files, storage.warnings, [⟨path, storage.files⟩]⟩

/-- Scans, stores the report and hands it on. -/
def ScanRequest.run (q : ScanRequest) (options : ScanOptions) (dispatcher : Dispatcher)
    (fs : FileSystem) (refusals : Refusals := {}) (limit : Glob.SizeLimit := {}) : Delivery :=
  let report := q.report options fs limit
  let delivery := report.value.deliver q.destination dispatcher fs refusals
  { delivery with warnings := report.warnings ++ delivery.warnings }

end ScriptCensus
