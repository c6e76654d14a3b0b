import ScriptCensus.Inference.Error
import ScriptCensus.Inference.Payload
import ScriptCensus.Inference.Target
import ScriptCensus.Source.Utf8

/-!
# Handing on a report

A `Dispatcher` takes the path of a stored report and answers with a payload; it may look at the file
system and change it. `Dispatcher.ofTarget` makes one for a target, given a `Machine` that tells what
programs do.
-/

namespace ScriptCensus

/-- Takes the path of a stored report; answers with a payload, and with the file system as it is
afterwards. -/
abbrev Dispatcher := Path → FileSystem → Except InferenceError Payload × FileSystem

/-- A payload that reports a failure is an error. -/
def Payload.check (p : Payload) : Except InferenceError Payload :=
  match p.failure? with
  | some failure => .error (.rejected failure)
  | none => .ok p

namespace Dispatcher

/-- The dispatcher that always answers the same. -/
def answering (body : String) : Dispatcher := fun _ fs =>
  ((Payload.parse body).check, fs)

/-- What a run of a program answers, if it ends in time. -/
def answerOf (program : String) (limit? : Option Nat) (run : ProgramRun) :
    Except InferenceError Payload :=
  let late? := limit?.filter (· ≤ run.milliseconds)
  match late?, run.status.isSuccess with
  | some limit, _ => .error (.timedOut limit)
  | none, false =>
    .error (.commandFailed program run.status (trimBlanks (String.ofList (decodeUtf8 run.complaints))))
  | none, true => (Payload.parse (String.ofList (decodeUtf8 run.output))).check

/-- The dispatcher for a target. Programs run on a machine, for at most the given number of
milliseconds; services cannot be reached. -/
def ofTarget (machine : Machine) (target : InferenceTarget) (limit? : Option Nat) : Dispatcher :=
  fun report fs =>
    match target with
    | .service endpoint => (.error (.network (requestError endpoint)), fs)
    | .command program arguments =>
      match machine program (InferenceTarget.argumentsFor arguments report) fs with
      | .error cause => (.error (.notLaunched program cause), fs)
      | .ok run => (answerOf program limit? run, run.files)

end Dispatcher

end ScriptCensus
