import ScriptCensus.FileSystem.Basic

/-!
# Programs

A report may be handed on to a program. A `Program` takes arguments, an input and a file system; a
`ProgramRun` is what it leaves behind. A `Machine` finds programs by name.
-/

namespace ScriptCensus

/-- How a program ended. -/
inductive ExitStatus where
  | code (n : Nat)
  /-- A signal stopped it. -/
  | signal (number : Nat) (name : String)
deriving Repr, BEq, DecidableEq, Inhabited

namespace ExitStatus

/-- Whether a program ended well. -/
def isSuccess (s : ExitStatus) : Bool :=
  s == code 0

/-- The wording of how a program ended. -/
def message : ExitStatus → String
  | code n => s!"exit status: {n}"
  | signal number name => s!"signal: {number} ({name})"

end ExitStatus

/-- Why a program cannot be started. -/
inductive LaunchError where
  | notThere (cause : FileError)
  | notAllowed
  | nulInArgument
deriving Repr, BEq, DecidableEq, Inhabited

/-- The wording of an error. -/
def LaunchError.message : LaunchError → String
  | notThere cause => cause.message
  | notAllowed => "Permission denied (os error 13)"
  | nulInArgument => "nul byte found in provided data"

/-- What a program leaves behind. -/
structure ProgramRun where
  status : ExitStatus
  output : List UInt8
  complaints : List UInt8
  files : FileSystem
  /-- How long it ran. -/
  milliseconds : Nat
deriving Inhabited

/-- What a program does with arguments, an input and a file system. -/
abbrev Program := List String → List UInt8 → FileSystem → ProgramRun

/-- What running a program with arguments does on a file system. -/
abbrev Machine := String → List String → FileSystem → Except LaunchError ProgramRun

/-- The bytes of a text. -/
def textBytes (s : String) : List UInt8 :=
  s.toUTF8.data.toList

namespace Program

/-- A run that ends at once. -/
def ending (code : Nat) (output complaints : List UInt8) (fs : FileSystem) : ProgramRun :=
  ⟨.code code, output, complaints, fs, 0⟩

/-- The program that does nothing and ends as given. -/
def idle (code : Nat) : Program := fun _ _ fs =>
  ending code [] [] fs

end Program

end ScriptCensus
