/-!
# Warnings

What a census reports on the side while it goes on. A computation that may warn gives a `Logged`
value: the value itself, and its warnings in the order in which they arose.
-/

namespace ScriptCensus

/-- Something that was skipped or could not be read. -/
inductive Warning where
  /-- A subtree was nested too deeply. -/
  | flattened
  /-- A function could not be printed. -/
  | unprintableFunction
  /-- An exclude pattern is no glob. -/
  | invalidPattern
  /-- The globs of the exclude patterns, or of the directories that they stand for, cannot be compiled
  together. -/
  | uncompiledPatterns
  /-- A line of an ignore file is no glob. -/
  | invalidIgnoreLine
  /-- The globs of the lines of ignore files cannot be compiled together. -/
  | uncompiledIgnoreLines
  /-- An ignore file could not be read. -/
  | unreadableIgnoreFile
  /-- There is nothing at a path that was to be scanned. -/
  | missingRoot
  /-- What is at a path that was to be scanned is neither file nor directory. -/
  | unsupportedRoot
  /-- A source file could not be read. -/
  | unreadableFile
  /-- A half-written report could not be removed. -/
  | abandonedReport
  /-- There is no function in any file that was scanned. -/
  | nothingFound
deriving Repr, BEq, DecidableEq, Inhabited

/-- The wording of a warning. -/
def Warning.message : Warning → String
  | flattened => "nesting too deep, keeping tokens only"
  | unprintableFunction => "skipping function that could not be printed"
  | invalidPattern => "skipping invalid ignore pattern"
  | uncompiledPatterns => "failed to compile ignore patterns"
  | invalidIgnoreLine => "skipping invalid ignore entry"
  | uncompiledIgnoreLines => "failed to compile ignore file entries"
  | unreadableIgnoreFile => "could not read ignore file"
  | missingRoot => "skipping scan root"
  | unsupportedRoot => "scan root is neither a file nor a directory"
  | unreadableFile => "skipping unreadable file"
  | abandonedReport => "could not remove temporary report"
  | nothingFound => "no functions found in the scanned paths"

/-- A value with the warnings that arose on the way to it. -/
structure Logged (α : Type) where
  value : α
  warnings : List Warning
deriving Repr, Inhabited

namespace Logged

/-- A value without warnings. -/
protected def pure {α : Type} (a : α) : Logged α := ⟨a, []⟩

/-- Goes on with a value; the warnings of both parts are kept. -/
protected def bind {α β : Type} (x : Logged α) (f : α → Logged β) : Logged β :=
  let y := f x.value
  ⟨y.value, x.warnings ++ y.warnings⟩

instance : Monad Logged where
  pure := Logged.pure
  bind := Logged.bind

/-- A warning on its own. -/
def warn (w : Warning) : Logged Unit := ⟨(), [w]⟩

@[simp] theorem value_pure {α : Type} (a : α) : (pure a : Logged α).value = a := rfl

@[simp] theorem value_bind {α β : Type} (x : Logged α) (f : α → Logged β) :
    (x >>= f).value = (f x.value).value := rfl

@[simp] theorem warnings_pure {α : Type} (a : α) : (pure a : Logged α).warnings = [] := rfl

@[simp] theorem warnings_bind {α β : Type} (x : Logged α) (f : α → Logged β) :
    (x >>= f).warnings = x.warnings ++ (f x.value).warnings := rfl

instance : LawfulMonad Logged :=
  .mk' Logged (fun x => by cases x; simp [Functor.map, Logged.bind, Logged.pure])
    (fun a f => by simp [pure, bind, Logged.pure, Logged.bind])
    (fun x f g => by simp [bind, Logged.bind, List.append_assoc])

end Logged

end ScriptCensus
