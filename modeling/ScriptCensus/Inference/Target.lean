import ScriptCensus.FileSystem.Path

/-!
# Inference targets

Where a report is handed on to: a service, or a program with arguments.
-/

namespace ScriptCensus

/-- Where a report is handed on to. -/
inductive InferenceTarget where
  | service (endpoint : String)
  | command (program : String) (arguments : List String)
deriving Repr, BEq, DecidableEq

namespace InferenceTarget

/-- The service that is asked if no other target is given. -/
def defaultEndpoint : String := "http://localhost:5000"

instance : Inhabited InferenceTarget where
  default := service defaultEndpoint

/-- The part of an argument that stands for the path of the report. -/
def placeholder : List Char := "\x7binput\x7d".toList

/-- Puts a text in place of every placeholder, from left to right. The first argument is the number of
characters of a placeholder that still have to be skipped. -/
def substitute (text : List Char) : Nat → List Char → List Char
  | _, [] => []
  | n + 1, _ :: rest => substitute text n rest
  | 0, c :: rest =>
    if placeholder.isPrefixOf (c :: rest)
    then text ++ substitute text (placeholder.length - 1) rest
    else c :: substitute text 0 rest

/-- Whether there is a placeholder among some characters. -/
def mentionsReport : List Char → Bool
  | [] => false
  | c :: rest => placeholder.isPrefixOf (c :: rest) || mentionsReport rest

/-- The arguments for a report: its path takes the place of the placeholders, or comes last if there
are none. -/
def argumentsFor (arguments : List String) (report : Path) : List String :=
  if arguments.any (mentionsReport ·.toList) then
    arguments.map fun a => String.ofList (substitute report.text.toList 0 a.toList)
  else arguments ++ [report.text]

end InferenceTarget

end ScriptCensus
