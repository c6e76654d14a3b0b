import ScriptCensus.Json.Reader
import ScriptCensus.Json.Writer
import ScriptCensus.Text.Blank

/-!
# Payloads

What the inference side answers. An answer is read as JSON if it is JSON and kept as text if it is not
(`Payload.parse`). A payload may report a failure inside an otherwise successful answer
(`Payload.failure?`).
-/

namespace ScriptCensus

/-- An answer of the inference side. -/
inductive Payload where
  | json (value : JsonValue)
  | text (text : String)
deriving Inhabited

namespace Payload

/-- Reads an answer, without the blanks around it. -/
def parse (body : String) : Payload :=
  let trimmed := trimBlanks body
  match readJson trimmed with
  | .ok v => json v
  | .error _ => text trimmed

/-- A JSON value as it is shown: a string without its quotes, all else as compact JSON. -/
def showValue : JsonValue → String
  | .string s => s
  | v => v.compact

/-- The payload as it is shown. -/
def shown : Payload → String
  | json v => showValue v
  | text s => s

/-- The word that a reported failure starts with. -/
def failureMark : String := "FAILURE"

/-- Whether a text starts with the failure mark, behind any blanks. -/
def marksFailure (s : String) : Bool :=
  failureMark.toList.isPrefixOf (s.toList.dropWhile isBlank)

/-- The failure that a payload reports: a text that starts with the failure mark, or an array whose
first item is such a text. -/
def failure? : Payload → Option String
  | text s => if marksFailure s then some (trimBlanks s) else none
  | json (.string s) => if marksFailure s then some (trimBlanks s) else none
  | json (.array (.string s :: rest)) =>
    if marksFailure s then some (trimBlanks (String.join (s :: rest.map showValue))) else none
  | json _ => none

end Payload

end ScriptCensus
