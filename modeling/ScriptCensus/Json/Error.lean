import ScriptCensus.Json.Writer
import ScriptCensus.Text.Quoted

/-!
# What is wrong with a JSON text

A fault has a cause, and a place once it is known. Causes are of two kinds: the text is no JSON, or it
is JSON of the wrong shape.
-/

namespace ScriptCensus

/-- What was found where something else was expected. -/
inductive JsonFound where
  | null
  | boolean (b : Bool)
  | number (n : JsonNumber)
  | string (s : String)
  | sequence
  | map
deriving Inhabited

/-- Why a JSON text is refused. -/
inductive JsonCause where
  | endInList
  | endInObject
  | endInString
  | endInValue
  | expectedColon
  | expectedListCommaOrEnd
  | expectedObjectCommaOrEnd
  | expectedIdent
  | expectedValue
  | invalidEscape
  | invalidNumber
  | numberOutOfRange
  | controlCharacter
  | keyMustBeString
  | loneSurrogate
  | trailingComma
  | trailingCharacters
  | endInSurrogatePair
  | recursionLimit
  | invalidType (found : JsonFound) (expected : String)
  | invalidValue (found : JsonFound) (expected : String)
  | invalidLength (length : Nat) (expected : String)
  | unknownVariant (name : String) (options : List String)
  | unknownField (name : String) (options : List String)
  | missingField (name : String)
  | duplicateField (name : String)
deriving Inhabited

/-- A cause, and the line and column where it was met. -/
structure JsonFault where
  cause : JsonCause
  place? : Option (Nat × Nat)
deriving Inhabited

/-- How what was found is called. -/
def JsonFound.message : JsonFound → String
  | null => "null"
  | boolean b => "boolean `" ++ (if b then "true" else "false") ++ "`"
  | number (.float f) => "floating point `" ++ String.ofList (floatChars f) ++ "`"
  | number n => "integer `" ++ String.ofList n.chars ++ "`"
  | string s => "string " ++ quoteVisibly s
  | sequence => "sequence"
  | map => "map"

/-- A name as it is quoted in messages. -/
def quoteName (name : String) : String :=
  "`" ++ name ++ "`"

/-- The wording of a choice between names. -/
def oneOf : List String → String
  | [] => "none"
  | [a] => quoteName a
  | [a, b] => quoteName a ++ " or " ++ quoteName b
  | names => "one of " ++ ", ".intercalate (names.map quoteName)

/-- The wording of a cause. -/
def JsonCause.message : JsonCause → String
  | endInList => "EOF while parsing a list"
  | endInObject => "EOF while parsing an object"
  | endInString => "EOF while parsing a string"
  | endInValue => "EOF while parsing a value"
  | expectedColon => "expected `:`"
  | expectedListCommaOrEnd => "expected `,` or `]`"
  | expectedObjectCommaOrEnd => "expected `,` or `\x7d`"
  | expectedIdent => "expected ident"
  | expectedValue => "expected value"
  | invalidEscape => "invalid escape"
  | invalidNumber => "invalid number"
  | numberOutOfRange => "number out of range"
  | controlCharacter => "control character (\\u0000-\\u001F) found while parsing a string"
  | keyMustBeString => "key must be a string"
  | loneSurrogate => "lone leading surrogate in hex escape"
  | trailingComma => "trailing comma"
  | trailingCharacters => "trailing characters"
  | endInSurrogatePair => "unexpected end of hex escape"
  | recursionLimit => "recursion limit exceeded"
  | invalidType found expected => "invalid type: " ++ found.message ++ ", expected " ++ expected
  | invalidValue found expected => "invalid value: " ++ found.message ++ ", expected " ++ expected
  | invalidLength length expected => s!"invalid length {length}, expected " ++ expected
  | unknownVariant name options =>
    "unknown variant " ++ quoteName name ++ ", expected " ++ oneOf options
  | unknownField name options => "unknown field " ++ quoteName name ++ ", expected " ++ oneOf options
  | missingField name => "missing field " ++ quoteName name
  | duplicateField name => "duplicate field " ++ quoteName name

/-- The wording of a fault, with its place if that is known. -/
def JsonFault.message (f : JsonFault) : String :=
  match f.place? with
  | some (line, column) => f.cause.message ++ s!" at line {line} column {column}"
  | none => f.cause.message

end ScriptCensus
