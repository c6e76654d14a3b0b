import ScriptCensus.Decimal.Shortest
import ScriptCensus.Json.Value

/-!
# Writing JSON

Two layouts of a value: `JsonValue.compact` on one line, and `JsonValue.pretty` with one item on each
line, indented by two blanks.
-/

namespace ScriptCensus

/-! ## Numbers -/

/-- The decimal digits of a number. -/
def natChars (n : Nat) : List Char :=
  Nat.toDigits 10 n

/-- When a number is written without a power of ten. -/
structure NumberFormat where
  /-- The most digits before the point. -/
  mostDigits : Int
  /-- The most zeros between the point and the first digit. -/
  mostZeros : Int

/-- How JSON texts are written: at most sixteen digits before the point, and four zeros behind it. -/
def NumberFormat.json : NumberFormat := ⟨16, 4⟩

/-- Writes a positive decimal. -/
def NumberFormat.write (format : NumberFormat) (d : Decimal) : List Char :=
  let digits := natChars d.digits
  let point : Int := digits.length + d.exponent
  if 0 ≤ d.exponent && point ≤ format.mostDigits then
    digits ++ List.replicate d.exponent.toNat '0' ++ ['.', '0']
  else if 0 < point && point ≤ format.mostDigits then
    digits.take point.toNat ++ '.' :: digits.drop point.toNat
  else if -format.mostZeros ≤ point && point ≤ 0 then
    '0' :: '.' :: List.replicate (-point).toNat '0' ++ digits
  else
    let fraction := if digits.length ≤ 1 then [] else '.' :: digits.drop 1
    let power := point - 1
    digits.take 1 ++ fraction ++ 'e' :: (if power < 0 then '-' else '+') :: natChars power.natAbs

/-- Writes a finite float with the fewest digits that read back. -/
def floatChars (f : Float) : List Char :=
  let v := binaryValueOf f
  let size := if v.mantissa = 0 then ['0', '.', '0'] else NumberFormat.json.write (shortestDecimal v)
  if hasMinus f then '-' :: size else size

/-- Writes a number. -/
def JsonNumber.chars : JsonNumber → List Char
  | natural n => natChars n
  | negative n => '-' :: natChars n
  | float f => floatChars f

/-! ## Strings -/

/-- Writes a character of a string. -/
def jsonEscape (c : Char) : List Char :=
  match c with
  | '"' => ['\\', '"']
  | '\\' => ['\\', '\\']
  | '\n' => ['\\', 'n']
  | '\r' => ['\\', 'r']
  | '\t' => ['\\', 't']
  | '\x08' => ['\\', 'b']
  | '\x0c' => ['\\', 'f']
  | c =>
    if c.toNat < 0x20 then
      ['\\', 'u', '0', '0', Nat.digitChar (c.toNat / 16), Nat.digitChar (c.toNat % 16)]
    else [c]

/-- Writes a string in quotes. -/
def jsonQuote (s : String) : List Char :=
  '"' :: (s.toList.flatMap jsonEscape ++ ['"'])

namespace JsonValue

/-! ## On one line -/

mutual

/-- The characters of a value on one line. -/
def compactChars : JsonValue → List Char
  | null => "null".toList
  | bool true => "true".toList
  | bool false => "false".toList
  | number n => n.chars
  | string s => jsonQuote s
  | array items => '[' :: compactItems items
  | object members => '\x7b' :: compactMembers members

/-- The items of an array up to the closing bracket. -/
def compactItems : List JsonValue → List Char
  | [] => [']']
  | [v] => compactChars v ++ [']']
  | v :: w :: rest => compactChars v ++ ',' :: compactItems (w :: rest)

/-- The members of an object up to the closing brace. -/
def compactMembers : List (String × JsonValue) → List Char
  | [] => ['\x7d']
  | [(key, v)] => jsonQuote key ++ ':' :: compactChars v ++ ['\x7d']
  | (key, v) :: m :: rest =>
    jsonQuote key ++ ':' :: compactChars v ++ ',' :: compactMembers (m :: rest)

end

/-- A value on one line. -/
def compact (v : JsonValue) : String :=
  String.ofList v.compactChars

/-! ## On several lines -/

/-- A line break and an indentation. -/
def newLine (indent : Nat) : List Char :=
  '\n' :: List.replicate (2 * indent) ' '

mutual

/-- The characters of a value on several lines. -/
def prettyChars (indent : Nat) : JsonValue → List Char
  | null => "null".toList
  | bool true => "true".toList
  | bool false => "false".toList
  | number n => n.chars
  | string s => jsonQuote s
  | array [] => ['[', ']']
  | array (v :: rest) => '[' :: prettyItems indent (v :: rest)
  | object [] => ['\x7b', '\x7d']
  | object (m :: rest) => '\x7b' :: prettyMembers indent (m :: rest)

/-- The items of an array up to the closing bracket, each on lines of its own. -/
def prettyItems (indent : Nat) : List JsonValue → List Char
  | [] => newLine indent ++ [']']
  | [v] => newLine (indent + 1) ++ prettyChars (indent + 1) v ++ newLine indent ++ [']']
  | v :: w :: rest =>
    newLine (indent + 1) ++ prettyChars (indent + 1) v ++ ',' :: prettyItems indent (w :: rest)

/-- The members of an object up to the closing brace, each on lines of its own. -/
def prettyMembers (indent : Nat) : List (String × JsonValue) → List Char
  | [] => newLine indent ++ ['\x7d']
  | [(key, v)] =>
    newLine (indent + 1) ++ jsonQuote key ++ ':' :: ' ' :: prettyChars (indent + 1) v ++
      newLine indent ++ ['\x7d']
  | (key, v) :: m :: rest =>
    newLine (indent + 1) ++ jsonQuote key ++ ':' :: ' ' :: prettyChars (indent + 1) v ++
      ',' :: prettyMembers indent (m :: rest)

end

/-- A value on several lines. -/
def pretty (v : JsonValue) : String :=
  String.ofList (v.prettyChars 0)

end JsonValue

end ScriptCensus
