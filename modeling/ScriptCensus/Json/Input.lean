import ScriptCensus.Json.Error

/-!
# Reading JSON tokens

A `JsonReader` takes characters from a `JsonInput`, which knows the line and column it has come to.
It either gives a value or throws a `JsonFault`; the input stays where the fault was met. This module
reads what has no parts: words, numbers and strings.
-/

namespace ScriptCensus

/-- The rest of a text, with the line and the number of bytes since the last line break. -/
structure JsonInput where
  rest : List Char
  line : Nat
  column : Nat

/-- A text from its start. -/
def JsonInput.ofString (s : String) : JsonInput := ⟨s.toList, 1, 0⟩

/-- The input after its first character. -/
def JsonInput.next (i : JsonInput) : JsonInput :=
  match i.rest with
  | [] => i
  | c :: rest => if c = '\n' then ⟨rest, i.line + 1, 0⟩ else ⟨rest, i.line, i.column + c.utf8Size⟩

/-- The place one byte further on, or the end. -/
def JsonInput.placeAhead (i : JsonInput) : Nat × Nat :=
  match i.rest with
  | [] => (i.line, i.column)
  | c :: _ => if c = '\n' then (i.line + 1, 0) else (i.line, i.column + 1)

/-- A computation that takes characters from an input. -/
abbrev JsonReader := ExceptT JsonFault (StateM JsonInput)

namespace JsonReader

/-! ## Faults -/

/-- Refuses the text at the current place. -/
def fail {α : Type} (cause : JsonCause) : JsonReader α := do
  let i ← get
  throw ⟨cause, some (i.line, i.column)⟩

/-- Refuses the text at the next character. -/
def failAhead {α : Type} (cause : JsonCause) : JsonReader α := do
  let i ← get
  throw ⟨cause, some i.placeAhead⟩

/-- Refuses the text at a place that is not known yet. -/
def failSomewhere {α : Type} (cause : JsonCause) : JsonReader α :=
  throw ⟨cause, none⟩

/-- Gives a fault without a place the place that the input has come to. -/
def located {α : Type} (r : JsonReader α) : JsonReader α :=
  tryCatch r fun f =>
    match f.place? with
    | some _ => throw f
    | none => fail f.cause

/-- Runs a reader and gives what came of it, fault or value. -/
def outcome {α : Type} (r : JsonReader α) : JsonReader (Except JsonFault α) :=
  ExceptT.mk (do return .ok (← r.run))

/-! ## Characters -/

/-- The next character, which is not taken. -/
def peek : JsonReader (Option Char) := do
  return (← get).rest.head?

/-- Takes a character. -/
def advance : JsonReader Unit :=
  modify JsonInput.next

/-- Whether a character may stand between tokens. -/
def isJsonBlank (c : Char) : Bool :=
  c = ' ' || c = '\n' || c = '\t' || c = '\r'

/-- The input behind the blanks at its front. -/
def skipBlanksFrom : List Char → Nat → Nat → JsonInput
  | [], line, column => ⟨[], line, column⟩
  | c :: rest, line, column =>
    if isJsonBlank c then
      if c = '\n' then skipBlanksFrom rest (line + 1) 0 else skipBlanksFrom rest line (column + 1)
    else ⟨c :: rest, line, column⟩

/-- The next character that is no blank, which is not taken. -/
def peekToken : JsonReader (Option Char) := do
  modify fun i => skipBlanksFrom i.rest i.line i.column
  peek

/-- Takes the rest of a word. -/
def word : List Char → JsonReader Unit
  | [] => pure ()
  | expected :: rest => do
    match ← peek with
    | none => fail .endInValue
    | some c =>
      if c = expected then
        advance
        word rest
      else failAhead .expectedIdent

/-! ## Numbers -/

/-- The value of a decimal digit. -/
def digit? (c : Char) : Option Nat :=
  if c.isDigit then some (c.toNat - '0'.toNat) else none

/-- Takes all digits that follow. -/
def digits : Nat → JsonReader (List Nat)
  | 0 => pure []
  | fuel + 1 => do
    match (← peek).bind digit? with
    | none => pure []
    | some d =>
      advance
      return d :: (← digits fuel)

/-- Takes all digits of the rest of the input. -/
def allDigits : JsonReader (List Nat) := do
  digits ((← get).rest.length + 1)

/-- The greatest number that is kept exactly. -/
def maxNatural : Nat := Nat.pow 2 64 - 1

/-- The digits of a number as far as they fit, and the power of ten that they are short of. -/
structure Significand where
  value : Nat
  exponent : Int

/-- Adds digits before the point. Once one does not fit, it and those after it only count. -/
def Significand.addWhole (s : Significand) : List Nat → Significand
  | [] => s
  | d :: rest =>
    if s.value * 10 + d ≤ maxNatural && s.exponent = 0 then
      addWhole ⟨s.value * 10 + d, 0⟩ rest
    else addWhole ⟨s.value, s.exponent + 1⟩ rest

/-- Adds digits behind the point. Once one does not fit, it and those after it are dropped. -/
def Significand.addFraction (s : Significand) : List Nat → Significand
  | [] => s
  | d :: rest =>
    if s.value * 10 + d ≤ maxNatural then addFraction ⟨s.value * 10 + d, s.exponent - 1⟩ rest else s

/-- The float nearest to a power of ten. -/
def powerOfTen (n : Nat) : Float :=
  Float.ofScientific 1 false n

/-- Scales a float by a power of ten, in steps that can be represented; no float if it becomes too
large. -/
def scaleByTen : Nat → Float → Int → Option Float
  | 0, f, _ => some f
  | fuel + 1, f, exponent =>
    if exponent.natAbs ≤ 308 then
      if 0 ≤ exponent then
        let g := f * powerOfTen exponent.natAbs
        if g.isInf then none else some g
      else some (f / powerOfTen exponent.natAbs)
    else if f == 0 then some f
    else if 0 ≤ exponent then none
    else scaleByTen fuel (f / powerOfTen 308) (exponent + 308)

/-- The float of a significand. -/
def Significand.toFloat (s : Significand) (positive : Bool) : JsonReader JsonNumber :=
  match scaleByTen 8 s.value.toUInt64.toFloat s.exponent with
  | some f => pure (.float (if positive then f else -f))
  | none => fail .numberOutOfRange

/-- The greatest power of ten that is written out. -/
def maxExponent : Nat := Nat.pow 2 31 - 1

/-- Takes the digits of a power of ten; none if they stand for too large a number. -/
def exponentDigits : Nat → Nat → JsonReader (Option Nat)
  | 0, e => pure (some e)
  | fuel + 1, e => do
    match (← peek).bind digit? with
    | none => pure (some e)
    | some d =>
      advance
      if e * 10 + d > maxExponent then pure none else exponentDigits fuel (e * 10 + d)

/-- Takes a power of ten, from its letter on, and scales a significand by it. -/
def exponentPart (positive : Bool) (s : Significand) : JsonReader JsonNumber := do
  advance
  let up ← match ← peek with
    | some '+' => do advance; pure true
    | some '-' => do advance; pure false
    | _ => pure true
  match ← peek with
  | none => fail .endInValue
  | some c =>
    match digit? c with
    | none => failAhead .invalidNumber
    | some d =>
      advance
      match ← exponentDigits ((← get).rest.length + 1) d with
      | some e => Significand.toFloat ⟨s.value, if up then s.exponent + e else s.exponent - e⟩ positive
      | none =>
        if s.value ≠ 0 && up then fail .numberOutOfRange
        else
          let _ ← allDigits
          pure (.float (if positive then 0.0 else -0.0))

/-- Takes the part of a number that may follow its point. -/
def fractionPart (positive : Bool) (s : Significand) : JsonReader JsonNumber := do
  advance
  let ds ← allDigits
  if ds.isEmpty then
    match ← peek with
    | none => failAhead .endInValue
    | some _ => failAhead .invalidNumber
  else
    let s := s.addFraction ds
    match ← peek with
    | some 'e' | some 'E' => exponentPart positive s
    | _ => s.toFloat positive

/-- An integer; what is too large becomes a float, and so does minus zero. -/
def integerNumber (positive : Bool) (s : Significand) : JsonReader JsonNumber :=
  if s.exponent ≠ 0 then s.toFloat positive
  else if positive then pure (.natural s.value)
  else if 0 < s.value && s.value ≤ Nat.pow 2 63 then pure (.negative s.value)
  else pure (.float (-s.value.toUInt64.toFloat))

/-- Takes a number, from behind its sign on. -/
def number (positive : Bool) : JsonReader JsonNumber := do
  match ← peek with
  | none => fail .endInValue
  | some c =>
    match digit? c with
    | none => failAhead .invalidNumber
    | some d =>
      advance
      let more ← if d = 0 then
          match (← peek).bind digit? with
          | some _ => failAhead .invalidNumber
          | none => pure []
        else allDigits
      let s := Significand.addWhole ⟨d, 0⟩ more
      match ← peek with
      | some '.' => fractionPart positive s
      | some 'e' | some 'E' => exponentPart positive s
      | _ => integerNumber positive s

/-! ## Strings -/

/-- The value of a hexadecimal digit. -/
def hexDigit? (c : Char) : Option Nat :=
  if c.isDigit then some (c.toNat - '0'.toNat)
  else if 'a' ≤ c && c ≤ 'f' then some (c.toNat - 'a'.toNat + 10)
  else if 'A' ≤ c && c ≤ 'F' then some (c.toNat - 'A'.toNat + 10)
  else none

/-- The place some bytes further on, if there are as many. -/
def placeAfterBytes? : Nat → List Char → Nat → Nat → Option (Nat × Nat)
  | 0, _, line, column => some (line, column)
  | _ + 1, [], _, _ => none
  | n + 1, c :: rest, line, column =>
    if c = '\n' then placeAfterBytes? n rest (line + 1) 0
    else if c.utf8Size ≤ n + 1 then placeAfterBytes? (n + 1 - c.utf8Size) rest line (column + c.utf8Size)
    else some (line, column + n + 1)
termination_by _ rest => rest.length

/-- The input at its end. -/
def endOf : List Char → JsonInput → JsonInput
  | [], i => i
  | _ :: rest, i => endOf rest i.next

/-- Takes four hexadecimal digits. -/
def hexUnit : JsonReader Nat := do
  let i ← get
  match i.rest with
  | a :: b :: c :: d :: _ =>
    match hexDigit? a, hexDigit? b, hexDigit? c, hexDigit? d with
    | some a, some b, some c, some d =>
      set i.next.next.next.next
      pure (((a * 16 + b) * 16 + c) * 16 + d)
    | _, _, _, _ => refuse i
  | _ => refuse i
where
  /-- Refuses digits: behind the four bytes where they should be, or at the end. -/
  refuse (i : JsonInput) : JsonReader Nat :=
    match placeAfterBytes? 4 i.rest i.line i.column with
    | some place => throw ⟨.invalidEscape, some place⟩
    | none => do
      set (endOf i.rest i)
      fail .endInString

/-- Takes a character that has to be there, as the second half of a surrogate pair starts. -/
def pairChar (expected : Char) : JsonReader Unit := do
  match ← peek with
  | none => fail .endInString
  | some c => if c = expected then advance else failAhead .endInSurrogatePair

/-- Takes the number of a character, from behind the letter on. -/
def unicodeEscape : JsonReader Char := do
  let n ← hexUnit
  if 0xDC00 ≤ n && n ≤ 0xDFFF then fail .loneSurrogate
  else if n < 0xD800 || 0xDBFF < n then pure (Char.ofNat n)
  else
    pairChar '\\'
    pairChar 'u'
    let low ← hexUnit
    if low < 0xDC00 || 0xDFFF < low then fail .loneSurrogate
    else pure (Char.ofNat ((n - 0xD800) * 0x400 + (low - 0xDC00) + 0x10000))

/-- Takes what stands behind a backslash. -/
def escape : JsonReader Char := do
  match ← peek with
  | none => fail .endInString
  | some c =>
    match c with
    | '"' => advance; pure '"'
    | '\\' => advance; pure '\\'
    | '/' => advance; pure '/'
    | 'b' => advance; pure '\x08'
    | 'f' => advance; pure '\x0c'
    | 'n' => advance; pure '\n'
    | 'r' => advance; pure '\r'
    | 't' => advance; pure '\t'
    | 'u' => advance; unicodeEscape
    | _ => failAhead .invalidEscape

/-- Takes one character of a string, or the closing quote. -/
def stringChar : JsonReader (Option Char) := do
  match ← peek with
  | none => fail .endInString
  | some '"' => advance; pure none
  | some '\\' => advance; return some (← escape)
  | some c =>
    if c.toNat < 0x20 then failAhead .controlCharacter
    else
      advance
      pure (some c)

/-- Takes the characters of a string up to the closing quote. -/
def stringChars : Nat → JsonReader (List Char)
  | 0 => fail .endInString
  | fuel + 1 => do
    match ← stringChar with
    | none => pure []
    | some c => return c :: (← stringChars fuel)

/-- Takes a string, from behind the opening quote on. -/
def string : JsonReader String := do
  return String.ofList (← stringChars ((← get).rest.length + 1))

end JsonReader

end ScriptCensus
