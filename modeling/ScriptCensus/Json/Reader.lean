import ScriptCensus.Json.Input

/-!
# Reading JSON values

`JsonReader.value` takes any value, `JsonReader.skip` takes one without looking at it. `readJson`
reads a whole text.
-/

namespace ScriptCensus.JsonReader

/-- The most brackets that may be open at once. -/
def nestingLimit : Nat := 127

/-- Goes on one level deeper, if that is allowed. -/
def deeper {α : Type} (levels : Nat) (body : Nat → JsonReader α) : JsonReader α :=
  match levels with
  | 0 => failAhead .recursionLimit
  | fewer + 1 => body fewer

/-- Takes an opening bracket, what is inside, and the closing bracket. The input goes on to the closing
bracket also after a fault inside, which is the fault that counts. -/
def enclosed {α : Type} (body : JsonReader α) (close : JsonReader Unit) : JsonReader α := do
  advance
  let inside ← outcome body
  let closed ← outcome close
  match inside, closed with
  | .ok a, .ok _ => pure a
  | .error f, _ => throw f
  | .ok _, .error f => throw f

/-- Takes the end of an array. -/
def closeArray : JsonReader Unit := do
  match ← peekToken with
  | some ']' => advance
  | some ',' =>
    advance
    match ← peekToken with
    | some ']' => failAhead .trailingComma
    | _ => failAhead .trailingCharacters
  | some _ => failAhead .trailingCharacters
  | none => failAhead .endInList

/-- Takes the end of an object. -/
def closeObject : JsonReader Unit := do
  match ← peekToken with
  | some '\x7d' => advance
  | some ',' => failAhead .trailingComma
  | some _ => failAhead .trailingCharacters
  | none => failAhead .endInObject

/-- Whether an array has a further item; takes the comma before it. -/
def hasItem (first : Bool) : JsonReader Bool := do
  match ← peekToken with
  | none => failAhead .endInList
  | some ']' => pure false
  | some c =>
    if first then pure true
    else if c = ',' then
      advance
      match ← peekToken with
      | some ']' => failAhead .trailingComma
      | some _ => pure true
      | none => failAhead .endInValue
    else failAhead .expectedListCommaOrEnd

/-- Whether an object has a further member; takes the comma before it. -/
def hasMember (first : Bool) : JsonReader Bool := do
  match ← peekToken with
  | none => failAhead .endInObject
  | some '\x7d' => pure false
  | some c =>
    if first then
      if c = '"' then pure true else failAhead .keyMustBeString
    else if c = ',' then
      advance
      match ← peekToken with
      | some '"' => pure true
      | some '\x7d' => failAhead .trailingComma
      | some _ => failAhead .keyMustBeString
      | none => failAhead .endInValue
    else failAhead .expectedObjectCommaOrEnd

/-- Takes the key of a member, from its opening quote on. -/
def key : JsonReader String := do
  advance
  string

/-- Takes the colon behind a key. -/
def colon : JsonReader Unit := do
  match ← peekToken with
  | some ':' => advance
  | some _ => failAhead .expectedColon
  | none => failAhead .endInObject

/-- Takes items one after another. -/
def items {α : Type} (item : JsonReader α) : Nat → Bool → JsonReader (List α)
  | 0, _ => failAhead .endInList
  | fuel + 1, first => do
    if ← hasItem first then
      let a ← item
      return a :: (← items item fuel false)
    else pure []

/-- Takes members one after another, each of them changing a state. -/
def members {σ : Type} (memberOf : String → σ → JsonReader σ) : Nat → Bool → σ → JsonReader σ
  | 0, _, _ => failAhead .endInObject
  | fuel + 1, first, s => do
    if ← hasMember first then
      let s ← memberOf (← key) s
      members memberOf fuel false s
    else pure s

/-- Enough steps for what is left of the input. -/
def enough : JsonReader Nat := do
  return (← get).rest.length + 1

/-- Takes a number or a word of which the first character is known. -/
def scalar (first : Char) : JsonReader JsonValue := do
  match first with
  | 'n' => advance; word ['u', 'l', 'l']; pure .null
  | 't' => advance; word ['r', 'u', 'e']; pure (.bool true)
  | 'f' => advance; word ['a', 'l', 's', 'e']; pure (.bool false)
  | '-' => advance; return .number (← number false)
  | '"' => advance; return .string (← string)
  | c => if c.isDigit then return .number (← number true) else failAhead .expectedValue

/-- Takes any value, given how to take the values inside it if brackets may be opened at all. -/
def valueOver (inner? : Option (JsonReader JsonValue)) : JsonReader JsonValue := do
  match ← peekToken with
  | none => failAhead .endInValue
  | some '[' =>
    match inner? with
    | none => failAhead .recursionLimit
    | some inner => enclosed (do return .array (← items inner (← enough) true)) closeArray
  | some '\x7b' =>
    match inner? with
    | none => failAhead .recursionLimit
    | some inner =>
      enclosed (do return .object (← members (addMember inner) (← enough) true [])) closeObject
  | some c => scalar c
where
  /-- Takes the value of a member. -/
  addMember (inner : JsonReader JsonValue) (k : String) (ms : List (String × JsonValue)) :
      JsonReader (List (String × JsonValue)) := do
    colon
    return JsonValue.insertMember k (← inner) ms

/-- Takes any value with at most the given number of brackets open at once. -/
def value : Nat → JsonReader JsonValue
  | 0 => valueOver none
  | levels + 1 => valueOver (some (value levels))

/-! ## Skipping -/

/-- What encloses a value. -/
inductive Bracket where
  | square
  | curly
deriving DecidableEq

/-- The closing bracket. -/
def Bracket.close : Bracket → Char
  | square => ']'
  | curly => '\x7d'

/-- Takes a number without looking at its size, from behind its sign on. -/
def skipNumber : JsonReader Unit := do
  match ← peek with
  | none => fail .invalidNumber
  | some c =>
    match digit? c with
    | none => failAhead .invalidNumber
    | some d =>
      advance
      if d = 0 then
        match (← peek).bind digit? with
        | some _ => failAhead .invalidNumber
        | none => pure ()
      else
        let _ ← allDigits
      match ← peek with
      | some '.' =>
        advance
        if (← allDigits).isEmpty then failAhead .invalidNumber
        match ← peek with
        | some 'e' | some 'E' => skipExponent
        | _ => pure ()
      | some 'e' | some 'E' => skipExponent
      | _ => pure ()
where
  /-- Takes a power of ten, from its letter on. -/
  skipExponent : JsonReader Unit := do
    advance
    match ← peek with
    | some '+' | some '-' => advance
    | _ => pure ()
    match ← peek with
    | none => fail .invalidNumber
    | some c =>
      match digit? c with
      | none => failAhead .invalidNumber
      | some _ => let _ ← allDigits

/-- Takes one character of a string without looking at what it stands for; false at the closing
quote. -/
def skipStringChar : JsonReader Bool := do
  match ← peek with
  | none => fail .endInString
  | some '"' => advance; pure false
  | some '\\' =>
    advance
    match ← peek with
    | none => fail .endInString
    | some c =>
      if ['"', '\\', '/', 'b', 'f', 'n', 'r', 't'].contains c then
        advance
        pure true
      else if c = 'u' then
        advance
        let _ ← hexUnit
        pure true
      else failAhead .invalidEscape
  | some c =>
    if c.toNat < 0x20 then failAhead .controlCharacter
    else
      advance
      pure true

/-- Takes the rest of a string without looking at it. -/
def skipString : Nat → JsonReader Unit
  | 0 => fail .endInString
  | fuel + 1 => do
    if ← skipStringChar then skipString fuel else pure ()

/-- Takes a number, string or word without looking at it. -/
def skipScalar (first : Char) : JsonReader Unit := do
  match first with
  | '-' => advance; skipNumber
  | '"' => advance; skipString (← enough)
  | c => if c.isDigit then skipNumber else let _ ← scalar c

mutual

/-- Takes a value without looking at it, and then the rest of what encloses it. -/
def skipValue : Nat → List Bracket → JsonReader Unit
  | 0, _ => failAhead .endInValue
  | fuel + 1, enclosing => do
    match ← peekToken with
    | none => failAhead .endInValue
    | some '[' => advance; skipInside fuel .square true enclosing
    | some '\x7b' => advance; skipInside fuel .curly true enclosing
    | some c =>
      skipScalar c
      match enclosing with
      | [] => pure ()
      | b :: outer => skipInside fuel b false outer

/-- Goes on inside a bracket, of which nothing (`opened`) or a value was just taken. -/
def skipInside : Nat → Bracket → Bool → List Bracket → JsonReader Unit
  | 0, _, _, _ => failAhead .endInValue
  | fuel + 1, b, opened, outer => do
    match ← peekToken with
    | none => failAhead (if b = .square then .endInList else .endInObject)
    | some c =>
      if c = b.close then
        advance
        match outer with
        | [] => pure ()
        | b' :: outer' => skipInside fuel b' false outer'
      else if opened then skipMember fuel b outer
      else if c = ',' then
        advance
        skipMember fuel b outer
      else failAhead (if b = .square then .expectedListCommaOrEnd else .expectedObjectCommaOrEnd)

/-- Takes an item or member inside a bracket. -/
def skipMember : Nat → Bracket → List Bracket → JsonReader Unit
  | 0, _, _ => failAhead .endInValue
  | fuel + 1, b, outer => do
    if b = .curly then
      match ← peekToken with
      | some '"' =>
        advance
        skipString (← enough)
        colon
      | some _ => failAhead .keyMustBeString
      | none => failAhead .endInObject
    skipValue fuel (b :: outer)

end

/-- Takes any value without looking at it. -/
def skip : JsonReader Unit := do
  skipValue (3 * (← enough)) []

/-! ## Whole texts -/

/-- Takes the end of the text. -/
def finish : JsonReader Unit := do
  match ← peekToken with
  | none => pure ()
  | some _ => failAhead .trailingCharacters

/-- Reads a whole text. -/
def readAll {α : Type} (r : JsonReader α) (text : String) : Except JsonFault α :=
  let reader : JsonReader α := do
    let a ← r
    finish
    pure a
  (reader.run.run (JsonInput.ofString text)).1

end ScriptCensus.JsonReader

namespace ScriptCensus

/-- The value that a JSON text stands for. -/
def readJson (text : String) : Except JsonFault JsonValue :=
  JsonReader.readAll (JsonReader.value JsonReader.nestingLimit) text

end ScriptCensus
