import ScriptCensus.Json.Reader

/-!
# Shapes of JSON texts

A `Shape α` describes how values of a type are written in JSON: which brackets, which keys in which
order, which keys may be left out. From one description come the value that is written
(`Shape.toValue`), the reader of texts (`Shape.read`), and the reader of values (`Shape.ofValue`).
-/

namespace ScriptCensus

mutual

/-- How values of a type are written. -/
inductive Shape : Type → Type 1 where
  /-- A string, called as given where something else is found. -/
  | text (expected : String) : Shape String
  /-- A number below a power of two. -/
  | natural (bits : Nat) : Shape Nat
  | boolean : Shape Bool
  /-- The value itself, or null. -/
  | optional {α : Type} (item : Shape α) : Shape (Option α)
  | list {α : Type} (item : Shape α) : Shape (List α)
  /-- The name of one of some options. -/
  | choice {α : Type} (options : List α) (name : α → String) : Shape α
  /-- An object, or an array with the values of its members in order. A closed record has no other
  members. -/
  | record {α : Type} (name : String) (closed : Bool) (fields : Fields α) : Shape α
  /-- A type whose values correspond to those of another one. -/
  | mapped {α β : Type} (shape : Shape α) (wrap : α → β) (unwrap : β → α) : Shape β

/-- The members of a record, in order. -/
inductive Fields : Type → Type 1 where
  | nil : Fields Unit
  /-- A member, and its value if it is left out. -/
  | cons {α β : Type} (key : String) (absent? : Option α) (item : Shape α) (rest : Fields β) :
      Fields (α × β)

end

namespace Fields

/-- The keys of the members. -/
def keys {α : Type} : Fields α → List String
  | nil => []
  | cons key _ _ rest => key :: rest.keys

/-- The values of members that were found so far. -/
def Slots {α : Type} : Fields α → Type
  | nil => Unit
  | @cons α _ _ _ _ rest => Option α × rest.Slots

/-- The value of the first member, if it was found. -/
def Slots.first {α β : Type} {key : String} {absent? : Option α} {item : Shape α} {rest : Fields β}
    (slots : (cons key absent? item rest).Slots) : Option α :=
  Prod.fst slots

/-- The values of the members behind the first. -/
def Slots.others {α β : Type} {key : String} {absent? : Option α} {item : Shape α} {rest : Fields β}
    (slots : (cons key absent? item rest).Slots) : rest.Slots :=
  Prod.snd slots

/-- No member was found yet. -/
def noSlots {α : Type} : (fields : Fields α) → fields.Slots
  | nil => ()
  | cons _ _ _ rest => (none, rest.noSlots)

/-- The record when all members were seen; a member that was left out has its given value. -/
def fill {α : Type} : (fields : Fields α) → fields.Slots → Except JsonCause α
  | nil, _ => .ok ()
  | cons key absent? _ rest, slots =>
    match (Slots.first slots).or absent? with
    | none => .error (.missingField key)
    | some a =>
      match rest.fill (Slots.others slots) with
      | .error e => .error e
      | .ok b => .ok (a, b)

end Fields

/-! ## Writing -/

mutual

/-- The JSON value that a value is written as. -/
def Shape.toValue : {α : Type} → Shape α → α → JsonValue
  | _, .text _, s => .string s
  | _, .natural _, n => .number (.natural n)
  | _, .boolean, b => .bool b
  | _, .optional _, none => .null
  | _, .optional item, some a => item.toValue a
  | _, .list item, as => .array (as.map item.toValue)
  | _, .choice _ name, a => .string (name a)
  | _, .record _ _ fields, a => .object (fields.toMembers a)
  | _, .mapped shape _ unwrap, b => shape.toValue (unwrap b)

/-- The members that a record is written with. -/
def Fields.toMembers : {α : Type} → Fields α → α → List (String × JsonValue)
  | _, .nil, _ => []
  | _, .cons key _ item rest, (a, b) => (key, item.toValue a) :: rest.toMembers b

end

/-! ## Messages -/

namespace JsonReader

/-- The wording of a shape that was expected of a number. -/
def naturalName (bits : Nat) : String := s!"u{bits}"

/-- Fits a number into a number of bits. -/
def naturalOf (bits : Nat) : JsonNumber → Except JsonCause Nat
  | .natural n =>
    if n < Nat.pow 2 bits then .ok n
    else .error (.invalidValue (.number (.natural n)) (naturalName bits))
  | .negative n => .error (.invalidValue (.number (.negative n)) (naturalName bits))
  | .float f => .error (.invalidType (.number (.float f)) (naturalName bits))

/-- The option of a name. -/
def optionOf {α : Type} (options : List α) (name : α → String) (s : String) : Except JsonCause α :=
  match options.find? (name · == s) with
  | some a => .ok a
  | none => .error (.unknownVariant s (options.map name))

/-- The wording for an array that is too short for a record. -/
def tooShort (name : String) (found fieldCount : Nat) : JsonCause :=
  .invalidLength found s!"struct {name} with {fieldCount} elements"

/-- Gives a result, or refuses the text at a place that is not known yet. -/
def orRefuse {α : Type} : Except JsonCause α → JsonReader α
  | .ok a => pure a
  | .error cause => failSomewhere cause

/-- Takes what is there instead of something expected, and refuses it. -/
def refuseType {α : Type} (expected : String) : JsonReader α := do
  match ← peek with
  | some '[' => failSomewhere (.invalidType .sequence expected)
  | some '\x7b' => failSomewhere (.invalidType .map expected)
  | some c =>
    match ← scalar c with
    | .null => failSomewhere (.invalidType .null expected)
    | .bool b => failSomewhere (.invalidType (.boolean b) expected)
    | .number n => failSomewhere (.invalidType (.number n) expected)
    | .string s => failSomewhere (.invalidType (.string s) expected)
    | _ => failAhead .expectedValue
  | none => failAhead .expectedValue

/-- Looks at the next character that is no blank, of which there has to be one. -/
def token : JsonReader Char := do
  match ← peekToken with
  | some c => pure c
  | none => failAhead .endInValue

/-! ## Reading texts -/

/-- Takes a string, called as given. -/
def textOf (expected : String) : JsonReader String := located do
  match ← token with
  | '"' => advance; string
  | _ => refuseType expected

/-- Takes a number below a power of two. -/
def naturalBelow (bits : Nat) : JsonReader Nat := located do
  match ← token with
  | '-' =>
    advance
    orRefuse (naturalOf bits (← number false))
  | c =>
    if c.isDigit then orRefuse (naturalOf bits (← number true)) else refuseType (naturalName bits)

/-- Takes true or false. -/
def truth : JsonReader Bool := located do
  match ← token with
  | 't' => advance; word ['r', 'u', 'e']; pure true
  | 'f' => advance; word ['a', 'l', 's', 'e']; pure false
  | _ => refuseType "a boolean"

/-- Takes null, called as given. -/
def nothing : JsonReader Unit := located do
  match ← token with
  | 'n' => advance; word ['u', 'l', 'l']
  | _ => refuseType "unit"

/-- Takes an array of items. -/
def listOf {α : Type} (item : Nat → JsonReader α) (levels : Nat) : JsonReader (List α) := located do
  match ← token with
  | '[' =>
    deeper levels fun fewer => enclosed (do items (item fewer) (← enough) true) closeArray
  | _ => refuseType "a sequence"

/-- Takes a record, given how to take its members from an object and from an array. -/
def recordOf {α : Type} (name : String) (fromObject fromArray : Nat → JsonReader α) (levels : Nat) :
    JsonReader α := located do
  match ← token with
  | '[' => deeper levels fun fewer => enclosed (fromArray fewer) closeArray
  | '\x7b' => deeper levels fun fewer => enclosed (fromObject fewer) closeObject
  | _ => refuseType ("struct " ++ name)

/-- Takes the members of an object, given how to take a member that is known. -/
def knownMembers {σ : Type} (known? : String → σ → Option (JsonReader σ)) (closed : Bool)
    (keys : List String) (start : σ) : JsonReader σ := do
  members memberOf (← enough) true start
where
  /-- Takes a member. -/
  memberOf (key : String) (s : σ) : JsonReader σ :=
    match known? key s with
    | some reader => reader
    | none =>
      if closed then failSomewhere (.unknownField key keys)
      else do
        colon
        skip
        pure s

/-- Takes the name of an option: a string, or an object with that string as its key and null as its
value. -/
def optionName {α : Type} (levels : Nat) (options : List α) (name : α → String) : JsonReader α := do
  match ← token with
  | '"' => nameOf
  | '\x7b' => deeper levels fun _ => soleKey
  | _ => failAhead .expectedValue
where
  /-- Takes an object with the name as its only key. -/
  soleKey : JsonReader α := do
    advance
    let a ← nameOf
    colon
    nothing
    match ← peekToken with
    | some '\x7d' => advance; pure a
    | some _ => fail .expectedValue
    | none => fail .endInObject
  /-- Takes the name itself. -/
  nameOf : JsonReader α := located do
    match ← token with
    | '"' => advance; orRefuse (optionOf options name (← string))
    | _ => refuseType "variant identifier"

end JsonReader

mutual

/-- Takes a value of a shape, with at most the given number of brackets open at once. -/
def Shape.read : {α : Type} → Shape α → Nat → JsonReader α
  | _, .text expected, _ => JsonReader.textOf expected
  | _, .natural bits, _ => JsonReader.naturalBelow bits
  | _, .boolean, _ => JsonReader.truth
  | _, .optional item, levels => do
    match ← JsonReader.peekToken with
    | some 'n' =>
      JsonReader.advance
      JsonReader.word ['u', 'l', 'l']
      pure none
    | _ => return some (← item.read levels)
  | _, .list item, levels => JsonReader.listOf (fun fewer => item.read fewer) levels
  | _, .choice options name, levels => JsonReader.optionName levels options name
  | _, .record name closed fields, levels =>
    JsonReader.recordOf name
      (fun fewer => do
        let known? := fun key slots => fields.readMember fewer key slots
        let slots ← JsonReader.knownMembers known? closed fields.keys fields.noSlots
        JsonReader.orRefuse (fields.fill slots))
      (fun fewer => fields.readItems name fields.keys.length fewer 0) levels
  | _, .mapped shape wrap _, levels => do
    return wrap (← shape.read levels)

/-- Takes the value of a member and puts it in its place; none if there is no member of that key. -/
def Fields.readMember : {α : Type} → (fields : Fields α) → Nat → String → fields.Slots →
    Option (JsonReader fields.Slots)
  | _, .nil, _, _, _ => none
  | _, .cons key _ item rest, levels, k, slots =>
    let first := Fields.Slots.first slots
    let others := Fields.Slots.others slots
    if k = key then
      some do
        if first.isSome then JsonReader.failSomewhere (.duplicateField key)
        else
          JsonReader.colon
          return (some (← item.read levels), others)
    else
      (rest.readMember levels k others).map fun reader => do
        return (first, ← reader)

/-- Takes the members of a record as the items of an array; a member that may be left out may be
missing at the end. -/
def Fields.readItems : {α : Type} → Fields α → String → Nat → Nat → Nat → JsonReader α
  | _, .nil, _, _, _, _ => pure ()
  | _, .cons _ absent? item rest, name, count, levels, index => do
    if ← JsonReader.hasItem (index = 0) then
      let a ← item.read levels
      return (a, ← rest.readItems name count levels (index + 1))
    else
      match absent? with
      | some a => return (a, ← rest.readItems name count levels (index + 1))
      | none => JsonReader.failSomewhere (JsonReader.tooShort name index count)

end

/-- Reads a whole text of a shape. -/
def Shape.readText {α : Type} (shape : Shape α) (text : String) : Except JsonFault α :=
  JsonReader.readAll (shape.read JsonReader.nestingLimit) text

/-! ## Reading values -/

/-- What a value is where another kind of value was expected. -/
def JsonValue.found : JsonValue → JsonFound
  | .null => .null
  | .bool b => .boolean b
  | .number n => .number n
  | .string s => .string s
  | .array _ => .sequence
  | .object _ => .map

/-- Fits all items of a list, up to the first that does not fit. -/
def JsonReader.fitAll {α β : Type} (fit : α → Except JsonCause β) : List α → Except JsonCause (List β)
  | [] => .ok []
  | a :: as =>
    match fit a with
    | .error e => .error e
    | .ok b =>
      match fitAll fit as with
      | .error e => .error e
      | .ok bs => .ok (b :: bs)

mutual

/-- Fits a JSON value into a shape. -/
def Shape.ofValue : {α : Type} → Shape α → JsonValue → Except JsonCause α
  | _, .text expected, v =>
    match v with
    | .string s => .ok s
    | v => .error (.invalidType v.found expected)
  | _, .natural bits, v =>
    match v with
    | .number n => JsonReader.naturalOf bits n
    | v => .error (.invalidType v.found (JsonReader.naturalName bits))
  | _, .boolean, v =>
    match v with
    | .bool b => .ok b
    | v => .error (.invalidType v.found "a boolean")
  | _, .optional item, v =>
    match v with
    | .null => .ok none
    | v => (item.ofValue v).map some
  | _, .list item, v =>
    match v with
    | .array vs => JsonReader.fitAll item.ofValue vs
    | v => .error (.invalidType v.found "a sequence")
  | _, .choice options name, v =>
    match v with
    | .string s => JsonReader.optionOf options name s
    | .object [(s, .null)] => JsonReader.optionOf options name s
    | v => .error (.invalidType v.found "string or map")
  | _, .record name closed fields, v =>
    match v with
    | .array vs =>
      match fields.ofItems name fields.keys.length 0 vs with
      | .error e => .error e
      | .ok (a, []) => .ok a
      | .ok (_, _ :: _) => .error (.invalidLength vs.length "fewer elements in array")
    | .object members =>
      let memberOf (slots : Except JsonCause fields.Slots) (m : String × JsonValue) :
          Except JsonCause fields.Slots :=
        match slots with
        | .error e => .error e
        | .ok slots =>
          match fields.ofMember m.1 m.2 slots with
          | some result => result
          | none => if closed then .error (.unknownField m.1 fields.keys) else .ok slots
      match members.foldl memberOf (.ok fields.noSlots) with
      | .error e => .error e
      | .ok slots => fields.fill slots
    | v => .error (.invalidType v.found ("struct " ++ name))
  | _, .mapped shape wrap _, v => (shape.ofValue v).map wrap

/-- Fits the value of a member into its place; none if there is no member of that key. -/
def Fields.ofMember : {α : Type} → (fields : Fields α) → String → JsonValue → fields.Slots →
    Option (Except JsonCause fields.Slots)
  | _, .nil, _, _, _ => none
  | _, .cons key _ item rest, k, v, slots =>
    let first := Fields.Slots.first slots
    let others := Fields.Slots.others slots
    if k = key then
      if first.isSome then some (.error (.duplicateField key))
      else some ((item.ofValue v).map fun a => (some a, others))
    else (rest.ofMember k v others).map fun result => result.map fun others => (first, others)

/-- Fits items into the members of a record; gives those that are left over. -/
def Fields.ofItems : {α : Type} → Fields α → String → Nat → Nat → List JsonValue →
    Except JsonCause (α × List JsonValue)
  | _, .nil, _, _, _, vs => .ok ((), vs)
  | _, .cons _ absent? item rest, name, count, index, vs =>
    match vs with
    | v :: vs =>
      match item.ofValue v with
      | .error e => .error e
      | .ok a =>
        match rest.ofItems name count (index + 1) vs with
        | .error e => .error e
        | .ok (b, left) => .ok ((a, b), left)
    | [] =>
      match absent? with
      | some a =>
        match rest.ofItems name count (index + 1) [] with
        | .error e => .error e
        | .ok (b, left) => .ok ((a, b), left)
      | none => .error (JsonReader.tooShort name index count)

end

/-- What is not null is the value itself. -/
theorem Shape.ofValue_optional {α : Type} {item : Shape α} {v : JsonValue} (hv : v ≠ .null) :
    (Shape.optional item).ofValue v = (item.ofValue v).map some := by
  rw [Shape.ofValue]
  exact hv

end ScriptCensus
