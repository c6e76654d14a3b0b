/-!
# Punycode

Names with characters beyond ASCII are written in ASCII: the plain characters first, and then where
the others are to be inserted.
-/

namespace ScriptCensus.Punycode

/-- The number of digits. -/
def base : Nat := 36

/-- Adapts the bias to the last distance. -/
def adapt (delta count : Nat) (first : Bool) : Nat :=
  let delta := if first then delta / 700 else delta / 2
  loop 100 (delta + delta / count) 0
where
  /-- Divides the distance until it is small. -/
  loop : Nat → Nat → Nat → Nat
    | 0, _, k => k
    | fuel + 1, delta, k =>
      if delta > 455 then loop fuel (delta / 35) (k + base) else k + 36 * delta / (delta + 38)

/-- The threshold of a digit place. -/
def threshold (k bias : Nat) : Nat :=
  if k ≤ bias then 1 else if k ≥ bias + 26 then 26 else k - bias

/-- A digit. -/
def digitChar (d : Nat) : Char :=
  if d < 26 then Char.ofNat ('a'.toNat + d) else Char.ofNat ('0'.toNat + (d - 26))

/-- Writes a distance as digits of varying weight. -/
def digits (bias : Nat) : Nat → Nat → Nat → List Char
  | 0, _, _ => []
  | fuel + 1, k, q =>
    let t := threshold k bias
    if q < t then [digitChar q]
    else digitChar (t + (q - t) % (base - t)) :: digits bias fuel (k + base) ((q - t) / (base - t))

/-- What the encoder keeps between characters. -/
structure State where
  delta : Nat
  bias : Nat
  handled : Nat
  output : List Char

/-- Handles all characters of a name against the next code point to be inserted. -/
def insertAll (plain next : Nat) : List Char → State → State
  | [], s => s
  | c :: rest, s =>
    if c.toNat < next then insertAll plain next rest { s with delta := s.delta + 1 }
    else if c.toNat = next then
      insertAll plain next rest
        { delta := 0
          bias := adapt s.delta (s.handled + 1) (s.handled = plain)
          handled := s.handled + 1
          output := s.output ++ digits s.bias 100 base s.delta }
    else insertAll plain next rest s

/-- Inserts the characters from a code point on, in order of their code points. -/
def encodeFrom (name : List Char) (plain : Nat) : Nat → Nat → State → List Char
  | 0, _, s => s.output
  | fuel + 1, next, s =>
    match ((name.map Char.toNat).filter (next ≤ ·)).min? with
    | none => s.output
    | some m =>
      let s := { s with delta := s.delta + (m - next) * (s.handled + 1) }
      let s := insertAll plain m name s
      encodeFrom name plain fuel (m + 1) { s with delta := s.delta + 1 }

/-- Writes a name in ASCII. -/
def encode (name : List Char) : List Char :=
  let plain := name.filter (·.toNat < 0x80)
  let start := if plain.isEmpty then [] else plain ++ ['-']
  encodeFrom name plain.length (name.length + 1) 0x80 ⟨0, 72, plain.length, start⟩

end ScriptCensus.Punycode
