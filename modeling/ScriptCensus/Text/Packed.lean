/-!
# Packed numbers

Large tables are kept as texts. A number is written in base 32, most significant digit first; the
sixty-four digit characters come in two halves, and a digit of the upper half is followed by
another digit of the same number. `Packed.numbers` reads a text back, and `Packed.Reader` takes
numbers one after another from it. Characters that are no digits, such as line breaks, carry no
meaning.
-/

namespace ScriptCensus.Packed

/-- The value of a digit character. -/
def digit? (c : Char) : Option Nat :=
  if '0' ≤ c && c ≤ '9' then some (c.toNat - 48)
  else if 'A' ≤ c && c ≤ 'Z' then some (c.toNat - 55)
  else if 'a' ≤ c && c ≤ 'z' then some (c.toNat - 61)
  else if c = '-' then some 62
  else if c = '_' then some 63
  else none

/-- Adds one character to the numbers read so far and the number in progress. -/
def push : Array Nat × Nat → Char → Array Nat × Nat
  | (read, current), c =>
    match digit? c with
    | none => (read, current)
    | some d =>
      if d < 32 then (read.push (current * 32 + d), 0) else (read, current * 32 + (d - 32))

/-- The numbers that a text holds. -/
def numbers (text : String) : Array Nat :=
  (text.foldl push (#[], 0)).1

/-- Numbers that are taken one after another. -/
structure Reader where
  numbers : Array Nat
  position : Nat

/-- Takes the next number; past the end there are only zeros. -/
def next : StateM Reader Nat := do
  let r ← get
  set { r with position := r.position + 1 }
  return r.numbers.getD r.position 0

/-- Takes a count and then that many items. -/
def many {α : Type} (item : StateM Reader α) : StateM Reader (Array α) := do
  let count ← next
  let mut items := #[]
  for _ in [0:count] do
    items := items.push (← item)
  return items

/-- Reads a whole text. -/
def read {α : Type} (item : StateM Reader α) (text : String) : α :=
  (item.run ⟨numbers text, 0⟩).1

end ScriptCensus.Packed
