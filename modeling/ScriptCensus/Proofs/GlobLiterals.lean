import ScriptCensus.Glob.Match
import ScriptCensus.Glob.Parse

/-!
# Globs of plain characters

Matching goes by bytes. A list of literal tokens takes the bytes of its characters off the front of a
path (`Glob.remainders_literals`), so a group with one such list as its only branch matches exactly one
path (`Glob.isMatch_quoted`). Every text can be written as such a group, by a backslash before each of
its characters (`Glob.parseChars_quoted`).
-/

namespace ScriptCensus.Glob

/-! ## Bytes -/

theorem bytesOf_append (s t : String) : bytesOf (s ++ t) = bytesOf s ++ bytesOf t := by
  simp [bytesOf]

theorem bytesOf_injective {s t : String} (h : bytesOf s = bytesOf t) : s = t := by
  rw [← String.toByteArray_inj, ← String.toUTF8_eq_toByteArray, ← String.toUTF8_eq_toByteArray]
  exact ByteArray.ext (Array.ext' h)

theorem bytesOf_cons (c : Char) (cs : List Char) :
    bytesOf (String.ofList (c :: cs)) = bytesOfChar c ++ bytesOf (String.ofList cs) := by
  rw [bytesOfChar, ← bytesOf_append, String.singleton_eq_ofList, ← String.ofList_append,
    List.singleton_append]

theorem dropFront?_eq_some_iff {rest : List UInt8} : ∀ {front path : List UInt8},
    dropFront? front path = some rest ↔ path = front ++ rest
  | [], path => by simp [dropFront?]
  | b :: front, [] => by simp [dropFront?]
  | b :: front, c :: path => by
    have ih : dropFront? front path = some rest ↔ path = front ++ rest := dropFront?_eq_some_iff
    by_cases h : b = c
    · simp [dropFront?, h, ih]
    · simp [dropFront?, h, Ne.symm h]

theorem dropFront?_append (front more path : List UInt8) :
    dropFront? (front ++ more) path = (dropFront? front path).bind (dropFront? more) := by
  ext rest
  simp only [Option.bind_eq_some_iff, dropFront?_eq_some_iff, List.append_assoc]
  constructor
  · exact fun h => ⟨more ++ rest, h, rfl⟩
  · rintro ⟨_, h, rfl⟩
    exact h

/-! ## Literal tokens -/

theorem distinct_toList (rest? : Option (List UInt8)) : distinct rest?.toList = rest?.toList := by
  cases rest? <;> rfl

/-- Literal tokens take the bytes of their characters off the front. -/
theorem remainders_literals (rest? : Option (List UInt8)) (cs : List Char) :
    remainders rest?.toList (cs.map .literal) =
      (rest?.bind (dropFront? (bytesOf (String.ofList cs)))).toList := by
  induction cs generalizing rest? with
  | nil => cases rest? <;> rfl
  | cons c cs ih =>
    have hstep : (rest?.toList.flatMap fun path => tokenRemainders path (.literal c)) =
        (rest?.bind (dropFront? (bytesOfChar c))).toList := by
      cases rest? <;> simp [tokenRemainders]
    rw [List.map_cons, remainders, hstep, distinct_toList, ih, bytesOf_cons, Option.bind_assoc]
    cases rest? with
    | none => rfl
    | some path => rw [Option.bind_some, Option.bind_some, dropFront?_append]

theorem isSilent_literals (cs : List Char) : isSilent (cs.map .literal) = cs.isEmpty := by
  cases cs <;> simp [isSilent, isSilentToken]

/-- A group of one list of literal tokens matches one path only. -/
theorem isMatch_quoted (cs : List Char) (path : String) :
    isMatch [.either [cs.map .literal]] path = true ↔ path = String.ofList cs := by
  have hgroup : tokenRemainders (bytesOf path) (.either [cs.map .literal]) =
      (dropFront? (bytesOf (String.ofList cs)) (bytesOf path)).toList := by
    have hlit := remainders_literals (some (bytesOf path)) cs
    rw [Option.toList_some, Option.bind_some] at hlit
    rw [tokenRemainders, areSilent, areSilent, branchRemainders, branchRemainders, hlit,
      isSilent_literals]
    cases cs <;> simp [bytesOf, dropFront?]
  have hmatch : isMatch [.either [cs.map .literal]] path =
      (dropFront? (bytesOf (String.ofList cs)) (bytesOf path)).toList.any (·.isEmpty) := by
    rw [isMatch, remainders, remainders, List.flatMap_singleton, hgroup, distinct_toList]
    exact fun h => by simp at h
  rw [hmatch]
  constructor
  · intro h
    obtain ⟨rest, hrest, hempty⟩ := List.any_eq_true.1 h
    rw [Option.mem_toList, dropFront?_eq_some_iff, List.isEmpty_iff.1 hempty, List.append_nil] at hrest
    exact bytesOf_injective hrest
  · rintro rfl
    rw [dropFront?_eq_some_iff.2 (List.append_nil _).symm]
    rfl

/-! ## Quoting -/

/-- A backslash before each character. -/
def escaped (cs : List Char) : List Char :=
  cs.flatMap fun c => ['\\', c]

/-- Characters as a group of one branch, each with a backslash before it. -/
def quoted (cs : List Char) : List Char :=
  '\x7b' :: (escaped cs ++ ['\x7d'])

/-- Reading characters with backslashes before them adds literal tokens. -/
theorem parseFrom_escaped (lenient : Bool) (rest : List Char) :
    ∀ (cs : List Char) (previous : Option Char) (s : State),
      ∃ last, parseFrom lenient 0 previous s (escaped cs ++ rest) =
        parseFrom lenient 0 last { s with tokens := (cs.map .literal).reverse ++ s.tokens } rest
  | [], previous, s => ⟨previous, rfl⟩
  | c :: cs, previous, s => by
    obtain ⟨last, h⟩ := parseFrom_escaped lenient rest cs (some c) (s.push (.literal c))
    refine ⟨last, ?_⟩
    have hstep : parseFrom lenient 0 previous s (escaped (c :: cs) ++ rest) =
        parseFrom lenient 0 (some c) (s.push (.literal c)) (escaped cs ++ rest) := rfl
    rw [hstep, h]
    simp [State.push]

theorem parseChars_quoted (lenient : Bool) (cs : List Char) :
    parseChars lenient (quoted cs) = .ok [.either [cs.map .literal]] := by
  obtain ⟨last, h⟩ := parseFrom_escaped lenient ['\x7d'] cs (some '\x7b') ⟨[], [⟨[], []⟩], false⟩
  have hopen : parseFrom lenient 0 none ⟨[], [], false⟩ (quoted cs) =
      parseFrom lenient 0 (some '\x7b') ⟨[], [⟨[], []⟩], false⟩ (escaped cs ++ ['\x7d']) := rfl
  rw [parseChars, hopen, h]
  simp [parseFrom, step, State.closeGroup, Except.map]

end ScriptCensus.Glob
