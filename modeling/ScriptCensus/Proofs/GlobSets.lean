import ScriptCensus.Ignore.Matcher
import ScriptCensus.Proofs.InnerGlobs

/-!
# Sets of globs

The globs of some rules are asked all together or not at all (`Glob.mem_asked_iff`). If automata may
become as large as they like, a set is asked exactly if none of its globs is nested too deeply
(`Glob.compiles_unlimited_iff`). The glob of some directories is nested no deeper than that of what is
inside them (`Glob.nesting_le_of_inside`), so that then it is enough that the globs for paths are asked
(`IgnoreRuleSet.directories_compile`). Braces around a glob nest it as deeply as there are braces
(`Glob.nesting_inBraces`).
-/

namespace ScriptCensus

namespace Glob

variable {limit : SizeLimit} {globs globs' : List (List GlobToken)}

/-! ## Which sets are asked -/

theorem compiles_iff : compiles limit globs = true ↔
    (∀ glob ∈ globs, nesting glob ≤ maxNesting) ∧
      (globs = [] ∨ limit.exceededBy globs = false) := by
  simp [compiles]

/-- Where automata may become as large as they like, only the nesting counts. -/
theorem compiles_unlimited_iff :
    compiles {} globs = true ↔ ∀ glob ∈ globs, nesting glob ≤ maxNesting := by
  simp [compiles_iff]

@[simp] theorem asked_nil (limit : SizeLimit) : asked limit [] = [] := rfl

theorem asked_of_compiles (h : compiles limit globs = true) : asked limit globs = globs :=
  if_pos h

theorem asked_of_not_compiles (h : compiles limit globs = false) : asked limit globs = [] :=
  if_neg (by simp [h])

/-- More is asked of more globs, unless they cannot be compiled any more. -/
theorem asked_subset_asked (hsubset : globs' ⊆ globs)
    (h : compiles limit globs' = true → compiles limit globs = true) :
    asked limit globs' ⊆ asked limit globs := by
  by_cases hcompiles : compiles limit globs' = true
  · rw [asked_of_compiles hcompiles, asked_of_compiles (h hcompiles)]
    exact hsubset
  · rw [asked_of_not_compiles (Bool.eq_false_iff.2 hcompiles)]
    exact List.nil_subset _

theorem mem_asked_iff {glob : List GlobToken} :
    glob ∈ asked limit globs ↔ compiles limit globs = true ∧ glob ∈ globs := by
  unfold asked
  split <;> simp_all

/-! ## How deeply globs are nested -/

theorem levels_append (s t : List GlobToken) : levels (s ++ t) = max (levels s) (levels t) := by
  induction s with
  | nil => simp [levels]
  | cons u s ih => rw [List.cons_append, levels, levels, ih, Nat.max_assoc]

theorem levels_literals (cs : List Char) : levels (cs.map .literal) = 0 := by
  induction cs with
  | nil => rfl
  | cons c cs ih => simp [levels, tokenLevels, ih]

theorem grouped_le (parts levels : Nat) : grouped parts levels ≤ levels + 1 := by
  unfold grouped
  split <;> omega

theorem nesting_eq {tokens : List GlobToken} (h : tokens ≠ [.depthBefore]) :
    nesting tokens = levels tokens + 1 := by
  unfold nesting
  split
  · exact absurd rfl h
  · rfl

theorem nesting_le (tokens : List GlobToken) : nesting tokens ≤ levels tokens + 1 := by
  by_cases h : tokens = [.depthBefore]
  · subst h
    decide
  · rw [nesting_eq h]

/-- The glob of some directories is nested no deeper than that of what is inside them. -/
theorem nesting_le_of_inside {cs : List Char} {glob inside : List GlobToken}
    (h : parseChars false cs = .ok glob)
    (hinside : parseChars false (cs ++ "/**".toList) = .ok inside) :
    nesting glob ≤ nesting inside := by
  rcases parseChars_inside h with hread | ⟨hread, -⟩
  · obtain rfl := Except.ok.inj (hread.symm.trans hinside)
    have hne : glob ++ [.depthAfter] ≠ [.depthBefore] := by
      intro heq
      simpa using congrArg List.getLast? heq
    rw [nesting_eq hne, levels_append]
    exact (nesting_le glob).trans (Nat.succ_le_succ (Nat.le_max_left _ _))
  · obtain rfl := Except.ok.inj (hread.symm.trans hinside)
    exact Nat.le_refl _

/-- A group of characters is nested hardly at all. -/
theorem levels_quoted_le (cs : List Char) : levels [.either [cs.map .literal]] ≤ 3 := by
  have hgroup := grouped_le (audible [cs.map .literal]) (branchLevels [cs.map .literal])
  have hbranch := grouped_le (size (cs.map .literal)) 0
  have hbranches : branchLevels [cs.map .literal] = grouped (size (cs.map .literal)) 0 := by
    simp [branchLevels, levels_literals]
  rw [levels, levels, tokenLevels]
  split <;> omega

/-! ## Braces -/

/-- A token with so many braces around it. -/
def inBraces : Nat → GlobToken → GlobToken
  | 0, t => t
  | n + 1, t => .either [[inBraces n t]]

/-- A character with so many braces around it. -/
def braced (n : Nat) (c : Char) : List Char :=
  List.replicate n '\x7b' ++ c :: List.replicate n '\x7d'

theorem parseFrom_opening (tail : List Char) : ∀ (n : Nat) (previous : Option Char)
    (groups : List OpenGroup), ∃ last,
      parseFrom false 0 previous ⟨[], groups, false⟩ (List.replicate n '\x7b' ++ tail) =
        parseFrom false 0 last ⟨[], List.replicate n ⟨[], []⟩ ++ groups, false⟩ tail
  | 0, previous, groups => ⟨previous, rfl⟩
  | n + 1, previous, groups => by
    obtain ⟨last, h⟩ := parseFrom_opening tail n (some '\x7b') (⟨[], []⟩ :: groups)
    refine ⟨last, ?_⟩
    have hstep : parseFrom false 0 previous ⟨[], groups, false⟩
        (List.replicate (n + 1) '\x7b' ++ tail) =
          parseFrom false 0 (some '\x7b') ⟨[], ⟨[], []⟩ :: groups, false⟩
            (List.replicate n '\x7b' ++ tail) := rfl
    rw [hstep, h, List.replicate_succ', List.append_assoc, List.singleton_append]

theorem inBraces_either (n : Nat) (t : GlobToken) :
    inBraces n (.either [[t]]) = inBraces (n + 1) t := by
  induction n with
  | zero => rfl
  | succ n ih =>
    rw [inBraces, ih]
    rfl

theorem parseFrom_closing : ∀ (n : Nat) (previous : Option Char) (t : GlobToken),
    parseFrom false 0 previous ⟨[t], List.replicate n ⟨[], []⟩, false⟩ (List.replicate n '\x7d') =
      .ok ⟨[inBraces n t], [], false⟩
  | 0, _, _ => rfl
  | n + 1, previous, t => by
    have ih := parseFrom_closing n (some '\x7d') (.either [[t]])
    rw [inBraces_either] at ih
    exact ih

theorem parseChars_braced {c : Char} (hc : c ∉ marks) (hcomma : c ≠ ',') (n : Nat) :
    parseChars false (braced n c) = .ok [inBraces n (.literal c)] := by
  obtain ⟨last, hopen⟩ := parseFrom_opening (c :: List.replicate n '\x7d') n none []
  rw [List.append_nil] at hopen
  rw [parseChars, braced, hopen, parseFrom, step_literal hc hcomma]
  simp [State.push, parseFrom_closing]

theorem isSilentToken_inBraces {t : GlobToken} (ht : isSilentToken t = false) (n : Nat) :
    isSilentToken (inBraces n t) = false := by
  cases n with
  | zero => exact ht
  | succ n => simp [inBraces, isSilentToken, areSilent, isSilent, isSilentToken_inBraces ht n]

/-- Each brace nests what stands alone in it one level deeper. -/
theorem tokenLevels_inBraces {t : GlobToken} (ht : isSilentToken t = false)
    (hsize : tokenSize t ≤ 1) (n : Nat) : tokenLevels (inBraces n t) = tokenLevels t + n := by
  induction n with
  | zero => rfl
  | succ n ih =>
    have hsilent := isSilentToken_inBraces ht n
    have hone : size [inBraces n t] ≤ 1 := by
      cases n with
      | zero => simpa [size, inBraces] using hsize
      | succ n =>
        simp only [size, inBraces, tokenSize]
        split <;> omega
    simp [inBraces, tokenLevels, areSilent, isSilent, hsilent, audible, grouped, branchLevels, hone,
      levels, ih]
    omega

theorem nesting_inBraces {t : GlobToken} (ht : isSilentToken t = false) (hsize : tokenSize t ≤ 1)
    (htoken : t ≠ .depthBefore) (n : Nat) :
    nesting [inBraces n t] = tokenLevels t + n + 1 := by
  have hne : [inBraces n t] ≠ [.depthBefore] := by
    cases n with
    | zero => simpa [inBraces] using htoken
    | succ n => simp [inBraces]
  rw [nesting_eq hne, levels, levels, tokenLevels_inBraces ht hsize, Nat.max_eq_left (Nat.zero_le _)]

end Glob

namespace IgnoreRuleSet

variable {limit : Glob.SizeLimit} {patterns : List String} {glob : List GlobToken}
  {entries : List IgnoreEntry}

/-! ## The sets of some rules -/

theorem mem_validGlobs_iff :
    glob ∈ validGlobs patterns ↔ ∃ pattern ∈ patterns, Glob.parse pattern = .ok glob := by
  simp only [validGlobs, List.mem_filterMap]
  refine exists_congr fun pattern => and_congr_right fun _ => ?_
  cases Glob.parse pattern <;> simp [Except.toOption]

theorem directoryGlob?_append (front : String) :
    directoryGlob? (front ++ "/**") = (Glob.parse front).toOption := by
  have htext : (front ++ "/**").toList = front.toList ++ "/**".toList := String.toList_append
  have htake : (front.toList ++ "/**".toList).take
      ((front.toList ++ "/**".toList).length - "/**".toList.length) = front.toList := by
    simp
  simp only [directoryGlob?, htext, htake, Glob.parse]
  rw [if_pos (List.isSuffixOf_iff_suffix.2 (List.suffix_append _ _))]

theorem exists_of_directoryGlob? {pattern : String} (h : directoryGlob? pattern = some glob) :
    ∃ front, pattern = front ++ "/**" ∧ Glob.parse front = .ok glob := by
  have hend : "/**".toList.isSuffixOf pattern.toList = true := by
    simp only [directoryGlob?] at h
    split at h
    · assumption
    · simp at h
  obtain ⟨cs, hcs⟩ := List.isSuffixOf_iff_suffix.1 hend
  have hpattern : pattern = String.ofList cs ++ "/**" := by
    rw [← String.toList_inj, ← hcs]
    simp
  rw [hpattern, directoryGlob?_append] at h
  refine ⟨String.ofList cs, hpattern, ?_⟩
  cases hparse : Glob.parse (String.ofList cs) with
  | error e => simp [hparse, Except.toOption] at h
  | ok tokens => simpa [hparse, Except.toOption] using h

theorem mem_validDirectoryGlobs_iff : glob ∈ validDirectoryGlobs patterns ↔
    ∃ front inside, front ++ "/**" ∈ patterns ∧ Glob.parse (front ++ "/**") = .ok inside ∧
      Glob.parse front = .ok glob := by
  simp only [validDirectoryGlobs, List.mem_filterMap]
  constructor
  · rintro ⟨pattern, hpattern, hglob⟩
    cases hparse : Glob.parse pattern with
    | error e => simp [hparse, Except.isOk, Except.toBool] at hglob
    | ok inside =>
      rw [if_pos (by simp [hparse, Except.isOk, Except.toBool])] at hglob
      obtain ⟨front, rfl, hfront⟩ := exists_of_directoryGlob? hglob
      exact ⟨front, inside, hpattern, hparse, hfront⟩
  · rintro ⟨front, inside, hpattern, hparse, hfront⟩
    refine ⟨front ++ "/**", hpattern, ?_⟩
    rw [if_pos (by simp [hparse, Except.isOk, Except.toBool]), directoryGlob?_append, hfront]
    rfl

/-- Where only the nesting counts, the globs of directories are asked if those for paths are. -/
theorem directories_compile (h : Glob.compiles {} (validGlobs patterns) = true) :
    Glob.compiles {} (validDirectoryGlobs patterns) = true := by
  rw [Glob.compiles_unlimited_iff] at h ⊢
  intro glob hglob
  obtain ⟨front, inside, hpattern, hinside, hfront⟩ := mem_validDirectoryGlobs_iff.1 hglob
  rw [Glob.parse, String.toList_append] at hinside
  refine (Glob.nesting_le_of_inside hfront hinside).trans (h inside ?_)
  refine mem_validGlobs_iff.2 ⟨_, hpattern, ?_⟩
  rw [Glob.parse, String.toList_append, hinside]

theorem askedEntries_of_compiles (h : Glob.compiles limit (entries.map (·.glob)) = true) :
    askedEntries limit entries = entries :=
  if_pos h

theorem askedEntries_of_not_compiles (h : Glob.compiles limit (entries.map (·.glob)) = false) :
    askedEntries limit entries = [] :=
  if_neg (by simp [h])

theorem askedEntries_unlimited (h : ∀ e ∈ entries, Glob.nesting e.glob ≤ Glob.maxNesting) :
    askedEntries {} entries = entries := by
  refine askedEntries_of_compiles (Glob.compiles_unlimited_iff.2 fun glob hglob => ?_)
  obtain ⟨e, he, rfl⟩ := List.mem_map.1 hglob
  exact h e he

end IgnoreRuleSet

end ScriptCensus
