import ScriptCensus.Ignore.Matcher
import ScriptCensus.Proofs.Paths

/-!
# What an ignore list is asked

Rules are asked about paths that are already relative to the root of a scan. An `IgnoreList` takes the
root off the front of a path all the same, character by character, so that under the root `app` the
path `apple/x.js` is matched as `le/x.js`. `IgnoreList.matchedPart` is what remains of a path, and
`IgnoreList.Swallows` tells when that is less than the path (`IgnoreList.matchedPart_eq_iff`).

A list has an answer for every path of which no slash remains at the front
(`IgnoreList.fileVerdict?_ofEntries`), and so for all tidy paths (`IgnoreList.matchedPart_isAbsolute`).
-/

namespace ScriptCensus

deriving instance ReflBEq, LawfulBEq for Verdict

namespace Path

/-- A path without a dot and a slash at its front. -/
def withoutDot (p : Path) : Path :=
  (IgnoreList.dropFront? "./" p).getD p

/-- Whether a path neither starts with a slash nor has two slashes in a row. -/
def IsTidy (p : Path) : Prop :=
  p.isAbsolute = false ∧ ¬['/', '/'] <:+: p.text.toList

/-- Names with slashes between them are a tidy path. -/
theorem isTidy_intercalate {names : List String} (h : ∀ name ∈ names, IsName name) :
    (⟨"/".intercalate names⟩ : Path).IsTidy := by
  have hno : ∀ before behind, ("/".intercalate names).toList = before ++ '/' :: behind →
      [] ∉ splitAt '/' before := by
    intro before behind htext hmem
    have hne : names.map String.toList ≠ [] := by
      rintro hnil
      simp [hnil] at htext
    have hpieces : splitAt '/' ("/".intercalate names).toList = names.map String.toList := by
      rw [String.toList_intercalate]
      refine splitAt_intercalate ?_ hne
      rintro _ hpiece
      obtain ⟨name, hname, rfl⟩ := List.mem_map.1 hpiece
      exact (h name hname).2.2.2
    rw [htext, splitAt_append_cons] at hpieces
    have hnil : [] ∈ names.map String.toList := hpieces ▸ List.mem_append_left _ hmem
    obtain ⟨name, hname, hempty⟩ := List.mem_map.1 hnil
    exact (h name hname).1 (String.toList_eq_nil_iff.1 hempty)
  constructor
  · rw [isAbsolute, beq_eq_false_iff_ne]
    intro hhead
    obtain ⟨cs, hcs⟩ := List.head?_eq_some_iff.1 hhead
    exact hno [] cs hcs (by simp [splitAt])
  · rintro ⟨before, behind, htext⟩
    refine hno (before ++ ['/']) behind (by rw [← htext]; simp) ?_
    rw [splitAt_append_cons]
    simp [splitAt]

end Path

namespace IgnoreList

/-- The part of a path that the lines of ignore files are matched against under a root. -/
def matchedPart (root p : Path) : Path :=
  (ofEntries root []).strip p

/-- Whether a root takes characters off the front of a path. -/
def Swallows (root p : Path) : Prop :=
  root.withoutDot.components ≠ [.current] ∧ '/' ∈ p.withoutDot.text.toList ∧
    root.withoutDot.text ≠ "" ∧ root.withoutDot.text.toList <+: p.withoutDot.text.toList

/-! ## The matched part -/

theorem dropFront?_eq_some_iff {front : String} {p q : Path} :
    dropFront? front p = some q ↔ p.text.toList = front.toList ++ q.text.toList := by
  unfold dropFront?
  by_cases h : front.toList.isPrefixOf p.text.toList
  · obtain ⟨rest, hrest⟩ := List.isPrefixOf_iff_prefix.1 h
    rw [if_pos h, ← hrest, List.drop_left]
    constructor
    · rintro ⟨⟩
      rw [String.toList_ofList]
    · intro heq
      rw [List.append_cancel_left heq, String.ofList_toList]
  · rw [if_neg h]
    refine ⟨fun hf => by simp at hf, fun heq => absurd ?_ h⟩
    exact List.isPrefixOf_iff_prefix.2 ⟨_, heq.symm⟩

/-- Dropping a front, if it is there, leaves an end of the path. -/
theorem dropFront?_getD_suffix (front : String) (p : Path) :
    ((dropFront? front p).getD p).text.toList <:+ p.text.toList := by
  cases h : dropFront? front p with
  | none => exact List.suffix_refl _
  | some q => exact ⟨_, (dropFront?_eq_some_iff.1 h).symm⟩

theorem matchedPart_eq (root p : Path) : matchedPart root p =
    if root.withoutDot.components == [.current] || !p.withoutDot.text.toList.contains '/' then
      p.withoutDot
    else
      match dropFront? root.withoutDot.text p.withoutDot with
      | some rest => (dropFront? "/" rest).getD rest
      | none => p.withoutDot := by
  simp only [matchedPart, ofEntries, strip, Path.withoutDot]
  rfl

theorem withoutDot_isAbsolute {p : Path} (hp : p.IsTidy) : p.withoutDot.isAbsolute = false := by
  obtain ⟨hroot, hslashes⟩ := hp
  unfold Path.withoutDot
  cases h : dropFront? "./" p with
  | none => exact hroot
  | some q =>
    rw [Option.getD_some, Path.isAbsolute, beq_eq_false_iff_ne]
    intro hhead
    obtain ⟨cs, hcs⟩ := List.head?_eq_some_iff.1 hhead
    rw [dropFront?_eq_some_iff, hcs] at h
    exact hslashes ⟨['.'], cs, by rw [h]; rfl⟩

/-- A root that takes nothing off the front leaves the path. -/
theorem matchedPart_of_not_swallows {root p : Path} (hp : p.withoutDot.isAbsolute = false)
    (h : ¬Swallows root p) : matchedPart root p = p.withoutDot := by
  rw [matchedPart_eq]
  by_cases hplain : root.withoutDot.components == [.current] || !p.withoutDot.text.toList.contains '/'
  · rw [if_pos hplain]
  · rw [if_neg hplain]
    have hmeets : root.withoutDot.components ≠ [.current] ∧ '/' ∈ p.withoutDot.text.toList := by
      simpa using hplain
    cases hdrop : dropFront? root.withoutDot.text p.withoutDot with
    | none => rfl
    | some rest =>
      have hsplit := dropFront?_eq_some_iff.1 hdrop
      have hempty : root.withoutDot.text = "" := Decidable.byContradiction fun hne =>
        h ⟨hmeets.1, hmeets.2, hne, _, hsplit.symm⟩
      -- the root is spelled by nothing, and the path does not start with a slash
      rw [hempty] at hsplit
      obtain rfl : rest = p.withoutDot := Path.eq_of_toList hsplit.symm
      cases hslash : dropFront? "/" p.withoutDot with
      | none => simp only [hslash, Option.getD_none]
      | some q =>
        rw [Path.isAbsolute, dropFront?_eq_some_iff.1 hslash] at hp
        simp at hp

/-- An absolute root takes nothing off the front. -/
theorem not_swallows_of_absolute {root p : Path} (hroot : root.isAbsolute = true)
    (hp : p.withoutDot.isAbsolute = false) : ¬Swallows root p := by
  rintro ⟨-, -, -, hfront⟩
  obtain ⟨cs, hcs⟩ : ∃ cs, root.text.toList = '/' :: cs :=
    List.head?_eq_some_iff.1 (by simpa [Path.isAbsolute] using hroot)
  have hroot' : root.withoutDot = root := by
    unfold Path.withoutDot
    cases h : dropFront? "./" root with
    | none => rfl
    | some q =>
      rw [dropFront?_eq_some_iff, hcs] at h
      simp at h
  rw [hroot', hcs] at hfront
  obtain ⟨tail, htail⟩ := hfront
  rw [Path.isAbsolute, ← htail] at hp
  simp at hp

theorem matchedPart_of_swallows {root p : Path} (h : Swallows root p) :
    ∃ rest : Path, p.withoutDot.text.toList = root.withoutDot.text.toList ++ rest.text.toList ∧
      matchedPart root p = (dropFront? "/" rest).getD rest := by
  obtain ⟨hdot, hslash, -, tail, htail⟩ := h
  have hsplit : p.withoutDot.text.toList =
      root.withoutDot.text.toList ++ (⟨String.ofList tail⟩ : Path).text.toList := by
    rw [String.toList_ofList, htail]
  have hpart : matchedPart root p =
      (dropFront? "/" ⟨String.ofList tail⟩).getD ⟨String.ofList tail⟩ := by
    rw [matchedPart_eq, if_neg (by simp [hdot, hslash]), dropFront?_eq_some_iff.2 hsplit]
  exact ⟨⟨String.ofList tail⟩, hsplit, hpart⟩

/-- The matched part is an end of the path. -/
theorem matchedPart_suffix {p : Path} (root : Path) (hp : p.IsTidy) :
    (matchedPart root p).text.toList <:+ p.text.toList := by
  have hdot : p.withoutDot.text.toList <:+ p.text.toList := dropFront?_getD_suffix "./" p
  by_cases h : Swallows root p
  · obtain ⟨rest, hsplit, hpart⟩ := matchedPart_of_swallows h
    rw [hpart]
    exact (dropFront?_getD_suffix "/" rest).trans (List.IsSuffix.trans ⟨_, hsplit.symm⟩ hdot)
  · rw [matchedPart_of_not_swallows (withoutDot_isAbsolute hp) h]
    exact hdot

/-- A root swallows something of a path exactly if not all of the path is matched. -/
theorem matchedPart_eq_iff {p : Path} (root : Path) (hp : p.IsTidy) :
    matchedPart root p = p.withoutDot ↔ ¬Swallows root p := by
  refine ⟨fun heq h => ?_, matchedPart_of_not_swallows (withoutDot_isAbsolute hp)⟩
  obtain ⟨rest, hsplit, hpart⟩ := matchedPart_of_swallows h
  have hle := (dropFront?_getD_suffix "/" rest).length_le
  have hpos : 0 < root.withoutDot.text.toList.length := by
    rw [List.length_pos_iff]
    simpa using h.2.2.1
  rw [← hpart, heq, hsplit, List.length_append] at hle
  omega

/-- No matched part starts with a slash. -/
theorem matchedPart_isAbsolute {p : Path} (root : Path) (hp : p.IsTidy) :
    (matchedPart root p).isAbsolute = false := by
  by_cases h : Swallows root p
  · obtain ⟨rest, hsplit, hpart⟩ := matchedPart_of_swallows h
    rw [hpart, Path.isAbsolute, beq_eq_false_iff_ne]
    intro hhead
    obtain ⟨cs, hcs⟩ := List.head?_eq_some_iff.1 hhead
    cases hslash : dropFront? "/" rest with
    | none =>
      rw [hslash, Option.getD_none] at hcs
      have : dropFront? "/" rest = some ⟨String.ofList cs⟩ := by
        rw [dropFront?_eq_some_iff, hcs]
        simp
      simp [hslash] at this
    | some q =>
      -- then two slashes would stand behind the root
      rw [hslash, Option.getD_some] at hcs
      rw [dropFront?_eq_some_iff.1 hslash, hcs] at hsplit
      have htwo : ['/', '/'] <:+: p.withoutDot.text.toList :=
        ⟨_, cs, by rw [hsplit, List.append_assoc]; rfl⟩
      exact hp.2 (htwo.trans (dropFront?_getD_suffix "./" p).isInfix)
  · rw [matchedPart_of_not_swallows (withoutDot_isAbsolute hp) h]
    exact withoutDot_isAbsolute hp

/-! ## What a list says -/

@[simp] theorem entries_ofEntries (root : Path) (entries : List IgnoreEntry) :
    (ofEntries root entries).entries = entries := rfl

@[simp] theorem strip_ofEntries (root p : Path) (entries : List IgnoreEntry) :
    (ofEntries root entries).strip p = matchedPart root p := by
  rw [matchedPart, ofEntries, ofEntries, strip, strip]

theorem verdict_ofEntries (root p : Path) (isDirectory : Bool) (entries : List IgnoreEntry) :
    (ofEntries root entries).verdict p isDirectory =
      verdictOf (matchedPart root p) isDirectory entries := by
  cases entries <;> simp [verdict, verdictOf]

theorem verdictAbove_nil : ∀ (fuel : Nat) (p : Path) (isDirectory : Bool),
    verdictAbove [] fuel p isDirectory = .silent
  | 0, _, _ => rfl
  | fuel + 1, p, d => by
    have hnil : verdictOf p d [] = .silent := rfl
    rw [verdictAbove, hnil]
    cases p.parent? with
    | none => rfl
    | some q => exact verdictAbove_nil fuel q true

/-- What a list says about a file of whose path no slash is left at the front. -/
theorem fileVerdict?_ofEntries {root p : Path} (h : (matchedPart root p).isAbsolute = false)
    (entries : List IgnoreEntry) :
    (ofEntries root entries).fileVerdict? p =
      some (verdictAbove entries ((matchedPart root p).text.length + 2) (matchedPart root p)
        false) := by
  cases entries with
  | nil => simp [fileVerdict?, verdictAbove_nil]
  | cons e rest => simp [fileVerdict?, h]

theorem verdictAbove_of_ne_silent {entries : List IgnoreEntry} {p : Path} {isDirectory : Bool}
    (h : verdictOf p isDirectory entries ≠ .silent) (fuel : Nat) :
    verdictAbove entries (fuel + 1) p isDirectory = verdictOf p isDirectory entries := by
  rw [verdictAbove]
  cases hv : verdictOf p isDirectory entries with
  | silent => exact absurd hv h
  | ignored => rfl
  | included => rfl

/-- A list that is silent about all short paths is silent about a short path and the directories
above it. -/
theorem verdictAbove_of_silent {entries : List IgnoreEntry} {n : Nat}
    (h : ∀ q d, q.text.length < n → verdictOf q d entries = .silent) :
    ∀ (fuel : Nat) (p : Path) (isDirectory : Bool), p.text.length < n →
      verdictAbove entries fuel p isDirectory = .silent
  | 0, _, _, _ => rfl
  | fuel + 1, p, d, hlen => by
    rw [verdictAbove, h p d hlen]
    cases hq : p.parent? with
    | none => rfl
    | some q =>
      exact verdictAbove_of_silent h fuel q true
        (Nat.lt_trans (Path.length_lt_of_parent? hq) hlen)

end IgnoreList

end ScriptCensus
