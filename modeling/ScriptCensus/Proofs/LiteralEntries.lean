import ScriptCensus.Proofs.GlobLanguages
import ScriptCensus.Proofs.GlobTexts
import ScriptCensus.Proofs.RelativePaths
import ScriptCensus.Proofs.RootSpelling

/-!
# Entries of names

The plainest lines of ignore files hold names and slashes only. Such a line (`NamesLine`) is read
into a glob of literal characters, behind the token for any depth if it is a single name that is not
bound to the top (`NamesLine.IsLiteral.ofLine?_text`). So it matches one path, or all that end in
its name (`NamesLine.IsLiteral.isMatch_entry_iff`).

A file is ignored if the entry matches it or a directory above it. The search upwards visits the
locations on the way (`IgnoreList.verdictAbove_singleton`), and `IgnoreRuleSet.namesLine_exact` says
what comes out: a line is about what its names lead to and all that is below.
-/

namespace ScriptCensus

/-! ## Globs without marks -/

namespace Glob

theorem step_plain {c : Char} (hc : c ∉ marks) {s : State} (hs : s.groups = []) (lenient : Bool)
    (previous : Option Char) (rest : List Char) :
    step lenient previous s c rest = .ok (s.push (.literal c), 0) := by
  by_cases hcomma : c = ','
  · subst hcomma
    rw [step, State.comma, hs]
  · exact step_literal hc hcomma lenient previous s rest

/-- Reading characters that are no marks, outside of groups, adds literal tokens. -/
theorem parseFrom_plain (lenient : Bool) (rest : List Char) :
    ∀ {cs : List Char}, (∀ c ∈ cs, c ∉ marks) → ∀ (previous : Option Char) {s : State},
      s.groups = [] → ∃ last, parseFrom lenient 0 previous s (cs ++ rest) =
        parseFrom lenient 0 last { s with tokens := (cs.map .literal).reverse ++ s.tokens } rest
  | [], _, previous, s, _ => ⟨previous, rfl⟩
  | c :: cs, hcs, previous, s, hs => by
    obtain ⟨hc, hcs⟩ := List.forall_mem_cons.1 hcs
    obtain ⟨last, h⟩ := parseFrom_plain lenient rest hcs (some c) (s := s.push (.literal c)) hs
    refine ⟨last, ?_⟩
    rw [List.cons_append, parseFrom, step_plain hc hs]
    exact h.trans (by simp [State.push])

theorem parseChars_plain (lenient : Bool) {cs : List Char} (hcs : ∀ c ∈ cs, c ∉ marks) :
    parseChars lenient cs = .ok (cs.map .literal) := by
  obtain ⟨last, h⟩ := parseFrom_plain lenient [] hcs none (s := ⟨[], [], false⟩) rfl
  rw [List.append_nil] at h
  rw [parseChars, h]
  simp [parseFrom]

theorem parseChars_anyDepth (lenient : Bool) {cs : List Char} (hcs : ∀ c ∈ cs, c ∉ marks) :
    parseChars lenient ("**/".toList ++ cs) = .ok (.depthBefore :: cs.map .literal) := by
  obtain ⟨last, h⟩ :=
    parseFrom_plain lenient [] hcs (some '/') (s := ⟨[.depthBefore], [], false⟩) rfl
  rw [List.append_nil] at h
  have hstart : parseFrom lenient 0 none ⟨[], [], false⟩ ("**/".toList ++ cs) =
      parseFrom lenient 0 (some '/') ⟨[.depthBefore], [], false⟩ cs := rfl
  rw [parseChars, hstart, h]
  simp [parseFrom]

theorem bytesOf_eq_ofList_iff {s : String} {cs : List Char} :
    bytesOf s = bytesOf (String.ofList cs) ↔ s.toList = cs := by
  constructor
  · intro h
    rw [bytesOf_injective h, String.toList_ofList]
  · rintro rfl
    rw [String.ofList_toList]

theorem isMatch_literals_iff (cs : List Char) (path : String) :
    isMatch (cs.map .literal) path = true ↔ path.toList = cs := by
  have hne : cs.map GlobToken.literal ≠ [.depthBefore] := by
    intro h
    have := congrArg List.head? h
    cases cs <;> simp at this
  rw [isMatch_iff, spells_literals, bytesOf_eq_ofList_iff]
  simp [hne]

/-- A glob for any depth matches what it says, and that behind a slash. -/
theorem isMatch_anyDepth_iff {cs : List Char} (hcs : cs ≠ []) (path : String) :
    isMatch (.depthBefore :: cs.map .literal) path = true ↔
      path.toList = cs ∨ ∃ before, path.toList = before ++ '/' :: cs := by
  have hne : GlobToken.depthBefore :: cs.map GlobToken.literal ≠ [.depthBefore] := by
    simpa using hcs
  rw [isMatch_iff, or_iff_right hne]
  simp only [Spells, SpellsToken, spells_literals]
  constructor
  · rintro ⟨_, w, hpath, rfl | ⟨v, rfl⟩, rfl⟩
    · exact Or.inl (bytesOf_eq_ofList_iff.1 hpath)
    · rw [List.append_assoc, List.singleton_append] at hpath
      obtain ⟨before, after, htext, -, hafter⟩ := bytesOf_eq_append_slash_iff.1 hpath
      refine Or.inr ⟨before.toList, ?_⟩
      rw [htext, bytesOf_eq_ofList_iff.1 hafter.symm]
  · rintro (htext | ⟨before, htext⟩)
    · exact ⟨[], _, bytesOf_eq_ofList_iff.2 htext, Or.inl rfl, rfl⟩
    · refine ⟨_, _, ?_, Or.inr ⟨bytesOf (String.ofList before), rfl⟩, rfl⟩
      rw [List.append_assoc, List.singleton_append]
      exact bytesOf_eq_append_slash_iff.2
        ⟨String.ofList before, String.ofList cs, by simpa using htext, rfl, rfl⟩

end Glob

/-! ## Lines of names -/

/-- A line of an ignore file that has names with slashes between them. -/
structure NamesLine where
  /-- A slash stands in front of the names. -/
  bound : Bool
  names : List String
  /-- A slash stands behind the names. -/
  onlyDirectories : Bool

namespace NamesLine

/-- The names with slashes between them. -/
def body (l : NamesLine) : List Char :=
  (Discovery.relativePath l.names).text.toList

/-- The text of the line. -/
def text (l : NamesLine) : String :=
  (if l.bound then "/" else "") ++ "/".intercalate l.names ++
    (if l.onlyDirectories then "/" else "")

/-- Whether a line says nothing but its names: no name is empty or has a slash or a mark in it, the
line does not start with the mark of a comment or of a negation, and it does not end in a blank. -/
structure IsLiteral (l : NamesLine) : Prop where
  names_ne_nil : l.names ≠ []
  plain : ∀ name ∈ l.names, name ≠ "" ∧ '/' ∉ name.toList ∧ ∀ c ∈ name.toList, c ∉ Glob.marks
  front : ∀ c ∈ l.text.toList.head?, c ≠ '#' ∧ c ≠ '!'
  back : ∀ c ∈ l.text.toList.getLast?, isBlank c = false

/-- The entry of the line. -/
def entry (l : NamesLine) : IgnoreEntry :=
  ⟨if l.bound = true ∨ 1 < l.names.length then l.body.map .literal
    else .depthBefore :: l.body.map .literal, false, l.onlyDirectories⟩

variable {l : NamesLine}

/-- The glob of the line is nested hardly at all. -/
theorem nesting_entry_le (l : NamesLine) : Glob.nesting l.entry.glob ≤ Glob.maxNesting := by
  refine (Glob.nesting_le _).trans ?_
  simp only [entry]
  split <;> simp [Glob.levels, Glob.tokenLevels, Glob.levels_literals, Glob.maxNesting]

theorem toList_text (l : NamesLine) : l.text.toList =
    (if l.bound then ['/'] else []) ++ (l.body ++ if l.onlyDirectories then ['/'] else []) := by
  cases hb : l.bound <;> cases ho : l.onlyDirectories <;>
    simp [text, body, hb, ho, Discovery.relativePath]

namespace IsLiteral

theorem not_mem_marks (h : l.IsLiteral) : ∀ c ∈ l.body, c ∉ Glob.marks := by
  intro c hc
  rw [body, Discovery.toList_relativePath] at hc
  rcases mem_intercalate hc with hc | ⟨piece, hpiece, hc⟩
  · obtain rfl := List.mem_singleton.1 hc
    decide
  · obtain ⟨name, hname, rfl⟩ := List.mem_map.1 hpiece
    exact (h.plain name hname).2.2 c hc

theorem splitAt_body (h : l.IsLiteral) : splitAt '/' l.body = l.names.map String.toList :=
  Discovery.splitAt_relativePath h.names_ne_nil fun name hname => (h.plain name hname).2.1

theorem nil_not_mem_splitAt (h : l.IsLiteral) : [] ∉ splitAt '/' l.body := by
  rw [h.splitAt_body, List.mem_map]
  rintro ⟨name, hname, hnil⟩
  exact (h.plain name hname).1 (String.toList_eq_nil_iff.1 hnil)

theorem body_ne_nil (h : l.IsLiteral) : l.body ≠ [] := by
  intro hnil
  refine h.nil_not_mem_splitAt ?_
  rw [hnil]
  exact List.mem_singleton.2 rfl

/-- The names neither start nor end in a slash. -/
theorem ne_nil_of_body_eq (h : l.IsLiteral) {before after : List Char}
    (hbody : l.body = before ++ '/' :: after) : before ≠ [] ∧ after ≠ [] := by
  have hnil := h.nil_not_mem_splitAt
  rw [hbody, splitAt_append_cons, List.mem_append, not_or] at hnil
  constructor
  · rintro rfl
    exact hnil.1 (List.mem_singleton.2 rfl)
  · rintro rfl
    exact hnil.2 (List.mem_singleton.2 rfl)

theorem slash_mem_body_iff (h : l.IsLiteral) : '/' ∈ l.body ↔ 1 < l.names.length := by
  have hlength : (splitAt '/' l.body).length = l.names.length := by
    rw [h.splitAt_body, List.length_map]
  rw [← hlength]
  constructor
  · intro hslash
    obtain ⟨before, after, hbody⟩ := List.append_of_mem hslash
    have hbefore := List.length_pos_iff.2 (splitAt_ne_nil '/' before)
    have hafter := List.length_pos_iff.2 (splitAt_ne_nil '/' after)
    rw [hbody, splitAt_append_cons, List.length_append]
    omega
  · intro hlong
    by_contra hslash
    rw [splitAt_of_not_mem hslash] at hlong
    simp at hlong

/-- The line ends in a character that is no blank. -/
theorem exists_text_eq_concat (h : l.IsLiteral) :
    ∃ cs c, l.text.toList = cs ++ [c] ∧ isBlank c = false := by
  have hne : l.text.toList ≠ [] := by
    rw [toList_text]
    simp [h.body_ne_nil]
  obtain ⟨cs, c, hcs⟩ := (List.eq_nil_or_concat _).resolve_left hne
  rw [List.concat_eq_append] at hcs
  exact ⟨cs, c, hcs, h.back c (by simp [hcs])⟩

theorem significantLine?_text (h : l.IsLiteral) : significantLine? l.text = some l.text := by
  obtain ⟨cs, c, htext, hc⟩ := h.exists_text_eq_concat
  have hend : (c == '\r' || c == '\n') = false := by
    rw [Bool.eq_false_iff]
    intro hc'
    rcases Bool.or_eq_true_iff.1 hc' with hc' | hc' <;> simp [eq_of_beq hc', isBlank] at hc
  have hkept : dropEndWhile (fun c => c == '\r' || c == '\n') l.text.toList = l.text.toList := by
    rw [htext]
    exact IgnoreEntry.dropEndWhile_of_last hend cs
  have hblank : l.text.toList.all isBlank = false := by
    simp [htext, hc]
  have hcomment : l.text.toList.head? ≠ some '#' := fun hhead => (h.front '#' hhead).1 rfl
  rw [significantLine?, hkept, String.ofList_toList, if_neg]
  simp [hblank, hcomment]

theorem readFront_text (h : l.IsLiteral) : IgnoreEntry.readFront l.text.toList =
    (false, l.bound, l.body ++ if l.onlyDirectories then ['/'] else []) := by
  have hfront := h.front
  rw [toList_text] at hfront ⊢
  cases hbound : l.bound with
  | true => rfl
  | false =>
    obtain ⟨c, cs, hbody⟩ := List.exists_cons_of_ne_nil h.body_ne_nil
    have hmark : c ∉ Glob.marks := h.not_mem_marks c (by simp [hbody])
    have hslash : c ≠ '/' := by
      rintro rfl
      have hfirst : l.body = [] ++ '/' :: cs := hbody
      exact (h.ne_nil_of_body_eq hfirst).1 rfl
    have hbang : c ≠ '!' := (hfront c (by simp [hbound, hbody])).2
    simp only [hbody, Bool.false_eq_true, if_false, List.nil_append, List.cons_append]
    unfold IgnoreEntry.readFront
    split <;> simp_all [Glob.marks]

theorem readEnd_body (h : l.IsLiteral) :
    IgnoreEntry.readEnd (l.body ++ if l.onlyDirectories then ['/'] else []) =
      (l.onlyDirectories, l.body) := by
  obtain ⟨cs, c, hbody⟩ := (List.eq_nil_or_concat _).resolve_left h.body_ne_nil
  rw [List.concat_eq_append] at hbody
  have hmark : c ∉ Glob.marks := h.not_mem_marks c (by simp [hbody])
  have hslash : c ≠ '/' := by
    rintro rfl
    exact (h.ne_nil_of_body_eq hbody).2 rfl
  rw [hbody]
  cases l.onlyDirectories with
  | true =>
    simp only [IgnoreEntry.readEnd, if_true, List.reverse_append, List.reverse_singleton,
      List.singleton_append]
    split <;> simp_all [Glob.marks]
  | false =>
    simp only [IgnoreEntry.readEnd, Bool.false_eq_true, if_false, List.append_nil,
      List.reverse_append, List.reverse_singleton, List.singleton_append]
    split <;> simp_all

theorem globText_body (h : l.IsLiteral) : IgnoreEntry.globText l.bound l.body =
    if l.bound = true ∨ 1 < l.names.length then l.body else "**/".toList ++ l.body := by
  have hstar : '*' ∉ l.body := fun hmem => h.not_mem_marks '*' hmem (by decide)
  have hstart : IgnoreEntry.startsWith "**/".toList l.body = false := by
    rw [Bool.eq_false_iff]
    intro hprefix
    exact hstar ((List.isPrefixOf_iff_prefix.1 hprefix).subset (by decide))
  have hstars : (l.body != "**".toList) = true := by
    rw [bne_iff_ne]
    rintro heq
    exact hstar (by rw [heq]; decide)
  have hend : ∀ front, IgnoreEntry.endsWith "/**".toList (front ++ l.body) = false := by
    intro front
    rw [Bool.eq_false_iff]
    intro hsuffix
    have hlast := (List.isSuffixOf_iff_suffix.1 hsuffix).getLast (by decide)
    rw [List.getLast_append_of_ne_nil _ h.body_ne_nil] at hlast
    have hmem := List.getLast_mem h.body_ne_nil
    rw [← hlast] at hmem
    exact hstar hmem
  simp only [IgnoreEntry.globText, hstart, hstars, Bool.not_false, Bool.and_true]
  by_cases hbound : l.bound = true ∨ 1 < l.names.length
  · have hdeep : (!l.bound && !l.body.contains '/') = false := by
      rw [← h.slash_mem_body_iff] at hbound
      rcases hbound with hbound | hbound <;> simp [hbound]
    have hbody := hend []
    rw [List.nil_append] at hbody
    simp only [hdeep, hbody, Bool.false_eq_true, if_false, if_pos hbound]
  · have hdeep : (!l.bound && !l.body.contains '/') = true := by
      rw [← h.slash_mem_body_iff, not_or] at hbound
      simp [hbound.1, hbound.2]
    simp only [hdeep, hend, Bool.false_eq_true, if_false, if_true, if_neg hbound]

/-- What is read from the line. -/
theorem ofLine?_text (h : l.IsLiteral) : IgnoreEntry.ofLine? l.text = .ok (some l.entry) := by
  obtain ⟨cs, c, htext, hc⟩ := h.exists_text_eq_concat
  have hblanks : dropEndWhile isBlank l.text.toList = l.text.toList := by
    rw [htext]
    exact IgnoreEntry.dropEndWhile_of_last hc cs
  have hstart : IgnoreEntry.startsWith ['#'] l.text.toList = false := by
    rw [Bool.eq_false_iff]
    intro hprefix
    obtain ⟨rest, hrest⟩ := List.isPrefixOf_iff_prefix.1 hprefix
    exact (h.front '#' (by simp [← hrest])).1 rfl
  have hempty : l.text.toList.isEmpty = false := by
    simp [htext]
  have hparse : Glob.parseChars true (IgnoreEntry.globText l.bound l.body) = .ok l.entry.glob := by
    rw [h.globText_body, entry]
    split
    · exact Glob.parseChars_plain true h.not_mem_marks
    · exact Glob.parseChars_anyDepth true h.not_mem_marks
  simp only [IgnoreEntry.ofLine?, hstart, Bool.false_eq_true, if_false, hblanks, ite_self, hempty,
    h.readFront_text, h.readEnd_body, hparse, entry]

theorem matcher_insertLine (h : l.IsLiteral) (root : Path) :
    (IgnoreRuleSet.empty.insertLine l.text).matcher root = ⟨[], [], .ofEntries root [l.entry]⟩ := by
  have hrules : IgnoreRuleSet.empty.insertLine l.text = ⟨[], [l.text], [l.text]⟩ := by
    rw [IgnoreRuleSet.insertLine, h.significantLine?_text]
    rfl
  have hasked : IgnoreRuleSet.askedEntries {} [l.entry] = [l.entry] :=
    IgnoreRuleSet.askedEntries_unlimited (by simpa using l.nesting_entry_le)
  rw [hrules, IgnoreRuleSet.matcher]
  simp only [IgnoreRuleSet.validGlobs, IgnoreRuleSet.validDirectoryGlobs,
    IgnoreRuleSet.validEntries, h.ofLine?_text, List.filterMap_nil, List.filterMap_cons,
    Glob.asked_nil, hasked]

/-- Which paths the line is about: those with its names, or those that end in its name if it is not
bound to the top. -/
theorem isMatch_entry_iff (h : l.IsLiteral) {front : Location} (hne : front ≠ [])
    (hfront : ∀ name ∈ front, Path.IsName name) :
    Glob.isMatch l.entry.glob (Discovery.relativePath front).text = true ↔
      if l.bound = true ∨ 1 < l.names.length then front = l.names
      else ∃ above name, front = above ++ [name] ∧ l.names = [name] := by
  have hslashes : ∀ name ∈ front, '/' ∉ name.toList := fun name hname => (hfront name hname).2.2.2
  have hplain : ∀ name ∈ l.names, '/' ∉ name.toList := fun name hname => (h.plain name hname).2.1
  simp only [entry]
  split
  · rw [Glob.isMatch_literals_iff]
    constructor
    · intro htext
      exact Discovery.relativePath_injective hne h.names_ne_nil hslashes hplain
        (Path.eq_of_toList htext)
    · rintro rfl
      rfl
  · next hdeep =>
    obtain ⟨name, hname⟩ : ∃ name, l.names = [name] := by
      have hpos := List.length_pos_iff.2 h.names_ne_nil
      exact List.length_eq_one_iff.1 (by omega)
    have hbody : l.body = name.toList := by
      rw [body, hname, Discovery.relativePath_singleton]
    have hsplit := Discovery.splitAt_relativePath hne hslashes
    rw [Glob.isMatch_anyDepth_iff h.body_ne_nil, hbody]
    constructor
    · intro htext
      obtain ⟨pieces, hpieces⟩ : ∃ pieces, front.map String.toList = pieces ++ [name.toList] := by
        rw [← hsplit]
        rcases htext with htext | ⟨before, htext⟩
        · exact ⟨[], by rw [htext, splitAt_of_not_mem (hplain name (by simp [hname]))]; rfl⟩
        · refine ⟨splitAt '/' before, ?_⟩
          rw [htext, splitAt_append_cons, splitAt_of_not_mem (hplain name (by simp [hname]))]
      obtain ⟨above, last, rfl, -, hlast⟩ := List.map_eq_append_iff.1 hpieces
      obtain ⟨n, rfl, hn⟩ := List.map_eq_singleton_iff.1 hlast
      exact ⟨above, n, rfl, by rw [hname, String.toList_inj.1 hn]⟩
    · rintro ⟨above, n, rfl, hn⟩
      obtain rfl : name = n := by simpa [hname] using hn
      by_cases habove : above = []
      · left
        rw [habove, List.nil_append, Discovery.relativePath_singleton]
      · refine Or.inr ⟨(Discovery.relativePath above).text.toList, ?_⟩
        rw [Discovery.relativePath_append habove (by simp), Discovery.relativePath_singleton]
        simp

end IsLiteral

end NamesLine

/-! ## What one entry says -/

namespace IgnoreList

theorem verdictOf_singleton {e : IgnoreEntry} (he : e.negated = false) (p : Path)
    (isDirectory : Bool) : verdictOf p isDirectory [e] =
      if (!e.onlyDirectories || isDirectory) && Glob.isMatch e.glob p.text then .ignored
      else .silent := by
  simp only [verdictOf, List.reverse_singleton, List.find?_cons, List.find?_nil]
  cases ((!e.onlyDirectories || isDirectory) && Glob.isMatch e.glob p.text) with
  | true => simp [he]
  | false => rfl

/-- What an entry says about the path of a location through the directories above it: it ignores the
path if it matches that of a location on the way, which has to be one above if only directories
match. -/
theorem verdictAbove_singleton {e : IgnoreEntry} (he : e.negated = false)
    (hempty : Glob.isMatch e.glob "" = false) (l : Location) :
    ∀ {fuel : Nat}, l.length < fuel → (∀ name ∈ l, Path.IsName name) → ∀ isDirectory : Bool,
      (verdictAbove [e] fuel (Discovery.relativePath l) isDirectory = .ignored ↔
        ∃ front, front ≠ [] ∧
          front <+: (if !e.onlyDirectories || isDirectory then l else l.dropLast) ∧
          Glob.isMatch e.glob (Discovery.relativePath front).text = true) := by
  induction l using List.reverseRecOn with
  | nil =>
    intro fuel hfuel _ isDirectory
    obtain ⟨fuel, rfl⟩ := Nat.exists_eq_add_one_of_ne_zero (Nat.ne_of_gt hfuel)
    have hsilent : verdictOf (Discovery.relativePath []) isDirectory [e] = .silent := by
      rw [verdictOf_singleton he]
      simp [Discovery.relativePath, hempty]
    have hparent : (Discovery.relativePath []).parent? = none := rfl
    rw [verdictAbove, hsilent]
    simp [hparent]
  | append_singleton above name ih =>
    intro fuel hfuel hnames isDirectory
    obtain ⟨fuel, rfl⟩ := Nat.exists_eq_add_one_of_ne_zero (Nat.ne_zero_of_lt hfuel)
    have habove := ih (by simpa using hfuel) (fun n hn => hnames n (List.mem_append_left _ hn)) true
    have hverdict := verdictOf_singleton he (Discovery.relativePath (above ++ [name])) isDirectory
    simp only [Bool.or_true, if_true] at habove
    cases hkind : (!e.onlyDirectories || isDirectory) with
    | false =>
      rw [hkind, Bool.false_and] at hverdict
      rw [verdictAbove, hverdict, Discovery.parent?_relativePath hnames]
      simpa using habove
    | true =>
      rw [hkind, Bool.true_and] at hverdict
      simp only [if_true, List.prefix_concat_iff]
      by_cases hmatch : Glob.isMatch e.glob (Discovery.relativePath (above ++ [name])).text = true
      · rw [if_pos hmatch] at hverdict
        rw [verdictAbove_of_ne_silent (by simp [hverdict]), hverdict]
        exact iff_of_true rfl ⟨above ++ [name], by simp, Or.inl rfl, hmatch⟩
      · rw [if_neg hmatch] at hverdict
        rw [verdictAbove, hverdict, Discovery.parent?_relativePath hnames]
        refine habove.trans (exists_congr fun front => ?_)
        constructor
        · rintro ⟨hne, hfront, hmatch'⟩
          exact ⟨hne, Or.inr hfront, hmatch'⟩
        · rintro ⟨hne, rfl | hfront, hmatch'⟩
          · exact absurd hmatch' hmatch
          · exact ⟨hne, hfront, hmatch'⟩

end IgnoreList

theorem NamesLine.IsLiteral.isMatch_entry_empty {l : NamesLine} (h : l.IsLiteral) :
    Glob.isMatch l.entry.glob "" = false := by
  have hne := h.body_ne_nil
  rw [Bool.eq_false_iff, NamesLine.entry]
  split
  · rw [Ne, Glob.isMatch_literals_iff]
    exact fun hnil => hne hnil.symm
  · rw [Ne, Glob.isMatch_anyDepth_iff hne]
    rintro (hnil | ⟨before, hnil⟩)
    · exact hne hnil.symm
    · simp at hnil

/-- A file is ignored through the locations that can be reached on the way to it: all above it, and
its own unless only directories match. -/
theorem NamesLine.IsLiteral.exists_isIgnored?_eq {l : NamesLine} (h : l.IsLiteral) {root : Path}
    (hroot : root.isAbsolute = true) {components : Location}
    (hnames : ∀ name ∈ components, Path.IsName name) :
    ∃ ignored : Bool, ((IgnoreRuleSet.empty.insertLine l.text).matcher root).isIgnored?
        (Discovery.relativePath components) = some ignored ∧
      (ignored = true ↔ ∃ front, front ≠ [] ∧
        front <+: (if l.onlyDirectories then components.dropLast else components) ∧
        Glob.isMatch l.entry.glob (Discovery.relativePath front).text = true) := by
  have hpart := Discovery.matchedPart_relativePath hroot hnames
  have hrelative : (IgnoreList.matchedPart root (Discovery.relativePath components)).isAbsolute =
      false := IgnoreList.matchedPart_isAbsolute root (Path.isTidy_intercalate hnames)
  have hfuel : components.length < (Discovery.relativePath components).text.length + 2 :=
    Nat.lt_succ_of_le (Discovery.length_le_length_relativePath fun name hname =>
      (hnames name hname).2.2.2)
  have hverdict := IgnoreList.verdictAbove_singleton rfl h.isMatch_entry_empty components hfuel
    hnames false
  have hreach : (if !l.entry.onlyDirectories || false then components else components.dropLast) =
      if l.onlyDirectories then components.dropLast else components := by
    cases honly : l.onlyDirectories <;> simp [NamesLine.entry, honly]
  rw [hreach] at hverdict
  refine ⟨_, ?_, beq_iff_eq.trans hverdict⟩
  rw [h.matcher_insertLine, IgnoreMatcher.isIgnored?, IgnoreList.fileVerdict?_ofEntries hrelative,
    hpart]
  rfl

theorem exists_concat_prefix_iff {α : Type} {xs : List α} {x : α} :
    (∃ before, before ++ [x] <+: xs) ↔ x ∈ xs := by
  constructor
  · rintro ⟨before, hbefore⟩
    exact hbefore.subset (by simp)
  · intro hx
    obtain ⟨before, after, rfl⟩ := List.append_of_mem hx
    exact ⟨before, after, by simp⟩

namespace IgnoreRuleSet

open Discovery (relativePath)

/-- What a line says that has only names in it, under an absolute root. If there are several names
or a slash stands in front of them, it ignores the files whose paths start with these names; if
there is just one name, it ignores the files in whose paths this name occurs. With a slash at the
end only the directories above a file count, and else the file itself does, too. -/
theorem namesLine_exact {root : Path} (hroot : root.isAbsolute = true) {l : NamesLine}
    (hl : l.IsLiteral) {components : Location} (hnames : ∀ name ∈ components, Path.IsName name) :
    let reach := if l.onlyDirectories then components.dropLast else components
    ∃ ignored : Bool, ((empty.insertLine l.text).compile root).value.isIgnored?
        (relativePath components) = some ignored ∧
      (ignored = true ↔ if l.bound = true ∨ 1 < l.names.length then l.names <+: reach
        else ∃ name ∈ reach, l.names = [name]) := by
  intro reach
  have hsubset : reach ⊆ components := by
    cases honly : l.onlyDirectories <;> simp [reach, honly, List.dropLast_subset]
  have hmatch : ∀ front, front ≠ [] → front <+: reach →
      (Glob.isMatch l.entry.glob (relativePath front).text = true ↔
        if l.bound = true ∨ 1 < l.names.length then front = l.names
        else ∃ above name, front = above ++ [name] ∧ l.names = [name]) := fun front hne hfront =>
    hl.isMatch_entry_iff hne fun name hname => hnames name (hsubset (hfront.subset hname))
  obtain ⟨ignored, hignored, hiff⟩ := hl.exists_isIgnored?_eq hroot hnames
  refine ⟨ignored, hignored, hiff.trans ?_⟩
  by_cases hbound : l.bound = true ∨ 1 < l.names.length
  · simp only [if_pos hbound] at hmatch ⊢
    constructor
    · rintro ⟨front, hne, hfront, hm⟩
      rwa [← (hmatch front hne hfront).1 hm]
    · intro hfront
      exact ⟨l.names, hl.names_ne_nil, hfront, (hmatch _ hl.names_ne_nil hfront).2 rfl⟩
  · simp only [if_neg hbound] at hmatch ⊢
    constructor
    · rintro ⟨front, hne, hfront, hm⟩
      obtain ⟨above, name, rfl, hname⟩ := (hmatch front hne hfront).1 hm
      exact ⟨name, exists_concat_prefix_iff.1 ⟨above, hfront⟩, hname⟩
    · rintro ⟨name, hmem, hname⟩
      obtain ⟨above, hfront⟩ := exists_concat_prefix_iff.2 hmem
      exact ⟨_, by simp, hfront, (hmatch _ (by simp) hfront).2 ⟨above, name, rfl, hname⟩⟩

/-- Of a directory that two names lead to, the files are ignored; a file in its place is not. -/
theorem namesLine_exact_directory :
    let l : NamesLine := ⟨false, ["lib", "gen"], true⟩
    let m := ((empty.insertLine l.text).compile ⟨"/project"⟩).value
    l.text = "lib/gen/" ∧ l.IsLiteral ∧
      m.isIgnored? (relativePath ["lib", "gen", "a.js"]) = some true ∧
      m.isIgnored? (relativePath ["lib", "gen"]) = some false := by
  intro l m
  have htext : l.text = "lib/gen/" := by decide +kernel
  have hl : l.IsLiteral := by
    refine ⟨by simp [l], by simp [l, Glob.marks], ?_, ?_⟩ <;> simp [htext, isBlank]
  have hroot : (⟨"/project"⟩ : Path).isAbsolute = true := by decide
  have hinside : ∀ name ∈ ["lib", "gen", "a.js"], Path.IsName name := by decide
  have hplace : ∀ name ∈ ["lib", "gen"], Path.IsName name := by decide
  obtain ⟨inside, hm, hignored⟩ := namesLine_exact hroot hl hinside
  obtain ⟨place, hm', hkept⟩ := namesLine_exact hroot hl hplace
  obtain rfl : inside = true := hignored.2 (by decide)
  obtain rfl : place = false := by
    rw [Bool.eq_false_iff]
    exact fun h => absurd (hkept.1 h) (by decide)
  exact ⟨htext, hl, hm, hm'⟩

end IgnoreRuleSet

end ScriptCensus
