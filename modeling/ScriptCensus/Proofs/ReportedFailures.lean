import Mathlib.Data.List.DropRight
import ScriptCensus.Inference.Dispatch
import ScriptCensus.Proofs.ConfiguredExcludes
import ScriptCensus.Proofs.JsonReadings
import ScriptCensus.Proofs.RuleSets

/-!
# Failures inside an answer

An answer that reports a failure is a text that starts with a mark, and such a text may be sent in three
forms (`Payload.Sends`). They are told apart by reading: what starts with the mark is no JSON, a string
in quotes and an array of strings are read as what they spell. Blanks around an answer are dropped
before it is read, and none of the three forms starts or ends with a blank once those of the text are
dropped with them. So the failure is the same in every form, and whatever counts as a failure starts
with the mark (`Payload.failure?_parse`).
-/

namespace ScriptCensus

open JsonReader

/-! ## Blanks at the ends -/

/-- Characters of which neither the first nor the last is a blank. -/
def Trimmed (cs : List Char) : Prop :=
  (∀ c ∈ cs.head?, isBlank c = false) ∧ ∀ c ∈ cs.getLast?, isBlank c = false

theorem toList_trimBlanks (s : String) :
    (trimBlanks s).toList = (s.toList.dropWhile isBlank).rdropWhile isBlank := by
  rw [trimBlanks, String.toList_ofList]
  rfl

theorem trimmed_trimBlanks (s : String) : Trimmed (trimBlanks s).toList := by
  rw [toList_trimBlanks]
  constructor
  · intro c hc
    obtain ⟨cs, hcs⟩ := List.head?_eq_some_iff.1 hc
    obtain ⟨trail, htrail⟩ := List.rdropWhile_prefix isBlank (s.toList.dropWhile isBlank)
    have hfront := List.head?_dropWhile_not isBlank s.toList
    rwa [← htrail, hcs] at hfront
  · intro c hc
    obtain ⟨hne, rfl⟩ := List.mem_getLast?_eq_getLast hc
    simpa using List.rdropWhile_last_not isBlank _ hne

/-- Blanks around what has none at its ends are dropped. -/
theorem trimBlanks_append {ws cs ws' : List Char} (hws : ∀ c ∈ ws, isBlank c = true)
    (hcs : Trimmed cs) (hne : cs ≠ []) (hws' : ∀ c ∈ ws', isBlank c = true) :
    trimBlanks (String.ofList (ws ++ cs ++ ws')) = String.ofList cs := by
  have hfront : (ws ++ cs ++ ws').dropWhile isBlank = cs ++ ws' := by
    obtain ⟨c, cs, rfl⟩ := List.exists_cons_of_ne_nil hne
    rw [List.append_assoc, List.dropWhile_append_of_pos hws, List.cons_append, List.dropWhile_cons,
      if_neg (by simp [hcs.1 c rfl])]
  have hback : dropEndWhile isBlank (cs ++ ws') = cs := by
    obtain ⟨cs, c, rfl⟩ := (List.eq_nil_or_concat cs).resolve_left hne
    rw [dropEndWhile, List.reverse_append, List.dropWhile_append_of_pos (by simpa using hws'),
      List.concat_eq_append, List.reverse_append, List.reverse_singleton, List.singleton_append,
      List.dropWhile_cons, if_neg (by simp [hcs.2 c (by simp)])]
    simp
  rw [trimBlanks, String.toList_ofList, hfront, hback]

namespace Payload

/-! ## The mark -/

theorem marksFailure_iff {s : String} :
    marksFailure s = true ↔ failureMark.toList <+: s.toList.dropWhile isBlank := by
  rw [marksFailure, List.isPrefixOf_iff_prefix]

/-- A text that starts with one that has the mark has it too. -/
theorem marksFailure_append {s : String} (h : marksFailure s = true) (t : String) :
    marksFailure (s ++ t) = true := by
  rw [marksFailure_iff] at h ⊢
  have hne : (s.toList.dropWhile isBlank).isEmpty = false := by
    obtain ⟨cs, hcs⟩ := h
    rw [← hcs]
    rfl
  rw [String.toList_append, List.dropWhile_append, if_neg (by simp [hne])]
  exact h.trans (List.prefix_append _ _)

/-- The last letter of the mark is no blank, so the mark stays when the blanks at the end are dropped. -/
theorem prefix_rdropWhile {cs : List Char} (h : failureMark.toList <+: cs) :
    failureMark.toList <+: cs.rdropWhile isBlank := by
  obtain ⟨t, rfl⟩ := h
  induction t using List.reverseRecOn with
  | nil =>
    have hlast : failureMark.toList.rdropWhile isBlank = failureMark.toList := by decide
    simp [hlast]
  | append_singleton t c ih =>
    rw [← List.append_assoc, List.rdropWhile_concat]
    split
    · exact ih
    · rw [List.append_assoc]
      exact List.prefix_append _ _

theorem prefix_trimBlanks {s : String} (h : marksFailure s = true) :
    failureMark.toList <+: (trimBlanks s).toList := by
  rw [toList_trimBlanks]
  exact prefix_rdropWhile (marksFailure_iff.1 h)

theorem marksFailure_trimBlanks {s : String} (h : marksFailure s = true) :
    marksFailure (trimBlanks s) = true := by
  obtain ⟨cs, hcs⟩ := prefix_trimBlanks h
  rw [marksFailure_iff, ← hcs]
  exact List.prefix_append _ cs

/-! ## What the forms are read as -/

/-- The forms in which a text is sent: as it is, as a JSON string, and as a JSON array of its parts. -/
inductive Sends (parts : List String) : List Char → Prop
  | text : Sends parts (String.join parts).toList
  | string {cs : List Char} (h : Quoted (String.join parts) cs) : Sends parts cs
  | array {cs : List Char} (h : (JsonValue.array (parts.map .string)).Spelled cs) : Sends parts cs

/-- No JSON text starts with the first letter of the mark. -/
theorem toOption_readJson_of_prefix {s : String} (h : failureMark.toList <+: s.toList) :
    (readJson s).toOption = none := by
  obtain ⟨cs, hcs⟩ := h
  have hmark : failureMark.toList = 'F' :: "AILURE".toList := by decide
  have hs : s = String.ofList ([] ++ 'F' :: ("AILURE".toList ++ cs) ++ []) := by
    rw [List.nil_append, List.append_nil, ← List.cons_append, ← hmark, hcs, String.ofList_toList]
  have hfails : (scalar 'F').Fails := fails_failAhead _
  rw [hs]
  exact Comes.readAll (comes_valueOver_char _ blank_nil (by decide) (by decide) (by decide)
    (hfails.comes (P := (· = none)) rfl _ _)) blank_nil

/-- What can only be read as itself is read so. -/
theorem readJson_of_spelled {v : JsonValue} (hv : v.Distinct) (hplain : v.Plain nestingLimit)
    (hlike : ∀ w, v.Like w → w = v) {cs : List Char} (hcs : v.Spelled cs) :
    readJson (String.ofList cs) = .ok v := by
  have hread := hcs.written.readAs hv
  obtain ⟨w, hw⟩ := Option.isSome_iff_exists.1 (hread.2 hplain)
  rw [hlike w (hread.1 w hw)] at hw
  exact eq_ok_of_toOption hw.symm

theorem readJson_string {s : String} {cs : List Char} (h : Quoted s cs) :
    readJson (String.ofList cs) = .ok (.string s) :=
  readJson_of_spelled (.string s) (.string _ s) (by rintro w ⟨⟩; rfl) (.string h)

theorem readJson_strings {parts : List String} {cs : List Char}
    (h : (JsonValue.array (parts.map .string)).Spelled cs) :
    readJson (String.ofList cs) = .ok (.array (parts.map .string)) := by
  refine readJson_of_spelled (.array ?_) (.array ?_) ?_ h
  · simp only [List.forall_mem_map]
    exact fun s _ => .string s
  · simp only [List.forall_mem_map]
    exact fun s _ => .string _ s
  · intro w hw
    cases hw with
    | array hitems => rw [hitems.eq_strings]

theorem trimmed_of_ends {c d : Char} (hc : isBlank c = false) (hd : isBlank d = false)
    (cs : List Char) : Trimmed (c :: (cs ++ [d])) := by
  refine ⟨by rintro _ ⟨⟩; exact hc, fun e he => ?_⟩
  rw [← List.cons_append, List.getLast?_concat, Option.mem_some_iff] at he
  rwa [← he]

/-- What is read without the blanks around it is read with them. -/
theorem parse_of_readJson {ws cs ws' : List Char} {v : JsonValue}
    (hread : readJson (String.ofList cs) = .ok v) (hws : ∀ c ∈ ws, isBlank c = true)
    (hcs : Trimmed cs) (hne : cs ≠ []) (hws' : ∀ c ∈ ws', isBlank c = true) :
    parse (String.ofList (ws ++ cs ++ ws')) = json v := by
  simp only [parse, trimBlanks_append hws hcs hne hws', hread]

/-- A text that is sent as it is stays a text. -/
theorem failure?_text {s : String} (h : marksFailure s = true) {ws ws' : List Char}
    (hws : ∀ c ∈ ws, isBlank c = true) (hws' : ∀ c ∈ ws', isBlank c = true) :
    (parse (String.ofList (ws ++ s.toList ++ ws'))).failure? = some (trimBlanks s) := by
  -- the blanks at the ends of the text go with those around it
  obtain ⟨lead, trail, hs, hlead, htrail⟩ := exists_eq_append_trimBlanks s
  have hbody : ws ++ s.toList ++ ws' =
      (ws ++ lead) ++ (trimBlanks s).toList ++ (trail ++ ws') := by
    rw [hs]
    simp only [List.append_assoc]
  have hprefix := prefix_trimBlanks h
  have hne : (trimBlanks s).toList ≠ [] := by
    intro hnil
    rw [hnil] at hprefix
    exact absurd (List.prefix_nil.1 hprefix) (by decide)
  have htrim : trimBlanks (String.ofList (ws ++ s.toList ++ ws')) = trimBlanks s := by
    rw [hbody, trimBlanks_append (List.forall_mem_append.2 ⟨hws, hlead⟩) (trimmed_trimBlanks s) hne
      (List.forall_mem_append.2 ⟨htrail, hws'⟩), String.ofList_toList]
  have hrefused := toOption_readJson_of_prefix hprefix
  cases hread : readJson (trimBlanks s) with
  | ok v =>
    rw [hread] at hrefused
    cases hrefused
  | error fault =>
    simp only [parse, htrim, hread, failure?, marksFailure_trimBlanks h, if_true, trimBlanks_trimBlanks]

theorem failure?_of_sends {a : String} {as : List String} (ha : marksFailure a = true)
    {cs ws ws' : List Char} (h : Sends (a :: as) cs) (hws : ∀ c ∈ ws, isBlank c = true)
    (hws' : ∀ c ∈ ws', isBlank c = true) :
    (parse (String.ofList (ws ++ cs ++ ws'))).failure? =
      some (trimBlanks (String.join (a :: as))) := by
  have hjoin : marksFailure (String.join (a :: as)) = true := by
    rw [String.join_cons]
    exact marksFailure_append ha _
  cases h with
  | text => exact failure?_text hjoin hws hws'
  | string h =>
    have hread := readJson_string h
    obtain ⟨ds, -, rfl⟩ := h
    rw [parse_of_readJson hread hws (trimmed_of_ends (by decide) (by decide) ds) (by simp) hws']
    simp only [failure?, hjoin, if_true]
  | array h =>
    have hread := readJson_strings h
    have hshown : (as.map JsonValue.string).map showValue = as := by
      rw [List.map_map]
      exact List.map_id as
    cases h with
    | array hitems =>
      rw [parse_of_readJson hread hws (trimmed_of_ends (by decide) (by decide) _) (by simp) hws']
      simp only [failure?, List.map_cons, ha, if_true, hshown]

/-! ## Every failure -/

/-- What is reported is a text with the mark, without the blanks around it. -/
theorem exists_of_failure? {p : Payload} {m : String} (h : p.failure? = some m) :
    ∃ s, marksFailure s = true ∧ m = trimBlanks s := by
  unfold failure? at h
  split at h
  · split at h
    · next s hs => exact ⟨s, hs, (Option.some.inj h).symm⟩
    · cases h
  · split at h
    · next s hs => exact ⟨s, hs, (Option.some.inj h).symm⟩
    · cases h
  · next s rest =>
    split at h
    · next hs =>
      refine ⟨String.join (s :: rest.map showValue), ?_, (Option.some.inj h).symm⟩
      rw [String.join_cons]
      exact marksFailure_append hs _
    · cases h
  · cases h

/-- A failure is found in every form in which it is sent, and whatever is found is one. -/
theorem failure?_parse :
    (∀ (a : String) (as : List String), marksFailure a = true →
      ∀ cs ws ws' : List Char, Sends (a :: as) cs → (∀ c ∈ ws, isBlank c = true) →
        (∀ c ∈ ws', isBlank c = true) →
          (parse (String.ofList (ws ++ cs ++ ws'))).failure? =
            some (trimBlanks (String.join (a :: as)))) ∧
      ∀ body : String,
        (∀ m, (parse body).failure? = some m → failureMark.toList <+: m.toList ∧ Trimmed m.toList ∧
          (parse body).check = .error (.rejected m)) ∧
        ((parse body).failure? = none → (parse body).check = .ok (parse body)) := by
  refine ⟨fun a as ha cs ws ws' h hws hws' => failure?_of_sends ha h hws hws', fun body => ⟨?_, ?_⟩⟩
  · intro m hm
    obtain ⟨s, hs, rfl⟩ := exists_of_failure? hm
    refine ⟨prefix_trimBlanks hs, trimmed_trimBlanks s, ?_⟩
    rw [check, hm]
  · intro hnone
    rw [check, hnone]

/-- One failure in each of the three forms, with blanks of several kinds around it. -/
theorem failure?_parse_threefold :
    let failure := "FAILURE: no \"model\""
    (parse "\u2003\u00a0FAILURE: no \"model\"\n").failure? = some failure ∧
      (parse "\n\"\u00a0FAILURE: no \\\"model\\\"\\n\"\u2003").failure? = some failure ∧
      (parse "[\"\u00a0FAILURE: \",\"no \\\"model\\\"\\n\"]\n").failure? = some failure := by
  intro failure
  have hmark : marksFailure "\u00a0FAILURE: " = true := by decide +kernel
  have hfailure : trimBlanks (String.join ["\u00a0FAILURE: ", "no \"model\"\n"]) = failure := by
    decide +kernel
  have hforms := failure?_parse.1 "\u00a0FAILURE: " ["no \"model\"\n"] hmark
  have htext : "\u2003\u00a0FAILURE: no \"model\"\n" =
      String.ofList (['\u2003'] ++
        (String.join ["\u00a0FAILURE: ", "no \"model\"\n"]).toList ++ []) := by
    decide +kernel
  have hstring : "\n\"\u00a0FAILURE: no \\\"model\\\"\\n\"\u2003" =
      String.ofList (['\n'] ++ jsonQuote (String.join ["\u00a0FAILURE: ", "no \"model\"\n"]) ++
        ['\u2003']) := by
    decide +kernel
  have harray : "[\"\u00a0FAILURE: \",\"no \\\"model\\\"\\n\"]\n" =
      String.ofList ([] ++ (JsonValue.array
        (["\u00a0FAILURE: ", "no \"model\"\n"].map .string)).compactChars ++ ['\n']) := by
    decide +kernel
  have hline : ∀ c ∈ ['\n'], isBlank c = true := List.forall_mem_singleton.2 (by decide)
  have hspace : ∀ c ∈ ['\u2003'], isBlank c = true := List.forall_mem_singleton.2 (by decide)
  rw [htext, hstring, harray, ← hfailure]
  refine ⟨?_, ?_, ?_⟩
  · exact hforms _ _ _ .text hspace (by simp)
  · exact hforms _ _ _ (.string (quoted_jsonQuote _)) hline hspace
  · exact hforms _ _ _ (.array (JsonValue.spelled_compactChars _)) (by simp) hline

end Payload

end ScriptCensus
