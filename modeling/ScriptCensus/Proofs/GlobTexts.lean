import Mathlib.Data.List.DropRight
import ScriptCensus.Glob.Parse

/-!
# The texts of globs

Which texts can be read as globs. What a step of the reading does is said once, case by case, by
`Glob.Steps`. Whether a text can be read does not depend on its stars, so that the texts have a
plain grammar: `Glob.Reads` tells of characters how many groups are open before and behind them, and
a text is a glob exactly if it leads from no open group to none (`Glob.parseChars_isOk_iff`).

Characters that are read stay so if others that are read follow (`Glob.Reads.append`). A text can be
cut in two where neither a class nor an escape is cut (`Glob.Reads.cut`).
-/

namespace ScriptCensus.Glob

/-! ## Classes -/

/-- A class is read up to its closing bracket, whatever stands behind that. -/
theorem scanClass_closed {ranges : List (Char × Char)} {n : Nat} :
    ∀ {cs : List Char} {size : Nat} {s : ClassState}, scanClass size s cs = .closed ranges n →
      ∃ body rest, cs = body ++ ']' :: rest ∧ n = size + (body.length + 1) ∧
        ∀ more, scanClass size s (body ++ ']' :: more) = .closed ranges n
  | [], size, s, h => by simp [scanClass] at h
  | c :: cs, size, s, h => by
    -- the reading goes on behind `c` in some state
    have hgoes : ∀ s' : ClassState,
        (∀ ds, scanClass size s (c :: ds) = scanClass (size + 1) s' ds) →
        ∃ body rest, c :: cs = body ++ ']' :: rest ∧ n = size + (body.length + 1) ∧
          ∀ more, scanClass size s (body ++ ']' :: more) = .closed ranges n := by
      intro s' hs'
      obtain ⟨body, rest, rfl, rfl, hmore⟩ := scanClass_closed (hs' cs ▸ h)
      refine ⟨c :: body, rest, rfl, by simp only [List.length_cons]; omega, fun more => ?_⟩
      rw [List.cons_append, hs', hmore]
    by_cases hclose : (c = ']' && !s.first) = true
    · obtain ⟨rfl, -⟩ : c = ']' ∧ s.first = false := by simpa using hclose
      have hend : ∀ ds, scanClass size s (']' :: ds) =
          .closed (if s.inRange then ('-', '-') :: s.ranges else s.ranges).reverse (size + 1) := by
        intro ds
        rw [scanClass, if_pos hclose]
      rw [hend] at h
      refine ⟨[], cs, rfl, ?_, fun more => ?_⟩
      · exact (ClassScan.closed.inj h).2.symm
      · rw [List.nil_append, hend, h]
    · by_cases hdash : (c = '-' && !s.first && !s.inRange) = true
      · exact hgoes _ fun ds => by rw [scanClass, if_neg hclose, if_pos hdash]
      · by_cases hrange : s.inRange = true
        · cases hranges : endRange c s.ranges with
          | error ab => simp [scanClass, hclose, hrange, hranges] at h
          | ok ranges' =>
            refine hgoes ⟨ranges', false, false⟩ fun ds => ?_
            rw [scanClass, if_neg hclose, if_neg hdash, if_pos hrange, hranges]
        · exact hgoes ⟨(c, c) :: s.ranges, false, false⟩ fun ds => by
            rw [scanClass, if_neg hclose, if_neg hdash, if_neg hrange]

theorem classAt_closed {cs : List Char} {negated : Bool} {ranges : List (Char × Char)} {n : Nat}
    (h : classAt cs = (negated, .closed ranges n)) :
    ∃ body rest, cs = body ++ ']' :: rest ∧ n = body.length + 1 ∧
      ∀ more, classAt (body ++ ']' :: more) = (negated, .closed ranges n) := by
  have hmarked : ∀ c rest, cs = c :: rest →
      (∀ ds, classAt (c :: ds) = (true, scanClass 1 ⟨[], true, false⟩ ds)) →
      ∃ body rest, cs = body ++ ']' :: rest ∧ n = body.length + 1 ∧
        ∀ more, classAt (body ++ ']' :: more) = (negated, .closed ranges n) := by
    rintro c rest rfl hc
    obtain ⟨rfl, hscan⟩ := Prod.mk.inj ((hc rest).symm.trans h)
    obtain ⟨body, rest, rfl, rfl, hmore⟩ := scanClass_closed hscan
    refine ⟨c :: body, rest, rfl, by simp only [List.length_cons]; omega, fun more => ?_⟩
    rw [List.cons_append, hc, hmore]
  by_cases hbang : ∃ rest, cs = '!' :: rest
  · obtain ⟨rest, hrest⟩ := hbang
    exact hmarked '!' rest hrest fun ds => rfl
  · by_cases hcaret : ∃ rest, cs = '^' :: rest
    · obtain ⟨rest, hrest⟩ := hcaret
      exact hmarked '^' rest hrest fun ds => rfl
    · have hplain : ∀ ds, ds.head? = cs.head? →
          classAt ds = (false, scanClass 0 ⟨[], true, false⟩ ds) := by
        intro ds hds
        rw [classAt]
        · rintro rest rfl
          exact hbang (List.head?_eq_some_iff.1 hds.symm)
        · rintro rest rfl
          exact hcaret (List.head?_eq_some_iff.1 hds.symm)
      obtain ⟨rfl, hscan⟩ := Prod.mk.inj ((hplain cs rfl).symm.trans h)
      obtain ⟨body, rest, rfl, rfl, hmore⟩ := scanClass_closed hscan
      refine ⟨body, rest, rfl, by omega, fun more => ?_⟩
      rw [hplain _ (by cases body <;> rfl), hmore]

/-! ## Steps -/

/-- The characters that do not stand for themselves. -/
def marks : List Char := ['?', '*', '[', '\x7b', '\x7d', '\\']

/-- What reading a character does: the state behind it, and how many of the characters behind it are
read with it. -/
inductive Steps (previous : Option Char) (s : State) : Char → List Char → State → Nat → Prop
  | any (rest : List Char) : Steps previous s '?' rest (s.push .any) 0
  | star {rest : List Char} (h : ∀ behind, rest ≠ '*' :: behind) :
      Steps previous s '*' rest (s.push .many) 0
  | stars (behind : List Char) : Steps previous s '*' ('*' :: behind)
      (doubleStar previous s behind).1 (doubleStar previous s behind).2
  | ofClass {rest : List Char} {negated : Bool} {ranges : List (Char × Char)} {size : Nat}
      (h : classAt rest = (negated, .closed ranges size)) :
      Steps previous s '[' rest (s.push (.oneOf negated ranges)) size
  | opening (rest : List Char) : Steps previous s '\x7b' rest
      { s with tokens := [], groups := ⟨[], s.tokens⟩ :: s.groups } 0
  | closing (rest : List Char) {s' : State} (h : s.closeGroup = .ok s') :
      Steps previous s '\x7d' rest s' 0
  | comma (rest : List Char) : Steps previous s ',' rest s.comma 0
  | escape (e : Char) (rest : List Char) :
      Steps previous s '\\' (e :: rest) (s.push (.literal e)) 1
  | literal {c : Char} (rest : List Char) (h : c ∉ marks) (hcomma : c ≠ ',') :
      Steps previous s c rest (s.push (.literal c)) 0

theorem step_literal {c : Char} (hc : c ∉ marks) (hcomma : c ≠ ',') (lenient : Bool)
    (previous : Option Char) (s : State) (rest : List Char) :
    step lenient previous s c rest = .ok (s.push (.literal c), 0) := by
  simp only [marks, List.mem_cons, List.not_mem_nil, or_false, not_or] at hc
  obtain ⟨hany, hstar, hclass, hopen, hclose, hescape⟩ := hc
  rw [step] <;> assumption

theorem step_eq_ok_iff {previous : Option Char} {s s' : State} {c : Char} {rest : List Char}
    {skip : Nat} (hs : s.plainBrackets = false) :
    step false previous s c rest = .ok (s', skip) ↔ Steps previous s c rest s' skip := by
  constructor
  · intro h
    unfold step at h
    split at h
    · cases h
      exact .any rest
    · split at h
      · next behind =>
        obtain h := Except.ok.inj h
        have hsteps : Steps previous s '*' ('*' :: behind) _ _ := .stars behind
        rwa [h] at hsteps
      · next hstar =>
        cases h
        exact .star fun behind hrest => hstar behind hrest
    · rw [hs, if_neg (by simp)] at h
      split at h
      · next hclass =>
        cases h
        exact .ofClass hclass
      · simp at h
      · simp at h
    · cases h
      exact .opening rest
    · cases hclose : s.closeGroup with
      | error e => simp [hclose, Except.map] at h
      | ok closed =>
        rw [hclose] at h
        cases h
        exact .closing rest hclose
    · cases h
      exact .comma rest
    · split at h
      · simp at h
      · cases h
        exact .escape _ _
    · next c hany hstar hclass hopen hclose hcomma hescape =>
      cases h
      refine .literal rest ?_ hcomma
      simp only [marks, List.mem_cons, List.not_mem_nil, or_false, not_or]
      exact ⟨hany, hstar, hclass, hopen, hclose, hescape⟩
  · intro h
    cases h with
    | any => rfl
    | star h => simp [step]
    | stars => rfl
    | ofClass h => simp [step, hs, h]
    | opening => rfl
    | closing _ h => simp [step, h, Except.map]
    | comma => rfl
    | escape => rfl
    | literal _ h hcomma => exact step_literal h hcomma false previous s rest

/-- Two stars are read with the slash behind them at most, and open or close no group. -/
theorem doubleStar_cases (previous : Option Char) (s : State) (behind : List Char) :
    (doubleStar previous s behind).1.groups = s.groups ∧
    (doubleStar previous s behind).1.plainBrackets = s.plainBrackets ∧
    ((doubleStar previous s behind).2 = 1 ∨
      (doubleStar previous s behind).2 = 2 ∧ ∃ more, behind = '/' :: more) := by
  have hdepth : ∀ t, (s.pushDepth t).groups = s.groups ∧
      (s.pushDepth t).plainBrackets = s.plainBrackets := by
    intro t
    unfold State.pushDepth
    split <;> exact ⟨rfl, rfl⟩
  unfold doubleStar
  split
  · split
    · exact ⟨rfl, rfl, Or.inl rfl⟩
    · next more => exact ⟨rfl, rfl, Or.inr ⟨rfl, more, rfl⟩⟩
    · exact ⟨rfl, rfl, Or.inl rfl⟩
  · split
    · exact ⟨rfl, rfl, Or.inl rfl⟩
    · split
      · exact ⟨(hdepth _).1, (hdepth _).2, Or.inl rfl⟩
      · next more => exact ⟨(hdepth _).1, (hdepth _).2, Or.inr ⟨rfl, more, rfl⟩⟩
      · split
        · exact ⟨(hdepth _).1, (hdepth _).2, Or.inl rfl⟩
        · exact ⟨rfl, rfl, Or.inl rfl⟩

theorem Steps.plainBrackets {previous : Option Char} {s s' : State} {c : Char} {rest : List Char}
    {skip : Nat} (h : Steps previous s c rest s' skip) : s'.plainBrackets = s.plainBrackets := by
  cases h with
  | any | star | ofClass | opening | escape | literal => rfl
  | stars behind => exact (doubleStar_cases previous s behind).2.1
  | closing _ h =>
    unfold State.closeGroup at h
    split at h
    · simp at h
    · cases h
      rfl
  | comma =>
    unfold State.comma
    split <;> rfl

/-- Reading a text that is not empty, step by step. -/
theorem parseFrom_cons_eq_ok_iff {previous : Option Char} {s s' : State} {c : Char} {cs : List Char}
    (hs : s.plainBrackets = false) :
    parseFrom false 0 previous s (c :: cs) = .ok s' ↔ ∃ s₁ skip, Steps previous s c cs s₁ skip ∧
      parseFrom false skip (some c) s₁ cs = .ok s' := by
  rw [parseFrom]
  constructor
  · intro h
    split at h
    · simp at h
    · next s₁ skip hstep => exact ⟨s₁, skip, (step_eq_ok_iff hs).1 hstep, h⟩
  · rintro ⟨s₁, skip, hstep, h⟩
    rw [(step_eq_ok_iff hs).2 hstep]
    exact h

theorem parseFrom_of_steps {previous : Option Char} {s s₁ : State} {c : Char} {cs : List Char}
    {skip : Nat} (hs : s.plainBrackets = false) (h : Steps previous s c cs s₁ skip) :
    parseFrom false 0 previous s (c :: cs) = parseFrom false skip (some c) s₁ cs := by
  rw [parseFrom, (step_eq_ok_iff hs).2 h]

theorem parseFrom_skip (lenient : Bool) (s : State) (last : Char) (rest : List Char) :
    ∀ (body : List Char) (previous : Option Char),
      parseFrom lenient (body.length + 1) previous s (body ++ last :: rest) =
        parseFrom lenient 0 (some last) s rest
  | [], _ => rfl
  | c :: body, _ => parseFrom_skip lenient s last rest body (some c)

/-! ## Grammar -/

/-- The characters for which a text can fail to be a glob. -/
def guards : List Char := ['[', '\x7b', '\x7d', '\\']

theorem guards_subset_marks : guards ⊆ marks := by decide

/-- Whether characters can be read, with some groups open before them and some behind. -/
inductive Reads : Nat → List Char → Nat → Prop
  | nil (d : Nat) : Reads d [] d
  | plain {c : Char} {cs : List Char} {d e : Nat} (hc : c ∉ guards) (h : Reads d cs e) :
      Reads d (c :: cs) e
  | ofClass {body cs : List Char} {d e : Nat} {negated : Bool} {ranges : List (Char × Char)}
      (hbody : ∀ more, classAt (body ++ ']' :: more) = (negated, .closed ranges (body.length + 1)))
      (h : Reads d cs e) : Reads d ('[' :: (body ++ ']' :: cs)) e
  | opening {cs : List Char} {d e : Nat} (h : Reads (d + 1) cs e) : Reads d ('\x7b' :: cs) e
  | closing {cs : List Char} {d e : Nat} (h : Reads d cs e) : Reads (d + 1) ('\x7d' :: cs) e
  | escape (c : Char) {cs : List Char} {d e : Nat} (h : Reads d cs e) : Reads d ('\\' :: c :: cs) e

theorem Reads.append {cs ds : List Char} {d e f : Nat} (h : Reads d cs e) (h' : Reads e ds f) :
    Reads d (cs ++ ds) f := by
  induction h with
  | nil => exact h'
  | plain hc _ ih => exact .plain hc (ih h')
  | @ofClass body cs _ _ _ _ hbody _ ih =>
    rw [List.cons_append, List.append_assoc, List.cons_append]
    exact .ofClass hbody (ih h')
  | opening _ ih => exact .opening (ih h')
  | closing _ ih => exact .closing (ih h')
  | escape c _ ih => exact .escape c (ih h')

theorem State.length_groups_comma (s : State) : s.comma.groups.length = s.groups.length := by
  unfold comma
  split
  · rfl
  · next hgroups => simp [hgroups]

/-- What has been read follows the grammar. -/
theorem reads_of_parseFrom {s' : State} : ∀ (cs : List Char) {skip : Nat} {previous : Option Char}
    {s : State}, s.plainBrackets = false → parseFrom false skip previous s cs = .ok s' →
      Reads s.groups.length (cs.drop skip) s'.groups.length
  | [], skip, previous, s, _, h => by
    obtain rfl : s = s' := by simpa [parseFrom] using h
    rw [List.drop_nil]
    exact .nil _
  | c :: cs, skip + 1, previous, s, hs, h => reads_of_parseFrom cs hs h
  | c :: cs, 0, previous, s, hs, h => by
    obtain ⟨s₁, skip, hstep, hrest⟩ := (parseFrom_cons_eq_ok_iff hs).1 h
    have ih := reads_of_parseFrom cs (hstep.plainBrackets.trans hs) hrest
    rw [List.drop_zero]
    cases hstep with
    | any => exact .plain (by decide) ih
    | star => exact .plain (by decide) ih
    | stars behind =>
      obtain ⟨hgroups, -, hskip⟩ := doubleStar_cases previous s behind
      rw [hgroups] at ih
      refine .plain (by decide) (.plain (by decide) ?_)
      rcases hskip with hskip | ⟨hskip, more, rfl⟩
      · rwa [hskip] at ih
      · rw [hskip] at ih
        exact .plain (by decide) ih
    | ofClass hclass =>
      obtain ⟨body, rest, rfl, rfl, hmore⟩ := classAt_closed hclass
      have hdrop : (body ++ ']' :: rest).drop (body.length + 1) = rest := by simp
      rw [hdrop] at ih
      exact .ofClass hmore ih
    | opening => exact .opening ih
    | closing _ hclose =>
      unfold State.closeGroup at hclose
      split at hclose
      · simp at hclose
      · next g outer hgroups =>
        cases hclose
        rw [hgroups]
        exact .closing ih
    | comma =>
      rw [s.length_groups_comma] at ih
      exact .plain (by decide) ih
    | escape e rest => exact .escape e ih
    | literal _ hc =>
      exact .plain (fun hmem => hc (guards_subset_marks hmem)) ih

/-- A character that guards nothing can be read, alone or with what follows. -/
theorem exists_steps_of_plain {c : Char} (hc : c ∉ guards) (cs : List Char) {tail : List Char}
    (htail : ∀ x ∈ tail.head?, x ≠ '*' ∧ x ≠ '/') (previous : Option Char) (s : State) :
    ∃ s₁ skip, Steps previous s c (cs ++ tail) s₁ skip ∧ s₁.groups.length = s.groups.length ∧
      skip ≤ cs.length ∧ ∀ x ∈ cs.take skip, x ∉ guards := by
  by_cases hstar : c = '*'
  · subst hstar
    by_cases hstars : ∃ behind, cs ++ tail = '*' :: behind
    · obtain ⟨behind, hbehind⟩ := hstars
      obtain ⟨hgroups, -, hskip⟩ := doubleStar_cases previous s behind
      have hsteps : Steps previous s '*' ('*' :: behind) _ _ := .stars behind
      rw [← hbehind] at hsteps
      refine ⟨_, _, hsteps, by rw [hgroups], ?_⟩
      cases cs with
      | nil => simp_all
      | cons x cs =>
        obtain ⟨rfl, rfl⟩ := List.cons.inj hbehind
        rcases hskip with hskip | ⟨hskip, more, hmore⟩
        · rw [hskip]
          exact ⟨by simp, by simp [guards]⟩
        · rw [hskip]
          cases cs with
          | nil => simp_all
          | cons y cs =>
            obtain ⟨rfl, rfl⟩ := List.cons.inj hmore
            exact ⟨by simp, by simp [guards]⟩
    · exact ⟨_, 0, .star fun behind hrest => hstars ⟨behind, hrest⟩, rfl, by simp, by simp⟩
  · by_cases hany : c = '?'
    · subst hany
      exact ⟨_, 0, .any _, rfl, by simp, by simp⟩
    · by_cases hcomma : c = ','
      · subst hcomma
        exact ⟨_, 0, .comma _, s.length_groups_comma, by simp, by simp⟩
      · refine ⟨_, 0, .literal _ ?_ hcomma, rfl, by simp, by simp⟩
        simp_all [marks, guards]

theorem skip_eq_zero {c : Char} {cs : List Char} {skip : Nat} (hc : c ∈ guards)
    (hplain : ∀ x ∈ (c :: cs).take skip, x ∉ guards) : skip = 0 := by
  cases skip with
  | zero => rfl
  | succ skip => exact absurd hc (hplain c (by simp))

/-- What follows the grammar can be read, if what stands behind it is not read with a star. -/
theorem Reads.parseFrom {cs : List Char} {d e : Nat} (h : Reads d cs e) {tail : List Char}
    (htail : ∀ x ∈ tail.head?, x ≠ '*' ∧ x ≠ '/') :
    ∀ (skip : Nat) (previous : Option Char) (s : State), s.plainBrackets = false →
      s.groups.length = d → skip ≤ cs.length → (∀ x ∈ cs.take skip, x ∉ guards) →
      ∃ last s', parseFrom false skip previous s (cs ++ tail) = parseFrom false 0 last s' tail ∧
        s'.groups.length = e ∧ s'.plainBrackets = false := by
  induction h with
  | nil d =>
    intro skip previous s hs hd hskip _
    obtain rfl : skip = 0 := by simpa using hskip
    exact ⟨previous, s, rfl, hd, hs⟩
  | @plain c cs d e hc _ ih =>
    intro skip previous s hs hd hskip hplain
    cases skip with
    | succ skip =>
      obtain ⟨-, hplain⟩ := List.forall_mem_cons.1 hplain
      exact ih skip (some c) s hs hd (by simpa using hskip) hplain
    | zero =>
      obtain ⟨s₁, skip, hsteps, hgroups, hskip, hplain⟩ :=
        exists_steps_of_plain hc cs htail previous s
      rw [List.cons_append, parseFrom_of_steps hs hsteps]
      exact ih _ _ _ (hsteps.plainBrackets.trans hs) (hgroups.trans hd) hskip hplain
  | @ofClass body cs d e negated ranges hbody _ ih =>
    intro skip previous s hs hd _ hplain
    obtain rfl := skip_eq_zero (by decide) hplain
    have hsteps : Steps previous s '[' (body ++ ']' :: (cs ++ tail)) _ _ := .ofClass (hbody _)
    obtain ⟨last, s', hparse, hs'⟩ := ih 0 (some ']')
      (s.push (.oneOf negated ranges)) hs hd (by simp) (by simp)
    refine ⟨last, s', ?_, hs'⟩
    rw [List.cons_append, List.append_assoc, List.cons_append, parseFrom_of_steps hs hsteps,
      parseFrom_skip, hparse]
  | @opening cs d e _ ih =>
    intro skip previous s hs hd _ hplain
    obtain rfl := skip_eq_zero (by decide) hplain
    rw [List.cons_append, parseFrom_of_steps hs (.opening _)]
    exact ih _ _ _ hs (by simpa using hd) (by simp) (by simp)
  | @closing cs d e _ ih =>
    intro skip previous s hs hd _ hplain
    obtain rfl := skip_eq_zero (by decide) hplain
    obtain ⟨g, outer, hgroups⟩ := List.exists_cons_of_length_eq_add_one hd
    have hclose : s.closeGroup = .ok { s with
        tokens := .either ((s.tokens.reverse :: g.branches).reverse) :: g.before
        groups := outer } := by
      rw [State.closeGroup, hgroups]
    rw [List.cons_append, parseFrom_of_steps hs (.closing _ hclose)]
    refine ih _ _ _ hs ?_ (by simp) (by simp)
    simpa [hgroups] using hd
  | @escape c cs d e _ ih =>
    intro skip previous s hs hd _ hplain
    obtain rfl := skip_eq_zero (by decide) hplain
    rw [List.cons_append, List.cons_append, parseFrom_of_steps hs (.escape c _)]
    exact ih 0 (some c) (s.push (.literal c)) hs hd (by simp) (by simp)

/-- What follows the grammar is read from the start. -/
theorem Reads.parseFrom_start {cs : List Char} {d : Nat} (h : Reads 0 cs d) {tail : List Char}
    (htail : ∀ x ∈ tail.head?, x ≠ '*' ∧ x ≠ '/') :
    ∃ last s', Glob.parseFrom false 0 none ⟨[], [], false⟩ (cs ++ tail) =
      Glob.parseFrom false 0 last s' tail ∧ s'.groups.length = d := by
  obtain ⟨last, s', hparse, hgroups, -⟩ :=
    h.parseFrom htail 0 none ⟨[], [], false⟩ rfl rfl (by simp) (by simp)
  exact ⟨last, s', hparse, hgroups⟩

/-- A text is a glob exactly if it leads from no open group to none. -/
theorem parseChars_isOk_iff (cs : List Char) :
    (parseChars false cs).isOk = true ↔ Reads 0 cs 0 := by
  unfold parseChars
  constructor
  · intro h
    cases hparse : Glob.parseFrom false 0 none ⟨[], [], false⟩ cs with
    | error e => simp [hparse, Except.isOk, Except.toBool] at h
    | ok s' =>
      have hreads := reads_of_parseFrom cs rfl hparse
      cases hgroups : s'.groups with
      | nil => simpa [hgroups] using hreads
      | cons g outer => simp [hparse, hgroups, Except.isOk, Except.toBool] at h
  · intro h
    have htail : ∀ x ∈ ([] : List Char).head?, x ≠ '*' ∧ x ≠ '/' := by simp
    obtain ⟨last, s', hparse, hgroups⟩ := h.parseFrom_start htail
    rw [List.append_nil] at hparse
    have hnone : s'.groups = [] := List.length_eq_zero_iff.1 hgroups
    simp [hparse, Glob.parseFrom, hnone, Except.isOk, Except.toBool]

/-- Behind what can be read, a backslash alone is an error. -/
theorem parseChars_dangling {cs : List Char} {d : Nat} (h : Reads 0 cs d) :
    parseChars false (cs ++ ['\\']) = .error .danglingEscape := by
  have htail : ∀ x ∈ ['\\'].head?, x ≠ '*' ∧ x ≠ '/' := by simp
  obtain ⟨last, s', hparse, -⟩ := h.parseFrom_start htail
  rw [parseChars, hparse]
  rfl

/-! ## Cutting texts -/

theorem getLast?_ne_of_append {a b : List Char} {c : Char} (h : (a ++ b).getLast? ≠ some c) :
    b.getLast? ≠ some c := by
  intro hb
  rw [List.getLast?_append, hb] at h
  exact h rfl

/-- A text can be cut where neither a class nor an escape is cut. -/
theorem Reads.cut {tail : List Char} (htail : ']' ∉ tail) {text : List Char} {d e : Nat}
    (h : Reads d text e) : ∀ {front : List Char}, text = front ++ tail →
      front.getLast? ≠ some '\\' → ∃ f, Reads d front f ∧ Reads f tail e := by
  have hall : ∀ {text : List Char} {d e : Nat}, Reads d text e → text = tail →
      ∃ f, Reads d [] f ∧ Reads f tail e := fun h htext => ⟨_, .nil _, htext ▸ h⟩
  induction h with
  | nil d =>
    intro front htext _
    obtain ⟨rfl, rfl⟩ := List.append_eq_nil_iff.1 htext.symm
    exact ⟨d, .nil d, .nil d⟩
  | plain hc h ih =>
    rintro (_ | ⟨x, front⟩) htext hlast
    · exact hall (.plain hc h) htext
    · obtain ⟨rfl, hcs⟩ := List.cons.inj htext
      obtain ⟨f, hbefore, hbehind⟩ := ih hcs (getLast?_ne_of_append (a := [_]) hlast)
      exact ⟨f, .plain hc hbefore, hbehind⟩
  | @ofClass body cs d e _ _ hbody h ih =>
    rintro (_ | ⟨x, front⟩) htext hlast
    · exact hall (.ofClass hbody h) htext
    · obtain ⟨rfl, hcs⟩ := List.cons.inj htext
      have hsplit : front ++ tail = (body ++ [']']) ++ cs := by simpa using hcs.symm
      rcases List.append_eq_append_iff.1 hsplit with ⟨a, hclass, htail'⟩ | ⟨a, rfl, hrest⟩
      · cases a using List.reverseRecOn with
        | nil =>
          obtain rfl : body ++ [']'] = front := by simpa using hclass
          obtain rfl : tail = cs := by simpa using htail'
          exact ⟨d, .ofClass hbody (.nil d), h⟩
        | append_singleton a x =>
          -- then the closing bracket of the class would stand in the second part
          rw [← List.append_assoc] at hclass
          obtain ⟨-, hx⟩ := List.append_inj' hclass rfl
          exact absurd (by simp [htail', ← hx]) htail
      · obtain ⟨f, hbefore, hbehind⟩ :=
          ih hrest (getLast?_ne_of_append (a := '[' :: (body ++ [']'])) hlast)
        refine ⟨f, ?_, hbehind⟩
        rw [List.append_assoc, List.singleton_append]
        exact .ofClass hbody hbefore
  | opening h ih =>
    rintro (_ | ⟨x, front⟩) htext hlast
    · exact hall (.opening h) htext
    · obtain ⟨rfl, hcs⟩ := List.cons.inj htext
      obtain ⟨f, hbefore, hbehind⟩ := ih hcs (getLast?_ne_of_append (a := [_]) hlast)
      exact ⟨f, .opening hbefore, hbehind⟩
  | closing h ih =>
    rintro (_ | ⟨x, front⟩) htext hlast
    · exact hall (.closing h) htext
    · obtain ⟨rfl, hcs⟩ := List.cons.inj htext
      obtain ⟨f, hbefore, hbehind⟩ := ih hcs (getLast?_ne_of_append (a := [_]) hlast)
      exact ⟨f, .closing hbefore, hbehind⟩
  | escape c h ih =>
    rintro (_ | ⟨x, _ | ⟨y, front⟩⟩) htext hlast
    · exact hall (.escape c h) htext
    · obtain ⟨rfl, -⟩ := List.cons.inj htext
      exact absurd rfl hlast
    · obtain ⟨rfl, hrest⟩ := List.cons.inj htext
      obtain ⟨rfl, hcs⟩ := List.cons.inj hrest
      obtain ⟨f, hbefore, hbehind⟩ := ih hcs (getLast?_ne_of_append (a := ['\\', _]) hlast)
      exact ⟨f, .escape _ hbefore, hbehind⟩

end ScriptCensus.Glob
