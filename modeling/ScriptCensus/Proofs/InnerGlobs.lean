import ScriptCensus.Proofs.GlobLanguages
import ScriptCensus.Proofs.GlobTexts
import ScriptCensus.Proofs.IgnoreLists

/-!
# Globs of what is inside

A glob `D/**` is about what is inside the directories for which `D` stands. How `D` is read alone has
to be compared with how it is read in front of a slash. It is read in the same way unless it ends in
two stars that fill their place (`Glob.parseFrom_before_slash`), and then the glob of what is inside is
the same glob (`Glob.parseChars_inside`). So what is inside a directory that `D` matches is matched by
`D/**` (`Glob.isMatch_inside`).

This fails for one kind of text. Two stars and a slash, `**/`, are read as two stars alone, which
match every path; with a further slash and stars they match no path of a scan
(`Glob.isMatch_depths_inside`).
-/

namespace ScriptCensus

namespace Glob

/-! ## Two stars that fill their place -/

/-- Reads two stars that fill the place between slashes; inside a glob they become a given token. -/
def State.deepen (s : State) (t : GlobToken) : State :=
  if s.tokens.isEmpty then s.push .depthBefore else s.pushDepth t

/-- Stars in front of a slash are read as at the end, or else they fill their place. -/
theorem doubleStar_end (previous : Option Char) (s : State) :
    (∀ rest, doubleStar previous s ('/' :: rest) = doubleStar previous s [] ∧
      (doubleStar previous s []).2 = 1) ∨
    doubleStar previous s [] = (s.deepen .depthAfter, 1) ∧
      ∀ rest, doubleStar previous s ('/' :: rest) = (s.deepen .depthBetween, 2) := by
  unfold doubleStar State.deepen
  by_cases hempty : s.tokens.isEmpty = true
  · exact Or.inr ⟨by simp [hempty], fun rest => by simp [hempty]⟩
  · simp only [hempty, Bool.false_eq_true, if_false]
    split
    · exact Or.inl fun rest => ⟨rfl, rfl⟩
    · exact Or.inr ⟨rfl, fun rest => rfl⟩

theorem doubleStar_cons (previous : Option Char) (s : State) (c : Char) (behind more : List Char) :
    doubleStar previous s (c :: behind) = doubleStar previous s (c :: more) := by
  unfold doubleStar
  by_cases hc : c = '/'
  · subst hc
    rfl
  · split <;> split <;> simp_all

theorem doubleStar_slash_end (s : State) :
    doubleStar (some '/') s [] = (s.deepen .depthAfter, 1) := by
  unfold doubleStar State.deepen
  split <;> rfl

/-- What fills its place twice in a row is read as if it did so once. -/
theorem State.deepen_deepen (s : State) :
    (s.deepen .depthBetween).deepen .depthAfter = s.deepen .depthAfter := by
  obtain ⟨tokens, groups, plain⟩ := s
  cases tokens with
  | nil => rfl
  | cons t more => cases t <;> rfl

/-- Whether a token for any directories in front stands at the front alone. -/
def State.FrontAlone (s : State) : Prop :=
  ∀ more, s.tokens = .depthBefore :: more → more = []

theorem State.FrontAlone.deepen {s : State} (h : s.FrontAlone) {t : GlobToken}
    (ht : t ≠ .depthBefore) : (s.deepen t).FrontAlone := by
  obtain ⟨tokens, groups, plain⟩ := s
  cases tokens with
  | nil => simp [State.deepen, State.push, State.FrontAlone]
  | cons u more => cases u <;> simp_all [State.deepen, State.pushDepth, State.FrontAlone]

theorem State.frontAlone_push (s : State) {t : GlobToken} (ht : t ≠ .depthBefore) :
    (s.push t).FrontAlone := by
  intro more h
  exact absurd (List.cons.inj h).1 ht

/-- Two stars are read as one star twice, or they fill their place: up to the end, up to a slash, or
inside a group. -/
theorem doubleStar_fst_cases (previous : Option Char) (s : State) (behind : List Char) :
    (doubleStar previous s behind).1 = (s.push .many).push .many ∨
      (behind = [] ∨ s.groups ≠ [] ∨
        (doubleStar previous s behind).2 = 2 ∧ ∃ more, behind = '/' :: more) ∧
      ∃ t, t ≠ .depthBefore ∧ (doubleStar previous s behind).1 = s.deepen t := by
  unfold doubleStar State.deepen
  by_cases hempty : s.tokens.isEmpty = true
  · simp only [hempty, if_true]
    split
    · exact Or.inr ⟨Or.inl rfl, .many, by simp, rfl⟩
    · next more => exact Or.inr ⟨Or.inr (Or.inr ⟨rfl, more, rfl⟩), .many, by simp, rfl⟩
    · exact Or.inl rfl
  · simp only [hempty, Bool.false_eq_true, if_false]
    split
    · exact Or.inl rfl
    · split
      · exact Or.inr ⟨Or.inl rfl, .depthAfter, by simp, rfl⟩
      · next more => exact Or.inr ⟨Or.inr (Or.inr ⟨rfl, more, rfl⟩), .depthBetween, by simp, rfl⟩
      · split
        · next hgroup =>
          refine Or.inr ⟨Or.inr (Or.inl ?_), .depthAfter, by simp, rfl⟩
          intro hnil
          simp [hnil] at hgroup
        · exact Or.inl rfl

theorem Steps.frontAlone {previous : Option Char} {s s' : State} {c : Char} {rest : List Char}
    {skip : Nat} (h : Steps previous s c rest s' skip) (hs : s.FrontAlone) : s'.FrontAlone := by
  cases h with
  | any | star | ofClass | escape | literal => exact s.frontAlone_push (by simp)
  | stars behind =>
    rcases doubleStar_fst_cases previous s behind with hplain | ⟨-, t, ht, hdeep⟩
    · rw [hplain]
      exact (s.push .many).frontAlone_push (by simp)
    · rw [hdeep]
      exact hs.deepen ht
  | opening => simp [State.FrontAlone]
  | closing _ h =>
    unfold State.closeGroup at h
    split at h
    · simp at h
    · cases h
      simp [State.FrontAlone]
  | comma =>
    unfold State.comma
    split
    · exact s.frontAlone_push (by simp)
    · simp [State.FrontAlone]

/-! ## Globs of what is inside -/

/-- A step that is not about two stars at the end is taken in front of a slash, too. -/
theorem Steps.before_slash {previous : Option Char} {s s' : State} {c : Char} {cs : List Char}
    {skip : Nat} (h : Steps previous s c cs s' skip) (hstars : c = '*' → cs ≠ ['*'])
    (rest : List Char) : Steps previous s c (cs ++ '/' :: rest) s' skip ∧ skip ≤ cs.length := by
  cases h with
  | any => exact ⟨.any _, by simp⟩
  | star h =>
    refine ⟨.star fun behind hbehind => ?_, by simp⟩
    cases cs with
    | nil => simp at hbehind
    | cons x cs =>
      obtain ⟨rfl, -⟩ := List.cons.inj hbehind
      exact h cs rfl
  | stars behind =>
    cases behind with
    | nil => exact absurd rfl (hstars rfl)
    | cons x behind =>
      have hsteps : Steps previous s '*' ('*' :: x :: (behind ++ '/' :: rest)) _ _ := .stars _
      rw [doubleStar_cons previous s x _ behind] at hsteps
      refine ⟨hsteps, ?_⟩
      rcases (doubleStar_cases previous s (x :: behind)).2.2 with hskip | ⟨hskip, -⟩ <;>
        simp [hskip]
  | ofClass h =>
    obtain ⟨body, more, rfl, rfl, hmore⟩ := classAt_closed h
    refine ⟨?_, by simp⟩
    rw [List.append_assoc, List.cons_append]
    exact .ofClass (hmore _)
  | opening => exact ⟨.opening _, by simp⟩
  | closing _ h => exact ⟨.closing _ h, by simp⟩
  | comma => exact ⟨.comma _, by simp⟩
  | escape e more => exact ⟨.escape e _, by simp⟩
  | literal _ h hcomma => exact ⟨.literal _ h hcomma, by simp⟩

/-- A text in front of a slash is read as it is read alone, or else it ends in two stars that fill
their place and is read together with the slash. -/
theorem parseFrom_before_slash {s' : State} : ∀ (cs : List Char) {skip : Nat}
    {previous : Option Char} {s : State}, s.plainBrackets = false → s.FrontAlone →
    skip ≤ cs.length → parseFrom false skip previous s cs = .ok s' →
    (∃ last, ∀ rest, parseFrom false skip previous s (cs ++ '/' :: rest) =
      parseFrom false 0 last s' ('/' :: rest)) ∨
    ∃ s₀ : State, s₀.FrontAlone ∧ s' = s₀.deepen .depthAfter ∧
      ∀ rest, parseFrom false skip previous s (cs ++ '/' :: rest) =
        parseFrom false 0 (some '/') (s₀.deepen .depthBetween) rest
  | [], skip, previous, s, _, _, hskip, h => by
    obtain rfl : skip = 0 := by simpa using hskip
    obtain rfl : s = s' := by simpa [parseFrom] using h
    exact Or.inl ⟨previous, fun rest => rfl⟩
  | c :: cs, skip + 1, previous, s, hs, hfront, hskip, h =>
    parseFrom_before_slash cs hs hfront (Nat.le_of_succ_le_succ hskip) h
  | c :: cs, 0, previous, s, hs, hfront, _, h => by
    obtain ⟨s₁, skip, hstep, hrest⟩ := (parseFrom_cons_eq_ok_iff hs).1 h
    by_cases hstars : c = '*' ∧ cs = ['*']
    · obtain ⟨rfl, rfl⟩ := hstars
      have hread : ∀ rest, parseFrom false 0 previous s ('*' :: '*' :: '/' :: rest) = _ :=
        fun rest => parseFrom_of_steps hs (.stars ('/' :: rest))
      have hs' : s' = (doubleStar previous s []).1 := by
        have hend : parseFrom false 0 previous s ['*', '*'] = _ := parseFrom_of_steps hs (.stars [])
        have hskip : (doubleStar previous s []).2 = 1 := by
          rcases (doubleStar_cases previous s []).2.2 with hskip | ⟨-, more, hmore⟩
          · exact hskip
          · simp at hmore
        rw [hend, hskip] at h
        exact (Except.ok.inj h).symm
      rcases doubleStar_end previous s with hplain | ⟨hafter, hbetween⟩
      · refine Or.inl ⟨some '*', fun rest => ?_⟩
        rw [List.cons_append, List.singleton_append, hread, (hplain rest).1, (hplain rest).2, hs']
        rfl
      · refine Or.inr ⟨s, hfront, by rw [hs', hafter], fun rest => ?_⟩
        rw [List.cons_append, List.singleton_append, hread, hbetween rest]
        rfl
    · have hbefore := hstep.before_slash fun hc hcs => hstars ⟨hc, hcs⟩
      have ih := parseFrom_before_slash cs (hstep.plainBrackets.trans hs)
        (hstep.frontAlone hfront) (hbefore []).2 hrest
      have hread : ∀ rest, parseFrom false 0 previous s (c :: cs ++ '/' :: rest) =
          parseFrom false skip (some c) s₁ (cs ++ '/' :: rest) :=
        fun rest => parseFrom_of_steps hs (hbefore rest).1
      simpa only [hread] using ih

theorem parseChars_eq_ok_iff {cs : List Char} {glob : List GlobToken} :
    parseChars false cs = .ok glob ↔ ∃ s', parseFrom false 0 none ⟨[], [], false⟩ cs = .ok s' ∧
      s'.groups = [] ∧ glob = s'.tokens.reverse := by
  unfold parseChars
  constructor
  · intro h
    split at h
    · simp at h
    · next s' hparse =>
      split at h
      · next hgroups => exact ⟨s', hparse, by simpa using hgroups, (Except.ok.inj h).symm⟩
      · simp at h
  · rintro ⟨s', hparse, hgroups, rfl⟩
    simp [hparse, hgroups]

/-- The glob of what is inside the paths of a glob: a token more, or the same if that token is there
already. -/
theorem parseChars_inside {cs : List Char} {glob : List GlobToken}
    (h : parseChars false cs = .ok glob) :
    parseChars false (cs ++ "/**".toList) = .ok (glob ++ [.depthAfter]) ∨
      parseChars false (cs ++ "/**".toList) = .ok glob ∧
        (glob = [.depthBefore] ∨ ∃ front, glob = front ++ [.depthAfter]) := by
  obtain ⟨s', hparse, hgroups, rfl⟩ := parseChars_eq_ok_iff.1 h
  have hstart : State.FrontAlone ⟨[], [], false⟩ := by simp [State.FrontAlone]
  have htext : cs ++ "/**".toList = cs ++ '/' :: ['*', '*'] := rfl
  rw [htext, parseChars_eq_ok_iff, parseChars_eq_ok_iff]
  rcases parseFrom_before_slash cs rfl hstart (Nat.zero_le _) hparse with
    ⟨last, hread⟩ | ⟨s₀, hfront, rfl, hread⟩
  · left
    have hinside : parseFrom false 0 last s' ['/', '*', '*'] =
        .ok { s' with tokens := .depthAfter :: s'.tokens } := rfl
    exact ⟨_, (hread _).trans hinside, hgroups, by simp⟩
  · right
    have hinside : parseFrom false 0 (some '/') (s₀.deepen .depthBetween) ['*', '*'] =
        .ok (s₀.deepen .depthAfter) := by
      simp [parseFrom, step, doubleStar_slash_end, s₀.deepen_deepen]
    refine ⟨⟨_, (hread _).trans hinside, hgroups, rfl⟩, ?_⟩
    · obtain ⟨tokens, groups, plain⟩ := s₀
      cases tokens with
      | nil => exact Or.inl rfl
      | cons t more =>
        cases t with
        | depthBefore =>
          obtain rfl : more = [] := hfront more rfl
          exact Or.inl rfl
        | _ => exact Or.inr ⟨more.reverse, by simp [State.deepen, State.pushDepth]⟩

/-! ## Stars and slashes alone -/

/-- Two stars and a slash, so many times. -/
def depths : Nat → List Char
  | 0 => []
  | n + 1 => '*' :: '*' :: '/' :: depths n

theorem depths_append_stars (n : Nat) :
    depths n ++ "**".toList ++ "/**".toList = depths (n + 1) ++ "**".toList := by
  induction n with
  | zero => rfl
  | succ n ih => simpa [depths] using ih

theorem parseFrom_depths (tail : List Char) : ∀ n : Nat,
    parseFrom false 0 (some '/') ⟨[.depthBefore], [], false⟩ (depths n ++ tail) =
      parseFrom false 0 (some '/') ⟨[.depthBefore], [], false⟩ tail
  | 0 => rfl
  | n + 1 => parseFrom_depths tail n

theorem parseFrom_depths_start (n : Nat) (tail : List Char) :
    parseFrom false 0 none ⟨[], [], false⟩ (depths (n + 1) ++ tail) =
      parseFrom false 0 (some '/') ⟨[.depthBefore], [], false⟩ tail :=
  parseFrom_depths tail n

theorem parseChars_depths (n : Nat) : parseChars false (depths (n + 1)) = .ok [.depthBefore] := by
  have hread := parseFrom_depths_start n []
  rw [List.append_nil] at hread
  rw [parseChars, hread]
  rfl

theorem parseChars_depths_inside (n : Nat) :
    parseChars false (depths (n + 1) ++ "/**".toList) = .ok [.depthBefore, .depthAfter] := by
  rw [parseChars, parseFrom_depths_start]
  rfl

theorem parseChars_depths_stars (n : Nat) :
    parseChars false (depths n ++ "**".toList) = .ok [.depthBefore] := by
  cases n with
  | zero => rfl
  | succ n =>
    rw [parseChars, parseFrom_depths_start]
    rfl

/-- Whether nothing was read but stars and slashes for directories in front. -/
def State.OnlyFront (s : State) : Prop :=
  s.groups = [] ∧ (s.tokens = [] ∨ s.tokens = [.depthBefore])

theorem State.not_onlyFront_of_cons {s : State} {t : GlobToken} {more : List GlobToken}
    (h : s.tokens = t :: more) (ht : t ≠ .depthBefore) : ¬s.OnlyFront := by
  rintro ⟨-, hnil | hfront⟩
  · simp [hnil] at h
  · rw [hfront] at h
    exact ht (List.cons.inj h).1.symm

theorem State.OnlyFront.of_deepen {s : State} {t : GlobToken} (ht : t ≠ .depthBefore)
    (h : (s.deepen t).OnlyFront) : s.OnlyFront := by
  obtain ⟨tokens, groups, plain⟩ := s
  cases tokens with
  | nil => exact ⟨h.1, Or.inl rfl⟩
  | cons u more =>
    cases u with
    | depthBefore => exact h
    | depthAfter => exact absurd h (State.not_onlyFront_of_cons rfl (by simp))
    | _ => exact absurd h (State.not_onlyFront_of_cons rfl ht)

/-- Only by stars and slashes such a state is reached. -/
theorem Steps.onlyFront {previous : Option Char} {s s' : State} {c : Char} {cs : List Char}
    {skip : Nat} (h : Steps previous s c cs s' skip) (hs' : s'.OnlyFront) :
    s.OnlyFront ∧ c = '*' ∧
      (cs = ['*'] ∨ skip = 2 ∧ ∃ more, cs = '*' :: '/' :: more) := by
  cases h with
  | any | star | ofClass | escape | literal =>
    exact absurd hs' (State.not_onlyFront_of_cons rfl (by simp))
  | stars behind =>
    rcases doubleStar_fst_cases previous s behind with hplain | ⟨hbehind, t, ht, hdeep⟩
    · rw [hplain] at hs'
      exact absurd hs' (State.not_onlyFront_of_cons rfl (by simp))
    · rw [hdeep] at hs'
      have hs := hs'.of_deepen ht
      refine ⟨hs, rfl, ?_⟩
      rcases hbehind with rfl | hgroups | ⟨hskip, more, rfl⟩
      · exact Or.inl rfl
      · exact absurd hs.1 hgroups
      · exact Or.inr ⟨hskip, more, rfl⟩
  | opening => exact absurd hs'.1 (by simp)
  | closing _ h =>
    unfold State.closeGroup at h
    split at h
    · simp at h
    · cases h
      exact absurd hs' (State.not_onlyFront_of_cons rfl (by simp))
  | comma =>
    unfold State.comma at hs'
    split at hs'
    · exact absurd hs' (State.not_onlyFront_of_cons rfl (by simp))
    · exact absurd hs'.1 (by simp)

theorem depths_of_parseFrom {s' : State} (hs' : s'.OnlyFront) : ∀ (cs : List Char) {skip : Nat}
    {previous : Option Char} {s : State}, s.plainBrackets = false →
    parseFrom false skip previous s cs = .ok s' →
    s.OnlyFront ∧ ∃ n, cs.drop skip = depths n ∨ cs.drop skip = depths n ++ "**".toList
  | [], skip, previous, s, _, h => by
    obtain rfl : s = s' := by simpa [parseFrom] using h
    exact ⟨hs', 0, Or.inl List.drop_nil⟩
  | c :: cs, skip + 1, previous, s, hs, h => depths_of_parseFrom hs' cs hs h
  | c :: cs, 0, previous, s, hs, h => by
    obtain ⟨s₁, skip, hstep, hrest⟩ := (parseFrom_cons_eq_ok_iff hs).1 h
    obtain ⟨hs₁, n, hn⟩ := depths_of_parseFrom hs' cs (hstep.plainBrackets.trans hs) hrest
    obtain ⟨honly, rfl, rfl | ⟨rfl, more, rfl⟩⟩ := hstep.onlyFront hs₁
    · exact ⟨honly, 0, Or.inr rfl⟩
    · refine ⟨honly, n + 1, hn.imp (fun hn => ?_) fun hn => ?_⟩
      · exact congrArg ('*' :: '*' :: '/' :: ·) hn
      · exact congrArg ('*' :: '*' :: '/' :: ·) hn

/-- The texts of the glob of two stars alone. -/
theorem depths_of_parseChars {cs : List Char} (h : parseChars false cs = .ok [.depthBefore]) :
    ∃ n, cs = depths (n + 1) ∨ cs = depths n ++ "**".toList := by
  obtain ⟨s', hparse, hgroups, htokens⟩ := parseChars_eq_ok_iff.1 h
  have hfront : s'.tokens = [.depthBefore] := by
    rw [← s'.tokens.reverse_reverse, ← htokens]
    rfl
  obtain ⟨-, n, hn⟩ := depths_of_parseFrom ⟨hgroups, Or.inr hfront⟩ cs rfl hparse
  rw [List.drop_zero] at hn
  cases n with
  | zero =>
    rcases hn with rfl | hn
    · cases h
    · exact ⟨0, Or.inr hn⟩
  | succ n =>
    rcases hn with hn | hn
    · exact ⟨n, Or.inl hn⟩
    · exact ⟨n + 1, Or.inr hn⟩

/-! ## Matching what is inside -/

theorem spells_concat_depthAfter (front : List GlobToken) (u : List UInt8) :
    Spells (front ++ [.depthAfter]) u ↔ ∃ v w, u = v ++ slash :: w ∧ Spells front v := by
  simp only [spells_append, spells_singleton, SpellsToken]
  constructor
  · rintro ⟨v, _, rfl, hv, w, rfl⟩
    exact ⟨v, w, rfl, hv⟩
  · rintro ⟨v, w, rfl, hv⟩
    exact ⟨v, slash :: w, rfl, hv, w, rfl⟩

/-- What is inside a path that a glob matches is matched by the glob of what is inside. -/
theorem isMatch_inside {cs : List Char} {glob : List GlobToken} (h : parseChars false cs = .ok glob)
    (hcs : ∀ n, cs ≠ depths (n + 1)) :
    ∃ inside, parseChars false (cs ++ "/**".toList) = .ok inside ∧
      ∀ d q, isMatch glob d = true → isMatch inside (d ++ "/" ++ q) = true := by
  by_cases hfront : glob = [.depthBefore]
  · subst hfront
    obtain ⟨n, hn | rfl⟩ := depths_of_parseChars h
    · exact absurd hn (hcs n)
    · refine ⟨[.depthBefore], ?_, fun d q _ => (isMatch_iff _ _).2 (Or.inl rfl)⟩
      rw [depths_append_stars, parseChars_depths_stars]
  · have hbytes : ∀ d q : String, bytesOf (d ++ "/" ++ q) = bytesOf d ++ slash :: bytesOf q := by
      intro d q
      exact bytesOf_eq_append_slash_iff.2 ⟨d, q, by simp, rfl, rfl⟩
    have hspells : ∀ d, isMatch glob d = true → Spells glob (bytesOf d) := fun d hd =>
      ((isMatch_iff glob d).1 hd).resolve_left hfront
    rcases parseChars_inside h with hinside | ⟨hinside, hend⟩
    · refine ⟨_, hinside, fun d q hd => (isMatch_iff _ _).2 (Or.inr ?_)⟩
      exact (spells_concat_depthAfter glob _).2 ⟨_, _, hbytes d q, hspells d hd⟩
    · obtain ⟨front, rfl⟩ := hend.resolve_left hfront
      refine ⟨_, hinside, fun d q hd => (isMatch_iff _ _).2 (Or.inr ?_)⟩
      obtain ⟨v, w, hvw, hv⟩ := (spells_concat_depthAfter front _).1 (hspells d hd)
      refine (spells_concat_depthAfter front _).2 ⟨v, w ++ slash :: bytesOf q, ?_, hv⟩
      rw [hbytes, hvw, List.append_assoc, List.cons_append]

/-- Stars and slashes alone, with what is inside, match no tidy path. -/
theorem isMatch_depths_inside {p : Path} (hp : p.IsTidy) :
    isMatch [.depthBefore, .depthAfter] p.text = false := by
  rw [Bool.eq_false_iff]
  intro hmatch
  have hspells : Spells ([.depthBefore] ++ [.depthAfter]) (bytesOf p.text) :=
    ((isMatch_iff _ _).1 hmatch).resolve_left (by simp)
  obtain ⟨v, w, hvw, hv⟩ := (spells_concat_depthAfter _ _).1 hspells
  rw [spells_singleton] at hv
  obtain ⟨before, after, htext, rfl, rfl⟩ := bytesOf_eq_append_slash_iff.1 hvw
  rcases hv with hv | ⟨x, hx⟩
  · have habs := hp.1
    simp [Path.isAbsolute, htext, bytesOf_eq_nil_iff.1 hv] at habs
  · obtain ⟨first, second, hbefore, -, hsecond⟩ := bytesOf_eq_append_slash_iff.1 hx
    refine hp.2 ⟨first.toList, after.toList, ?_⟩
    rw [htext, hbefore, bytesOf_eq_nil_iff.1 hsecond.symm]
    simp

end Glob

end ScriptCensus
