import Mathlib.Data.List.Forall2
import ScriptCensus.Proofs.Separators

/-!
# The text of a leaf and the layout around it

The separators of some tokens are told by their spans and by the role of each text: whether it is an
opening bracket, a closing one, or neither (`gaps_congr`). The kind of a leaf plays no part, so that
a piece of a string or of a pattern which happens to be a bracket is taken for one.

`SyntaxNode.literalText_exact` says what follows. If the text of one leaf is replaced, the other
tokens and all line breaks stay, and what can change is the indentation. It stays too, in all nodes,
if and only if the two texts have the same role (`SameRole`).
-/

namespace ScriptCensus

/-! ## What the layout is told by -/

/-- Two texts open an indentation both or not, and end one both or not. -/
def SameRole (s t : String) : Prop :=
  (s ∈ openingBrackets ↔ t ∈ openingBrackets) ∧ (s ∈ closingBrackets ↔ t ∈ closingBrackets)

instance (s t : String) : Decidable (SameRole s t) :=
  inferInstanceAs (Decidable (_ ∧ _))

theorem sameRole_refl (s : String) : SameRole s s :=
  ⟨Iff.rfl, Iff.rfl⟩

/-- Two tokens lie at the same place. -/
def SameSpan (t t' : PlacedToken) : Prop :=
  t.span = t'.span

theorem separator_congr {a b a' b' : PlacedToken} (ha : SameSpan a a') (hb : SameSpan b b')
    (depth : Nat) : separator a b depth = separator a' b' depth := by
  rw [SameSpan] at ha hb
  rw [separator, separator, ha, hb]

namespace PlacedToken

theorem depthAt_congr {t t' : PlacedToken} (h : SameRole t.text t'.text) (depth : Nat) :
    t.depthAt depth = t'.depthAt depth := by
  simp only [depthAt, closes_iff, h.2]

theorem depthAfter_congr {t t' : PlacedToken} (h : SameRole t.text t'.text) (depth : Nat) :
    t.depthAfter depth = t'.depthAfter depth := by
  simp only [depthAfter, opens_iff, h.1, depthAt_congr h]

end PlacedToken

theorem gapsAfter_congr {ts ts' : List PlacedToken}
    (h : List.Forall₂ (fun t t' => SameSpan t t' ∧ SameRole t.text t'.text) ts ts')
    {previous previous' : PlacedToken} (hprevious : SameSpan previous previous') (depth : Nat) :
    gapsAfter previous depth ts = gapsAfter previous' depth ts' := by
  induction h generalizing previous previous' depth with
  | nil => rfl
  | cons ht _ ih =>
    rw [gapsAfter, gapsAfter, PlacedToken.depthAt_congr ht.2, PlacedToken.depthAfter_congr ht.2,
      separator_congr hprevious ht.1, ih ht.1]

/-- Tokens at the same places and with the same roles have the same separators. -/
theorem gaps_congr {ts ts' : List PlacedToken}
    (h : List.Forall₂ (fun t t' => SameSpan t t' ∧ SameRole t.text t'.text) ts ts') :
    gaps ts = gaps ts' := by
  cases h with
  | nil => rfl
  | cons ht hrest =>
    rw [gaps, gaps, PlacedToken.depthAfter_congr ht.2, gapsAfter_congr hrest ht.1]

/-- Two separators that differ in nothing but the blanks after their line breaks. -/
def SameBreaks (s s' : String) : Prop :=
  lineBreaks s = lineBreaks s' ∧ (lineBreaks s = 0 → s = s')

theorem sameBreaks_separator {a b a' b' : PlacedToken} (ha : SameSpan a a') (hb : SameSpan b b')
    (depth depth' : Nat) : SameBreaks (separator a b depth) (separator a' b' depth') := by
  rw [separator_congr ha hb]
  refine ⟨by rw [lineBreaks_separator, lineBreaks_separator], fun h => ?_⟩
  rw [lineBreaks_separator] at h
  have hline : ¬b'.span.startLine > a'.span.endLine := by omega
  rw [separator, separator, if_neg hline, if_neg hline]

theorem sameBreaks_gapsAfter {ts ts' : List PlacedToken} (h : List.Forall₂ SameSpan ts ts')
    {previous previous' : PlacedToken} (hprevious : SameSpan previous previous')
    (depth depth' : Nat) :
    List.Forall₂ SameBreaks (gapsAfter previous depth ts) (gapsAfter previous' depth' ts') := by
  induction h generalizing previous previous' depth depth' with
  | nil => exact List.Forall₂.nil
  | cons ht _ ih => exact List.Forall₂.cons (sameBreaks_separator hprevious ht ..) (ih ht ..)

/-- Tokens at the same places have separators with the same line breaks. -/
theorem sameBreaks_gaps {ts ts' : List PlacedToken} (h : List.Forall₂ SameSpan ts ts') :
    List.Forall₂ SameBreaks (gaps ts) (gaps ts') := by
  cases h with
  | nil => exact List.Forall₂.nil
  | cons ht hrest => exact List.Forall₂.cons ⟨rfl, fun _ => rfl⟩ (sameBreaks_gapsAfter hrest ht ..)

theorem sameSpan_getLastD {ts ts' : List PlacedToken} (h : List.Forall₂ SameSpan ts ts')
    {t t' : PlacedToken} (ht : SameSpan t t') : SameSpan (ts.getLastD t) (ts'.getLastD t') := by
  induction h generalizing t t' with
  | nil => exact ht
  | cons hu _ ih =>
    rw [List.getLastD_cons, List.getLastD_cons]
    exact ih hu

/-- Tokens at the same places are printed with the same span. -/
theorem exists_printTokens {ts ts' : List PlacedToken} (h : List.Forall₂ SameSpan ts ts')
    {p : Printed} (hp : printTokens ts = .ok p) :
    ∃ p', printTokens ts' = .ok p' ∧ p'.span = p.span := by
  cases h with
  | nil => simp [printTokens] at hp
  | cons ht hrest =>
    have hlast := sameSpan_getLastD hrest ht
    simp only [SameSpan] at ht hlast
    simp only [printTokens, Except.ok.injEq] at hp
    refine ⟨_, rfl, ?_⟩
    simp only [← hp, spanBetween, ht, hlast]

/-! ## Another text for one leaf -/

/-- A token among leaves whose text is left open. -/
structure TokenSlot where
  before : List Leaf
  kind : String
  span : SourceSpan
  after : List Leaf

namespace TokenSlot

/-- The leaves with a text for the token. -/
def filled (slot : TokenSlot) (text : String) : List Leaf :=
  slot.before ++ .token slot.kind text slot.span :: slot.after

/-- The texts that are printed, with a text for the token. -/
def texts (slot : TokenSlot) (text : String) : List String :=
  (slot.before.filter Leaf.isPrinted).map Leaf.text ++
    text :: (slot.after.filter Leaf.isPrinted).map Leaf.text

/-- The tokens that are printed, with a text for the token. -/
def tokens (slot : TokenSlot) (text : String) : List PlacedToken :=
  (slot.before.filter Leaf.isPrinted).map Leaf.asToken ++
    ⟨text, slot.span⟩ :: (slot.after.filter Leaf.isPrinted).map Leaf.asToken

variable {slot : TokenSlot} {n : SyntaxNode} {old new : String}

theorem yield_withLeaves (h : n.yield = slot.filled old) :
    (n.withLeaves (slot.filled new)).yield = slot.filled new := by
  apply SyntaxNode.yield_withLeaves
  rw [h, filled, filled]
  simp

theorem printedTokens_eq (h : n.yield = slot.filled old) (hold : old ≠ "") :
    n.printedTokens = slot.tokens old := by
  have hprinted : (Leaf.token slot.kind old slot.span).isPrinted = true := by
    simp [Leaf.isPrinted, hold]
  rw [SyntaxNode.printedTokens, SyntaxNode.printedLeaves, h, filled, List.filter_append,
    List.filter_cons_of_pos hprinted, List.map_append, List.map_cons]
  rfl

theorem map_text_tokens (slot : TokenSlot) (text : String) :
    (slot.tokens text).map (·.text) = slot.texts text := by
  simp [tokens, texts, Leaf.asToken, Function.comp_def]

theorem forall₂_tokens {r : PlacedToken → PlacedToken → Prop} (hrefl : ∀ t, r t t)
    (h : r ⟨old, slot.span⟩ ⟨new, slot.span⟩) :
    List.Forall₂ r (slot.tokens old) (slot.tokens new) := by
  have hsame : ∀ ts : List PlacedToken, List.Forall₂ r ts ts :=
    fun ts => List.forall₂_same.2 fun t _ => hrefl t
  exact List.rel_append (hsame _) (List.Forall₂.cons h (hsame _))

end TokenSlot

namespace SyntaxNode

/-- What stands before each printed token of a node. -/
def gaps (n : SyntaxNode) : List String :=
  ScriptCensus.gaps n.printedTokens

variable {n : SyntaxNode} {slot : TokenSlot} {old new : String}

theorem isUnprintable_withLeaves (hyield : n.yield = slot.filled old)
    (h : ∀ l ∈ n.yield, l.isUnprintable = false) :
    ∀ l ∈ (n.withLeaves (slot.filled new)).yield, l.isUnprintable = false := by
  rw [TokenSlot.yield_withLeaves hyield]
  rw [hyield] at h
  intro l hl
  rcases List.mem_append.1 hl with hbefore | hl
  · exact h l (List.mem_append_left _ hbefore)
  rcases List.mem_cons.1 hl with rfl | hafter
  · rfl
  · exact h l (List.mem_append_right _ (List.mem_cons_of_mem _ hafter))

/-- With another text for one leaf a node is still printed, with the same span, the same other
tokens and the same line breaks. -/
theorem exists_print_withLeaves {p : Printed} (hold : old ≠ "") (hnew : new ≠ "")
    (hp : n.print = .ok p) (hyield : n.yield = slot.filled old) :
    ∃ p', (n.withLeaves (slot.filled new)).print = .ok p' ∧ p'.span = p.span ∧
      p.text = weave n.gaps (slot.texts old) ∧
      p'.text = weave (n.withLeaves (slot.filled new)).gaps (slot.texts new) ∧
      List.Forall₂ SameBreaks n.gaps (n.withLeaves (slot.filled new)).gaps := by
  have htokens := TokenSlot.printedTokens_eq hyield hold
  have htokens' := TokenSlot.printedTokens_eq (TokenSlot.yield_withLeaves hyield) hnew
  have hspans : List.Forall₂ SameSpan (slot.tokens old) (slot.tokens new) :=
    TokenSlot.forall₂_tokens (fun _ => rfl) rfl
  obtain ⟨hprintable, hts⟩ := print_eq_ok_iff.1 hp
  rw [htokens] at hts
  obtain ⟨p', hts', hspan⟩ := exists_printTokens hspans hts
  rw [← htokens'] at hts'
  have hp' := print_eq_ok_iff.2 ⟨isUnprintable_withLeaves hyield hprintable, hts'⟩
  refine ⟨p', hp', hspan, ?_, ?_, ?_⟩
  · rw [text_eq_layout hp, layout_eq_weave, gaps, htokens, TokenSlot.map_text_tokens]
  · rw [text_eq_layout hp', layout_eq_weave, gaps, htokens', TokenSlot.map_text_tokens]
  · rw [gaps, gaps, htokens, htokens']
    exact sameBreaks_gaps hspans

theorem gaps_withLeaves_of_sameRole (hrole : SameRole old new) (hold : old ≠ "") (hnew : new ≠ "")
    (hyield : n.yield = slot.filled old) : (n.withLeaves (slot.filled new)).gaps = n.gaps := by
  rw [gaps, gaps, TokenSlot.printedTokens_eq hyield hold,
    TokenSlot.printedTokens_eq (TokenSlot.yield_withLeaves hyield) hnew]
  refine (gaps_congr ?_).symm
  exact TokenSlot.forall₂_tokens (fun t => ⟨rfl, sameRole_refl t.text⟩) ⟨rfl, hrole⟩

end SyntaxNode

/-! ## A node that shows the role of a text -/

/-- A token on the line of an opening bracket, before a token on the next line. -/
def probeSlot (kind : String) : TokenSlot where
  before := [.token "(" "(" ⟨0, 1, 1, 1, 1⟩]
  kind := kind
  span := ⟨1, 2, 1, 1, 2⟩
  after := [.token "identifier" "x" ⟨3, 4, 2, 2, 1⟩]

/-- A node of an opening bracket, a token with a text and a token on the next line. -/
def probeNode (kind text : String) : SyntaxNode :=
  .mk none none [("children", .sequence (((probeSlot kind).filled text).map .leaf))]

theorem yield_probeNode (kind text : String) :
    (probeNode kind text).yield = (probeSlot kind).filled text := rfl

theorem exists_print_probeNode (kind : String) {text : String} (h : text ≠ "") :
    ∃ p, (probeNode kind text).print = .ok p := by
  obtain ⟨p, hp⟩ : ∃ p, printTokens ((probeSlot kind).tokens text) = .ok p := ⟨_, rfl⟩
  refine ⟨p, SyntaxNode.print_eq_ok_iff.2 ⟨?_, ?_⟩⟩
  · rw [yield_probeNode]
    simp [TokenSlot.filled, probeSlot, Leaf.isUnprintable]
  · rw [TokenSlot.printedTokens_eq (yield_probeNode kind text) h, hp]

/-- The token on the next line is indented for the bracket and the text before it. -/
theorem gaps_probeSlot (kind text : String) :
    gaps ((probeSlot kind).tokens text) = ["", "", "\n" ++ indentation
      ((⟨text, ⟨1, 2, 1, 1, 2⟩⟩ : PlacedToken).depthAfter 1)] := rfl

theorem indentation_injective {d e : Nat} (h : indentation d = indentation e) : d = e := by
  have hlength := congrArg (fun s => s.toList.length) h
  simp only [indentation, String.toList_ofList, List.length_replicate] at hlength
  omega

/-- After one open bracket the indentation tells the role of a text. -/
theorem sameRole_of_depthAfter {t t' : PlacedToken} (h : t.depthAfter 1 = t'.depthAfter 1) :
    SameRole t.text t'.text := by
  have hdisjoint : ∀ s ∈ openingBrackets, s ∉ closingBrackets := by decide
  have ht := hdisjoint t.text
  have ht' := hdisjoint t'.text
  simp only [PlacedToken.depthAfter, PlacedToken.depthAt, PlacedToken.opens_iff,
    PlacedToken.closes_iff] at h
  unfold SameRole
  grind

theorem sameRole_of_gaps_probeSlot {kind old new : String}
    (h : gaps ((probeSlot kind).tokens old) = gaps ((probeSlot kind).tokens new)) :
    SameRole old new := by
  rw [gaps_probeSlot, gaps_probeSlot] at h
  simp only [List.cons.injEq, true_and, and_true, String.append_right_inj] at h
  exact sameRole_of_depthAfter (indentation_injective h)

/-- Replacing the text of one leaf, which is not named by its text, by another one. The other
tokens, the line breaks and the span stay. All separators stay in all nodes if and only if both
texts are opening brackets, both are closing brackets, or neither is a bracket. -/
theorem SyntaxNode.literalText_exact {old new : String} (hold : old ≠ "") (hnew : new ≠ "") :
    (∀ (n : SyntaxNode) (p : Printed) (slot : TokenSlot), n.print = .ok p →
      n.yield = slot.filled old → slot.kind ≠ old →
      ∃ p', (n.withLeaves (slot.filled new)).print = .ok p' ∧ p'.span = p.span ∧
        p.text = weave n.gaps (slot.texts old) ∧
        p'.text = weave (n.withLeaves (slot.filled new)).gaps (slot.texts new) ∧
        List.Forall₂ SameBreaks n.gaps (n.withLeaves (slot.filled new)).gaps) ∧
    ((∀ (n : SyntaxNode) (p : Printed) (slot : TokenSlot), n.print = .ok p →
      n.yield = slot.filled old → slot.kind ≠ old →
      (n.withLeaves (slot.filled new)).gaps = n.gaps) ↔ SameRole old new) := by
  refine ⟨fun n p slot hp hyield _ => exists_print_withLeaves hold hnew hp hyield, ?_, ?_⟩
  · intro hall
    -- whatever the text is, this kind differs from it
    have hkind : "literal " ++ old ≠ old := by
      intro heq
      have hlength := congrArg String.length heq
      simp at hlength
    obtain ⟨p, hp⟩ := exists_print_probeNode ("literal " ++ old) hold
    have hyield := yield_probeNode ("literal " ++ old) old
    have hgaps := hall _ p _ hp hyield hkind
    rw [gaps, gaps, TokenSlot.printedTokens_eq hyield hold,
      TokenSlot.printedTokens_eq (TokenSlot.yield_withLeaves hyield) hnew] at hgaps
    exact sameRole_of_gaps_probeSlot hgaps.symm
  · intro hrole n p slot _ hyield _
    exact gaps_withLeaves_of_sameRole hrole hold hnew hyield

/-! ## A string in a call -/

/-- The piece of a string among the leaves of a call. -/
def quotedSlot : TokenSlot where
  before := [.token "identifier" "g" ⟨0, 1, 1, 1, 1⟩, .token "(" "(" ⟨1, 2, 1, 1, 2⟩,
    .token "\"" "\"" ⟨2, 3, 1, 1, 3⟩]
  kind := "string_fragment"
  span := ⟨3, 4, 1, 1, 4⟩
  after := [.token "\"" "\"" ⟨4, 5, 1, 1, 5⟩, .token "," "," ⟨5, 6, 1, 1, 6⟩,
    .token "identifier" "h" ⟨9, 10, 2, 2, 3⟩, .token ")" ")" ⟨10, 11, 2, 2, 4⟩]

/-- A call with a string and, on the next line, a name. -/
def quotedCall : SyntaxNode :=
  .mk (some ⟨"call_expression", none⟩) none [
    ("function", .leaf (.token "identifier" "g" ⟨0, 1, 1, 1, 1⟩)),
    ("arguments", .node (.mk (some ⟨"arguments", none⟩) none [("children", .sequence [
      .leaf (.token "(" "(" ⟨1, 2, 1, 1, 2⟩),
      .node (.mk (some ⟨"string", none⟩) none [("children", .sequence [
        .leaf (.token "\"" "\"" ⟨2, 3, 1, 1, 3⟩),
        .leaf (.token "string_fragment" "x" ⟨3, 4, 1, 1, 4⟩),
        .leaf (.token "\"" "\"" ⟨4, 5, 1, 1, 5⟩)])]),
      .leaf (.token "," "," ⟨5, 6, 1, 1, 6⟩),
      .leaf (.token "identifier" "h" ⟨9, 10, 2, 2, 3⟩),
      .leaf (.token ")" ")" ⟨10, 11, 2, 2, 4⟩)])]))]

/-- Between words the layout of the call stays. -/
theorem SyntaxNode.literalText_exact_words :
    "x" ≠ "" ∧ "y z" ≠ "" ∧ SameRole "x" "y z" ∧
      (quotedCall.withLeaves (quotedSlot.filled "y z")).gaps = quotedCall.gaps := by
  have hx : "x" ≠ "" := by decide
  have hyz : "y z" ≠ "" := by decide
  have hrole : SameRole "x" "y z" := by decide
  have hp : quotedCall.print = .ok ⟨"g(\"x\",\n  h)", ⟨0, 11, 1, 2, 1⟩⟩ := by rfl
  exact ⟨hx, hyz, hrole,
    (literalText_exact hx hyz).2.2 hrole quotedCall _ quotedSlot hp rfl (by decide)⟩

/-- A string that is an opening bracket moves the next line to the right, and one that is a closing
bracket moves it to the left. -/
theorem SyntaxNode.literal_shifts_lines :
    quotedCall.yield = quotedSlot.filled "x" ∧ quotedSlot.kind ≠ "x" ∧
    quotedCall.print = .ok ⟨"g(\"x\",\n  h)", ⟨0, 11, 1, 2, 1⟩⟩ ∧
    (quotedCall.withLeaves (quotedSlot.filled "\x7b")).print =
      .ok ⟨"g(\"\x7b\",\n    h)", ⟨0, 11, 1, 2, 1⟩⟩ ∧
    (quotedCall.withLeaves (quotedSlot.filled "]")).print =
      .ok ⟨"g(\"]\",\nh)", ⟨0, 11, 1, 2, 1⟩⟩ ∧
    (quotedCall.withLeaves (quotedSlot.filled "\x7b")).gaps ≠ quotedCall.gaps ∧
    (quotedCall.withLeaves (quotedSlot.filled "]")).gaps ≠ quotedCall.gaps :=
  ⟨rfl, by decide, rfl, rfl, rfl, by decide, by decide⟩

end ScriptCensus
