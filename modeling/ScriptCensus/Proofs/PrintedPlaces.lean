import Mathlib.Data.List.Chain
import ScriptCensus.Proofs.Separators

/-!
# Where the tokens stand in the printed text

`places` are the positions of the tokens in the text that is printed from them: offsets count bytes,
lines count line breaks. Between two tokens that follow each other lies their separator, so that the
distance of their places, in bytes and in lines, is its size (`separator_after`). The places
therefore call for the same separators as the spans from which they come, however degenerate those
were, and a node whose leaves are moved to where they are printed (`SyntaxNode.settled`) is printed
as before (`SyntaxNode.print_settled`).
-/

namespace ScriptCensus

/-! ## Lines and offsets -/

/-- The characters of a text after its last line break. -/
def lastLine (s : String) : String :=
  String.ofList (s.toList.reverse.takeWhile (· != '\n')).reverse

/-- Where a text lies if another text stands before it. -/
def SourceSpan.after (before text : String) : SourceSpan where
  start := before.utf8ByteSize
  stop := (before ++ text).utf8ByteSize
  startLine := lineBreaks before + 1
  endLine := lineBreaks (before ++ text) + 1
  startColumn := (lastLine before).utf8ByteSize + 1

/-! ## The separator at a distance -/

/-- Two tokens at the distance of a separator have this separator. -/
theorem separator_eq_of_distance {a b a' b' : PlacedToken} {depth : Nat}
    (hl : b'.span.startLine = a'.span.endLine + lineBreaks (separator a b depth))
    (hs : b'.span.start = a'.span.stop + (separator a b depth).utf8ByteSize) :
    separator a' b' depth = separator a b depth := by
  have h := isSeparator_separator a' b' depth
  rcases separator_cases a b depth with hsep | hsep | hsep | hsep <;> rw [hsep] at hl hs ⊢
  · rw [lineBreaks_append, lineBreaks_indentation, lineBreaks_oneBreak] at hl
    exact h.next_line (by omega)
  · rw [lineBreaks_append, lineBreaks_indentation, lineBreaks_twoBreaks] at hl
    exact h.further_down (by omega)
  · have hsize : " ".utf8ByteSize = 1 := by decide
    rw [lineBreaks_blank] at hl
    exact h.same_line (by omega) (by omega)
  · have hsize : "".utf8ByteSize = 0 := by decide
    rw [lineBreaks_empty] at hl
    exact h.adjacent (by omega) (by omega)

/-- A token with its place in a text in place of its span. -/
def PlacedToken.movedTo (t : PlacedToken) (span : SourceSpan) : PlacedToken :=
  ⟨t.text, span⟩

@[simp]
theorem PlacedToken.depthAt_movedTo (t : PlacedToken) (span : SourceSpan) (depth : Nat) :
    (t.movedTo span).depthAt depth = t.depthAt depth := rfl

@[simp]
theorem PlacedToken.depthAfter_movedTo (t : PlacedToken) (span : SourceSpan) (depth : Nat) :
    (t.movedTo span).depthAfter depth = t.depthAfter depth := rfl

/-- Two tokens that are printed with a separator between them have this separator where they are
printed. -/
theorem separator_after (a b : PlacedToken) (depth : Nat) (before : String) :
    separator (a.movedTo (.after before a.text))
      (b.movedTo (.after (before ++ a.text ++ separator a b depth) b.text)) depth =
      separator a b depth := by
  apply separator_eq_of_distance
  · simp only [PlacedToken.movedTo, SourceSpan.after, lineBreaks_append]
    omega
  · simp only [PlacedToken.movedTo, SourceSpan.after, String.utf8ByteSize_append]

/-! ## Places -/

/-- Where texts lie, each with what stands before it, if another text stands before them all. -/
def placesAfter (before : String) : List String → List String → List SourceSpan
  | g :: gs, t :: ts => .after (before ++ g) t :: placesAfter (before ++ g ++ t) gs ts
  | _, _ => []

/-- Where tokens stand in the text that is printed from them. -/
def places (ts : List PlacedToken) : List SourceSpan :=
  placesAfter "" (gaps ts) (ts.map (·.text))

/-- Tokens at given places. -/
def movedTo (ts : List PlacedToken) (spans : List SourceSpan) : List PlacedToken :=
  (ts.zip spans).map fun x => x.1.movedTo x.2

/-- Tokens at the places where they are printed. -/
def settle (ts : List PlacedToken) : List PlacedToken :=
  movedTo ts (places ts)

theorem length_placesAfter (before : String) (gs ts : List String) (h : gs.length = ts.length) :
    (placesAfter before gs ts).length = ts.length := by
  induction gs generalizing before ts with
  | nil =>
    obtain rfl := List.length_eq_zero_iff.1 h.symm
    rfl
  | cons g gs ih =>
    cases ts with
    | nil => simp at h
    | cons t ts => simpa [placesAfter] using ih (before ++ g ++ t) ts (by simpa using h)

theorem length_places (ts : List PlacedToken) : (places ts).length = ts.length := by
  rw [places, length_placesAfter _ _ _ (by simp), List.length_map]

theorem map_text_settle (ts : List PlacedToken) : (settle ts).map (·.text) = ts.map (·.text) := by
  have hfst : (ts.zip (places ts)).map Prod.fst = ts :=
    List.map_fst_zip (by rw [length_places])
  rw [settle, movedTo, List.map_map]
  conv => rhs; rw [← hfst, List.map_map]
  rfl

/-- The separators of tokens that follow a token are those of the tokens where they are printed. -/
theorem gapsAfter_movedTo (before : String) (previous : PlacedToken) (depth : Nat)
    (ts : List PlacedToken) :
    gapsAfter (previous.movedTo (.after before previous.text)) depth
      (movedTo ts
        (placesAfter (before ++ previous.text) (gapsAfter previous depth ts) (ts.map (·.text)))) =
      gapsAfter previous depth ts := by
  -- what is printed before grows by a separator and a token in each step
  induction ts generalizing before previous depth with
  | nil => rfl
  | cons t rest ih =>
    simp only [gapsAfter, List.map_cons, placesAfter, movedTo, List.zip_cons_cons,
      PlacedToken.depthAt_movedTo, PlacedToken.depthAfter_movedTo]
    rw [separator_after, ← movedTo, ih]

/-- The separators of tokens are told by where they are printed. -/
theorem gaps_settle (ts : List PlacedToken) : gaps (settle ts) = gaps ts := by
  cases ts with
  | nil => rfl
  | cons t rest =>
    have h := gapsAfter_movedTo "" t (t.depthAfter 0) rest
    simpa [settle, places, gaps, placesAfter, movedTo] using h

theorem layout_settle (ts : List PlacedToken) : layout (settle ts) = layout ts := by
  rw [layout_eq_weave, layout_eq_weave, gaps_settle, map_text_settle]

/-! ## The places lie in the printed text -/

/-- A text stands where its place says. -/
theorem exists_of_mem_placesAfter {before : String} {gs ts : List String}
    {x : String × SourceSpan} (h : x ∈ ts.zip (placesAfter before gs ts)) :
    ∃ front rest, before ++ weave gs ts = front ++ x.1 ++ rest ∧ x.2 = .after front x.1 := by
  fun_induction placesAfter before gs ts with
  | case1 before g gs t ts ih =>
    rcases List.mem_cons.1 h with rfl | h
    · exact ⟨before ++ g, weave gs ts, by simp [String.append_assoc], rfl⟩
    · obtain ⟨front, rest, htext, hplace⟩ := ih h
      exact ⟨front, rest, by rw [← htext, weave_cons]; simp [String.append_assoc], hplace⟩
  | case2 => simp at h

theorem exists_of_mem_settle {ts : List PlacedToken} {t : PlacedToken} (h : t ∈ settle ts) :
    ∃ front rest, layout ts = front ++ t.text ++ rest ∧ t.span = .after front t.text := by
  obtain ⟨x, hx, rfl⟩ := List.mem_map.1 h
  have hmem : (x.1.text, x.2) ∈ (ts.map (·.text)).zip (places ts) := by
    rw [List.zip_map_left]
    exact List.mem_map_of_mem hx
  obtain ⟨front, rest, htext, hplace⟩ := exists_of_mem_placesAfter hmem
  rw [String.empty_append, ← layout_eq_weave] at htext
  exact ⟨front, rest, htext, hplace⟩

/-- One token is printed right after another, with their separator between them, and ends no earlier
than it starts. -/
structure PrintedNext (x y : PlacedToken × SourceSpan) : Prop where
  gap : ∃ depth, y.2.start = x.2.stop + (separator x.1 y.1 depth).utf8ByteSize ∧
    y.2.startLine = x.2.endLine + lineBreaks (separator x.1 y.1 depth)
  lines : y.2.startLine ≤ y.2.endLine

theorem isChain_placesAfter (before : String) (previous : PlacedToken) (depth : Nat)
    (ts : List PlacedToken) :
    ((previous, SourceSpan.after before previous.text) :: ts.zip
      (placesAfter (before ++ previous.text) (gapsAfter previous depth ts)
        (ts.map (·.text)))).IsChain PrintedNext := by
  induction ts generalizing before previous depth with
  | nil => exact List.IsChain.singleton _
  | cons t rest ih =>
    simp only [gapsAfter, List.map_cons, placesAfter, List.zip_cons_cons, List.isChain_cons_cons]
    refine ⟨⟨⟨t.depthAt depth, ?_, ?_⟩, ?_⟩, ih ..⟩
    · simp only [SourceSpan.after, String.utf8ByteSize_append]
    · simp only [SourceSpan.after, lineBreaks_append]
      omega
    · simp only [SourceSpan.after, lineBreaks_append]
      omega

/-- Each token is printed right after the one before it. -/
theorem isChain_places (ts : List PlacedToken) : (ts.zip (places ts)).IsChain PrintedNext := by
  cases ts with
  | nil => exact List.IsChain.nil
  | cons t rest =>
    simpa [places, gaps, placesAfter] using isChain_placesAfter "" t (t.depthAfter 0) rest

/-- The last token is printed at the end of the text. -/
theorem getLastD_movedTo (before : String) (previous : PlacedToken) (depth : Nat)
    (ts : List PlacedToken) :
    ∃ text span, (movedTo ts (placesAfter (before ++ previous.text) (gapsAfter previous depth ts)
        (ts.map (·.text)))).getLastD (previous.movedTo (.after before previous.text)) =
          ⟨text, span⟩ ∧
      span.stop = (before ++ previous.text ++
        weave (gapsAfter previous depth ts) (ts.map (·.text))).utf8ByteSize ∧
      span.endLine = lineBreaks (before ++ previous.text ++
        weave (gapsAfter previous depth ts) (ts.map (·.text))) + 1 := by
  induction ts generalizing before previous depth with
  | nil =>
    refine ⟨previous.text, .after before previous.text, rfl, ?_, ?_⟩ <;>
      simp [SourceSpan.after, gapsAfter]
  | cons t rest ih =>
    obtain ⟨text, span, hlast, hstop, hline⟩ :=
      ih (before ++ previous.text ++ separator previous t (t.depthAt depth)) t (t.depthAfter depth)
    refine ⟨text, span, ?_, ?_, ?_⟩
    · simp only [gapsAfter, List.map_cons, placesAfter, movedTo, List.zip_cons_cons,
        List.getLastD_cons]
      exact hlast
    · rw [hstop]
      simp [gapsAfter, String.append_assoc]
    · rw [hline]
      simp [gapsAfter, String.append_assoc]

/-- Tokens at the places where they are printed span the text. -/
theorem printTokens_settle {ts : List PlacedToken} (h : ts ≠ []) :
    printTokens (settle ts) = .ok ⟨layout ts, .after "" (layout ts)⟩ := by
  obtain ⟨t, rest, rfl⟩ := List.exists_cons_of_ne_nil h
  obtain ⟨text, span, hlast, hstop, hline⟩ := getLastD_movedTo "" t (t.depthAfter 0) rest
  have hsettle : settle (t :: rest) = t.movedTo (.after "" t.text) ::
      movedTo rest (placesAfter ("" ++ t.text) (gapsAfter t (t.depthAfter 0) rest)
        (rest.map (·.text))) := by
    simp [settle, movedTo, places, gaps, placesAfter]
  have htext : layout (t :: rest) =
      "" ++ t.text ++ weave (gapsAfter t (t.depthAfter 0) rest) (rest.map (·.text)) := by
    rw [layout_eq_weave, gaps, List.map_cons, weave_cons]
  rw [hsettle, printTokens, ← hsettle, layout_settle, hlast, htext]
  simp only [spanBetween, hstop, hline, PlacedToken.movedTo, SourceSpan.after, String.empty_append]

/-! ## Moving the leaves of a node -/

namespace Leaf

/-- A leaf with another span. -/
def withSpan (span : SourceSpan) : Leaf → Leaf
  | token kind text _ => token kind text span
  | missing kind named _ => missing kind named span

@[simp]
theorem isPrinted_withSpan (span : SourceSpan) (l : Leaf) :
    (l.withSpan span).isPrinted = l.isPrinted := by
  cases l <;> rfl

@[simp]
theorem isUnprintable_withSpan (span : SourceSpan) (l : Leaf) :
    (l.withSpan span).isUnprintable = l.isUnprintable := by
  cases l <;> rfl

theorem asToken_withSpan (span : SourceSpan) (l : Leaf) :
    (l.withSpan span).asToken = l.asToken.movedTo span := by
  cases l <;> rfl

end Leaf

/-- Leaves of which the printed ones are moved to the given places, in order. -/
def settleLeaves : List Leaf → List SourceSpan → List Leaf
  | [], _ => []
  | l :: rest, spans =>
    if l.isPrinted then l.withSpan (spans.headD l.span) :: settleLeaves rest spans.tail
    else l :: settleLeaves rest spans

theorem map_isUnprintable_settleLeaves (ls : List Leaf) (spans : List SourceSpan) :
    (settleLeaves ls spans).map Leaf.isUnprintable = ls.map Leaf.isUnprintable := by
  fun_induction settleLeaves ls spans with
  | case1 => rfl
  | case2 l rest spans hp ih => simp [ih]
  | case3 l rest spans hp ih => simp [ih]

theorem length_settleLeaves (ls : List Leaf) (spans : List SourceSpan) :
    (settleLeaves ls spans).length = ls.length := by
  simpa using congrArg List.length (map_isUnprintable_settleLeaves ls spans)

theorem asToken_settleLeaves (ls : List Leaf) (spans : List SourceSpan)
    (h : spans.length = (ls.filter Leaf.isPrinted).length) :
    ((settleLeaves ls spans).filter Leaf.isPrinted).map Leaf.asToken =
      movedTo ((ls.filter Leaf.isPrinted).map Leaf.asToken) spans := by
  fun_induction settleLeaves ls spans with
  | case1 => simp [movedTo]
  | case2 l rest spans hp ih =>
    rw [List.filter_cons_of_pos hp] at h
    cases spans with
    | nil => simp at h
    | cons span spans =>
      have hrest := ih (by simpa using h)
      simp only [movedTo, List.tail_cons] at hrest
      simp [hp, movedTo, hrest, Leaf.asToken_withSpan]
  | case3 l rest spans hp ih =>
    rw [List.filter_cons_of_neg hp] at h
    simp [hp, ih h]

namespace SyntaxNode

/-- A node whose printed leaves are moved to where they stand in the text that is printed. -/
def settled (n : SyntaxNode) : SyntaxNode :=
  n.withLeaves (settleLeaves n.yield (places n.printedTokens))

theorem yield_settled (n : SyntaxNode) :
    n.settled.yield = settleLeaves n.yield (places n.printedTokens) :=
  yield_withLeaves (length_settleLeaves ..)

theorem printedTokens_settled (n : SyntaxNode) :
    n.settled.printedTokens = settle n.printedTokens := by
  rw [printedTokens, printedLeaves, yield_settled, asToken_settleLeaves _ _ ?_]
  · rfl
  · rw [length_places, printedTokens, List.length_map, printedLeaves]

theorem isUnprintable_of_mem_settled {n : SyntaxNode}
    (h : ∀ l ∈ n.yield, l.isUnprintable = false) :
    ∀ l ∈ n.settled.yield, l.isUnprintable = false := by
  have hmap := map_isUnprintable_settleLeaves n.yield (places n.printedTokens)
  rw [← yield_settled] at hmap
  intro l hl
  have hmem : l.isUnprintable ∈ n.settled.yield.map Leaf.isUnprintable := List.mem_map_of_mem hl
  rw [hmap] at hmem
  obtain ⟨l', hl', heq⟩ := List.mem_map.1 hmem
  rw [← heq, h l' hl']

/-- Printing what is printed already changes nothing. If the printed leaves of a node are moved to
where they stand in its text, the node is printed as the same text, and the span is that of the
whole text. The leaves keep their texts and their order, each one lies in the text where its span
says, and no line is beyond the last line of the text. -/
theorem print_settled {n : SyntaxNode} {p : Printed} (h : n.print = .ok p) :
    n.settled.print = .ok ⟨p.text, .after "" p.text⟩ ∧
    n.settled.printedTokens.map (·.text) = n.printedTokens.map (·.text) ∧
    n.settled.printedTokens.IsChain (fun a b => a.span.stop ≤ b.span.start) ∧
    ∀ t ∈ n.settled.printedTokens, t.span.endLine ≤ lineBreaks p.text + 1 ∧
      ∃ front rest, p.text = front ++ t.text ++ rest ∧ t.span = .after front t.text := by
  have hprintable := (print_eq_ok_iff.1 h).1
  have htext := text_eq_layout h
  rw [printedTokens_settled]
  refine ⟨?_, map_text_settle _, ?_, fun t ht => ?_⟩
  · refine print_eq_ok_iff.2 ⟨isUnprintable_of_mem_settled hprintable, ?_⟩
    rw [printedTokens_settled, printTokens_settle (printedTokens_ne_nil h), htext]
  · rw [settle, movedTo, List.isChain_map]
    refine (isChain_places n.printedTokens).imp ?_
    rintro x y ⟨⟨depth, hstart, -⟩, -⟩
    simp only [PlacedToken.movedTo]
    omega
  · obtain ⟨front, rest, hfront, hspan⟩ := exists_of_mem_settle ht
    rw [htext]
    refine ⟨?_, front, rest, hfront, hspan⟩
    simp only [hspan, hfront, SourceSpan.after, lineBreaks_append]
    omega

/-- The comment of `tangledNode` and the bracket after it move, and the text stays. -/
theorem print_settled_tangled :
    tangledNode.print = .ok ⟨")\x7b\n\n  /*\n*/\n\x7d", ⟨0, 12, 1, 5, 1⟩⟩ ∧
      tangledNode.settled.print = .ok ⟨")\x7b\n\n  /*\n*/\n\x7d", ⟨0, 13, 1, 5, 1⟩⟩ ∧
      tangledNode.settled.printedTokens.map (·.span) =
        [⟨0, 1, 1, 1, 1⟩, ⟨1, 2, 1, 1, 2⟩, ⟨6, 11, 3, 4, 3⟩, ⟨12, 13, 5, 5, 1⟩] := by
  have h : tangledNode.print = .ok ⟨")\x7b\n\n  /*\n*/\n\x7d", ⟨0, 12, 1, 5, 1⟩⟩ := by rfl
  exact ⟨h, (print_settled h).1, by decide⟩

end SyntaxNode

end ScriptCensus
