import Mathlib.Data.List.Infix
import ScriptCensus.Proofs.LeafTexts
import ScriptCensus.Proofs.Positions

/-!
# A node inside another one

A node that is printed inside another one has the same tokens there, and the same line breaks
between them. The indentation differs: it starts at the depth of the brackets that are open before
the node. The printer counts open brackets and ignores a closing one if none is open, so that the
two counts keep their distance only as long as the node closes no bracket that it has not opened
(`StaysOpen`). If it never does, each token on a new line stands behind the same number of further
blanks (`gapsAfter_deeper`), and the text of the node stands so in that of the other one
(`SyntaxNode.print_nested`). A blank line stays empty (`SyntaxNode.print_nested_blankLine`).
-/

namespace ScriptCensus

/-! ## Brackets that are open -/

/-- The indentation after some tokens. -/
def depthFrom (depth : Nat) (ts : List PlacedToken) : Nat :=
  ts.foldl (fun depth t => t.depthAfter depth) depth

theorem depthFrom_cons (depth : Nat) (t : PlacedToken) (ts : List PlacedToken) :
    depthFrom depth (t :: ts) = depthFrom (t.depthAfter depth) ts := rfl

/-- Some tokens close no more brackets than they open, up to any of them, if as many as the given
number are open before. -/
def StaysOpen (depth : Nat) (ts : List PlacedToken) : Prop :=
  ∀ front ∈ ts.inits, front.countP (·.closes) ≤ depth + front.countP (·.opens)

instance (depth : Nat) (ts : List PlacedToken) : Decidable (StaysOpen depth ts) :=
  inferInstanceAs (Decidable (∀ front ∈ ts.inits, _))

namespace PlacedToken

theorem not_opens_of_closes {t : PlacedToken} (h : t.closes) : ¬t.opens := by
  have hdisjoint : ∀ s ∈ closingBrackets, s ∉ openingBrackets := by decide
  rw [opens_iff]
  exact hdisjoint t.text (t.closes_iff.1 h)

end PlacedToken

namespace StaysOpen

variable {depth : Nat} {t : PlacedToken} {ts : List PlacedToken}

theorem pos_of_closes (h : StaysOpen depth (t :: ts)) (ht : t.closes) : 0 < depth := by
  have hfirst := h [t] ((List.mem_inits _ _).2 (by simp))
  have hnot := PlacedToken.not_opens_of_closes ht
  simp only [List.countP_singleton, ht, hnot, if_true, Bool.false_eq_true, if_false] at hfirst
  omega

theorem tail (h : StaysOpen depth (t :: ts)) : StaysOpen (t.depthAfter depth) ts := by
  intro front hfront
  have hmem : t :: front ∈ (t :: ts).inits := by
    rw [List.mem_inits] at hfront ⊢
    exact (List.prefix_cons_inj t).2 hfront
  have hcount := h _ hmem
  rw [List.countP_cons, List.countP_cons] at hcount
  rw [PlacedToken.depthAfter, PlacedToken.depthAt]
  by_cases hc : t.closes
  · have hpos := h.pos_of_closes hc
    have hnot := PlacedToken.not_opens_of_closes hc
    simp only [hc, hnot, if_true, Bool.false_eq_true, if_false] at hcount ⊢
    omega
  · by_cases ho : t.opens <;>
      simp only [hc, ho, if_true, Bool.false_eq_true, if_false] at hcount ⊢ <;> omega

theorem depthAt_add (h : StaysOpen depth (t :: ts)) (d : Nat) :
    t.depthAt (d + depth) = d + t.depthAt depth := by
  rw [PlacedToken.depthAt, PlacedToken.depthAt]
  by_cases hc : t.closes
  · have hpos := h.pos_of_closes hc
    rw [if_pos hc, if_pos hc]
    omega
  · rw [if_neg hc, if_neg hc]

theorem depthAfter_add (h : StaysOpen depth (t :: ts)) (d : Nat) :
    t.depthAfter (d + depth) = d + t.depthAfter depth := by
  rw [PlacedToken.depthAfter, PlacedToken.depthAfter, h.depthAt_add]
  by_cases ho : t.opens
  · rw [if_pos ho, if_pos ho, Nat.add_assoc]
  · rw [if_neg ho, if_neg ho]

end StaysOpen

/-! ## Further blanks after the line breaks -/

/-- What stands between two tokens with two further blanks for each of some levels after the last
of its line breaks, if it has any. Only blanks follow that one, so that the further ones may come
last. -/
def deepened (d : Nat) (gap : String) : String :=
  if lineBreaks gap = 0 then gap else gap ++ indentation d

theorem indentation_add (d e : Nat) : indentation (d + e) = indentation e ++ indentation d := by
  rw [indentation, indentation, indentation, ← String.ofList_append,
    List.replicate_append_replicate, Nat.mul_add, Nat.add_comm]

@[simp]
theorem deepened_empty (d : Nat) : deepened d "" = "" := by
  rw [deepened, if_pos lineBreaks_empty]

/-- At a further indentation a separator has further blanks. -/
theorem separator_add (a b : PlacedToken) (d depth : Nat) :
    separator a b (d + depth) = deepened d (separator a b depth) := by
  have h := isSeparator_separator a b depth
  have h' := isSeparator_separator a b (d + depth)
  have hbreaks := lineBreaks_separator a b depth
  rw [deepened]
  rcases place_cases a b with hl | hl | ⟨hl, hs⟩ | ⟨hl, hs⟩
  · rw [if_neg (by omega), h.next_line hl, h'.next_line hl, indentation_add, String.append_assoc]
  · rw [if_neg (by omega), h.further_down hl, h'.further_down hl, indentation_add,
      String.append_assoc]
  · rw [if_pos (by omega), h.same_line hl hs, h'.same_line hl hs]
  · rw [if_pos (by omega), h.adjacent hl hs, h'.adjacent hl hs]

/-- Tokens that close no bracket of before have the same separators at a further indentation, with
further blanks. -/
theorem gapsAfter_deeper {depth : Nat} {ts : List PlacedToken} (h : StaysOpen depth ts) (d : Nat)
    (previous : PlacedToken) :
    gapsAfter previous (d + depth) ts = (gapsAfter previous depth ts).map (deepened d) := by
  -- the two counts keep their distance from token to token
  induction ts generalizing depth previous with
  | nil => rfl
  | cons t rest ih =>
    rw [gapsAfter, gapsAfter, List.map_cons, h.depthAt_add, h.depthAfter_add, separator_add,
      ih h.tail]

/-! ## Tokens among others -/

theorem gapsAfter_append (previous : PlacedToken) (depth : Nat) (xs ys : List PlacedToken) :
    gapsAfter previous depth (xs ++ ys) =
      gapsAfter previous depth xs ++ gapsAfter (xs.getLastD previous) (depthFrom depth xs) ys := by
  induction xs generalizing previous depth with
  | nil => rfl
  | cons x xs ih => rw [List.cons_append, gapsAfter, gapsAfter, ih, List.cons_append,
      List.getLastD_cons, depthFrom_cons]

/-- What stands before a token after some others, and what stands before the tokens after it. -/
theorem exists_gaps_append (xs ys : List PlacedToken) (t : PlacedToken) :
    ∃ lead, gaps (xs ++ t :: ys) =
      gaps xs ++ lead :: gapsAfter t (t.depthAfter (depthFrom 0 xs)) ys := by
  cases xs with
  | nil => exact ⟨"", rfl⟩
  | cons x xs =>
    refine ⟨separator (xs.getLastD x) t (t.depthAt (depthFrom (x.depthAfter 0) xs)), ?_⟩
    rw [List.cons_append, gaps, gaps, gapsAfter_append, gapsAfter, List.cons_append, depthFrom_cons]

theorem weave_append {gs gs' texts texts' : List String} (h : gs.length = texts.length) :
    weave (gs ++ gs') (texts ++ texts') = weave gs texts ++ weave gs' texts' := by
  rw [weave, List.zipWith_append h, String.join_append, ← weave, ← weave]

/-- Tokens that close no bracket of before are laid out among others as alone, with further blanks
for the brackets that are open. -/
theorem layout_infix {ts : List PlacedToken} (h : StaysOpen 0 ts) (hne : ts ≠ [])
    (before after : List PlacedToken) :
    ∃ lead rest, layout (before ++ ts ++ after) = layout before ++ lead ++
      weave ((gaps ts).map (deepened (depthFrom 0 before))) (ts.map (·.text)) ++ rest := by
  obtain ⟨t, rest, rfl⟩ := List.exists_cons_of_ne_nil hne
  obtain ⟨lead, hgaps⟩ := exists_gaps_append before (rest ++ after) t
  have hafter : gapsAfter t (t.depthAfter (depthFrom 0 before)) rest =
      (gapsAfter t (t.depthAfter 0) rest).map (deepened (depthFrom 0 before)) := by
    have hadd := h.depthAfter_add (depthFrom 0 before)
    rw [Nat.add_zero] at hadd
    rw [hadd, gapsAfter_deeper h.tail]
  rw [gapsAfter_append, hafter] at hgaps
  refine ⟨lead, weave (gapsAfter (rest.getLastD t)
    (depthFrom (t.depthAfter (depthFrom 0 before)) rest) after) (after.map (·.text)), ?_⟩
  rw [layout_eq_weave before, layout_eq_weave, List.append_assoc, List.cons_append, hgaps,
    List.map_append, weave_append (by simp), List.map_cons, List.map_append, weave_cons,
    weave_append (by simp), gaps, List.map_cons, List.map_cons, weave_cons, deepened_empty]
  simp only [String.append_assoc, String.empty_append]

/-! ## Nodes inside nodes -/

namespace SyntaxNode

/-- The tokens that a node is printed from, as far as they stand before a position. -/
def printedTokensBefore (n : SyntaxNode) (p : SyntaxValue.Position) : List PlacedToken :=
  (((SyntaxValue.node n).yieldBefore p).filter Leaf.isPrinted).map Leaf.asToken

/-- The tokens of a node that stands at a position among those of the whole. -/
theorem exists_printedTokens_eq {outer inner : SyntaxNode} {p : SyntaxValue.Position}
    (h : (SyntaxValue.node outer).at? p = some (.node inner)) :
    ∃ after, outer.printedTokens = outer.printedTokensBefore p ++ inner.printedTokens ++ after := by
  have hyield := SyntaxValue.yield_eq_of_at? h
  rw [SyntaxValue.yield, SyntaxValue.yield] at hyield
  refine ⟨(((SyntaxValue.node outer).yieldAfter p).filter Leaf.isPrinted).map Leaf.asToken, ?_⟩
  rw [printedTokens, printedLeaves, hyield, List.filter_append, List.filter_append,
    List.map_append, List.map_append]
  rfl

/-- A node that stands inside another one, and closes no bracket that it has not opened, is printed
there as alone: its text stands in that of the other one, with two further blanks before each token
on a new line for each bracket that is open before the node, and with no other change. A blank line
stays empty, and the lines inside a token stay as they are. -/
theorem print_nested {outer inner : SyntaxNode} {position : SyntaxValue.Position} {p q : Printed}
    (hat : (SyntaxValue.node outer).at? position = some (.node inner))
    (hp : outer.print = .ok p) (hq : inner.print = .ok q)
    (hopen : StaysOpen 0 inner.printedTokens) :
    q.text = weave inner.gaps (inner.printedTokens.map (·.text)) ∧
    (∃ after, outer.printedTokens =
      outer.printedTokensBefore position ++ inner.printedTokens ++ after) ∧
    ∃ lead rest, p.text = layout (outer.printedTokensBefore position) ++ lead ++
      weave (inner.gaps.map (deepened (depthFrom 0 (outer.printedTokensBefore position))))
        (inner.printedTokens.map (·.text)) ++ rest := by
  obtain ⟨after, htokens⟩ := exists_printedTokens_eq hat
  refine ⟨?_, ⟨after, htokens⟩, ?_⟩
  · rw [text_eq_layout hq, layout_eq_weave, gaps]
  · rw [text_eq_layout hp, htokens]
    exact layout_infix hopen (printedTokens_ne_nil hq) _ after

/-- A list in parentheses with a comment of two lines and a blank line. -/
def looseList : SyntaxNode :=
  .mk (some ⟨"formal_parameters", none⟩) none [("children", .sequence [
    .leaf (.token "(" "(" ⟨2, 3, 2, 2, 1⟩),
    .leaf (.token "comment" "/*\n*/" ⟨4, 9, 3, 4, 1⟩),
    .leaf (.token "identifier" "x" ⟨11, 12, 6, 6, 1⟩),
    .leaf (.token ")" ")" ⟨13, 14, 7, 7, 1⟩)])]

/-- The list in a block, after something that is absent. -/
def looseBlock : SyntaxNode :=
  .mk (some ⟨"statement_block", none⟩) none [
    ("children", .leaf (.token "\x7b" "\x7b" ⟨0, 1, 1, 1, 1⟩)),
    ("body", .sequence [.absent, .node looseList]),
    ("children", .leaf (.token "\x7d" "\x7d" ⟨15, 16, 8, 8, 1⟩))]

/-- In the block all lines of the list have two further blanks, but not the second line of the
comment. -/
theorem print_nested_looseList :
    (SyntaxValue.node looseBlock).at? [1, 1] = some (.node looseList) ∧
    looseList.print = .ok ⟨"(\n  /*\n*/\n\n  x\n)", ⟨2, 14, 2, 7, 1⟩⟩ ∧
    looseBlock.print =
      .ok ⟨"\x7b\n  (\n    /*\n*/\n\n    x\n  )\n\x7d", ⟨0, 16, 1, 8, 1⟩⟩ ∧
    StaysOpen 0 looseList.printedTokens ∧
    ∃ lead rest, "\x7b\n  (\n    /*\n*/\n\n    x\n  )\n\x7d" =
      layout (looseBlock.printedTokensBefore [1, 1]) ++ lead ++
        weave (looseList.gaps.map (deepened 1)) (looseList.printedTokens.map (·.text)) ++ rest := by
  have hat : (SyntaxValue.node looseBlock).at? [1, 1] = some (.node looseList) := rfl
  have hlist : looseList.print = .ok ⟨"(\n  /*\n*/\n\n  x\n)", ⟨2, 14, 2, 7, 1⟩⟩ := by rfl
  have hblock : looseBlock.print =
      .ok ⟨"\x7b\n  (\n    /*\n*/\n\n    x\n  )\n\x7d", ⟨0, 16, 1, 8, 1⟩⟩ := by rfl
  have hopen : StaysOpen 0 looseList.printedTokens := by decide
  exact ⟨hat, hlist, hblock, hopen, (print_nested hat hblock hlist hopen).2.2⟩

/-- What stands between two tokens with two further blanks for each of some levels after each of its
line breaks. -/
def deepenedThroughout (d : Nat) (gap : String) : String :=
  String.ofList (gap.toList.flatMap fun c => if c = '\n' then c :: (indentation d).toList else [c])

/-- The blank line of the list is empty in the block, too: with two further blanks after each line
break, those around the blank line included, the list does not stand there. -/
theorem print_nested_blankLine :
    (SyntaxValue.node looseBlock).at? [1, 1] = some (.node looseList) ∧
    StaysOpen 0 looseList.printedTokens ∧
    depthFrom 0 (looseBlock.printedTokensBefore [1, 1]) = 1 ∧
    ∃ p q, looseBlock.print = .ok p ∧ looseList.print = .ok q ∧
      q.text = weave looseList.gaps (looseList.printedTokens.map (·.text)) ∧
      ¬∃ lead rest, p.text = lead ++ weave (looseList.gaps.map (deepenedThroughout 1))
        (looseList.printedTokens.map (·.text)) ++ rest := by
  refine ⟨rfl, by decide, by decide, _, _, rfl, rfl, rfl, ?_⟩
  rintro ⟨lead, rest, h⟩
  have hinfix : (weave (looseList.gaps.map (deepenedThroughout 1))
      (looseList.printedTokens.map (·.text))).toList <:+:
        "\x7b\n  (\n    /*\n*/\n\n    x\n  )\n\x7d".toList :=
    ⟨lead.toList, rest.toList, by rw [← String.toList_append, ← String.toList_append, ← h]; rfl⟩
  exact absurd hinfix (by decide)

end SyntaxNode

end ScriptCensus
