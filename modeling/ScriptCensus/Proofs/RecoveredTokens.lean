import ScriptCensus.Proofs.PrintedPlaces

/-!
# Recovered tokens and their neighbours

In a source text the token after a line comment starts on a later line, and two words never touch.
`IsLaidOut` says so of the tokens of a tree. Between them may stand tokens that were expected and
not found. These have no width and lie where the token before them ends, so that they are printed
right after it, and what was apart in the source need not be apart in the printed text: after a line
comment a recovered bracket becomes a part of the comment (`SyntaxNode.recovered_glued`).

Where tokens stand in the printed text is told by `places`. Two tokens stand on different lines
there if and only if their spans do, and apart if and only if their spans are
(`PrintedNext.line_iff`, `PrintedNext.apart_iff`). For two tokens of a source text nothing can go
wrong; what is left are the pairs with a recovered token (`SyntaxNode.keepsApart_exact`).
-/

namespace ScriptCensus

/-! ## Tokens of a source text -/

namespace Leaf

/-- Whether a leaf is a token that was expected and not found. -/
def isMissing : Leaf → Bool
  | token _ _ _ => false
  | missing _ _ _ => true

/-- Whether a leaf is a comment to the end of the line. -/
def isLineComment : Leaf → Bool
  | token kind text _ => kind == "comment" && text.toList.take 2 == ['/', '/']
  | missing _ _ _ => false

/-- Whether the first character of a leaf is one of a word. -/
def startsInWord (isWord : Char → Bool) (l : Leaf) : Bool :=
  l.text.toList.head?.any isWord

/-- Whether the last character of a leaf is one of a word. -/
def endsInWord (isWord : Char → Bool) (l : Leaf) : Bool :=
  l.text.toList.getLast?.any isWord

end Leaf

/-- One token comes after another as in a source text. -/
structure SourceOrder (isWord : Char → Bool) (a b : Leaf) : Prop where
  bytes : a.span.stop ≤ b.span.start
  lines : a.span.endLine ≤ b.span.startLine
  comment : a.isLineComment → a.span.endLine < b.span.startLine
  touching : a.span.stop = b.span.start → ¬(a.endsInWord isWord ∧ b.startsInWord isWord)

instance (isWord : Char → Bool) (a b : Leaf) : Decidable (SourceOrder isWord a b) :=
  decidable_of_iff
    (a.span.stop ≤ b.span.start ∧ a.span.endLine ≤ b.span.startLine ∧
      (a.isLineComment → a.span.endLine < b.span.startLine) ∧
      (a.span.stop = b.span.start → ¬(a.endsInWord isWord ∧ b.startsInWord isWord)))
    ⟨fun h => ⟨h.1, h.2.1, h.2.2.1, h.2.2.2⟩, fun h => ⟨h.1, h.2, h.3, h.4⟩⟩

/-- The tokens among some leaves are laid out as in a source text. Of tokens that were expected and
not found nothing is said. -/
def IsLaidOut (isWord : Char → Bool) (ls : List Leaf) : Prop :=
  (ls.filter fun l => l.isPrinted && !l.isMissing).IsChain (SourceOrder isWord)

instance (isWord : Char → Bool) (ls : List Leaf) : Decidable (IsLaidOut isWord ls) :=
  inferInstanceAs (Decidable (List.IsChain _ _))

/-- If two neighbours are tokens, they come after each other as in a source text. -/
def SourceNeighbours (isWord : Char → Bool) (a b : Leaf) : Prop :=
  a.isMissing = false → b.isMissing = false → SourceOrder isWord a b

theorem Leaf.isMissing_of_isLineComment {l : Leaf} (h : l.isLineComment) : l.isMissing = false := by
  cases l with
  | token kind text span => rfl
  | missing kind named span => simp [isLineComment] at h

namespace SourceNeighbours

variable {isWord : Char → Bool} {a b : Leaf} (h : SourceNeighbours isWord a b)
include h

/-- After a line comment only a recovered token can lie on the same line. -/
theorem comment_of_missing
    (hmissing : a.isLineComment → b.isMissing → a.span.endLine < b.span.startLine)
    (ha : a.isLineComment) : a.span.endLine < b.span.startLine := by
  cases hb : b.isMissing with
  | true => exact hmissing ha hb
  | false => exact (h (Leaf.isMissing_of_isLineComment ha) hb).comment ha

/-- Only a recovered token can touch a word that it would join. -/
theorem apart_of_missing
    (hmissing : a.isMissing ∨ b.isMissing → a.endsInWord isWord → b.startsInWord isWord →
      a.span.endLine < b.span.startLine ∨ a.span.stop < b.span.start)
    (ha : a.endsInWord isWord) (hb : b.startsInWord isWord) :
    a.span.endLine < b.span.startLine ∨ a.span.stop < b.span.start := by
  by_cases hm : a.isMissing ∨ b.isMissing
  · exact hmissing hm ha hb
  · simp only [not_or, Bool.not_eq_true] at hm
    have horder := h hm.1 hm.2
    have hapart : a.span.stop ≠ b.span.start := fun he => horder.touching he ⟨ha, hb⟩
    exact Or.inr (Nat.lt_of_le_of_ne horder.bytes hapart)

end SourceNeighbours

/-! ## Neighbours -/

section chains

variable {α : Type} {r s : α → α → Prop}

/-- What holds of neighbours among some members holds of those neighbours that are such members. -/
theorem isChain_of_filter {q : α → Bool} :
    ∀ {l : List α}, (l.filter q).IsChain r → l.IsChain fun a b => q a → q b → r a b
  | [], _ => List.IsChain.nil
  | [a], _ => List.IsChain.singleton a
  | a :: b :: rest, h => by
    -- the first two are neighbours among the members too if both are members
    rw [List.filter_cons] at h
    by_cases ha : q a
    · rw [if_pos ha] at h
      refine List.isChain_cons_cons.2 ⟨fun _ hb => ?_, isChain_of_filter h.of_cons⟩
      rw [List.filter_cons_of_pos hb] at h
      exact (List.isChain_cons_cons.1 h).1
    · rw [if_neg ha] at h
      exact List.isChain_cons_cons.2 ⟨fun ha' => absurd ha' ha, isChain_of_filter h⟩

/-- Two relations that agree on all neighbours. -/
theorem isChain_congr {l : List α} {r' : α → α → Prop} (hs : l.IsChain s)
    (h : ∀ a b, s a b → (r a b ↔ r' a b)) : l.IsChain r ↔ l.IsChain r' := by
  rw [List.isChain_iff_getElem] at hs
  rw [List.isChain_iff_getElem, List.isChain_iff_getElem]
  exact forall₂_congr fun i hi => h _ _ (hs i hi)

end chains

namespace PrintedNext

variable {x y : PlacedToken × SourceSpan}

theorem line_le (h : PrintedNext x y) : x.2.endLine ≤ y.2.startLine := by
  obtain ⟨depth, -, hline⟩ := h.gap
  omega

/-- Two tokens are printed on different lines if they lie on different lines. -/
theorem line_iff (h : PrintedNext x y) :
    x.2.endLine < y.2.startLine ↔ x.1.span.endLine < y.1.span.startLine := by
  obtain ⟨depth, -, hline⟩ := h.gap
  rw [lineBreaks_separator] at hline
  omega

/-- Two tokens are printed apart if they lie on different lines or do not touch. -/
theorem apart_iff (h : PrintedNext x y) :
    x.2.stop < y.2.start ↔
      x.1.span.endLine < y.1.span.startLine ∨ x.1.span.stop < y.1.span.start := by
  obtain ⟨depth, hstart, -⟩ := h.gap
  have hempty := separator_eq_empty_iff x.1 y.1 depth
  rw [← String.utf8ByteSize_eq_zero_iff] at hempty
  omega

end PrintedNext

namespace SyntaxNode

/-- The printed leaves of a node with the places where they stand in its text. -/
def placedLeaves (n : SyntaxNode) : List (Leaf × SourceSpan) :=
  n.printedLeaves.zip (places n.printedTokens)

theorem map_fst_placedLeaves (n : SyntaxNode) : n.placedLeaves.map Prod.fst = n.printedLeaves := by
  apply List.map_fst_zip
  rw [length_places, printedTokens, List.length_map]

theorem isChain_placedLeaves (n : SyntaxNode) :
    n.placedLeaves.IsChain fun x y => PrintedNext (x.1.asToken, x.2) (y.1.asToken, y.2) := by
  have h := isChain_places n.printedTokens
  rw [printedTokens, List.zip_map_left, List.isChain_map] at h
  exact h

theorem exists_of_mem_placedLeaves {n : SyntaxNode} {p : Printed} (h : n.print = .ok p)
    {x : Leaf × SourceSpan} (hx : x ∈ n.placedLeaves) :
    ∃ front rest, p.text = front ++ x.1.text ++ rest ∧ x.2 = .after front x.1.text := by
  have hmem : x.1.asToken.movedTo x.2 ∈ settle n.printedTokens := by
    rw [settle, movedTo, printedTokens, List.zip_map_left, List.map_map]
    exact List.mem_map.2 ⟨x, hx, rfl⟩
  rw [text_eq_layout h]
  exact exists_of_mem_settle hmem

/-- No token stands on the line of a line comment behind it. -/
def NothingBehindComments (n : SyntaxNode) : Prop :=
  n.placedLeaves.Pairwise fun x y => x.1.isLineComment → x.2.endLine < y.2.startLine

/-- Between two tokens that would make one word if they touched there is something. -/
def WordsApart (isWord : Char → Bool) (n : SyntaxNode) : Prop :=
  n.placedLeaves.IsChain fun x y =>
    x.1.endsInWord isWord → y.1.startsInWord isWord → x.2.stop < y.2.start

instance (n : SyntaxNode) : Decidable n.NothingBehindComments :=
  inferInstanceAs (Decidable (List.Pairwise _ _))

instance (isWord : Char → Bool) (n : SyntaxNode) : Decidable (n.WordsApart isWord) :=
  inferInstanceAs (Decidable (List.IsChain _ _))

/-- One leaf is printed after another one, and on a later line if that is a line comment. -/
structure PrintedLater (x y : Leaf × SourceSpan) : Prop where
  lines : x.2.endLine ≤ y.2.startLine
  ends : y.2.startLine ≤ y.2.endLine
  comment : x.1.isLineComment → x.2.endLine < y.2.startLine

instance : Trans PrintedLater PrintedLater PrintedLater where
  trans hxy hyz := {
    lines := hxy.lines.trans (hxy.ends.trans hyz.lines)
    ends := hyz.ends
    comment := fun hc => (hxy.comment hc).trans_le (hxy.ends.trans hyz.lines) }

/-- It is enough to look at the token right after a comment, because lines do not go back. -/
theorem nothingBehindComments_iff (n : SyntaxNode) :
    n.NothingBehindComments ↔ n.placedLeaves.IsChain fun x y =>
      x.1.isLineComment → x.2.endLine < y.2.startLine := by
  refine ⟨List.Pairwise.isChain, fun h => ?_⟩
  have hlater : n.placedLeaves.IsChain PrintedLater := by
    refine (isChain_congr n.isChain_placedLeaves fun x y hxy => ?_).1 h
    exact ⟨fun hc => ⟨hxy.line_le, hxy.lines, hc⟩, PrintedLater.comment⟩
  exact hlater.pairwise.imp PrintedLater.comment

/-- Of the neighbours among the printed leaves, two tokens come after each other as in a source
text. -/
theorem isChain_sourceOrder {isWord : Char → Bool} {n : SyntaxNode} (h : IsLaidOut isWord n.yield) :
    n.printedLeaves.IsChain (SourceNeighbours isWord) := by
  have hfilter : n.yield.filter (fun l => l.isPrinted && !l.isMissing) =
      n.printedLeaves.filter (fun l => !l.isMissing) := by
    rw [printedLeaves, List.filter_filter]
    simp only [Bool.and_comm]
  rw [IsLaidOut, hfilter] at h
  refine (isChain_of_filter h).imp fun a b hab ha hb => hab ?_ ?_
  · rw [ha]
    rfl
  · rw [hb]
    rfl

/-- A relation on leaves holds of all neighbours whether or not their places are looked at. -/
theorem isChain_placedLeaves_iff (n : SyntaxNode) (r : Leaf → Leaf → Prop) :
    (n.placedLeaves.IsChain fun x y => r x.1 y.1) ↔ n.printedLeaves.IsChain r := by
  rw [← n.map_fst_placedLeaves, List.isChain_map]

/-- When the printed tokens of a source text with recovered tokens among them keep apart. Nothing
stands behind a line comment if and only if each recovered token right after such a comment starts
on a later line. Words keep apart if and only if each recovered token does from its neighbours: what
would make one word lies on different lines or does not touch. -/
theorem keepsApart_exact (isWord : Char → Bool) {n : SyntaxNode} {p : Printed}
    (h : n.print = .ok p) (hlaid : IsLaidOut isWord n.yield) :
    (∀ x ∈ n.placedLeaves,
      ∃ front rest, p.text = front ++ x.1.text ++ rest ∧ x.2 = .after front x.1.text) ∧
    (n.NothingBehindComments ↔ n.printedLeaves.IsChain fun a b =>
      a.isLineComment → b.isMissing → a.span.endLine < b.span.startLine) ∧
    (n.WordsApart isWord ↔ n.printedLeaves.IsChain fun a b =>
      a.isMissing ∨ b.isMissing → a.endsInWord isWord → b.startsInWord isWord →
        a.span.endLine < b.span.startLine ∨ a.span.stop < b.span.start) := by
  have hsource := isChain_sourceOrder hlaid
  refine ⟨fun x hx => exists_of_mem_placedLeaves h hx, ?_, ?_⟩
  · calc n.NothingBehindComments
      _ ↔ n.placedLeaves.IsChain fun x y => x.1.isLineComment → x.2.endLine < y.2.startLine :=
        nothingBehindComments_iff n
      _ ↔ n.placedLeaves.IsChain fun x y =>
            x.1.isLineComment → x.1.span.endLine < y.1.span.startLine :=
        isChain_congr n.isChain_placedLeaves fun _ _ hxy => imp_congr_right fun _ => hxy.line_iff
      _ ↔ n.printedLeaves.IsChain fun a b =>
            a.isLineComment → a.span.endLine < b.span.startLine :=
        isChain_placedLeaves_iff n fun a b => a.isLineComment → a.span.endLine < b.span.startLine
      _ ↔ n.printedLeaves.IsChain fun a b =>
            a.isLineComment → b.isMissing → a.span.endLine < b.span.startLine :=
        isChain_congr hsource fun _ _ hab =>
          ⟨fun hc ha _ => hc ha, hab.comment_of_missing⟩
  · calc n.WordsApart isWord
      _ ↔ n.placedLeaves.IsChain fun x y => x.1.endsInWord isWord → y.1.startsInWord isWord →
            x.1.span.endLine < y.1.span.startLine ∨ x.1.span.stop < y.1.span.start :=
        isChain_congr n.isChain_placedLeaves fun _ _ hxy =>
          imp_congr_right fun _ => imp_congr_right fun _ => hxy.apart_iff
      _ ↔ n.printedLeaves.IsChain fun a b => a.endsInWord isWord → b.startsInWord isWord →
            a.span.endLine < b.span.startLine ∨ a.span.stop < b.span.start :=
        isChain_placedLeaves_iff n fun a b => a.endsInWord isWord → b.startsInWord isWord →
          a.span.endLine < b.span.startLine ∨ a.span.stop < b.span.start
      _ ↔ n.printedLeaves.IsChain fun a b => a.isMissing ∨ b.isMissing →
            a.endsInWord isWord → b.startsInWord isWord →
              a.span.endLine < b.span.startLine ∨ a.span.stop < b.span.start :=
        isChain_congr hsource fun _ _ hab => ⟨fun hw _ => hw, hab.apart_of_missing⟩

end SyntaxNode

/-! ## A comment and a recovered bracket, two names and a recovered word -/

/-- The characters of names: letters, digits, `_` and `$`. -/
def isNameChar (c : Char) : Bool :=
  c.isAlphanum || c == '_' || c == '$'

/-- A block that ends in a line comment, with its closing bracket recovered at a place. -/
def openBlock (bracket : SourceSpan) : SyntaxNode :=
  .mk (some ⟨"statement_block", none⟩) none [("children", .sequence [
    .leaf (.token "\x7b" "\x7b" ⟨0, 1, 1, 1, 1⟩),
    .leaf (.token "comment" "// done" ⟨2, 9, 1, 1, 3⟩),
    .leaf (.missing "\x7d" false bracket)])]

/-- Two names with a word between them that was recovered where the first one ends. -/
def openHead : SyntaxNode :=
  .mk none none [("left", .leaf (.token "identifier" "a" ⟨0, 1, 1, 1, 1⟩)),
    ("operator", .leaf (.missing "of" false ⟨1, 1, 1, 1, 2⟩)),
    ("right", .leaf (.token "identifier" "b" ⟨2, 3, 1, 1, 3⟩))]

/-- A recovered bracket on the line after the comment stands there in the printed text. -/
theorem SyntaxNode.keepsApart_exact_nextLine :
    (openBlock ⟨10, 10, 2, 2, 1⟩).print =
      .ok ⟨"\x7b // done\n\x7d", ⟨0, 10, 1, 2, 1⟩⟩ ∧
    IsLaidOut isNameChar (openBlock ⟨10, 10, 2, 2, 1⟩).yield ∧
    (openBlock ⟨10, 10, 2, 2, 1⟩).NothingBehindComments ∧
    (openBlock ⟨10, 10, 2, 2, 1⟩).WordsApart isNameChar := by
  have h : (openBlock ⟨10, 10, 2, 2, 1⟩).print =
      .ok ⟨"\x7b // done\n\x7d", ⟨0, 10, 1, 2, 1⟩⟩ := by rfl
  have hlaid : IsLaidOut isNameChar (openBlock ⟨10, 10, 2, 2, 1⟩).yield := by decide
  obtain ⟨-, hcomments, hwords⟩ := keepsApart_exact isNameChar h hlaid
  exact ⟨h, hlaid, hcomments.2 (by decide), hwords.2 (by decide)⟩

/-- A recovered bracket right after a line comment becomes a part of it, and a recovered word right
after a name makes one word with it. -/
theorem SyntaxNode.recovered_glued :
    ((openBlock ⟨9, 9, 1, 1, 10⟩).print =
        .ok ⟨"\x7b // done\x7d", ⟨0, 9, 1, 1, 1⟩⟩ ∧
      IsLaidOut isNameChar (openBlock ⟨9, 9, 1, 1, 10⟩).yield ∧
      (∀ l ∈ (openBlock ⟨9, 9, 1, 1, 10⟩).yield, l.isMissing → l.span.isEmpty) ∧
      ¬(openBlock ⟨9, 9, 1, 1, 10⟩).NothingBehindComments) ∧
    (openHead.print = .ok ⟨"aof b", ⟨0, 3, 1, 1, 1⟩⟩ ∧
      IsLaidOut isNameChar openHead.yield ∧
      (∀ l ∈ openHead.yield, l.isMissing → l.span.isEmpty) ∧
      ¬openHead.WordsApart isNameChar) :=
  ⟨⟨rfl, by decide, by decide, by decide⟩, rfl, by decide, by decide, by decide⟩

end ScriptCensus
