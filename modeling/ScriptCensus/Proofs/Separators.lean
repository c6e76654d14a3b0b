import ScriptCensus.Proofs.PrintedLeaves

/-!
# Tokens and separators

A printed text is the tokens in order with separators between them (`layout_eq_weave`). A separator
is told by where the two tokens lie and, after a line break, by the brackets that are still open
(`gaps_getElem?`). The printer counts open brackets and never goes below zero; the brackets
themselves are kept on a stack here (`leftOpen`), from which a closing bracket takes the most recent
one, if there is any. The count is the height of the stack (`PlacedToken.length_leftOpenAt`).
-/

namespace ScriptCensus

/-! ## Tokens and what stands before them -/

/-- What stands before each of some tokens that follow a token, at an indentation. -/
def gapsAfter (previous : PlacedToken) (depth : Nat) : List PlacedToken → List String
  | [] => []
  | t :: rest => separator previous t (t.depthAt depth) :: gapsAfter t (t.depthAfter depth) rest

/-- What stands before each of some tokens. -/
def gaps : List PlacedToken → List String
  | [] => []
  | t :: rest => "" :: gapsAfter t (t.depthAfter 0) rest

/-- Texts with what stands before each of them. -/
def weave (gs texts : List String) : String :=
  String.join (List.zipWith (· ++ ·) gs texts)

@[simp]
theorem weave_nil : weave [] [] = "" := rfl

@[simp]
theorem weave_cons (g t : String) (gs ts : List String) :
    weave (g :: gs) (t :: ts) = g ++ t ++ weave gs ts := by
  simp [weave]

theorem join_piecesAfter (previous : PlacedToken) (depth : Nat) (ts : List PlacedToken) :
    String.join (piecesAfter previous depth ts) =
      weave (gapsAfter previous depth ts) (ts.map (·.text)) := by
  induction ts generalizing previous depth with
  | nil => simp [piecesAfter, gapsAfter]
  | cons t rest ih => simp [piecesAfter, gapsAfter, ih, String.append_assoc]

/-- A printed text is made of the tokens and what stands before each of them. -/
theorem layout_eq_weave (ts : List PlacedToken) :
    layout ts = weave (gaps ts) (ts.map (·.text)) := by
  cases ts with
  | nil => rfl
  | cons t rest => simp [layout, gaps, join_piecesAfter]

@[simp]
theorem length_gapsAfter (previous : PlacedToken) (depth : Nat) (ts : List PlacedToken) :
    (gapsAfter previous depth ts).length = ts.length := by
  induction ts generalizing previous depth with
  | nil => rfl
  | cons t rest ih => simp [gapsAfter, ih]

@[simp]
theorem length_gaps (ts : List PlacedToken) : (gaps ts).length = ts.length := by
  cases ts <;> simp [gaps]

/-! ## Open brackets -/

/-- The tokens after which lines are indented further. -/
def openingBrackets : List String :=
  ["\x7b", "(", "[", "$\x7b"]

/-- The tokens that end an indentation. -/
def closingBrackets : List String :=
  ["\x7d", ")", "]"]

namespace PlacedToken

theorem opens_iff (t : PlacedToken) : t.opens = true ↔ t.text ∈ openingBrackets := by
  simp [opens, openingBrackets, or_assoc]

theorem closes_iff (t : PlacedToken) : t.closes = true ↔ t.text ∈ closingBrackets := by
  simp [closes, closingBrackets, or_assoc]

/-- The brackets that are left open before a token, the most recent first: a closing bracket takes
the most recent one away, and is ignored if there is none. -/
def leftOpenAt (t : PlacedToken) (stack : List PlacedToken) : List PlacedToken :=
  if t.text ∈ closingBrackets then stack.tail else stack

/-- The brackets that are left open after a token. -/
def leftOpenAfter (t : PlacedToken) (stack : List PlacedToken) : List PlacedToken :=
  if t.text ∈ openingBrackets then t :: t.leftOpenAt stack else t.leftOpenAt stack

theorem length_leftOpenAt (t : PlacedToken) (stack : List PlacedToken) :
    (t.leftOpenAt stack).length = t.depthAt stack.length := by
  by_cases h : t.text ∈ closingBrackets <;> simp [leftOpenAt, depthAt, closes_iff, h]

theorem length_leftOpenAfter (t : PlacedToken) (stack : List PlacedToken) :
    (t.leftOpenAfter stack).length = t.depthAfter stack.length := by
  by_cases h : t.text ∈ openingBrackets <;>
    simp [leftOpenAfter, depthAfter, opens_iff, h, length_leftOpenAt]

end PlacedToken

/-- The brackets that some tokens leave open, the most recent first, if some were open before. -/
def leftOpenFrom (stack ts : List PlacedToken) : List PlacedToken :=
  ts.foldl (fun stack t => t.leftOpenAfter stack) stack

/-- The brackets that some tokens leave open, the most recent first. -/
def leftOpen (ts : List PlacedToken) : List PlacedToken :=
  leftOpenFrom [] ts

/-- What stands before a token is the separator at the height of the stack. -/
theorem gapsAfter_getElem? {stack : List PlacedToken} {a b : PlacedToken} :
    ∀ {ts : List PlacedToken} {previous : PlacedToken} {depth i : Nat}, stack.length = depth →
      (previous :: ts)[i]? = some a → ts[i]? = some b →
      (gapsAfter previous depth ts)[i]? =
        some (separator a b (b.leftOpenAt (leftOpenFrom stack (ts.take i))).length) := by
  intro ts
  -- the stack moves on with the counter, which stays its height
  induction ts generalizing stack with
  | nil => simp
  | cons t rest ih =>
    intro previous depth i hd ha hb
    cases i with
    | zero =>
      obtain rfl : previous = a := by simpa using ha
      obtain rfl : t = b := by simpa using hb
      simp [gapsAfter, leftOpenFrom, PlacedToken.length_leftOpenAt, hd]
    | succ i =>
      have hd' : (t.leftOpenAfter stack).length = t.depthAfter depth := by
        rw [PlacedToken.length_leftOpenAfter, hd]
      simpa [gapsAfter, leftOpenFrom] using ih hd' (by simpa using ha) (by simpa using hb)

theorem gaps_getElem? {ts : List PlacedToken} {i : Nat} {a b : PlacedToken}
    (ha : ts[i]? = some a) (hb : ts[i + 1]? = some b) :
    (gaps ts)[i + 1]? =
      some (separator a b (b.leftOpenAt (leftOpen (ts.take (i + 1)))).length) := by
  cases ts with
  | nil => simp at ha
  | cons t rest =>
    have hd : (t.leftOpenAfter []).length = t.depthAfter 0 := t.length_leftOpenAfter []
    simpa [gaps, leftOpen, leftOpenFrom] using gapsAfter_getElem? hd ha (by simpa using hb)

/-! ## The separator of two tokens -/

/-- Two blanks for each level of an indentation. -/
def indentation (depth : Nat) : String :=
  String.ofList (List.replicate (2 * depth) ' ')

/-- The number of line breaks of a text. -/
def lineBreaks (s : String) : Nat :=
  s.toList.count '\n'

@[simp]
theorem lineBreaks_append (s t : String) : lineBreaks (s ++ t) = lineBreaks s + lineBreaks t := by
  simp [lineBreaks]

theorem lineBreaks_oneBreak : lineBreaks "\n" = 1 := by decide

theorem lineBreaks_twoBreaks : lineBreaks "\n\n" = 2 := by decide

theorem lineBreaks_blank : lineBreaks " " = 0 := by decide

theorem lineBreaks_empty : lineBreaks "" = 0 := by decide

@[simp]
theorem lineBreaks_indentation (depth : Nat) : lineBreaks (indentation depth) = 0 := by
  simp [lineBreaks, indentation, List.count_replicate]

/-- What a separator of two tokens is to be, at an indentation. -/
structure IsSeparator (a b : PlacedToken) (depth : Nat) (s : String) : Prop where
  next_line : b.span.startLine = a.span.endLine + 1 → s = "\n" ++ indentation depth
  further_down : a.span.endLine + 1 < b.span.startLine → s = "\n\n" ++ indentation depth
  same_line : b.span.startLine ≤ a.span.endLine → a.span.stop < b.span.start → s = " "
  adjacent : b.span.startLine ≤ a.span.endLine → b.span.start ≤ a.span.stop → s = ""

theorem isSeparator_separator (a b : PlacedToken) (depth : Nat) :
    IsSeparator a b depth (separator a b depth) := by
  constructor
  · intro h
    have hone : ¬b.span.startLine - a.span.endLine > 1 := by omega
    rw [separator, if_pos (by omega), if_neg hone, indentation]
  · intro h
    rw [separator, if_pos (by omega), if_pos (by omega), indentation]
  · intro h hs
    rw [separator, if_neg (by omega), if_pos (by omega)]
  · intro h hs
    rw [separator, if_neg (by omega), if_neg (by omega)]

/-- Where a token may lie after another one, line by line and on one line. -/
theorem place_cases (a b : PlacedToken) :
    b.span.startLine = a.span.endLine + 1 ∨ a.span.endLine + 1 < b.span.startLine ∨
      (b.span.startLine ≤ a.span.endLine ∧ a.span.stop < b.span.start) ∨
      (b.span.startLine ≤ a.span.endLine ∧ b.span.start ≤ a.span.stop) := by
  omega

/-- Two tokens have one separator at an indentation. -/
theorem IsSeparator.unique {a b : PlacedToken} {depth : Nat} {s s' : String}
    (h : IsSeparator a b depth s) (h' : IsSeparator a b depth s') : s = s' := by
  rcases place_cases a b with hl | hl | ⟨hl, hs⟩ | ⟨hl, hs⟩
  · rw [h.next_line hl, h'.next_line hl]
  · rw [h.further_down hl, h'.further_down hl]
  · rw [h.same_line hl hs, h'.same_line hl hs]
  · rw [h.adjacent hl hs, h'.adjacent hl hs]

theorem separator_cases (a b : PlacedToken) (depth : Nat) :
    separator a b depth = "\n" ++ indentation depth ∨
      separator a b depth = "\n\n" ++ indentation depth ∨
      separator a b depth = " " ∨ separator a b depth = "" := by
  have h := isSeparator_separator a b depth
  rcases place_cases a b with hl | hl | ⟨hl, hs⟩ | ⟨hl, hs⟩
  · exact Or.inl (h.next_line hl)
  · exact Or.inr (Or.inl (h.further_down hl))
  · exact Or.inr (Or.inr (Or.inl (h.same_line hl hs)))
  · exact Or.inr (Or.inr (Or.inr (h.adjacent hl hs)))

/-- A separator has as many line breaks as the tokens are lines apart, but no more than two. -/
theorem lineBreaks_separator (a b : PlacedToken) (depth : Nat) :
    lineBreaks (separator a b depth) = min 2 (b.span.startLine - a.span.endLine) := by
  have h := isSeparator_separator a b depth
  rcases place_cases a b with hl | hl | ⟨hl, hs⟩ | ⟨hl, hs⟩
  · rw [h.next_line hl, lineBreaks_append, lineBreaks_indentation, lineBreaks_oneBreak]
    omega
  · rw [h.further_down hl, lineBreaks_append, lineBreaks_indentation, lineBreaks_twoBreaks]
    omega
  · rw [h.same_line hl hs, lineBreaks_blank]
    omega
  · rw [h.adjacent hl hs, lineBreaks_empty]
    omega

/-- Tokens with nothing between them are those that lie on one line and touch. -/
theorem separator_eq_empty_iff (a b : PlacedToken) (depth : Nat) :
    separator a b depth = "" ↔
      b.span.startLine ≤ a.span.endLine ∧ b.span.start ≤ a.span.stop := by
  have h := isSeparator_separator a b depth
  constructor
  · intro he
    have hbreaks := lineBreaks_separator a b depth
    rw [he, lineBreaks_empty] at hbreaks
    have hl : b.span.startLine ≤ a.span.endLine := by omega
    rcases Nat.lt_or_ge a.span.stop b.span.start with hs | hs
    · rw [h.same_line hl hs] at he
      simp at he
    · exact ⟨hl, hs⟩
  · rintro ⟨hl, hs⟩
    exact h.adjacent hl hs

/-! ## The normal form -/

/-- A text is the normal form of some tokens: each token stands in it once and in order, nothing
before the first one and a separator before each other one. A line starts with two blanks for each
bracket that is left open before its first token. -/
def IsNormalForm (ts : List PlacedToken) (text : String) : Prop :=
  ∃ gs : List String, gs.length = ts.length ∧ gs.head? = some "" ∧
    text = weave gs (ts.map (·.text)) ∧
    ∀ i a b, ts[i]? = some a → ts[i + 1]? = some b → ∃ s, gs[i + 1]? = some s ∧
      IsSeparator a b (b.leftOpenAt (leftOpen (ts.take (i + 1)))).length s

theorem isNormalForm_layout {ts : List PlacedToken} (h : ts ≠ []) :
    IsNormalForm ts (layout ts) := by
  refine ⟨gaps ts, length_gaps ts, ?_, layout_eq_weave ts, fun i a b ha hb => ?_⟩
  · obtain ⟨t, rest, rfl⟩ := List.exists_cons_of_ne_nil h
    rfl
  · exact ⟨_, gaps_getElem? ha hb, isSeparator_separator a b _⟩

/-- Tokens have one normal form. -/
theorem IsNormalForm.eq_layout {ts : List PlacedToken} {text : String} (h : IsNormalForm ts text) :
    text = layout ts := by
  obtain ⟨gs, hlength, hhead, htext, hsep⟩ := h
  have hgs : gs = gaps ts := by
    apply List.ext_getElem?
    intro i
    cases i with
    | zero =>
      cases ts with
      | nil => simp_all
      | cons t rest => simpa [gaps, List.head?_eq_getElem?] using hhead
    | succ i =>
      rcases Nat.lt_or_ge (i + 1) ts.length with hi | hi
      · have ha : ts[i]? = some ts[i] := List.getElem?_eq_getElem (by omega)
        have hb : ts[i + 1]? = some ts[i + 1] := List.getElem?_eq_getElem hi
        obtain ⟨s, hs, his⟩ := hsep i _ _ ha hb
        rw [hs, gaps_getElem? ha hb, his.unique (isSeparator_separator ..)]
      · rw [List.getElem?_eq_none (by omega), List.getElem?_eq_none (by simpa using hi)]
  rw [htext, hgs, layout_eq_weave]

/-- What is printed for a node is the normal form of the tokens of its printed leaves, and no other
text is. -/
theorem SyntaxNode.print_normalForm {n : SyntaxNode} {p : Printed} (h : n.print = .ok p)
    (text : String) : IsNormalForm n.printedTokens text ↔ text = p.text := by
  rw [text_eq_layout h]
  refine ⟨IsNormalForm.eq_layout, ?_⟩
  rintro rfl
  exact isNormalForm_layout (printedTokens_ne_nil h)

/-- A node with a closing bracket before any opening one, a blank line, a token of two lines, and a
recovered bracket whose span ends before it starts. -/
def tangledNode : SyntaxNode :=
  .mk none none [
    ("children", .sequence [
      .leaf (.token ")" ")" ⟨0, 1, 1, 1, 1⟩), .leaf (.token "\x7b" "\x7b" ⟨1, 2, 1, 1, 2⟩)]),
    ("body", .node (.mk (some ⟨"block", none⟩) none [
      ("children", .leaf (.token "comment" "/*\n*/" ⟨8, 13, 4, 5, 3⟩))])),
    ("tail", .absent),
    ("children", .leaf (.missing "\x7d" false ⟨13, 12, 6, 5, 3⟩))]

theorem SyntaxNode.print_normalForm_tangled :
    tangledNode.print = .ok ⟨")\x7b\n\n  /*\n*/\n\x7d", ⟨0, 12, 1, 5, 1⟩⟩ ∧
      IsNormalForm tangledNode.printedTokens ")\x7b\n\n  /*\n*/\n\x7d" := by
  have h : tangledNode.print = .ok ⟨")\x7b\n\n  /*\n*/\n\x7d", ⟨0, 12, 1, 5, 1⟩⟩ := by rfl
  exact ⟨h, (SyntaxNode.print_normalForm h _).2 rfl⟩

end ScriptCensus
