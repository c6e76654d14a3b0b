import ScriptCensus.Proofs.Positions

/-!
# Functions that are skipped

A node cannot be printed for one of two reasons, and its leaves tell which: the first of them that
is named and was not found in the text (`SyntaxNode.print_eq_missingNode_iff`), or that there is
nothing to print (`SyntaxNode.print_eq_empty_iff`). What comes of a function is told by its leaves
in this way (`Outcome.ToldBy`).

The leaves of a function are among those of every function around it. A leaf that cannot be printed
is therefore the reason why all functions around it are skipped, and of no other ones: what comes of
these does not even change if something else stands in the place of the leaf
(`SyntaxValue.skips_outward`).
-/

namespace ScriptCensus

/-! ## Why printing fails -/

theorem Leaf.isUnprintable_iff {l : Leaf} :
    l.isUnprintable ↔ ∃ kind span, l = .missing kind true span := by
  cases l with
  | token kind text span => simp [isUnprintable]
  | missing kind named span => simp [isUnprintable]

/-- Leaves are turned down because of the first one that cannot be printed. -/
theorem tokensOf_eq_error_iff {ls : List Leaf} {e : PrintError} :
    tokensOf ls = .error e ↔ ∃ kind span,
      ls.find? Leaf.isUnprintable = some (.missing kind true span) ∧
        e = .missingNode kind span.startLine := by
  induction ls with
  | nil => simp [tokensOf]
  | cons l rest ih =>
    rw [tokensOf, Leaf.token?_eq, List.find?_cons]
    by_cases hu : l.isUnprintable
    · obtain ⟨kind, span, rfl⟩ := Leaf.isUnprintable_iff.1 hu
      simp only [hu, if_true, Except.error.injEq, Option.some.injEq, Leaf.missing.injEq, true_and]
      constructor
      · rintro rfl
        exact ⟨kind, span, ⟨rfl, rfl⟩, rfl⟩
      · rintro ⟨_, _, ⟨rfl, rfl⟩, rfl⟩
        rfl
    · -- a leaf that is printed or left out leaves the reason to the leaves after it
      rw [if_neg hu]
      simp only [hu]
      rw [← ih]
      by_cases hp : l.isPrinted
      · rw [if_pos hp]
        cases tokensOf rest <;> simp
      · rw [if_neg hp]

namespace SyntaxNode

variable {n : SyntaxNode}

/-- A node cannot be printed because of the first leaf that is named and was not found. -/
theorem print_eq_missingNode_iff {kind : String} {line : Nat} :
    n.print = .error (.missingNode kind line) ↔ ∃ span,
      n.yield.find? Leaf.isUnprintable = some (.missing kind true span) ∧
        span.startLine = line := by
  have htokens : n.print = .error (.missingNode kind line) ↔
      tokensOf n.yield = .error (.missingNode kind line) := by
    rw [print, tokens, leaves_eq_yield]
    cases tokensOf n.yield with
    | error e => simp
    | ok ts => cases ts <;> simp [printTokens]
  rw [htokens, tokensOf_eq_error_iff]
  constructor
  · rintro ⟨_, span, hfind, ⟨⟩⟩
    exact ⟨span, hfind, rfl⟩
  · rintro ⟨span, hfind, rfl⟩
    exact ⟨kind, span, hfind, rfl⟩

/-- There is nothing to print if every leaf can be printed and none is. -/
theorem print_eq_empty_iff :
    n.print = .error .empty ↔ ∀ l ∈ n.yield, l.isUnprintable = false ∧ l.isPrinted = false := by
  have htokens : n.print = .error .empty ↔ tokensOf n.yield = .ok [] := by
    rw [print, tokens, leaves_eq_yield]
    cases h : tokensOf n.yield with
    | error e =>
      obtain ⟨kind, span, -, rfl⟩ := tokensOf_eq_error_iff.1 h
      simp
    | ok ts => cases ts <;> simp [printTokens]
  rw [htokens, tokensOf_eq_ok_iff, List.map_eq_nil_iff, List.filter_eq_nil_iff, ← forall₂_and]
  simp only [Bool.not_eq_true]

/-- All other nodes are printed. -/
theorem exists_print_iff : (∃ p, n.print = .ok p) ↔
    (∀ l ∈ n.yield, l.isUnprintable = false) ∧ ∃ l ∈ n.yield, l.isPrinted = true := by
  simp only [print_eq_ok_iff, exists_and_left]
  refine and_congr_right fun _ => ?_
  have hne : (∃ l ∈ n.yield, l.isPrinted = true) ↔ n.printedTokens ≠ [] := by
    rw [printedTokens, printedLeaves, ne_eq, List.map_eq_nil_iff, List.filter_eq_nil_iff]
    simp
  rw [hne]
  cases n.printedTokens <;> simp [printTokens]

end SyntaxNode

/-! ## What the leaves of a function tell -/

namespace Outcome

/-- Why a function was skipped, if it was. -/
def error? (o : Outcome) : Option PrintError :=
  o.skipped?.map (·.error)

/-- A function was skipped because a named token was expected and not found. -/
def MissesNode (o : Outcome) : Prop :=
  ∃ kind line, o.error? = some (.missingNode kind line)

/-- What comes of a function with some leaves. It is skipped because of the first leaf that is named
and was not found, or because no leaf is printed; in all other cases it is captured. -/
structure ToldBy (ls : List Leaf) (o : Outcome) : Prop where
  missing : ∀ kind line, o.error? = some (.missingNode kind line) ↔
    ∃ span, ls.find? Leaf.isUnprintable = some (.missing kind true span) ∧ span.startLine = line
  empty : o.error? = some .empty ↔ ∀ l ∈ ls, l.isUnprintable = false ∧ l.isPrinted = false
  captured : o.isCaptured ↔ (∀ l ∈ ls, l.isUnprintable = false) ∧ ∃ l ∈ ls, l.isPrinted = true

theorem ToldBy.missesNode_iff {ls : List Leaf} {o : Outcome} (h : o.ToldBy ls) :
    o.MissesNode ↔ ∃ l ∈ ls, l.isUnprintable := by
  constructor
  · rintro ⟨kind, line, he⟩
    obtain ⟨span, hfind, -⟩ := (h.missing kind line).1 he
    exact ⟨_, List.mem_of_find?_eq_some hfind, List.find?_some hfind⟩
  · rintro ⟨l, hl, hu⟩
    obtain ⟨l', hfind⟩ := Option.isSome_iff_exists.1 (List.find?_isSome.2 ⟨l, hl, hu⟩)
    obtain ⟨kind, span, rfl⟩ := Leaf.isUnprintable_iff.1 (List.find?_some hfind)
    exact ⟨kind, span.startLine, (h.missing _ _).2 ⟨span, hfind, rfl⟩⟩

end Outcome

theorem SyntaxNode.error?_capture {n : SyntaxNode} {kind : FunctionKind} {e : PrintError} :
    (n.capture kind).error? = some e ↔ n.print = .error e := by
  rw [capture]
  cases n.print <;> simp [Outcome.error?, Outcome.skipped?]

theorem SyntaxNode.isCaptured_capture {n : SyntaxNode} {kind : FunctionKind} :
    (n.capture kind).isCaptured ↔ ∃ p, n.print = .ok p := by
  rw [capture]
  cases n.print <;> simp [Outcome.isCaptured, Outcome.record?]

/-- What comes of a function is told by its leaves. -/
theorem SyntaxNode.toldBy_capture (n : SyntaxNode) (kind : FunctionKind) :
    (n.capture kind).ToldBy n.yield where
  missing _ _ := by rw [error?_capture, print_eq_missingNode_iff]
  empty := by rw [error?_capture, print_eq_empty_iff]
  captured := by rw [isCaptured_capture, exists_print_iff]

/-! ## Functions inside functions -/

namespace SyntaxValue

variable {v : SyntaxValue}

theorem toldBy_of_mem_outcomes {p : Position} {o : Outcome} (h : (p, o) ∈ v.outcomes) :
    ∃ n, v.at? p = some (.node n) ∧ o.ToldBy n.yield := by
  obtain ⟨n, kind, hn, -, rfl⟩ := mem_outcomes.1 h
  exact ⟨n, hn, n.toldBy_capture kind⟩

/-- A function is skipped for a missing token exactly if there is one inside. -/
theorem missesNode_iff {p : Position} {o : Outcome} (h : (p, o) ∈ v.outcomes) :
    o.MissesNode ↔ ∃ q l, p <+: q ∧ v.at? q = some (.leaf l) ∧ l.isUnprintable := by
  obtain ⟨n, hn, htold⟩ := toldBy_of_mem_outcomes h
  rw [htold.missesNode_iff]
  constructor
  · rintro ⟨l, hl, hu⟩
    obtain ⟨r, hr⟩ := (mem_yield (.node n)).1 hl
    exact ⟨p ++ r, l, List.prefix_append p r, by rw [at?_append_of_at? hn, hr], hu⟩
  · rintro ⟨_, l, ⟨r, rfl⟩, hl, hu⟩
    rw [at?_append_of_at? hn] at hl
    exact ⟨l, (mem_yield (.node n)).2 ⟨r, hl⟩, hu⟩

/-- A function is skipped for a missing token if a function inside is. -/
theorem missesNode_of_inside {p q : Position} {o u : Outcome} (ho : (p, o) ∈ v.outcomes)
    (hu : (q, u) ∈ v.outcomes) (hpq : p <+: q) (h : u.MissesNode) : o.MissesNode := by
  obtain ⟨r, l, hqr, hl⟩ := (missesNode_iff hu).1 h
  exact (missesNode_iff ho).2 ⟨r, l, hpq.trans hqr, hl⟩

/-- A function inside a captured one is captured, or there is nothing to print. -/
theorem captured_or_empty_of_inside {p q : Position} {o u : Outcome} (ho : (p, o) ∈ v.outcomes)
    (hu : (q, u) ∈ v.outcomes) (hpq : p <+: q) (h : o.isCaptured) :
    u.isCaptured ∨ u.error? = some .empty := by
  cases u with
  | captured f => exact Or.inl rfl
  | skipped f =>
    obtain ⟨kind, lines?, e⟩ := f
    cases e with
    | empty => exact Or.inr rfl
    | missingNode kind line =>
      obtain ⟨k, l, he⟩ := missesNode_of_inside ho hu hpq ⟨kind, line, rfl⟩
      cases o with
      | captured f => simp [Outcome.error?, Outcome.skipped?] at he
      | skipped f => simp [Outcome.isCaptured, Outcome.record?] at h

/-- Skips go outward and nowhere else. Each function has one outcome in the walk, which is told by
its leaves. It misses a token exactly if there is a leaf inside it that is named and was not found.
So a function inside a captured one is captured or has nothing to print, and all functions around
one that misses a token miss it too. Whatever stands in the place of such a leaf, nothing changes
for the functions that are not around it. -/
theorem skips_outward (v : SyntaxValue) :
    v.outcomes.map Prod.snd = v.walk ∧
    (∀ p n kind, v.at? p = some (.node n) → n.functionKind? = some kind →
      ∃ o, o.ToldBy n.yield ∧ ∀ u, (p, u) ∈ v.outcomes ↔ u = o) ∧
    (∀ p o, (p, o) ∈ v.outcomes →
      (o.MissesNode ↔ ∃ q l, p <+: q ∧ v.at? q = some (.leaf l) ∧ l.isUnprintable)) ∧
    (∀ p q o u, (p, o) ∈ v.outcomes → (q, u) ∈ v.outcomes → p <+: q →
      (o.isCaptured → u.isCaptured ∨ u.error? = some .empty) ∧ (u.MissesNode → o.MissesNode)) ∧
    ∀ (w : SyntaxValue) p q o, ¬p <+: q → ¬q <+: p →
      ((p, o) ∈ (v.replaceAt w q).outcomes ↔ (p, o) ∈ v.outcomes) := by
  refine ⟨map_snd_outcomes v, fun p n kind hn hkind => ?_, fun p o => missesNode_iff,
    fun p q o u ho hu hpq => ?_, fun w p q o => mem_outcomes_replaceAt⟩
  · refine ⟨n.capture kind, n.toldBy_capture kind, fun u => ?_⟩
    rw [mem_outcomes, hn]
    simp [hkind]
  · exact ⟨captured_or_empty_of_inside ho hu hpq, missesNode_of_inside ho hu hpq⟩

/-- A function without its name, with two functions inside of which one has no tokens, and a further
function after it. -/
def namelessProgram : SyntaxValue :=
  .node (.mk (some ⟨"program", none⟩) none [("children", .sequence [
    .node (.mk (some ⟨"function_declaration", some .declaration⟩) none [
      ("name", .leaf (.missing "identifier" true ⟨9, 9, 1, 1, 10⟩)),
      ("body", .node (.mk (some ⟨"arrow_function", some .arrow⟩) none
        [("children", .leaf (.token "identifier" "x" ⟨11, 12, 2, 2, 1⟩))])),
      ("tail", .node (.mk (some ⟨"function_expression", some .expression⟩) none
        [("body", .absent)]))]),
    .node (.mk (some ⟨"method_definition", some .method⟩) none
      [("name", .leaf (.token "identifier" "y" ⟨13, 14, 3, 3, 1⟩))])])])

/-- The missing name has the function around it skipped. With a name in its place the last function
is captured as before. -/
theorem skips_outward_namelessProgram :
    namelessProgram.outcomes =
      [([0, 0], .skipped ⟨.declaration, none, .missingNode "identifier" 1⟩),
        ([0, 0, 1], .captured ⟨"x", 2, 2, .arrow⟩),
        ([0, 0, 2], .skipped ⟨.expression, none, .empty⟩),
        ([0, 1], .captured ⟨"y", 3, 3, .method⟩)] ∧
      ([0, 1], .captured ⟨"y", 3, 3, .method⟩) ∈
        (namelessProgram.replaceAt (.leaf (.token "identifier" "f" ⟨9, 10, 1, 1, 10⟩))
          [0, 0, 0]).outcomes := by
  have houtcomes : namelessProgram.outcomes =
      [([0, 0], .skipped ⟨.declaration, none, .missingNode "identifier" 1⟩),
        ([0, 0, 1], .captured ⟨"x", 2, 2, .arrow⟩),
        ([0, 0, 2], .skipped ⟨.expression, none, .empty⟩),
        ([0, 1], .captured ⟨"y", 3, 3, .method⟩)] := by rfl
  refine ⟨houtcomes, ?_⟩
  rw [(skips_outward namelessProgram).2.2.2.2 _ _ _ _ (by decide) (by decide), houtcomes]
  simp

end SyntaxValue

end ScriptCensus
