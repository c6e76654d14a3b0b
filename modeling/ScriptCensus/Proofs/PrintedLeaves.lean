import ScriptCensus.Tree.Printer

/-!
# The leaves that are printed

`SyntaxNode.yield` lists the leaves of a node by plain recursion, and `SyntaxNode.withLeaves` puts
other leaves in their place, one for one. What a node prints as is told by its yield alone
(`SyntaxNode.print_eq_ok_iff`): no leaf may be unprintable, and the tokens are those of the printed
leaves, in order. A tree that is changed in its leaves only is therefore printed from the changed
list (`SyntaxNode.yield_withLeaves`).
-/

namespace ScriptCensus

/-! ## Leaves in order -/

mutual

/-- The leaves of a node: those of each field after those of the fields before it. -/
def SyntaxNode.yield : SyntaxNode → List Leaf
  | .mk _ _ fields => SyntaxNode.fieldsYield fields

/-- The leaves of some fields. -/
def SyntaxNode.fieldsYield : List (String × SyntaxValue) → List Leaf
  | [] => []
  | (_, value) :: rest => value.yield ++ SyntaxNode.fieldsYield rest

/-- The leaves of a value: those of each item after those of the items before it. -/
def SyntaxValue.yield : SyntaxValue → List Leaf
  | .node n => n.yield
  | .sequence items => SyntaxValue.itemsYield items
  | .leaf l => [l]
  | .absent => []

/-- The leaves of some values. -/
def SyntaxValue.itemsYield : List SyntaxValue → List Leaf
  | [] => []
  | value :: rest => value.yield ++ SyntaxValue.itemsYield rest

end

mutual

theorem SyntaxNode.leavesBefore_eq (further : List Leaf) :
    ∀ n : SyntaxNode, n.leavesBefore further = n.yield ++ further
  | .mk _ _ fields => by
    rw [SyntaxNode.leavesBefore, SyntaxNode.yield, SyntaxNode.fieldLeavesBefore_eq further fields]

theorem SyntaxNode.fieldLeavesBefore_eq (further : List Leaf) :
    ∀ fields : List (String × SyntaxValue),
      SyntaxNode.fieldLeavesBefore further fields = SyntaxNode.fieldsYield fields ++ further
  | [] => by rw [SyntaxNode.fieldLeavesBefore, SyntaxNode.fieldsYield, List.nil_append]
  | (_, value) :: rest => by
    rw [SyntaxNode.fieldLeavesBefore, SyntaxNode.fieldsYield,
      SyntaxNode.fieldLeavesBefore_eq further rest, SyntaxValue.leavesBefore_eq _ value,
      List.append_assoc]

theorem SyntaxValue.leavesBefore_eq (further : List Leaf) :
    ∀ v : SyntaxValue, v.leavesBefore further = v.yield ++ further
  | .node n => by
    rw [SyntaxValue.leavesBefore, SyntaxValue.yield, SyntaxNode.leavesBefore_eq further n]
  | .sequence items => by
    rw [SyntaxValue.leavesBefore, SyntaxValue.yield, SyntaxValue.itemLeavesBefore_eq further items]
  | .leaf l => by rw [SyntaxValue.leavesBefore, SyntaxValue.yield, List.singleton_append]
  | .absent => by rw [SyntaxValue.leavesBefore, SyntaxValue.yield, List.nil_append]

theorem SyntaxValue.itemLeavesBefore_eq (further : List Leaf) :
    ∀ items : List SyntaxValue,
      SyntaxValue.itemLeavesBefore further items = SyntaxValue.itemsYield items ++ further
  | [] => by rw [SyntaxValue.itemLeavesBefore, SyntaxValue.itemsYield, List.nil_append]
  | value :: rest => by
    rw [SyntaxValue.itemLeavesBefore, SyntaxValue.itemsYield,
      SyntaxValue.itemLeavesBefore_eq further rest, SyntaxValue.leavesBefore_eq _ value,
      List.append_assoc]

end

theorem SyntaxNode.leaves_eq_yield (n : SyntaxNode) : n.leaves = n.yield := by
  rw [SyntaxNode.leaves, SyntaxNode.leavesBefore_eq, List.append_nil]

/-! ## Other leaves in the same places -/

mutual

/-- A node with the given leaves in place of its own. Tags, spans, fields and sequences stay. -/
def SyntaxNode.withLeaves (ls : List Leaf) : SyntaxNode → SyntaxNode
  | .mk tag? span? fields => .mk tag? span? (SyntaxNode.fieldsWithLeaves ls fields)

/-- Some fields with the given leaves in place of their own. -/
def SyntaxNode.fieldsWithLeaves (ls : List Leaf) :
    List (String × SyntaxValue) → List (String × SyntaxValue)
  | [] => []
  | (name, value) :: rest =>
    (name, value.withLeaves ls) :: SyntaxNode.fieldsWithLeaves (ls.drop value.yield.length) rest

/-- A value with the given leaves in place of its own. -/
def SyntaxValue.withLeaves (ls : List Leaf) : SyntaxValue → SyntaxValue
  | .node n => .node (n.withLeaves ls)
  | .sequence items => .sequence (SyntaxValue.itemsWithLeaves ls items)
  | .leaf l => .leaf (ls.headD l)
  | .absent => .absent

/-- Some values with the given leaves in place of their own. -/
def SyntaxValue.itemsWithLeaves (ls : List Leaf) : List SyntaxValue → List SyntaxValue
  | [] => []
  | value :: rest =>
    value.withLeaves ls :: SyntaxValue.itemsWithLeaves (ls.drop value.yield.length) rest

end

mutual

theorem SyntaxNode.yield_withLeaves_take :
    ∀ (n : SyntaxNode) (ls : List Leaf), n.yield.length ≤ ls.length →
      (n.withLeaves ls).yield = ls.take n.yield.length
  | .mk _ _ fields, ls, h => by
    rw [SyntaxNode.yield] at h
    rw [SyntaxNode.withLeaves, SyntaxNode.yield, SyntaxNode.yield,
      SyntaxNode.yield_fieldsWithLeaves fields ls h]

theorem SyntaxNode.yield_fieldsWithLeaves :
    ∀ (fields : List (String × SyntaxValue)) (ls : List Leaf),
      (SyntaxNode.fieldsYield fields).length ≤ ls.length →
      SyntaxNode.fieldsYield (SyntaxNode.fieldsWithLeaves ls fields) =
        ls.take (SyntaxNode.fieldsYield fields).length
  | [], ls, _ => by
    rw [SyntaxNode.fieldsWithLeaves, SyntaxNode.fieldsYield, List.length_nil, List.take_zero]
  | (_, value) :: rest, ls, h => by
    rw [SyntaxNode.fieldsYield, List.length_append] at h
    have hrest : (SyntaxNode.fieldsYield rest).length ≤ (ls.drop value.yield.length).length := by
      rw [List.length_drop]
      omega
    rw [SyntaxNode.fieldsWithLeaves, SyntaxNode.fieldsYield, SyntaxNode.fieldsYield,
      SyntaxValue.yield_withLeaves_take value ls (by omega),
      SyntaxNode.yield_fieldsWithLeaves rest _ hrest, List.length_append, List.take_add]

theorem SyntaxValue.yield_withLeaves_take :
    ∀ (v : SyntaxValue) (ls : List Leaf), v.yield.length ≤ ls.length →
      (v.withLeaves ls).yield = ls.take v.yield.length
  | .node n, ls, h => by
    rw [SyntaxValue.yield] at h
    rw [SyntaxValue.withLeaves, SyntaxValue.yield, SyntaxValue.yield,
      SyntaxNode.yield_withLeaves_take n ls h]
  | .sequence items, ls, h => by
    rw [SyntaxValue.yield] at h
    rw [SyntaxValue.withLeaves, SyntaxValue.yield, SyntaxValue.yield,
      SyntaxValue.yield_itemsWithLeaves items ls h]
  | .leaf l, ls, h => by
    cases ls with
    | nil => simp [SyntaxValue.yield] at h
    | cons l' rest => simp [SyntaxValue.withLeaves, SyntaxValue.yield]
  | .absent, ls, _ => by
    rw [SyntaxValue.withLeaves, SyntaxValue.yield, List.length_nil, List.take_zero]

theorem SyntaxValue.yield_itemsWithLeaves :
    ∀ (items : List SyntaxValue) (ls : List Leaf),
      (SyntaxValue.itemsYield items).length ≤ ls.length →
      SyntaxValue.itemsYield (SyntaxValue.itemsWithLeaves ls items) =
        ls.take (SyntaxValue.itemsYield items).length
  | [], ls, _ => by
    rw [SyntaxValue.itemsWithLeaves, SyntaxValue.itemsYield, List.length_nil, List.take_zero]
  | value :: rest, ls, h => by
    rw [SyntaxValue.itemsYield, List.length_append] at h
    have hrest : (SyntaxValue.itemsYield rest).length ≤ (ls.drop value.yield.length).length := by
      rw [List.length_drop]
      omega
    rw [SyntaxValue.itemsWithLeaves, SyntaxValue.itemsYield, SyntaxValue.itemsYield,
      SyntaxValue.yield_withLeaves_take value ls (by omega),
      SyntaxValue.yield_itemsWithLeaves rest _ hrest, List.length_append, List.take_add]

end

/-- A node takes as many other leaves as it has. -/
theorem SyntaxNode.yield_withLeaves {n : SyntaxNode} {ls : List Leaf}
    (h : ls.length = n.yield.length) : (n.withLeaves ls).yield = ls := by
  rw [SyntaxNode.yield_withLeaves_take n ls (by omega), ← h, List.take_length]

/-! ## Printing by leaves -/

namespace Leaf

/-- What a leaf reads as. A token that was expected and not found is named by its own text. -/
def text : Leaf → String
  | token _ text _ => text
  | missing kind _ _ => kind

/-- Whether a leaf has no text to print: a named token that was expected and not found. -/
def isUnprintable : Leaf → Bool
  | token _ _ _ => false
  | missing _ named _ => named

/-- Whether a leaf is printed: a token with a text, or a token without a name that was expected and
not found. -/
def isPrinted : Leaf → Bool
  | token _ text _ => !text.isEmpty
  | missing _ named _ => !named

/-- A leaf as a token. -/
def asToken (l : Leaf) : PlacedToken :=
  ⟨l.text, l.span⟩

theorem token?_eq (l : Leaf) :
    l.token? = if l.isUnprintable then .error (.missingNode l.text l.span.startLine)
      else .ok (if l.isPrinted then some l.asToken else none) := by
  cases l with
  | token kind text span =>
    by_cases h : text = "" <;>
      simp [token?, isUnprintable, isPrinted, asToken, Leaf.text, Leaf.span, h]
  | missing kind named span => cases named <;> rfl

end Leaf

/-- The tokens of some leaves are those of the printed ones, if every leaf can be printed. -/
theorem tokensOf_eq_ok_iff {ls : List Leaf} {ts : List PlacedToken} :
    tokensOf ls = .ok ts ↔
      (∀ l ∈ ls, l.isUnprintable = false) ∧ (ls.filter Leaf.isPrinted).map Leaf.asToken = ts := by
  induction ls generalizing ts with
  | nil => simp [tokensOf]
  | cons l rest ih =>
    rw [tokensOf, Leaf.token?_eq, List.forall_mem_cons, List.filter_cons]
    by_cases hu : l.isUnprintable
    · simp [hu]
    by_cases hp : l.isPrinted
    · cases hr : tokensOf rest with
      | error e =>
        have hno : ¬∀ l ∈ rest, l.isUnprintable = false := fun hall => by
          have hok := ih.2 ⟨hall, rfl⟩
          simp [hr] at hok
        simp [hu, hp, hno]
      | ok us =>
        obtain ⟨hall, rfl⟩ := ih.1 hr
        simp only [hu, hp, Bool.false_eq_true, if_false, if_true, true_and, List.map_cons,
          Except.ok.injEq, iff_and_self]
        exact fun _ => hall
    · simp [hu, hp, ih]

namespace SyntaxNode

/-- The leaves of a node that are printed, in order. -/
def printedLeaves (n : SyntaxNode) : List Leaf :=
  n.yield.filter Leaf.isPrinted

/-- The tokens that a node is printed from. -/
def printedTokens (n : SyntaxNode) : List PlacedToken :=
  n.printedLeaves.map Leaf.asToken

/-- What a node prints as is told by its leaves. -/
theorem print_eq_ok_iff {n : SyntaxNode} {p : Printed} :
    n.print = .ok p ↔
      (∀ l ∈ n.yield, l.isUnprintable = false) ∧ printTokens n.printedTokens = .ok p := by
  rw [print, tokens, leaves_eq_yield, printedTokens, printedLeaves]
  cases h : tokensOf n.yield with
  | error e =>
    have hno : ¬∀ l ∈ n.yield, l.isUnprintable = false := fun hall => by
      have hok := tokensOf_eq_ok_iff.2 ⟨hall, rfl⟩
      simp [h] at hok
    simp [hno]
  | ok ts =>
    obtain ⟨hall, rfl⟩ := tokensOf_eq_ok_iff.1 h
    simp only [iff_and_self]
    exact fun _ => hall

theorem printedTokens_ne_nil {n : SyntaxNode} {p : Printed} (h : n.print = .ok p) :
    n.printedTokens ≠ [] := by
  intro hnil
  have hp := (print_eq_ok_iff.1 h).2
  simp [hnil, printTokens] at hp

/-- A printed text is made from the tokens of the printed leaves. -/
theorem text_eq_layout {n : SyntaxNode} {p : Printed} (h : n.print = .ok p) :
    p.text = layout n.printedTokens := by
  have hp := (print_eq_ok_iff.1 h).2
  obtain ⟨t, rest, hts⟩ := List.exists_cons_of_ne_nil (printedTokens_ne_nil h)
  rw [hts, printTokens, Except.ok.injEq] at hp
  rw [hts, ← hp]

end SyntaxNode

end ScriptCensus
