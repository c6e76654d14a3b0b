import ScriptCensus.Concrete.Conversion
import ScriptCensus.Proofs.Positions

/-!
# Folding fields

`foldFields` puts children of one field that follow each other into a sequence. A function that reads a
sequence as its items does not see how children are folded (`flatMap_foldFields`). Neither the leaves
of the children (`fieldLeavesBefore_foldFields`) nor what comes of the functions in them
(`walkFields_foldFields`) depends on it.
-/

namespace ScriptCensus

section flatMap

variable {β : Type} {g : SyntaxValue → List β}

/-- What the function gives for a further child is added at the end. -/
theorem flatMap_pushField (hg : ∀ items, g (.sequence items) = items.flatMap g)
    (fields : List (String × SyntaxValue)) (child : String × SyntaxValue) :
    (pushField fields child).flatMap (fun f => g f.2) =
      fields.flatMap (fun f => g f.2) ++ g child.2 := by
  fun_induction pushField fields child with
  | case1 => simp
  | case2 items => simp [hg]
  | case3 single _ => simp [hg]
  | case4 => simp
  | case5 first second rest ih =>
    rw [List.flatMap_cons, ih, List.flatMap_cons (x := first), List.append_assoc]

/-- What a function that reads a sequence as its items gives for the folded fields, it gives for the
children. -/
theorem flatMap_foldFields (hg : ∀ items, g (.sequence items) = items.flatMap g)
    (children : List (String × SyntaxValue)) :
    (foldFields children).flatMap (fun f => g f.2) = children.flatMap fun c => g c.2 := by
  have hfoldl : ∀ fields, (children.foldl pushField fields).flatMap (fun f => g f.2) =
      fields.flatMap (fun f => g f.2) ++ children.flatMap fun c => g c.2 := by
    induction children with
    | nil => simp
    | cons child rest ih =>
      intro fields
      rw [List.foldl_cons, ih, flatMap_pushField hg, List.flatMap_cons, List.append_assoc]
  exact hfoldl []

end flatMap

namespace SyntaxValue

theorem itemLeavesBefore_leaves (further : List Leaf) :
    ∀ ls : List Leaf, itemLeavesBefore further (ls.map .leaf) = ls ++ further
  | [] => rfl
  | l :: ls => by
    rw [List.map_cons, itemLeavesBefore, itemLeavesBefore_leaves further ls, leavesBefore,
      List.cons_append]

theorem walkItems_leaves : ∀ ls : List Leaf, walkItems (ls.map .leaf) = []
  | [] => rfl
  | l :: ls => by rw [List.map_cons, walkItems, walkItems_leaves ls, walk, List.nil_append]

end SyntaxValue

namespace SyntaxNode

open SyntaxValue

theorem fieldLeavesBefore_foldFields (further : List Leaf)
    (children : List (String × SyntaxValue)) :
    fieldLeavesBefore further (foldFields children) = fieldLeavesBefore further children := by
  have hsequence : ∀ items, (SyntaxValue.sequence items).yield = items.flatMap SyntaxValue.yield :=
    fun items => by rw [SyntaxValue.yield, itemsYield_eq_flatMap]
  rw [fieldLeavesBefore_eq, fieldLeavesBefore_eq, fieldsYield_eq_flatMap, fieldsYield_eq_flatMap,
    flatMap_foldFields hsequence]

theorem walkFields_foldFields (children : List (String × SyntaxValue)) :
    walkFields (foldFields children) = walkFields children := by
  have hsequence : ∀ items, (SyntaxValue.sequence items).walk = items.flatMap SyntaxValue.walk :=
    fun items => by rw [SyntaxValue.walk, walkItems_eq_flatMap]
  rw [walkFields_eq_flatMap, walkFields_eq_flatMap, flatMap_foldFields hsequence]

/-- What comes of a node is told by its tag, its span and its leaves. -/
theorem ownOutcome_congr {n m : SyntaxNode} (ht : n.tag? = m.tag?) (hs : n.span? = m.span?)
    (hl : n.leaves = m.leaves) : n.ownOutcome = m.ownOutcome := by
  simp only [ownOutcome, functionKind?, capture, print, tokens, ht, hs, hl]

end SyntaxNode

end ScriptCensus
