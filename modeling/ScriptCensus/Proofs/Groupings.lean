import Mathlib.Logic.Relation
import ScriptCensus.Proofs.Fields
import ScriptCensus.Proofs.Positions

/-!
# How children are grouped

The children of a node may stand in one field or in several, in sequences of any depth, with absent
values among them. `SyntaxNode.ungrouped` is the node without all that: its children in order, each in
a field of its own, the names of the fields forgotten, and so at all levels. It has the leaves of the
node (`leaves_ungrouped`) and the functions of the node (`walk_ungrouped`), so that what is printed and
what is reported does not depend on the grouping (`SyntaxNode.grouping_invisible`).

`SyntaxNode.RegroupsTo` is one change of the grouping anywhere in a tree. It leaves the ungrouped node
as it is (`SyntaxNode.RegroupsTo.ungrouped_eq`).
-/

namespace ScriptCensus

mutual

/-- A node with its children in order, each in a field of its own, at all levels. -/
def SyntaxNode.ungrouped : SyntaxNode → SyntaxNode
  | .mk tag? span? fields =>
    .mk tag? span? ((SyntaxNode.fieldsUngrouped fields).map fun v => (SyntaxNode.childrenField, v))

/-- The children in some fields, in order. -/
def SyntaxNode.fieldsUngrouped : List (String × SyntaxValue) → List SyntaxValue
  | [] => []
  | (_, value) :: rest => value.ungrouped ++ SyntaxNode.fieldsUngrouped rest

/-- The children that a value stands for: a node or a leaf is one, a sequence stands for those of its
items, an absent value for none. -/
def SyntaxValue.ungrouped : SyntaxValue → List SyntaxValue
  | .node n => [.node n.ungrouped]
  | .sequence items => SyntaxValue.itemsUngrouped items
  | .leaf l => [.leaf l]
  | .absent => []

/-- The children that some values stand for, in order. -/
def SyntaxValue.itemsUngrouped : List SyntaxValue → List SyntaxValue
  | [] => []
  | value :: rest => value.ungrouped ++ SyntaxValue.itemsUngrouped rest

end

theorem SyntaxNode.fieldsUngrouped_eq (fields : List (String × SyntaxValue)) :
    SyntaxNode.fieldsUngrouped fields = (fields.map (·.2)).flatMap SyntaxValue.ungrouped := by
  induction fields with
  | nil => rfl
  | cons f rest ih => rw [SyntaxNode.fieldsUngrouped, ih, List.map_cons, List.flatMap_cons]

namespace SyntaxValue

theorem ungrouped_sequence (items : List SyntaxValue) :
    (sequence items).ungrouped = items.flatMap ungrouped := by
  rw [ungrouped]
  induction items with
  | nil => rfl
  | cons v rest ih => rw [itemsUngrouped, ih, List.flatMap_cons]

/-- Inside an ungrouped node are the children that the values inside the node stand for. -/
theorem inside_node_ungrouped (n : SyntaxNode) :
    (node n.ungrouped).inside = (node n).inside.flatMap ungrouped := by
  obtain ⟨tag?, span?, fields⟩ := n
  rw [SyntaxNode.ungrouped, SyntaxNode.fieldsUngrouped_eq]
  simp only [inside, SyntaxNode.fields, List.map_map, Function.comp_def, List.map_id']

/-! ## What is printed and reported -/

/-- The children that a value stands for have its leaves. -/
theorem flatMap_yield_ungrouped (v : SyntaxValue) : v.ungrouped.flatMap yield = v.yield := by
  induction v using inside_induction with
  | step v ih =>
    have hinside : (v.inside.flatMap ungrouped).flatMap yield = v.inside.flatMap yield := by
      rw [List.flatMap_assoc]
      exact List.flatMap_congr ih
    cases v with
    | node n =>
      rw [ungrouped, List.flatMap_singleton, yield_eq, inside_node_ungrouped, hinside, yield_eq]
      rfl
    | sequence items => rw [ungrouped_sequence, yield_eq]; exact hinside
    | leaf l => rw [ungrouped, List.flatMap_singleton]
    | absent => rw [ungrouped, yield]; rfl

end SyntaxValue

namespace SyntaxNode

open SyntaxValue

theorem leaves_ungrouped (n : SyntaxNode) : n.ungrouped.leaves = n.leaves := by
  have hyield : ((node n).ungrouped).flatMap SyntaxValue.yield = n.yield := by
    rw [flatMap_yield_ungrouped, SyntaxValue.yield]
  rw [SyntaxValue.ungrouped, List.flatMap_singleton, SyntaxValue.yield] at hyield
  rw [leaves_eq_yield, leaves_eq_yield, hyield]

theorem print_ungrouped (n : SyntaxNode) : n.ungrouped.print = n.print := by
  rw [print, print, tokens, tokens, leaves_ungrouped]

theorem ownOutcome_ungrouped (n : SyntaxNode) : n.ungrouped.ownOutcome = n.ownOutcome := by
  refine ownOutcome_congr ?_ ?_ n.leaves_ungrouped
  · obtain ⟨t, s, fields⟩ := n
    rw [ungrouped, tag?, tag?]
  · obtain ⟨t, s, fields⟩ := n
    rw [ungrouped, span?, span?]

end SyntaxNode

namespace SyntaxValue

/-- The functions in a value are those in the children that it stands for. -/
theorem flatMap_walk_ungrouped (v : SyntaxValue) : v.ungrouped.flatMap walk = v.walk := by
  induction v using inside_induction with
  | step v ih =>
    have hinside : (v.inside.flatMap ungrouped).flatMap walk = v.inside.flatMap walk := by
      rw [List.flatMap_assoc]
      exact List.flatMap_congr ih
    cases v with
    | node n =>
      rw [ungrouped, List.flatMap_singleton, walk_eq, inside_node_ungrouped, hinside, walk_eq]
      simp only [self, List.flatMap_singleton, SyntaxNode.ownOutcome_ungrouped]
    | sequence items => rw [ungrouped_sequence, walk_eq]; exact hinside
    | leaf l => rw [ungrouped, List.flatMap_singleton]
    | absent => rw [ungrouped, walk]; rfl

end SyntaxValue

theorem SyntaxNode.walk_ungrouped (n : SyntaxNode) : n.ungrouped.walk = n.walk := by
  have hwalk := SyntaxValue.flatMap_walk_ungrouped (.node n)
  rwa [SyntaxValue.ungrouped, List.flatMap_singleton, SyntaxValue.walk, SyntaxValue.walk] at hwalk

/-! ## Changes of the grouping -/

/-- Two ways to group the same values: one sequence or the sequences that it is divided into, the
values of a sequence without it, and nothing or an absent value. -/
inductive Regrouping : List SyntaxValue → List SyntaxValue → Prop
  | divided (parts : List (List SyntaxValue)) :
    Regrouping [.sequence parts.flatten] (parts.map .sequence)
  | enclosed (values : List SyntaxValue) : Regrouping values [.sequence values]
  | padded : Regrouping [] [.absent]

/-- The children of a node, or the items of a sequence, grouped in another way at one place. The names
of the fields do not matter. -/
inductive SyntaxValue.Regroups : SyntaxValue → SyntaxValue → Prop
  | node {tag? : Option NodeTag} {span? : Option SourceSpan}
      {fields others : List (String × SyntaxValue)} {front vs ws back : List SyntaxValue}
      (hfields : fields.map (·.2) = front ++ vs ++ back)
      (hothers : others.map (·.2) = front ++ ws ++ back) (h : Regrouping vs ws) :
    Regroups (.node (.mk tag? span? fields)) (.node (.mk tag? span? others))
  | sequence {front vs ws back : List SyntaxValue} (h : Regrouping vs ws) :
    Regroups (.sequence (front ++ vs ++ back)) (.sequence (front ++ ws ++ back))

/-- A value becomes another one by a change of the grouping at some position. -/
def SyntaxValue.RegroupsTo (u u' : SyntaxValue) : Prop :=
  ∃ p v w, u.at? p = some v ∧ v.Regroups w ∧ u' = u.replaceAt w p

theorem Regrouping.flatMap_ungrouped {vs ws : List SyntaxValue} (h : Regrouping vs ws) :
    vs.flatMap SyntaxValue.ungrouped = ws.flatMap SyntaxValue.ungrouped := by
  cases h with
  | divided parts =>
    rw [List.flatMap_singleton, SyntaxValue.ungrouped_sequence, List.flatMap_map,
      ← List.flatMap_id, List.flatMap_assoc]
    simp only [SyntaxValue.ungrouped_sequence, id]
  | enclosed => rw [List.flatMap_singleton, SyntaxValue.ungrouped_sequence]
  | padded => rw [List.flatMap_singleton, SyntaxValue.ungrouped]; rfl

theorem SyntaxValue.Regroups.ungrouped_eq {v w : SyntaxValue} (h : v.Regroups w) :
    v.ungrouped = w.ungrouped := by
  cases h with
  | node hfields hothers h =>
    simp only [SyntaxValue.ungrouped, SyntaxNode.ungrouped, SyntaxNode.fieldsUngrouped_eq, hfields,
      hothers, List.flatMap_append, h.flatMap_ungrouped]
  | sequence h =>
    simp only [SyntaxValue.ungrouped_sequence, List.flatMap_append, h.flatMap_ungrouped]

theorem flatMap_modify {α β : Type} {f : α → α} {g : α → List β} {xs : List α} {k : Nat} {x : α}
    (hk : xs[k]? = some x) (hf : g (f x) = g x) : (xs.modify k f).flatMap g = xs.flatMap g := by
  obtain ⟨hlt, rfl⟩ := List.getElem?_eq_some_iff.1 hk
  have hxs : xs = xs.take k ++ xs[k] :: xs.drop (k + 1) := by
    rw [List.getElem_cons_drop, List.take_append_drop]
  conv => rhs; rw [hxs]
  rw [List.modify_eq_take_cons_drop hlt]
  simp only [List.flatMap_append, List.flatMap_cons, hf]

/-- A value at a position may be replaced by one that stands for the same children. -/
theorem SyntaxValue.ungrouped_replaceAt {u v w : SyntaxValue} {p : Position}
    (hv : u.at? p = some v) (h : w.ungrouped = v.ungrouped) :
    (u.replaceAt w p).ungrouped = u.ungrouped := by
  induction p generalizing u with
  | nil =>
    obtain rfl : u = v := Option.some.inj hv
    exact h
  | cons k p ih =>
    obtain ⟨x, hk, hx⟩ := exists_of_at?_cons hv
    have hinside : (u.replaceAt w (k :: p)).inside.flatMap ungrouped =
        u.inside.flatMap ungrouped := by
      rw [inside_replaceAt]
      exact flatMap_modify hk (ih hx)
    cases u with
    | node n =>
      obtain ⟨tag?, span?, fields⟩ := n
      simp only [replaceAt, inside, SyntaxNode.fields] at hinside
      simp only [replaceAt, ungrouped, SyntaxNode.ungrouped, SyntaxNode.fieldsUngrouped_eq, hinside]
    | sequence items =>
      simp only [replaceAt, inside] at hinside
      rw [replaceAt, ungrouped_sequence, ungrouped_sequence, hinside]
    | leaf l => rfl
    | absent => rfl

theorem SyntaxValue.RegroupsTo.ungrouped_eq {u u' : SyntaxValue} (h : u.RegroupsTo u') :
    u.ungrouped = u'.ungrouped := by
  obtain ⟨p, v, w, hv, hregroups, rfl⟩ := h
  exact (ungrouped_replaceAt hv hregroups.ungrouped_eq.symm).symm

/-! ## Every tree can be ungrouped step by step -/

namespace SyntaxValue

open Relation

variable {v w : SyntaxValue}

theorem Regroups.regroupsTo (h : v.Regroups w) : v.RegroupsTo w :=
  ⟨[], v, w, rfl, h, rfl⟩

/-- A change in an item is a change in the sequence. -/
theorem RegroupsTo.item (front back : List SyntaxValue) (h : v.RegroupsTo w) :
    (sequence (front ++ v :: back)).RegroupsTo (.sequence (front ++ w :: back)) := by
  obtain ⟨p, x, y, hx, hregroups, rfl⟩ := h
  refine ⟨front.length :: p, x, y, ?_, hregroups, ?_⟩
  · rw [at?_cons (w := v) (by simp [inside]), hx]
  · rw [replaceAt, List.modify_eq_take_cons_drop (by simp)]
    simp

/-- A change in the only field is a change in the node. -/
theorem RegroupsTo.field (tag? : Option NodeTag) (span? : Option SourceSpan) (name : String)
    (h : v.RegroupsTo w) :
    (node (.mk tag? span? [(name, v)])).RegroupsTo (.node (.mk tag? span? [(name, w)])) := by
  obtain ⟨p, x, y, hx, hregroups, rfl⟩ := h
  refine ⟨0 :: p, x, y, ?_, hregroups, ?_⟩
  · rw [at?_cons (w := v) (by simp [inside, SyntaxNode.fields]), hx]
  · simp [replaceAt]

/-- What keeps changes keeps changes there and back. -/
theorem eqvGen_congr {f : SyntaxValue → SyntaxValue}
    (hf : ∀ x y, x.RegroupsTo y → (f x).RegroupsTo (f y)) (h : EqvGen RegroupsTo v w) :
    EqvGen RegroupsTo (f v) (f w) := by
  induction h with
  | rel x y h => exact .rel _ _ (hf x y h)
  | refl x => exact .refl _
  | symm x y _ ih => exact .symm _ _ ih
  | trans x y z _ _ hxy hyz => exact .trans _ _ _ hxy hyz

/-- Items may be put into a sequence of their own. -/
theorem eqvGen_enclose (front values back : List SyntaxValue) :
    EqvGen RegroupsTo (sequence (front ++ values ++ back))
      (sequence (front ++ .sequence values :: back)) := by
  have h : (sequence (front ++ values ++ back)).Regroups
      (sequence (front ++ [sequence values] ++ back)) := .sequence (.enclosed values)
  rw [List.append_assoc front [sequence values], List.singleton_append] at h
  exact .rel _ _ h.regroupsTo

/-- If a value can become the values that it stands for, it can do so among other items. -/
theorem eqvGen_replace (front back : List SyntaxValue)
    (h : EqvGen RegroupsTo (sequence [v]) (sequence v.ungrouped)) :
    EqvGen RegroupsTo (sequence (front ++ v :: back)) (sequence (front ++ v.ungrouped ++ back)) := by
  have henclose := eqvGen_enclose front [v] back
  rw [List.append_assoc, List.singleton_append] at henclose
  have hitem := eqvGen_congr (fun _ _ => RegroupsTo.item front back) h
  exact .trans _ _ _ henclose (.trans _ _ _ hitem (.symm _ _ (eqvGen_enclose front v.ungrouped back)))

/-- If each of some values can become the values that it stands for, all can. -/
theorem eqvGen_replace_all (front : List SyntaxValue) {values : List SyntaxValue}
    (h : ∀ v ∈ values, EqvGen RegroupsTo (sequence [v]) (sequence v.ungrouped)) :
    EqvGen RegroupsTo (sequence (front ++ values))
      (sequence (front ++ values.flatMap ungrouped)) := by
  induction values generalizing front with
  | nil => exact .refl _
  | cons v rest ih =>
    obtain ⟨hv, hrest⟩ := List.forall_mem_cons.1 h
    have hall := ih (front ++ v.ungrouped) hrest
    rw [List.append_assoc front v.ungrouped (rest.flatMap ungrouped)] at hall
    rw [List.flatMap_cons]
    exact .trans _ _ _ (eqvGen_replace front rest hv) hall

/-- The values of the fields of a node may be put into one field. -/
theorem eqvGen_oneField (tag? : Option NodeTag) (span? : Option SourceSpan)
    (fields : List (String × SyntaxValue)) (name : String) :
    EqvGen RegroupsTo (node (.mk tag? span? fields))
      (node (.mk tag? span? [(name, .sequence (fields.map (·.2)))])) := by
  have hfields : fields.map (·.2) = [] ++ fields.map (·.2) ++ [] := by simp
  have h : (node (.mk tag? span? fields)).Regroups
      (node (.mk tag? span? [(name, .sequence (fields.map (·.2)))])) :=
    .node hfields rfl (.enclosed _)
  exact .rel _ _ h.regroupsTo

/-- If the values in a node can become the children that they stand for, the node can become the
ungrouped one. -/
theorem eqvGen_node {n : SyntaxNode}
    (h : EqvGen RegroupsTo (sequence (node n).inside)
      (sequence ((node n).inside.flatMap ungrouped))) :
    EqvGen RegroupsTo (node n) (node n.ungrouped) := by
  obtain ⟨tag?, span?, fields⟩ := n
  have hbefore := eqvGen_oneField tag? span? fields SyntaxNode.childrenField
  have hfield := eqvGen_congr
    (fun _ _ => RegroupsTo.field tag? span? SyntaxNode.childrenField) h
  have hafter := eqvGen_oneField tag? span?
    ((SyntaxNode.fieldsUngrouped fields).map fun v => (SyntaxNode.childrenField, v))
    SyntaxNode.childrenField
  simp only [List.map_map, Function.comp_def, List.map_id', SyntaxNode.fieldsUngrouped_eq] at hafter
  rw [SyntaxNode.ungrouped, SyntaxNode.fieldsUngrouped_eq]
  exact .trans _ _ _ hbefore (.trans _ _ _ hfield (.symm _ _ hafter))

/-- A value can become the values that it stands for. -/
theorem eqvGen_ungrouped (v : SyntaxValue) :
    EqvGen RegroupsTo (sequence [v]) (sequence v.ungrouped) := by
  induction v using inside_induction with
  | step v ih =>
    have hinside := eqvGen_replace_all [] ih
    simp only [List.nil_append] at hinside
    cases v with
    | node n => exact eqvGen_congr (fun _ _ => RegroupsTo.item [] []) (eqvGen_node hinside)
    | sequence items =>
      have henclose := eqvGen_enclose [] items []
      simp only [List.nil_append, List.append_nil] at henclose
      rw [ungrouped_sequence]
      exact .trans _ _ _ (.symm _ _ henclose) hinside
    | leaf l => exact .refl _
    | absent =>
      have hpad : (sequence ([] ++ [] ++ [])).Regroups (sequence ([] ++ [absent] ++ [])) :=
        .sequence .padded
      exact .symm _ _ (.rel _ _ hpad.regroupsTo)

end SyntaxValue

namespace SyntaxNode

open Relation SyntaxValue

/-- Two nodes are the same ungrouped if and only if one becomes the other by changes of the grouping,
there and back. -/
theorem ungrouped_eq_iff {n m : SyntaxNode} :
    n.ungrouped = m.ungrouped ↔ EqvGen RegroupsTo (node n) (node m) := by
  have hungrouped : ∀ k : SyntaxNode, EqvGen RegroupsTo (node k) (node k.ungrouped) := fun k =>
    eqvGen_node (eqvGen_replace_all [] fun v _ => eqvGen_ungrouped v)
  constructor
  · intro h
    have hn := hungrouped n
    rw [h] at hn
    exact .trans _ _ _ hn (.symm _ _ (hungrouped m))
  · intro h
    have hvalues : ∀ v w, EqvGen RegroupsTo v w → v.ungrouped = w.ungrouped := by
      intro v w h
      induction h with
      | rel v w h => exact h.ungrouped_eq
      | refl v => rfl
      | symm v w _ ih => exact ih.symm
      | trans u v w _ _ huv hvw => exact huv.trans hvw
    have hnm := hvalues _ _ h
    rw [SyntaxValue.ungrouped, SyntaxValue.ungrouped, List.singleton_inj] at hnm
    exact SyntaxValue.node.inj hnm

/-- How children are grouped has no part in what is printed and reported. Two nodes that are the same
ungrouped print the same, with the same error if they do not print, and have the same functions in any
order. They are the same ungrouped just when one becomes the other by renaming fields, putting
children that follow each other into a sequence, dividing a sequence, or adding an absent value, at
any place and any number of times, forwards or backwards. -/
theorem grouping_invisible (n m : SyntaxNode) :
    (n.ungrouped = m.ungrouped ↔ EqvGen RegroupsTo (node n) (node m)) ∧
    (n.ungrouped = m.ungrouped →
      n.print = m.print ∧ n.walk = m.walk ∧ ∀ order, n.functions order = m.functions order) := by
  refine ⟨ungrouped_eq_iff, fun h => ?_⟩
  have hwalk : n.walk = m.walk := by rw [← walk_ungrouped, h, walk_ungrouped]
  refine ⟨by rw [← print_ungrouped, h, print_ungrouped], hwalk, fun order => ?_⟩
  rw [functions, functions, hwalk]

/-- A function with another one inside, in the fields of the grammar. -/
def arrowInFields : SyntaxNode :=
  let token (kind text : String) (start line column : Nat) : SyntaxValue :=
    .leaf (.token kind text ⟨start, start + text.length, line, line, column⟩)
  .mk (some ⟨"arrow_function", some .arrow⟩) (some ⟨0, 11, 1, 2, 1⟩)
    [("parameter", token "identifier" "x" 0 1 1), ("children", token "=>" "=>" 2 1 3),
     ("body", .node (.mk (some ⟨"arrow_function", some .arrow⟩) (some ⟨5, 11, 2, 2, 1⟩)
        [("parameter", token "identifier" "y" 5 2 1), ("children", token "=>" "=>" 7 2 3),
         ("body", token "identifier" "z" 10 2 6)]))]

/-- The same in sequences inside sequences, with absent values, the inner function in one field. -/
def arrowInGroups : SyntaxNode :=
  let token (kind text : String) (start line column : Nat) : SyntaxValue :=
    .leaf (.token kind text ⟨start, start + text.length, line, line, column⟩)
  .mk (some ⟨"arrow_function", some .arrow⟩) (some ⟨0, 11, 1, 2, 1⟩)
    [("head", .sequence [.absent, .sequence [token "identifier" "x" 0 1 1, .sequence []],
        token "=>" "=>" 2 1 3]),
     ("default", .absent),
     ("tail", .sequence [.sequence [.node (.mk (some ⟨"arrow_function", some .arrow⟩)
        (some ⟨5, 11, 2, 2, 1⟩)
        [("all", .sequence [token "identifier" "y" 5 2 1, token "=>" "=>" 7 2 3, .absent,
           .sequence [token "identifier" "z" 10 2 6]])])]])]

/-- Both functions are found in either grouping, with the same texts. -/
theorem grouping_invisible_arrows :
    arrowInGroups.ungrouped = arrowInFields.ungrouped ∧
    arrowInGroups.print = arrowInFields.print ∧
    (arrowInGroups.functions .traversal).value =
      [⟨"x =>\ny => z", 1, 2, .arrow⟩, ⟨"y => z", 2, 2, .arrow⟩] := by
  have hungrouped : arrowInGroups.ungrouped = arrowInFields.ungrouped := by rfl
  obtain ⟨hprint, -, hfunctions⟩ :=
    (grouping_invisible arrowInGroups arrowInFields).2 hungrouped
  refine ⟨hungrouped, hprint, ?_⟩
  rw [hfunctions]
  rfl

end SyntaxNode

end ScriptCensus
