import Mathlib.Data.List.Chain
import ScriptCensus.Concrete.Conversion

/-!
# Runs of one field

`foldFields` puts children of one field that follow each other into a sequence. Read backwards
(`unfoldFields`), a sequence stands for its items, each under the name of the field. For children that
are leaves or nodes, folding loses nothing (`unfoldFields_foldFields`), and the folded fields have one
form only (`IsFolded`): no two neighbours share a name, and a sequence has at least two items. There is
one folded form for each list of children (`foldFields_unfoldFields`).

A further child changes the last field or adds one (`pushField_same`, `pushField_fresh`), so that all
proofs go from the end of the fields.
-/

namespace ScriptCensus

namespace SyntaxValue

/-- Whether a value is a single child: a leaf or a node. -/
def isChild : SyntaxValue → Bool
  | .node _ => true
  | .leaf _ => true
  | .sequence _ => false
  | .absent => false

/-- The children that a value of a field stands for: the items of a sequence, or the value itself. -/
def parts : SyntaxValue → List SyntaxValue
  | .sequence items => items
  | single => [single]

/-- A value as folding leaves it: a child, or a sequence of at least two children. -/
def IsFolded : SyntaxValue → Prop
  | .sequence items => 2 ≤ items.length ∧ ∀ v ∈ items, v.isChild
  | single => single.isChild

theorem parts_of_isChild {v : SyntaxValue} (h : v.isChild) : v.parts = [v] := by
  cases v with
  | node n => rfl
  | leaf l => rfl
  | sequence items => simp [isChild] at h
  | absent => rfl

theorem isFolded_of_isChild {v : SyntaxValue} (h : v.isChild) : v.IsFolded := by
  cases v with
  | node n => exact h
  | leaf l => exact h
  | sequence items => simp [isChild] at h
  | absent => exact h

/-- A folded value is a child, or a sequence of two children and further ones. -/
theorem IsFolded.cases {v : SyntaxValue} (h : v.IsFolded) :
    v.isChild ∨ ∃ x y rest, v = .sequence (x :: y :: rest) ∧ ∀ w ∈ x :: y :: rest, w.isChild := by
  cases v with
  | node n => exact Or.inl h
  | leaf l => exact Or.inl h
  | absent => exact Or.inl h
  | sequence items =>
    obtain ⟨hlength, hitems⟩ := h
    match items, hlength with
    | x :: y :: rest, _ => exact Or.inr ⟨x, y, rest, rfl, hitems⟩

/-- One more child makes a folded value a sequence. -/
theorem IsFolded.sequence_concat {v w : SyntaxValue} (h : v.IsFolded) (hw : w.isChild) :
    (SyntaxValue.sequence (v.parts ++ [w])).IsFolded := by
  rcases h.cases with hv | ⟨x, y, rest, rfl, hitems⟩
  · rw [parts_of_isChild hv]
    exact ⟨Nat.le_refl 2, by simp [hv, hw]⟩
  · refine ⟨by simp [parts], ?_⟩
    simp only [parts, List.forall_mem_append]
    exact ⟨hitems, by simp [hw]⟩

end SyntaxValue

/-- Fields as folding leaves them: no two neighbours have the same name, and each value is a child or a
sequence of at least two children. -/
structure IsFolded (fields : List (String × SyntaxValue)) : Prop where
  neighbours : (fields.map Prod.fst).IsChain (· ≠ ·)
  values : ∀ f ∈ fields, f.2.IsFolded

/-- The children in some fields, each under the name of its field. -/
def unfoldFields (fields : List (String × SyntaxValue)) : List (String × SyntaxValue) :=
  fields.flatMap fun f => f.2.parts.map fun v => (f.1, v)

/-! ## One more child -/

variable {fields children : List (String × SyntaxValue)} {child : String × SyntaxValue}

/-- A child under the name of the last field becomes the last item there. -/
theorem pushField_same (fields : List (String × SyntaxValue)) (name : String)
    (value v : SyntaxValue) :
    pushField (fields ++ [(name, value)]) (name, v) =
      fields ++ [(name, .sequence (value.parts ++ [v]))] := by
  induction fields with
  | nil => cases value <;> simp [pushField, SyntaxValue.parts]
  | cons f rest ih =>
    cases rest with
    | nil => simpa [pushField] using ih
    | cons g rest => simpa [pushField] using ih

/-- A child under a name that the last field does not have becomes a field of its own. -/
theorem pushField_fresh (h : ∀ f ∈ fields.getLast?, f.1 ≠ child.1) :
    pushField fields child = fields ++ [child] := by
  induction fields with
  | nil => rfl
  | cons f rest ih =>
    cases rest with
    | nil =>
      have hne : f.1 ≠ child.1 := by simpa using h
      simp [pushField, hne]
    | cons g rest =>
      rw [pushField, ih (by simpa using h)]
      rfl

/-- What a further child does to the fields: it becomes the last item of the last field, or a field
of its own. -/
theorem pushField_cases (fields : List (String × SyntaxValue)) (child : String × SyntaxValue) :
    (∃ front value, fields = front ++ [(child.1, value)] ∧
      pushField fields child = front ++ [(child.1, .sequence (value.parts ++ [child.2]))]) ∨
    (∀ f ∈ fields.getLast?, f.1 ≠ child.1) ∧ pushField fields child = fields ++ [child] := by
  rcases List.eq_nil_or_concat' fields with rfl | ⟨front, ⟨name, value⟩, rfl⟩
  · exact Or.inr ⟨by simp, rfl⟩
  by_cases hname : name = child.1
  · subst hname
    exact Or.inl ⟨front, value, rfl, pushField_same front child.1 value child.2⟩
  · have hlast : ∀ f ∈ (front ++ [(name, value)]).getLast?, f.1 ≠ child.1 := by simpa using hname
    exact Or.inr ⟨hlast, pushField_fresh hlast⟩

theorem unfoldFields_append (fields further : List (String × SyntaxValue)) :
    unfoldFields (fields ++ further) = unfoldFields fields ++ unfoldFields further :=
  List.flatMap_append

theorem unfoldFields_singleton (name : String) (value : SyntaxValue) :
    unfoldFields [(name, value)] = value.parts.map fun v => (name, v) := by
  simp [unfoldFields]

/-- A further child comes after the children before it. -/
theorem unfoldFields_pushField (fields : List (String × SyntaxValue)) (h : child.2.isChild) :
    unfoldFields (pushField fields child) = unfoldFields fields ++ [child] := by
  rcases pushField_cases fields child with ⟨front, value, rfl, hpush⟩ | ⟨-, hpush⟩
  · rw [hpush, unfoldFields_append, unfoldFields_append, unfoldFields_singleton,
      unfoldFields_singleton, List.append_assoc]
    simp [SyntaxValue.parts]
  · rw [hpush, unfoldFields_append, unfoldFields_singleton, SyntaxValue.parts_of_isChild h]
    rfl

theorem isFolded_nil : IsFolded [] :=
  ⟨List.isChain_nil, by simp⟩

/-- A further child leaves folded fields folded. -/
theorem IsFolded.pushField (hfields : IsFolded fields) (h : child.2.isChild) :
    IsFolded (pushField fields child) := by
  obtain ⟨hneighbours, hvalues⟩ := hfields
  rcases pushField_cases fields child with ⟨front, value, rfl, hpush⟩ | ⟨hlast, hpush⟩
  · rw [List.forall_mem_append] at hvalues
    rw [hpush]
    refine ⟨by simpa using hneighbours, List.forall_mem_append.2 ⟨hvalues.1, ?_⟩⟩
    have hvalue : value.IsFolded := hvalues.2 (child.1, value) (by simp)
    simpa using hvalue.sequence_concat h
  · rw [hpush]
    refine ⟨?_, List.forall_mem_append.2 ⟨hvalues, by simpa using SyntaxValue.isFolded_of_isChild h⟩⟩
    rw [List.map_append, List.isChain_append]
    refine ⟨hneighbours, List.isChain_singleton _, ?_⟩
    simpa using hlast

/-! ## All children -/

/-- A property of fields that a further child keeps holds after all children. -/
theorem foldl_pushField_induction {motive : List (String × SyntaxValue) → Prop}
    (step : ∀ fields child, child.2.isChild → motive fields → motive (pushField fields child))
    (start : motive fields) (h : ∀ c ∈ children, c.2.isChild) :
    motive (children.foldl pushField fields) := by
  induction children generalizing fields with
  | nil => exact start
  | cons c rest ih =>
    obtain ⟨hc, hrest⟩ := List.forall_mem_cons.1 h
    exact ih (step fields c hc start) hrest

theorem isFolded_foldFields (h : ∀ c ∈ children, c.2.isChild) : IsFolded (foldFields children) :=
  foldl_pushField_induction (fun _ _ hchild hfields => hfields.pushField hchild) isFolded_nil h

theorem unfoldFields_foldl (fields : List (String × SyntaxValue))
    (h : ∀ c ∈ children, c.2.isChild) :
    unfoldFields (children.foldl pushField fields) = unfoldFields fields ++ children := by
  induction children generalizing fields with
  | nil => simp
  | cons c rest ih =>
    obtain ⟨hc, hrest⟩ := List.forall_mem_cons.1 h
    rw [List.foldl_cons, ih _ hrest, unfoldFields_pushField fields hc, List.append_assoc,
      List.singleton_append]

/-- Folding loses no child, no name and no place. -/
theorem unfoldFields_foldFields (h : ∀ c ∈ children, c.2.isChild) :
    unfoldFields (foldFields children) = children := by
  rw [foldFields, unfoldFields_foldl [] h]
  rfl

/-! ## What holds of the children -/

/-- What holds of the children holds of the fields, if it holds of a sequence of values of which it
holds. -/
theorem forall_mem_foldFields {motive : SyntaxValue → Prop}
    (hsequence : ∀ items, (∀ v ∈ items, motive v) → motive (.sequence items))
    (h : ∀ c ∈ children, c.2.isChild) (hall : ∀ c ∈ children, motive c.2) :
    ∀ f ∈ foldFields children, motive f.2 := by
  intro f hf
  have hparts : ∀ v ∈ f.2.parts, motive v := by
    intro v hv
    have hmem : (f.1, v) ∈ unfoldFields (foldFields children) :=
      List.mem_flatMap.2 ⟨f, hf, List.mem_map_of_mem hv⟩
    rw [unfoldFields_foldFields h] at hmem
    exact hall _ hmem
  rcases ((isFolded_foldFields h).values f hf).cases with hchild | ⟨x, y, rest, hvalue, -⟩
  · rw [SyntaxValue.parts_of_isChild hchild] at hparts
    exact hparts f.2 (by simp)
  · rw [hvalue] at hparts ⊢
    exact hsequence _ hparts

/-! ## One folded form -/

/-- Further children under the name of a sequence are added to it. -/
theorem foldl_pushField_sequence (fields : List (String × SyntaxValue)) (name : String)
    (items vs : List SyntaxValue) :
    (vs.map fun v => (name, v)).foldl pushField (fields ++ [(name, .sequence items)]) =
      fields ++ [(name, .sequence (items ++ vs))] := by
  induction vs generalizing items with
  | nil => simp
  | cons v rest ih =>
    rw [List.map_cons, List.foldl_cons, pushField_same, SyntaxValue.parts, ih, List.append_assoc,
      List.singleton_append]

/-- The children that a folded value stands for make this value again. -/
theorem foldl_pushField_parts {name : String} {value : SyntaxValue}
    (hlast : ∀ f ∈ fields.getLast?, f.1 ≠ name) (hvalue : value.IsFolded) :
    (value.parts.map fun v => (name, v)).foldl pushField fields = fields ++ [(name, value)] := by
  rcases hvalue.cases with hchild | ⟨x, y, rest, rfl, hitems⟩
  · rw [SyntaxValue.parts_of_isChild hchild]
    exact pushField_fresh hlast
  · have hx : x.isChild := hitems x (by simp)
    rw [SyntaxValue.parts, List.map_cons, List.foldl_cons, pushField_fresh hlast, List.map_cons,
      List.foldl_cons, pushField_same, foldl_pushField_sequence, SyntaxValue.parts_of_isChild hx]
    rfl

/-- Fields that are folded come from the children in them. -/
theorem foldFields_unfoldFields (h : IsFolded fields) : foldFields (unfoldFields fields) = fields := by
  induction fields using List.reverseRecOn with
  | nil => rfl
  | append_singleton front f ih =>
    obtain ⟨hneighbours, hvalues⟩ := h
    rw [List.map_append, List.isChain_append] at hneighbours
    rw [List.forall_mem_append] at hvalues
    obtain ⟨hfront, -, hlast⟩ := hneighbours
    have hih : (unfoldFields front).foldl pushField [] = front := ih ⟨hfront, hvalues.1⟩
    rw [foldFields, unfoldFields_append, List.foldl_append, hih, unfoldFields_singleton]
    exact foldl_pushField_parts (by simpa using hlast) (hvalues.2 f (by simp))

/-- Folding is lossless and gives the only folded form. When children are leaves or nodes, no two
neighbours of the folded fields have the same name, each sequence has at least two items, which are
leaves or nodes, and written out again the fields are the children in order. No other folded fields
have these children, and no other children have these fields. -/
theorem foldFields_canonical (h : ∀ c ∈ children, c.2.isChild) :
    IsFolded (foldFields children) ∧ unfoldFields (foldFields children) = children ∧
    (∀ fields, IsFolded fields → unfoldFields fields = children → fields = foldFields children) ∧
    ∀ others, (∀ c ∈ others, c.2.isChild) → foldFields others = foldFields children →
      others = children := by
  refine ⟨isFolded_foldFields h, unfoldFields_foldFields h, fun fields hfields heq => ?_,
    fun others hothers heq => ?_⟩
  · rw [← heq, foldFields_unfoldFields hfields]
  · rw [← unfoldFields_foldFields hothers, heq, unfoldFields_foldFields h]

/-- The children of a call with two type arguments, a lost parenthesis among the arguments, and a
field that occurs again after another one. -/
def tangledChildren : List (String × SyntaxValue) :=
  let token (text : String) (start : Nat) : SyntaxValue :=
    .leaf (.token text text ⟨start, start + text.length, 1, 1, start + 1⟩)
  let lost : SyntaxValue := .node (.mk none (some ⟨4, 5, 1, 1, 5⟩) [("children", token ")" 4)])
  [("argument", token "a" 0), ("argument", token "b" 1), ("argument", token "c" 2),
    ("children", token "," 3), ("children", lost), ("argument", token "d" 5),
    ("type", token "e" 6)]

/-- A run of three, a run of two that ends in a node, and two fields of one child each. -/
theorem foldFields_canonical_tangled :
    (∀ c ∈ tangledChildren, c.2.isChild) ∧
    (foldFields tangledChildren).map (fun f => (f.1, f.2.parts.length)) =
      [("argument", 3), ("children", 2), ("argument", 1), ("type", 1)] ∧
    IsFolded (foldFields tangledChildren) ∧
    unfoldFields (foldFields tangledChildren) = tangledChildren := by
  have hchildren : ∀ c ∈ tangledChildren, c.2.isChild := by
    simp [tangledChildren, SyntaxValue.isChild]
  have hcanonical := foldFields_canonical hchildren
  exact ⟨hchildren, rfl, hcanonical.1, hcanonical.2.1⟩

end ScriptCensus
