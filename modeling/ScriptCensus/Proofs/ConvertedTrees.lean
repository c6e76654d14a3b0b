import ScriptCensus.Proofs.FieldRuns
import ScriptCensus.Proofs.NodePlaces
import ScriptCensus.Proofs.Positions

/-!
# The shape of converted trees

A node of a concrete tree that lies less deep than the limit becomes a node with the same structure,
and one that lies at the limit a node with its tokens alone (`ConcreteTree.standIn`). In this way the
nodes of the generic tree are, in order, those of the concrete tree down to the limit
(`nodes_standIn`), so that the ones without a tag are told by the concrete tree (`untaggedNodes`), and
no path meets more nodes than the limit allows (`nodesTo_standIn_le`).

All that stands inside a converted node has its span from a node inside the concrete one
(`everywhere_liesIn_standIn`). If the children of each concrete node lie within it, spans contain each
other the same way (`IsNested.contains`).

The proofs go by the number of levels that are left above the limit. At each level the children are
folded into fields, which `FieldRuns` sees through.
-/

namespace ScriptCensus

namespace SyntaxValue

/-! ## Values by position -/

/-- What holds of all values at all positions. -/
def Everywhere (motive : SyntaxValue → Prop) (v : SyntaxValue) : Prop :=
  ∀ p w, v.at? p = some w → motive w

theorem everywhere_iff {motive : SyntaxValue → Prop} {v : SyntaxValue} :
    v.Everywhere motive ↔ motive v ∧ ∀ w ∈ v.inside, w.Everywhere motive := by
  constructor
  · intro h
    refine ⟨h [] v rfl, fun w hw p u hu => ?_⟩
    obtain ⟨k, hk⟩ := List.mem_iff_getElem?.1 hw
    exact h (k :: p) u (by rw [at?_cons hk, hu])
  · rintro ⟨hv, hinside⟩ p w hw
    cases p with
    | nil =>
      obtain rfl : v = w := Option.some.inj hw
      exact hv
    | cons k p =>
      obtain ⟨u, hk, hu⟩ := exists_of_at?_cons hw
      exact hinside u (List.mem_of_getElem? hk) p w hu

/-- Where a value lies, if it is a node or a leaf. -/
def span? : SyntaxValue → Option SourceSpan
  | .node n => n.span?
  | .leaf l => some l.span
  | .sequence _ => none
  | .absent => none

/-- Whether a value counts as a node on a path. -/
def ownCount : SyntaxValue → Nat
  | .node _ => 1
  | _ => 0

/-- The number of nodes on the way to a position, both ends included. -/
def nodesTo (v : SyntaxValue) : Position → Nat
  | [] => v.ownCount
  | k :: p =>
    v.ownCount +
      match v.inside[k]? with
      | some w => w.nodesTo p
      | none => 0

theorem nodesTo_le {v : SyntaxValue} {b : Nat} (h : ∀ w ∈ v.inside, ∀ p, w.nodesTo p ≤ b)
    (p : Position) : v.nodesTo p ≤ v.ownCount + b := by
  cases p with
  | nil => exact Nat.le_add_right _ _
  | cons k p =>
    rw [nodesTo]
    cases hk : v.inside[k]? with
    | none => exact Nat.add_le_add_left (Nat.zero_le b) _
    | some w => exact Nat.add_le_add_left (h w (List.mem_of_getElem? hk) p) _

/-- The nodes of a value, each one before those inside it. -/
def nodes (v : SyntaxValue) : List SyntaxNode :=
  v.placed.map Prod.snd

theorem mem_nodes {v : SyntaxValue} {n : SyntaxNode} :
    n ∈ v.nodes ↔ ∃ p, v.at? p = some (.node n) := by
  simp only [nodes, List.mem_map, Prod.exists, exists_eq_right, mem_placed]

theorem nodes_eq (v : SyntaxValue) :
    v.nodes = v.self.map Prod.snd ++ v.inside.flatMap nodes := by
  have hitems : ∀ (items : List SyntaxValue) (k : Nat),
      (placedItems k items).map Prod.snd = items.flatMap nodes := by
    intro items
    induction items with
    | nil => exact fun _ => rfl
    | cons w rest ih =>
      intro k
      rw [placedItems, List.map_append, ih, List.flatMap_cons, placedBelow, List.map_map]
      rfl
  rw [nodes, placed_eq, List.map_append, hitems]

theorem nodes_leaves (ls : List Leaf) : (ls.map SyntaxValue.leaf).flatMap nodes = [] := by
  rw [List.flatMap_map, List.flatMap_eq_nil_iff]
  exact fun l _ => rfl

end SyntaxValue

/-! ## Lines and columns in words -/

namespace ConcreteInfo

/-- Where a node lies, with rows and columns counted from one in words of 32 bits. What does not fit is
cut off. -/
def wordSpan (i : ConcreteInfo) : SourceSpan :=
  ⟨i.startByte, i.endByte, (i.startRow.toUInt32 + 1).toNat, (i.endRow.toUInt32 + 1).toNat,
    (i.startColumn.toUInt32 + 1).toNat⟩

/-- The rows and columns of a node fit words of 32 bits, with one to spare. -/
structure FitsWords (i : ConcreteInfo) : Prop where
  startRow : i.startRow < UInt32.size - 1
  endRow : i.endRow < UInt32.size - 1
  startColumn : i.startColumn < UInt32.size - 1

instance (i : ConcreteInfo) : Decidable i.FitsWords :=
  decidable_of_iff
    (i.startRow < UInt32.size - 1 ∧ i.endRow < UInt32.size - 1 ∧ i.startColumn < UInt32.size - 1)
    ⟨fun h => ⟨h.1, h.2.1, h.2.2⟩, fun h => ⟨h.1, h.2, h.3⟩⟩

theorem toNat_word_add_one {n : Nat} (h : n < UInt32.size - 1) : (n.toUInt32 + 1).toNat = n + 1 := by
  rw [UInt32.size] at h
  rw [UInt32.toNat_add, Nat.toUInt32_eq, UInt32.toNat_ofNat', UInt32.toNat_one]
  omega

/-- Rows and columns that fit are counted in full. -/
theorem FitsWords.wordSpan_eq {i : ConcreteInfo} (h : i.FitsWords) : i.wordSpan = i.span := by
  rw [wordSpan, span, toNat_word_add_one h.startRow, toNat_word_add_one h.endRow,
    toNat_word_add_one h.startColumn]

end ConcreteInfo

theorem SourceSpan.contains_trans {a b c : SourceSpan} (hab : a.contains b) (hbc : b.contains c) :
    a.contains c := by
  simp only [contains, Bool.and_eq_true, decide_eq_true_eq] at *
  omega

namespace ConcreteTree

/-! ## What a node becomes -/

section standIn

variable (limit : Nat) (source : ByteArray)

/-- What a node becomes at a depth: a node with the same structure or, at the limit, one with its
tokens alone. -/
def standIn (depth : Nat) (t : ConcreteTree) : SyntaxNode :=
  if limit ≤ depth then flatten source t else convertNode limit source depth t

variable {limit source}

theorem standIn_at_limit (t : ConcreteTree) : standIn limit source limit t = flatten source t :=
  if_pos (Nat.le_refl limit)

theorem standIn_above {depth : Nat} (h : depth < limit) (t : ConcreteTree) :
    standIn limit source depth t = convertNode limit source depth t :=
  if_neg (Nat.not_le.2 h)

theorem convertValue_eq (depth : Nat) (t : ConcreteTree) :
    convertValue limit source depth t =
      match leaf? source t with
      | some l => .leaf l
      | none => .node (standIn limit source depth t) := by
  obtain ⟨i, cs⟩ := t
  rw [convertValue, standIn]
  cases leaf? source (node i cs) with
  | some l => rfl
  | none => exact (apply_ite SyntaxValue.node _ _ _).symm

theorem isChild_convertValue (depth : Nat) (t : ConcreteTree) :
    (convertValue limit source depth t).isChild := by
  rw [convertValue_eq]
  cases leaf? source t <;> rfl

theorem convertChildren_eq (depth : Nat) (cs : List (Option String × ConcreteTree)) :
    convertChildren limit source depth cs =
      cs.map fun c =>
        (c.1.getD SyntaxNode.childrenField, convertValue limit source depth c.2) := by
  induction cs with
  | nil => rw [convertChildren, List.map_nil]
  | cons c rest ih => rw [convertChildren, ih, List.map_cons]

theorem isChild_convertChildren (depth : Nat) (cs : List (Option String × ConcreteTree)) :
    ∀ c ∈ convertChildren limit source depth cs, c.2.isChild := by
  rw [convertChildren_eq, List.forall_mem_map]
  exact fun c _ => isChild_convertValue depth c.2

theorem inside_convertNode (depth : Nat) (t : ConcreteTree) :
    (SyntaxValue.node (convertNode limit source depth t)).inside =
      (foldFields (convertChildren limit source (depth + 1) t.children)).map (·.2) := by
  obtain ⟨i, cs⟩ := t
  rw [convertNode]
  rfl

theorem inside_flatten (t : ConcreteTree) :
    (SyntaxValue.node (flatten source t)).inside =
      [.sequence ((t.picked (leaf? source)).map .leaf)] := by
  rw [flatten, TreeCursor.gather_eq_picked]
  rfl

/-- What holds of the children of a node, each as it is converted, holds of all that is directly
inside the converted node, if it holds of a sequence of values of which it holds. -/
theorem forall_mem_inside_convertNode {motive : SyntaxValue → Prop} {depth : Nat}
    {t : ConcreteTree}
    (hsequence : ∀ items, (∀ v ∈ items, motive v) → motive (.sequence items))
    (h : ∀ c ∈ t.children, motive (convertValue limit source (depth + 1) c.2)) :
    ∀ w ∈ (SyntaxValue.node (convertNode limit source depth t)).inside, motive w := by
  rw [inside_convertNode, List.forall_mem_map]
  refine forall_mem_foldFields hsequence (isChild_convertChildren _ _) ?_
  rw [convertChildren_eq, List.forall_mem_map]
  exact h

theorem span?_standIn (depth : Nat) (t : ConcreteTree) :
    (standIn limit source depth t).span? = some t.info.span := by
  obtain ⟨i, cs⟩ := t
  rw [standIn, convertNode]
  split <;> rfl

/-- A node is left without a tag if it holds what does not fit the grammar or only tokens. -/
theorem isPlaceholder_standIn (depth : Nat) (t : ConcreteTree) :
    (standIn limit source depth t).isPlaceholder = (t.info.isError || decide (limit ≤ depth)) := by
  obtain ⟨i, cs⟩ := t
  by_cases hl : limit ≤ depth
  · simp [standIn, hl, flatten, SyntaxNode.isPlaceholder, SyntaxNode.tag?]
  · cases he : i.isError <;>
      simp [standIn, hl, convertNode, SyntaxNode.isPlaceholder, SyntaxNode.tag?, info, he]

/-! ## Nodes on a path -/

/-- A path inside a converted node meets no more nodes than there are levels down to the limit. -/
theorem nodesTo_standIn_le {d depth : Nat} (h : depth + d = limit) (t : ConcreteTree)
    (p : SyntaxValue.Position) :
    (SyntaxValue.node (standIn limit source depth t)).nodesTo p ≤ d + 1 := by
  have hsequence : ∀ (b : Nat) (items : List SyntaxValue), (∀ v ∈ items, ∀ q, v.nodesTo q ≤ b) →
      ∀ q, (SyntaxValue.sequence items).nodesTo q ≤ b := fun b items hitems q => by
    simpa [SyntaxValue.ownCount] using SyntaxValue.nodesTo_le (v := .sequence items) hitems q
  have hleaf : ∀ (l : Leaf) (q : SyntaxValue.Position), (SyntaxValue.leaf l).nodesTo q = 0 := by
    intro l q
    cases q <;> rfl
  rw [Nat.add_comm d 1]
  refine SyntaxValue.nodesTo_le ?_ p
  induction d generalizing depth t with
  | zero =>
    obtain rfl : depth = limit := h
    rw [standIn_at_limit, inside_flatten, List.forall_mem_singleton]
    refine hsequence 0 _ ?_
    rw [List.forall_mem_map]
    exact fun l _ q => Nat.le_of_eq (hleaf l q)
  | succ d ih =>
    rw [standIn_above (by omega)]
    refine forall_mem_inside_convertNode (hsequence (d + 1)) fun c _ q => ?_
    rw [convertValue_eq]
    cases leaf? source c.2 with
    | some l => simp [hleaf]
    | none =>
      rw [Nat.add_comm d 1]
      exact SyntaxValue.nodesTo_le (ih (by omega) c.2) q

/-! ## Nodes in order -/

/-- The nodes inside a converted node are what the nodes down to the limit become, in order. -/
theorem nodes_standIn {d depth : Nat} (h : depth + d = limit) (t : ConcreteTree) :
    (SyntaxValue.node (standIn limit source depth t)).nodes =
      (t.nodesDownTo d).map fun x => standIn limit source (depth + x.1.length) x.2 := by
  induction d generalizing depth t with
  | zero =>
    obtain rfl : depth = limit := h
    rw [SyntaxValue.nodes_eq, standIn_at_limit, inside_flatten, List.flatMap_singleton,
      SyntaxValue.nodes_eq, SyntaxValue.inside, SyntaxValue.nodes_leaves, nodesDownTo,
      List.map_singleton, List.length_nil, Nat.add_zero, standIn_at_limit]
    rfl
  | succ d ih =>
    have hchild : ∀ c : Option String × ConcreteTree,
        (convertValue limit source (depth + 1) c.2).nodes =
          (if c.2.isLeaf then [] else c.2.nodesDownTo d).map fun x =>
            standIn limit source (depth + 1 + x.1.length) x.2 := by
      intro c
      rw [convertValue_eq, ← leaf?_isSome source]
      cases leaf? source c.2 with
      | some l => rfl
      | none => exact ih (by omega) c.2
    have hsequence : ∀ items : List SyntaxValue,
        (SyntaxValue.sequence items).nodes = items.flatMap SyntaxValue.nodes := fun items => by
      rw [SyntaxValue.nodes_eq]
      rfl
    have hplaces : ((placesIn t.children fun c => if c.isLeaf then [] else c.nodesDownTo d).map
        fun x => standIn limit source (depth + x.1.length) x.2) =
        t.children.flatMap fun c => (if c.2.isLeaf then [] else c.2.nodesDownTo d).map fun x =>
          standIn limit source (depth + 1 + x.1.length) x.2 :=
      map_placesIn fun k x => by rw [List.length_cons, Nat.add_right_comm, Nat.add_assoc]
    rw [SyntaxValue.nodes_eq, standIn_above (by omega), inside_convertNode, List.flatMap_map,
      flatMap_foldFields hsequence, convertChildren_eq,
      List.flatMap_map, nodesDownTo, List.map_cons, hplaces, List.length_nil, Nat.add_zero,
      standIn_above (by omega)]
    simp only [hchild]
    rfl

/-! ## Spans -/

/-- A value is no absent one, and a node or a leaf lies where some node of the tree does. -/
def LiesIn (t : ConcreteTree) : SyntaxValue → Prop
  | .node n => ∃ u ∈ t.subtrees, n.span? = some u.info.span
  | .leaf l => ∃ u ∈ t.subtrees, l.span = u.info.span
  | .sequence _ => True
  | .absent => False

theorem LiesIn.mono {t u : ConcreteTree} {v : SyntaxValue} (h : u.LiesIn v)
    (hsub : u.subtrees ⊆ t.subtrees) : t.LiesIn v := by
  cases v with
  | node n =>
    obtain ⟨x, hx, hspan⟩ := h
    exact ⟨x, hsub hx, hspan⟩
  | leaf l =>
    obtain ⟨x, hx, hspan⟩ := h
    exact ⟨x, hsub hx, hspan⟩
  | sequence items => trivial
  | absent => exact h

theorem LiesIn.exists_of_span? {t : ConcreteTree} {v : SyntaxValue} {s : SourceSpan}
    (h : t.LiesIn v) (hs : v.span? = some s) : ∃ u ∈ t.subtrees, s = u.info.span := by
  cases v with
  | node n =>
    obtain ⟨u, hu, hspan⟩ := h
    exact ⟨u, hu, Option.some.inj (hs.symm.trans hspan)⟩
  | leaf l =>
    obtain ⟨u, hu, hspan⟩ := h
    exact ⟨u, hu, (Option.some.inj hs).symm.trans hspan⟩
  | sequence items => simp [SyntaxValue.span?] at hs
  | absent => simp [SyntaxValue.span?] at hs

theorem LiesIn.span?_eq {t : ConcreteTree} {v : SyntaxValue} (h : t.LiesIn v) (hv : v.isChild) :
    ∃ u ∈ t.subtrees, v.span? = some u.info.span := by
  cases v with
  | node n => exact h
  | leaf l =>
    obtain ⟨u, hu, hspan⟩ := h
    exact ⟨u, hu, congrArg some hspan⟩
  | sequence items => simp [SyntaxValue.isChild] at hv
  | absent => simp [SyntaxValue.isChild] at hv

theorem span_of_leaf? {t : ConcreteTree} {l : Leaf} (h : leaf? source t = some l) :
    l.span = t.info.span := by
  unfold leaf? at h
  split at h
  · rw [← Option.some.inj h, Leaf.span]
  · split at h
    · rw [← Option.some.inj h, Leaf.span]
    · simp at h

theorem everywhere_leaf {motive : SyntaxValue → Prop} {l : Leaf} (h : motive (.leaf l)) :
    (SyntaxValue.leaf l).Everywhere motive :=
  SyntaxValue.everywhere_iff.2 ⟨h, by simp [SyntaxValue.inside]⟩

/-- What stands inside a converted node lies where some node of the tree does. -/
theorem everywhere_liesIn_standIn {d depth : Nat} (h : depth + d = limit) (t : ConcreteTree) :
    (SyntaxValue.node (standIn limit source depth t)).Everywhere t.LiesIn := by
  have hsequence : ∀ (u : ConcreteTree) (items : List SyntaxValue),
      (∀ v ∈ items, v.Everywhere u.LiesIn) → (SyntaxValue.sequence items).Everywhere u.LiesIn :=
    fun u items hitems => SyntaxValue.everywhere_iff.2 ⟨trivial, hitems⟩
  induction d generalizing depth t with
  | zero =>
    obtain rfl : depth = limit := h
    refine SyntaxValue.everywhere_iff.2 ⟨⟨t, t.self_mem_subtrees, span?_standIn depth t⟩, ?_⟩
    rw [standIn_at_limit, inside_flatten, List.forall_mem_singleton]
    refine hsequence t _ ?_
    rw [List.forall_mem_map]
    intro l hl
    obtain ⟨u, hu, hleaf⟩ := exists_of_mem_picked hl
    exact everywhere_leaf ⟨u, hu, span_of_leaf? hleaf⟩
  | succ d ih =>
    refine SyntaxValue.everywhere_iff.2 ⟨⟨t, t.self_mem_subtrees, span?_standIn depth t⟩, ?_⟩
    rw [standIn_above (by omega)]
    refine forall_mem_inside_convertNode (hsequence t) fun c hc => ?_
    have hsub : c.2.subtrees ⊆ t.subtrees := subtrees_subset_of_child hc
    rw [convertValue_eq]
    cases hleaf : leaf? source c.2 with
    | some l => exact everywhere_leaf ⟨c.2, hsub c.2.self_mem_subtrees, span_of_leaf? hleaf⟩
    | none => exact fun p w hw => (ih (by omega) c.2 p w hw).mono hsub

/-- A node inside a converted tree comes from a node of the tree. It has the span of that node, and
what stands inside it lies where nodes inside that node do. -/
theorem exists_of_node {t : ConcreteTree} {p : SyntaxValue.Position} {n : SyntaxNode}
    (hn : (SyntaxValue.node (standIn limit source 0 t)).at? p = some (.node n)) :
    ∃ u ∈ t.subtrees, n.span? = some u.info.span ∧ (SyntaxValue.node n).Everywhere u.LiesIn := by
  have hmem : n ∈ (SyntaxValue.node (standIn limit source 0 t)).nodes :=
    SyntaxValue.mem_nodes.2 ⟨p, hn⟩
  rw [nodes_standIn (Nat.zero_add limit), List.mem_map] at hmem
  obtain ⟨⟨q, u⟩, hu, rfl⟩ := hmem
  obtain ⟨hnode, hle⟩ := (mem_nodesDownTo limit t u q).1 hu
  have hdepth : 0 + q.length + (limit - q.length) = limit := by omega
  exact ⟨u, mem_subtrees_of_nodeAt? hnode, span?_standIn _ u, everywhere_liesIn_standIn hdepth u⟩

end standIn

/-! ## Nodes without a tag -/

/-- The nodes of a tree that are left without a tag: the error nodes above the limit, and the nodes at
the limit, of which only the tokens are kept. -/
def untaggedNodes (limit : Nat) (t : ConcreteTree) : List (Position × ConcreteTree) :=
  (t.nodesDownTo limit).filter fun x => x.2.info.isError || decide (limit ≤ x.1.length)

theorem mem_untaggedNodes (limit : Nat) (t u : ConcreteTree) (p : Position) :
    (p, u) ∈ t.untaggedNodes limit ↔
      t.nodeAt? p = some u ∧ (p.length < limit ∧ u.info.isError = true ∨ p.length = limit) := by
  rw [untaggedNodes, List.mem_filter, mem_nodesDownTo, Bool.or_eq_true, decide_eq_true_eq]
  constructor
  · rintro ⟨⟨hu, hle⟩, herror | hge⟩
    · rcases Nat.lt_or_eq_of_le hle with hlt | heq
      · exact ⟨hu, Or.inl ⟨hlt, herror⟩⟩
      · exact ⟨hu, Or.inr heq⟩
    · exact ⟨hu, Or.inr (Nat.le_antisymm hle hge)⟩
  · rintro ⟨hu, ⟨hlt, herror⟩ | heq⟩
    · exact ⟨⟨hu, Nat.le_of_lt hlt⟩, Or.inl herror⟩
    · exact ⟨⟨hu, Nat.le_of_eq heq⟩, Or.inr (Nat.le_of_eq heq.symm)⟩

/-- The nodes without a tag in a converted tree are what these nodes become, in order. -/
theorem filter_isPlaceholder_nodes (limit : Nat) (source : ByteArray) (t : ConcreteTree) :
    (SyntaxValue.node (standIn limit source 0 t)).nodes.filter SyntaxNode.isPlaceholder =
      (t.untaggedNodes limit).map fun x => standIn limit source x.1.length x.2 := by
  rw [nodes_standIn (Nat.zero_add limit), List.filter_map, untaggedNodes]
  simp only [Function.comp_def, isPlaceholder_standIn, Nat.zero_add]

/-! ## Spans inside each other -/

/-- In each node of a tree the byte ranges of the children lie within that of the node. -/
def IsNested (t : ConcreteTree) : Prop :=
  ∀ u ∈ t.subtrees, ∀ c ∈ u.children, u.info.span.contains c.2.info.span

instance (t : ConcreteTree) : Decidable t.IsNested :=
  inferInstanceAs (Decidable (∀ u ∈ t.subtrees, ∀ c ∈ u.children, _))

theorem subtrees_trans {t u : ConcreteTree} (h : u ∈ t.subtrees) : u.subtrees ⊆ t.subtrees := by
  induction t using children_induction with
  | step t ih =>
    rcases mem_subtrees.1 h with rfl | ⟨c, hc, hu⟩
    · exact List.Subset.refl _
    · exact List.Subset.trans (ih c hc hu) (subtrees_subset_of_child hc)

/-- In a nested tree a node contains all nodes inside it. -/
theorem IsNested.contains {t u : ConcreteTree} (h : t.IsNested) (hu : u ∈ t.subtrees) :
    t.info.span.contains u.info.span := by
  induction t using children_induction with
  | step t ih =>
    rcases mem_subtrees.1 hu with rfl | ⟨c, hc, hu⟩
    · simp [SourceSpan.contains]
    · have hsub : c.2.subtrees ⊆ t.subtrees := subtrees_subset_of_child hc
      have hchild : c.2.IsNested := fun x hx => h x (hsub hx)
      exact SourceSpan.contains_trans (h t t.self_mem_subtrees c hc) (ih c hc hchild hu)

/-- The shape of a converted tree, for a tree whose rows and columns fit words of 32 bits. No path
meets more nodes than the limit and one more. Nothing is absent. Each node and each leaf has a span,
with lines and columns that count from one, as a word of 32 bits counts them. The nodes without a tag
are, one for one and in order, what becomes of the error nodes above the limit and of the nodes at the
limit. And if the children of each node lie within it, then each node contains all nodes and leaves
below it. -/
theorem toSyntax_wellShaped {t : ConcreteTree} (h : ∀ u ∈ t.subtrees, u.info.FitsWords)
    (source : ByteArray) :
    let tree := SyntaxValue.node (t.toSyntax source).value
    (∀ p w, tree.at? p = some w → tree.nodesTo p ≤ maxNesting + 1) ∧
    (∀ p, tree.at? p ≠ some .absent) ∧
    (∀ p w, tree.at? p = some w → w.isChild → ∃ s, w.span? = some s ∧
      1 ≤ s.startLine ∧ 1 ≤ s.startColumn ∧ ∃ u ∈ t.subtrees, s = u.info.wordSpan) ∧
    (tree.nodes.filter SyntaxNode.isPlaceholder =
        (t.untaggedNodes maxNesting).map (fun x => standIn maxNesting source x.1.length x.2) ∧
      (t.untaggedNodes maxNesting).Pairwise (fun x y => x.1 < y.1) ∧
      ∀ p u, (p, u) ∈ t.untaggedNodes maxNesting ↔ t.nodeAt? p = some u ∧
        (p.length < maxNesting ∧ u.info.isError = true ∨ p.length = maxNesting)) ∧
    (t.IsNested → ∀ p q n w s, tree.at? p = some (.node n) → tree.at? (p ++ q) = some w →
      w.span? = some s → ∃ outer, n.span? = some outer ∧ outer.contains s) := by
  intro tree
  have hinside : tree.Everywhere t.LiesIn :=
    everywhere_liesIn_standIn (Nat.zero_add maxNesting) t
  refine ⟨fun p w _ => nodesTo_standIn_le (Nat.zero_add maxNesting) t p,
    fun p hp => hinside p .absent hp, fun p w hw hchild => ?_,
    ⟨filter_isPlaceholder_nodes maxNesting source t, (pairwise_nodesDownTo maxNesting t).filter _,
      fun p u => mem_untaggedNodes maxNesting t u p⟩, ?_⟩
  · obtain ⟨u, hu, hspan⟩ := (hinside p w hw).span?_eq hchild
    exact ⟨u.info.span, hspan, by simp [ConcreteInfo.span], by simp [ConcreteInfo.span], u, hu,
      (h u hu).wordSpan_eq.symm⟩
  · intro hnested p q n w s hn hw hs
    obtain ⟨u, hu, hspan, hbelow⟩ := @exists_of_node maxNesting source t p n hn
    have hwat : (SyntaxValue.node n).at? q = some w := by
      rw [← SyntaxValue.at?_append_of_at? hn, hw]
    obtain ⟨x, hx, rfl⟩ := (hbelow q w hwat).exists_of_span? hs
    have hunested : u.IsNested := fun y hy => hnested y (subtrees_trans hu hy)
    exact ⟨u.info.span, hspan, hunested.contains hx⟩

/-- A text with a function in a bracket that fits nowhere, and a parenthesis that is not there. -/
def lostBracketText : String := "[ x =>\n y"

/-- The tree of this text. -/
def lostBracket : ConcreteTree :=
  let leaf (kind : String) (named : Bool) (start length row column : Nat) : ConcreteTree :=
    .node ⟨kind, named, false, false, start, start + length, row, row, column⟩ []
  .node ⟨"program", true, false, false, 0, 9, 0, 1, 0⟩ [
    (none, .node ⟨"ERROR", true, true, false, 0, 9, 0, 1, 0⟩ [
      (none, leaf "[" false 0 1 0 0),
      (none, .node ⟨"arrow_function", true, false, false, 2, 9, 0, 1, 2⟩ [
        (some "parameter", leaf "identifier" true 2 1 0 2),
        (none, leaf "=>" false 4 2 0 4),
        (some "body", .node ⟨"ERROR", true, true, false, 8, 9, 1, 1, 1⟩ [
          (none, leaf "identifier" true 8 1 1 1),
          (none, .node ⟨")", false, false, true, 9, 9, 1, 1, 2⟩ [])])])])]

/-- The nodes without a tag are the two error nodes, the outer one first. -/
theorem toSyntax_wellShaped_lostBracket :
    (∀ u ∈ lostBracket.subtrees, u.info.FitsWords) ∧ lostBracket.IsNested ∧
    ((SyntaxValue.node (lostBracket.toSyntax lostBracketText.toUTF8).value).nodes.filter
        SyntaxNode.isPlaceholder).map SyntaxNode.span? =
      [some ⟨0, 9, 1, 2, 1⟩, some ⟨8, 9, 2, 2, 2⟩] := by
  have hwords : ∀ u ∈ lostBracket.subtrees, u.info.FitsWords := by decide
  refine ⟨hwords, by decide, ?_⟩
  obtain ⟨-, -, -, ⟨huntagged, -⟩, -⟩ := toSyntax_wellShaped hwords lostBracketText.toUTF8
  rw [huntagged, List.map_map]
  simp only [Function.comp_def, span?_standIn]
  rfl

end ConcreteTree

end ScriptCensus
