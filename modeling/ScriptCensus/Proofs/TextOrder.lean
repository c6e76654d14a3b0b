import ScriptCensus.Proofs.LineOrder
import ScriptCensus.Proofs.NestingLimit
import ScriptCensus.Scan.Basic

/-!
# Trees that follow a text

In the concrete tree of a text the byte range of a node holds those of its children, which come one
after another, and rows go up with offsets (`ConcreteTree.FollowsText`). A node that is met later
therefore starts at a later offset or the same one (`FollowsText.startByte_le`) and in a later row
or the same one (`FollowsText.startRow_le`).

The functions of such a tree are met by line (`FollowsText.pairwise_startLine`): a function starts
in the row where its node does, and where only tokens are kept, functions are left out and the
others stay in order. Sorting them by line therefore changes nothing
(`ConcreteTree.lineSort_invisible`), and a report on several files does not depend on it either
(`FileSystem.reportOn_sourceLine`).
-/

namespace ScriptCensus

namespace ConcreteInfo

/-- The byte range of one node lies within that of another one, with both ends. -/
def LiesWithin (inner outer : ConcreteInfo) : Prop :=
  (outer.startByte ≤ inner.startByte ∧ inner.startByte ≤ outer.endByte) ∧
    (outer.startByte ≤ inner.endByte ∧ inner.endByte ≤ outer.endByte)

/-- The byte range of one node comes before that of another one. -/
def ComesBefore (a b : ConcreteInfo) : Prop :=
  a.startByte ≤ b.startByte ∧ a.endByte ≤ b.startByte

/-- The offsets where a node starts and ends, each with its row. -/
def marks (i : ConcreteInfo) : List (Nat × Nat) :=
  [(i.startByte, i.startRow), (i.endByte, i.endRow)]

instance (a b : ConcreteInfo) : Decidable (a.LiesWithin b) :=
  inferInstanceAs (Decidable (_ ∧ _))

instance (a b : ConcreteInfo) : Decidable (a.ComesBefore b) :=
  inferInstanceAs (Decidable (_ ∧ _))

end ConcreteInfo

namespace ConcreteTree

mutual

/-- A tree and all trees inside it. -/
def subtrees : ConcreteTree → List ConcreteTree
  | node i cs => node i cs :: subtreesOf cs

/-- Some trees and all trees inside them. -/
def subtreesOf : List (Option String × ConcreteTree) → List ConcreteTree
  | [] => []
  | (_, t) :: rest => t.subtrees ++ subtreesOf rest

end

/-- A tree is laid out as the tree of a text: children lie within their parent and follow each
other, and what starts or ends at a later offset does so in a later row or the same one. -/
structure FollowsText (t : ConcreteTree) : Prop where
  within : ∀ u ∈ t.subtrees, ∀ c ∈ u.children, c.2.info.LiesWithin u.info
  inOrder : ∀ u ∈ t.subtrees, u.children.Pairwise fun a b => a.2.info.ComesBefore b.2.info
  rows : ∀ u ∈ t.subtrees, ∀ w ∈ t.subtrees, ∀ a ∈ u.info.marks, ∀ b ∈ w.info.marks,
    a.1 ≤ b.1 → a.2 ≤ b.2

instance (t : ConcreteTree) : Decidable t.FollowsText :=
  decidable_of_iff
    ((∀ u ∈ t.subtrees, ∀ c ∈ u.children, c.2.info.LiesWithin u.info) ∧
      (∀ u ∈ t.subtrees, u.children.Pairwise fun a b => a.2.info.ComesBefore b.2.info) ∧
      ∀ u ∈ t.subtrees, ∀ w ∈ t.subtrees, ∀ a ∈ u.info.marks, ∀ b ∈ w.info.marks,
        a.1 ≤ b.1 → a.2 ≤ b.2)
    ⟨fun h => ⟨h.1, h.2.1, h.2.2⟩, fun h => ⟨h.1, h.2, h.3⟩⟩

/-! ## Nodes of a tree that follows a text -/

theorem self_mem_subtrees (t : ConcreteTree) : t ∈ t.subtrees := by
  obtain ⟨i, cs⟩ := t
  rw [subtrees]
  exact List.mem_cons_self

theorem subtrees_subset_subtreesOf {f : Option String} {c : ConcreteTree} :
    ∀ {cs : List (Option String × ConcreteTree)}, (f, c) ∈ cs → c.subtrees ⊆ subtreesOf cs
  | (_, _) :: _, h => by
    rw [subtreesOf]
    rcases List.mem_cons.1 h with h | h
    · obtain ⟨rfl, rfl⟩ := Prod.mk.inj h
      exact List.subset_append_left _ _
    · exact List.Subset.trans (subtrees_subset_subtreesOf h) (List.subset_append_right _ _)

theorem subtrees_subset_of_child {f : Option String} {c t : ConcreteTree}
    (h : (f, c) ∈ t.children) : c.subtrees ⊆ t.subtrees := by
  obtain ⟨i, cs⟩ := t
  rw [subtrees]
  exact List.Subset.trans (subtrees_subset_subtreesOf h) (List.subset_cons_self _ _)

theorem exists_of_nodeAt?_cons {t u : ConcreteTree} {k : Nat} {p : Position}
    (h : t.nodeAt? (k :: p) = some u) :
    ∃ f c, t.children[k]? = some (f, c) ∧ c.nodeAt? p = some u := by
  rw [nodeAt?] at h
  cases hk : t.children[k]? with
  | none => simp [hk] at h
  | some x =>
    obtain ⟨f, c⟩ := x
    by_cases hl : c.isLeaf
    · simp [hk, hl] at h
    · exact ⟨f, c, rfl, by simpa [hk, hl] using h⟩

theorem mem_subtrees_of_nodeAt? {u : ConcreteTree} :
    ∀ {p : Position} {t : ConcreteTree}, t.nodeAt? p = some u → u ∈ t.subtrees
  | [], t, h => by
    obtain rfl : t = u := Option.some.inj h
    exact self_mem_subtrees t
  | k :: p, t, h => by
    obtain ⟨f, c, hk, hc⟩ := exists_of_nodeAt?_cons h
    exact subtrees_subset_of_child (List.mem_of_getElem? hk) (mem_subtrees_of_nodeAt? hc)

namespace FollowsText

variable {t u w : ConcreteTree} {p q : Position}

theorem child (h : t.FollowsText) {f : Option String} {c : ConcreteTree}
    (hc : (f, c) ∈ t.children) : c.FollowsText := by
  have hsub := subtrees_subset_of_child hc
  exact ⟨fun u hu => h.within u (hsub hu), fun u hu => h.inOrder u (hsub hu),
    fun u hu w hw => h.rows u (hsub hu) w (hsub hw)⟩

/-- A node starts within each node above it. -/
theorem startByte_within (h : t.FollowsText) (hu : t.nodeAt? p = some u) :
    t.info.startByte ≤ u.info.startByte ∧ (u = t ∨ u.info.startByte ≤ t.info.endByte) := by
  induction p generalizing t with
  | nil =>
    obtain rfl : t = u := Option.some.inj hu
    exact ⟨Nat.le_refl _, Or.inl rfl⟩
  | cons k p ih =>
    obtain ⟨f, c, hk, hc⟩ := exists_of_nodeAt?_cons hu
    have hmem := List.mem_of_getElem? hk
    obtain ⟨⟨hstart, hstart'⟩, -, hend⟩ := h.within t t.self_mem_subtrees _ hmem
    obtain ⟨hle, rfl | hlt⟩ := ih (h.child hmem) hc
    · exact ⟨hstart, Or.inr hstart'⟩
    · exact ⟨Nat.le_trans hstart hle, Or.inr (Nat.le_trans hlt hend)⟩

/-- A node that is met later starts at a later offset or the same one. -/
theorem startByte_le (h : t.FollowsText) (hu : t.nodeAt? p = some u) (hw : t.nodeAt? q = some w)
    (hpq : p < q) : u.info.startByte ≤ w.info.startByte := by
  induction p generalizing t q with
  | nil =>
    obtain rfl : t = u := Option.some.inj hu
    exact (h.startByte_within hw).1
  | cons k p ih =>
    cases q with
    | nil => simp at hpq
    | cons j q =>
      obtain ⟨f, c, hk, hc⟩ := exists_of_nodeAt?_cons hu
      obtain ⟨g, d, hj, hd⟩ := exists_of_nodeAt?_cons hw
      have hcmem := List.mem_of_getElem? hk
      have hdmem := List.mem_of_getElem? hj
      rcases List.cons_lt_cons_iff.1 hpq with hlt | ⟨rfl, hlt⟩
      · -- the first node is in an earlier child, which ends before the later one starts
        have hbefore : c.info.ComesBefore d.info := by
          obtain ⟨hk', hck⟩ := List.getElem?_eq_some_iff.1 hk
          obtain ⟨hj', hdj⟩ := List.getElem?_eq_some_iff.1 hj
          have := List.pairwise_iff_getElem.1 (h.inOrder t t.self_mem_subtrees) k j hk' hj' hlt
          rwa [hck, hdj] at this
        have hdw := ((h.child hdmem).startByte_within hd).1
        obtain ⟨-, rfl | hend⟩ := (h.child hcmem).startByte_within hc
        · exact Nat.le_trans hbefore.1 hdw
        · exact Nat.le_trans (Nat.le_trans hend hbefore.2) hdw
      · obtain ⟨rfl, rfl⟩ : f = g ∧ c = d := by simpa [hk] using hj
        exact ih (h.child hcmem) hc hd hlt

/-- A node that is met later starts in a later row or the same one. -/
theorem startRow_le (h : t.FollowsText) (hu : t.nodeAt? p = some u) (hw : t.nodeAt? q = some w)
    (hpq : p < q) : u.info.startRow ≤ w.info.startRow :=
  h.rows u (mem_subtrees_of_nodeAt? hu) w (mem_subtrees_of_nodeAt? hw) _ List.mem_cons_self _
    List.mem_cons_self (h.startByte_le hu hw hpq)

/-- The functions of a tree that follows a text are listed by row. -/
theorem pairwise_startRow (h : t.FollowsText) :
    t.functionNodes.Pairwise fun x y => x.2.info.startRow ≤ y.2.info.startRow := by
  refine (pairwise_functionNodes t).imp_of_mem fun {x y} hx hy hlt => ?_
  have hxat := ((mem_functionNodes x.2 t x.1).1 hx).1
  have hyat := ((mem_functionNodes y.2 t y.1).1 hy).1
  exact h.startRow_le hxat hyat hlt

end FollowsText

/-! ## Functions by line -/

theorem startLine_of_outcome? {source : ByteArray} {u : ConcreteTree} {f : FunctionRecord}
    (h : u.outcome? source = some (.captured f)) : f.startLine = u.info.startRow + 1 := by
  have hspan : (u.whole source).span? = some u.info.span := by
    obtain ⟨i, cs⟩ := u
    rw [whole]
    rfl
  obtain ⟨kind, -, hf⟩ := Option.map_eq_some_iff.1 h
  rw [SyntaxNode.capture, hspan] at hf
  cases hp : (u.whole source).print with
  | error e => simp [hp] at hf
  | ok printed =>
    simp only [hp, Option.getD_some, Outcome.captured.injEq] at hf
    rw [← hf]
    simp [SourceSpan.lines, ConcreteInfo.span]

/-- The functions of a tree that follows a text are met by line. -/
theorem FollowsText.pairwise_startLine {t : ConcreteTree} (h : t.FollowsText)
    (source : ByteArray) :
    ((t.toSyntax source).value.functions .traversal).value.Pairwise
      fun f g => f.startLine ≤ g.startLine := by
  have hwalk : (t.toSyntax source).value.walk.map some =
      outcomesWithin source maxNesting 0 t.functionNodes :=
    walk_convertNode source maxNesting 0 t (by decide)
  have hsome : ((t.toSyntax source).value.walk.map some).Pairwise fun a b =>
      ∀ f, a = some (.captured f) → ∀ g, b = some (.captured g) → f.startLine ≤ g.startLine := by
    rw [hwalk, outcomesWithin, List.pairwise_map]
    refine (h.pairwise_startRow.filter _).imp fun hle f hf g hg => ?_
    rw [startLine_of_outcome? hf, startLine_of_outcome? hg]
    omega
  rw [List.pairwise_map] at hsome
  rw [SyntaxNode.functions, FunctionOrder.arrange, List.pairwise_filterMap]
  refine hsome.imp fun {o o'} hle f hf g hg => hle f ?_ g ?_
  · cases o <;> simp_all [Outcome.record?]
  · cases o' <;> simp_all [Outcome.record?]

/-- In a tree that follows a text the functions are in order by line as they are met. -/
theorem FollowsText.functions_sourceLine {t : ConcreteTree} (h : t.FollowsText)
    (source : ByteArray) :
    (t.toSyntax source).value.functions .sourceLine =
      (t.toSyntax source).value.functions .traversal :=
  SyntaxNode.functions_sourceLine_eq (h.pairwise_startLine source)

end ConcreteTree

namespace FileSystem

variable {fs : FileSystem}

/-- The tree of a file follows its text, if the file can be read. -/
def TreeFollowsText (fs : FileSystem) (path : Path) : Prop :=
  ∀ content, fs.read path = .ok content →
    ((Language.ofExplicitFile path).concreteTree (textOfBytes content)).FollowsText

theorem functionsOf?_sourceLine {path : Path} (h : fs.TreeFollowsText path) :
    fs.functionsOf? .sourceLine path = fs.functionsOf? .traversal path := by
  unfold functionsOf?
  cases hread : fs.read path with
  | error e => rfl
  | ok content =>
    have hfunctions := (h content hread).functions_sourceLine (textOfBytes content).toUTF8
    simp only [Language.functionsOf, Language.parse, bind, Logged.bind, hfunctions]

theorem addFile_sourceLine {path : Path} (h : fs.TreeFollowsText path) (r : Report) :
    fs.addFile .sourceLine r path = fs.addFile .traversal r path := by
  rw [addFile, addFile, functionsOf?_sourceLine h]

/-- The report on files whose trees follow their texts does not depend on the order asked for. -/
theorem reportOn_sourceLine {paths : List Path} (h : ∀ path ∈ paths, fs.TreeFollowsText path) :
    fs.reportOn .sourceLine paths = fs.reportOn .traversal paths := by
  rw [reportOn, reportOn]
  generalize ({} : Report) = r
  induction paths generalizing r with
  | nil => rfl
  | cons path rest ih =>
    have hrest := ih fun path' hpath' => h path' (List.mem_cons_of_mem path hpath')
    simp only [List.foldlM_cons, addFile_sourceLine (h path List.mem_cons_self), hrest]

end FileSystem

namespace ConcreteTree

/-- For a tree that follows a text the order by line is the order in which functions are met, with
the same warnings, and a file that has this tree adds the same to a report in either order. -/
theorem lineSort_invisible {t : ConcreteTree} (h : t.FollowsText) :
    (∀ source, (t.toSyntax source).value.functions .sourceLine =
      (t.toSyntax source).value.functions .traversal) ∧
    ∀ (fs : FileSystem) (path : Path) (content : ByteArray), fs.read path = .ok content →
      (Language.ofExplicitFile path).concreteTree (textOfBytes content) = t →
      ∀ r, fs.addFile .sourceLine r path = fs.addFile .traversal r path := by
  refine ⟨h.functions_sourceLine, fun fs path content hread htree r => ?_⟩
  have hfollows : fs.TreeFollowsText path := fun content' hread' => by
    obtain rfl : content = content' := Except.ok.inj (hread.symm.trans hread')
    rwa [htree]
  exact FileSystem.addFile_sourceLine hfollows r

/-- A text with a function inside another one, on a line of its own, and a bracket that fits
nowhere. -/
def nestedArrowsText : String := "x =>\ny => z; )"

/-- The tree of this text. -/
def nestedArrows : ConcreteTree :=
  let token (kind : String) (named : Bool) (start row column : Nat) : ConcreteTree :=
    .node ⟨kind, named, false, false, start, start + kind.length, row, row, column⟩ []
  let name (start row column : Nat) : ConcreteTree :=
    .node ⟨"identifier", true, false, false, start, start + 1, row, row, column⟩ []
  .node ⟨"program", true, false, false, 0, 14, 0, 1, 0⟩ [
    (none, .node ⟨"expression_statement", true, false, false, 0, 12, 0, 1, 0⟩ [
      (none, .node ⟨"arrow_function", true, false, false, 0, 11, 0, 1, 0⟩ [
        (some "parameter", name 0 0 0),
        (none, token "=>" false 2 0 2),
        (some "body", .node ⟨"arrow_function", true, false, false, 5, 11, 1, 1, 0⟩ [
          (some "parameter", name 5 1 0),
          (none, token "=>" false 7 1 2),
          (some "body", name 10 1 5)])]),
      (none, token ";" false 11 1 6)]),
    (none, .node ⟨"ERROR", true, true, false, 13, 14, 1, 1, 8⟩ [(none, token ")" false 13 1 8)])]

/-- Both functions of the tree, the outer one first. -/
theorem lineSort_invisible_nestedArrows :
    nestedArrows.FollowsText ∧
    ((nestedArrows.toSyntax nestedArrowsText.toUTF8).value.functions .sourceLine).value =
      [⟨"x =>\ny => z", 1, 2, .arrow⟩, ⟨"y => z", 2, 2, .arrow⟩] := by
  have hfollows : nestedArrows.FollowsText := by decide
  refine ⟨hfollows, ?_⟩
  rw [(lineSort_invisible hfollows).1]
  simp only [nestedArrows, toSyntax, convertNode, convertChildren, convertValue, leaf?, info]
  rfl

end ConcreteTree

end ScriptCensus
