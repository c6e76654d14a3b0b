import ScriptCensus.Proofs.Positions

/-!
# The order of the functions of a file

The functions of a tree are met in the order of their positions
(`SyntaxNode.pairwise_placedRecords`). By line they are sorted so that functions on one line stay in
this order (`filter_mergeSort`): the result goes by the first line, and on one line by position
(`SyntaxNode.functions_lineOrder`). The lines of a function count from one, and its last line is not
before its first one, whatever span it has (`SyntaxNode.lines_of_mem_functions`).
-/

namespace ScriptCensus

/-! ## Sorting by a number -/

section sorting

variable {α : Type} (key : α → Nat)

/-- Sorting by a number keeps those of one number in order. -/
theorem filter_mergeSort (xs : List α) (k : Nat) :
    (xs.mergeSort fun a b => key a ≤ key b).filter (key · = k) = xs.filter (key · = k) := by
  have hsame : (xs.filter (key · = k)).Pairwise fun a b => decide (key a ≤ key b) = true := by
    refine List.pairwise_of_forall_mem_list fun a ha b hb => ?_
    have hka : key a = k := by simpa using (List.mem_filter.1 ha).2
    have hkb : key b = k := by simpa using (List.mem_filter.1 hb).2
    simp [hka, hkb]
  have hsub : (xs.filter (key · = k)).Sublist (xs.mergeSort fun a b => key a ≤ key b) :=
    List.sublist_mergeSort (fun a b c => by simpa using Nat.le_trans)
      (fun a b => by simpa using Nat.le_total (key a) (key b)) hsame List.filter_sublist
  have hfilter := hsub.filter (key · = k)
  rw [List.filter_filter] at hfilter
  simp only [Bool.and_self] at hfilter
  have hlength := ((List.mergeSort_perm xs fun a b => key a ≤ key b).filter (key · = k)).length_eq
  exact (hfilter.eq_of_length hlength.symm).symm

variable {key}

/-- What holds between those of one number, in order, holds of all pairs of one number. -/
theorem pairwise_of_filter {r : α → α → Prop} {xs : List α}
    (h : ∀ k, (xs.filter (key · = k)).Pairwise r) :
    xs.Pairwise fun a b => key a = key b → r a b := by
  induction xs with
  | nil => exact List.Pairwise.nil
  | cons x rest ih =>
    refine List.Pairwise.cons (fun b hb hkey => ?_) (ih fun k => ?_)
    · have hx := h (key x)
      rw [List.filter_cons_of_pos (by simp)] at hx
      exact (List.pairwise_cons.1 hx).1 b (List.mem_filter.2 ⟨hb, by simp [hkey]⟩)
    · exact (h k).sublist ((List.sublist_cons_self x rest).filter _)

theorem pairwise_mergeSort_key (xs : List α) :
    (xs.mergeSort fun a b => key a ≤ key b).Pairwise fun a b => key a ≤ key b := by
  have hsorted : (xs.mergeSort fun a b => key a ≤ key b).Pairwise
      fun a b => decide (key a ≤ key b) = true :=
    List.pairwise_mergeSort (fun a b c => by simpa using Nat.le_trans)
      (fun a b => by simpa using Nat.le_total (key a) (key b)) xs
  exact hsorted.imp fun hle => of_decide_eq_true hle

end sorting

/-! ## Lines -/

/-- First and last line of a span are in order, however degenerate the span is. -/
theorem SourceSpan.lines_ordered (s : SourceSpan) : 1 ≤ s.lines.1 ∧ s.lines.1 ≤ s.lines.2 := by
  simp only [lines]
  omega

namespace SyntaxNode

open SyntaxValue (Position)

/-- The captured functions of a tree with their positions, as they are met. -/
def placedRecords (n : SyntaxNode) : List (Position × FunctionRecord) :=
  (SyntaxValue.node n).outcomes.filterMap fun x => x.2.record?.map fun f => (x.1, f)

theorem mem_placedRecords {n : SyntaxNode} {p : Position} {f : FunctionRecord} :
    (p, f) ∈ n.placedRecords ↔ (p, .captured f) ∈ (SyntaxValue.node n).outcomes := by
  simp only [placedRecords, List.mem_filterMap, Option.map_eq_some_iff, Prod.mk.injEq, Prod.exists]
  constructor
  · rintro ⟨p, o, ho, f, hf, rfl, rfl⟩
    cases o with
    | captured g =>
      obtain rfl : g = f := Option.some.inj hf
      exact ho
    | skipped g => simp [Outcome.record?] at hf
  · exact fun h => ⟨p, _, h, f, rfl, rfl, rfl⟩

/-- Without the positions these are the functions in the order of the walk. -/
theorem map_snd_placedRecords (n : SyntaxNode) :
    n.placedRecords.map Prod.snd = (n.functions .traversal).value := by
  have hwalk := SyntaxValue.map_snd_outcomes (.node n)
  rw [SyntaxValue.walk] at hwalk
  rw [functions, FunctionOrder.arrange, ← hwalk, List.filterMap_map, placedRecords,
    List.map_filterMap]
  congr 1
  funext x
  exact (Option.map_map ..).trans (Option.map_id' ..)

/-- The functions are met in the lexicographic order of positions. -/
theorem pairwise_placedRecords (n : SyntaxNode) :
    n.placedRecords.Pairwise fun x y => x.1 < y.1 := by
  refine (SyntaxValue.pairwise_outcomes (.node n)).filterMap _ fun x y hlt a ha b hb => ?_
  obtain ⟨f, -, rfl⟩ := Option.map_eq_some_iff.1 ha
  obtain ⟨g, -, rfl⟩ := Option.map_eq_some_iff.1 hb
  exact hlt

/-- The functions sorted by line, with their positions. -/
theorem map_snd_mergeSort_placedRecords (n : SyntaxNode) :
    (n.placedRecords.mergeSort fun x y => x.2.startLine ≤ y.2.startLine).map Prod.snd =
      (n.functions .sourceLine).value := by
  have hmap : (n.placedRecords.mergeSort fun x y => x.2.startLine ≤ y.2.startLine).map Prod.snd =
      (n.placedRecords.map Prod.snd).mergeSort fun f g => f.startLine ≤ g.startLine :=
    List.map_mergeSort fun _ _ _ _ => rfl
  rw [hmap, map_snd_placedRecords]
  rfl

theorem perm_functions (n : SyntaxNode) (order : FunctionOrder) :
    (n.functions order).value.Perm (n.functions .traversal).value := by
  cases order with
  | sourceLine => exact List.mergeSort_perm ..
  | traversal => exact List.Perm.refl _

/-- Functions whose first lines do not go back as they are met are in order already. -/
theorem functions_sourceLine_eq {n : SyntaxNode}
    (h : (n.functions .traversal).value.Pairwise fun f g => f.startLine ≤ g.startLine) :
    n.functions .sourceLine = n.functions .traversal := by
  have hvalue : (n.functions .sourceLine).value = (n.functions .traversal).value :=
    List.mergeSort_of_pairwise (h.imp fun hle => decide_eq_true hle)
  have hwarnings : (n.functions .sourceLine).warnings = (n.functions .traversal).warnings := rfl
  cases hs : n.functions .sourceLine
  cases ht : n.functions .traversal
  simp_all

/-- The lines of a function count from one, and the last one is not before the first one. -/
theorem lines_of_mem_functions {n : SyntaxNode} {order : FunctionOrder} {f : FunctionRecord}
    (h : f ∈ (n.functions order).value) : 1 ≤ f.startLine ∧ f.startLine ≤ f.endLine := by
  rw [(n.perm_functions order).mem_iff, ← map_snd_placedRecords, List.mem_map] at h
  obtain ⟨⟨p, g⟩, hg, rfl⟩ := h
  obtain ⟨m, kind, -, hkind, ho⟩ := SyntaxValue.mem_outcomes.1 (mem_placedRecords.1 hg)
  have hreports := reports_capture hkind
  rw [← ho] at hreports
  obtain ⟨-, printed, -, -, hlines⟩ := hreports
  obtain ⟨hstart, hend⟩ := Prod.mk.inj hlines
  rw [hstart, hend]
  exact SourceSpan.lines_ordered _

/-- The order of functions by line: first lines do not go back, and functions on one line stand in
the order of their positions. -/
structure InLineOrder (xs : List (Position × FunctionRecord)) : Prop where
  lines : xs.Pairwise fun x y => x.2.startLine ≤ y.2.startLine
  oneLine : xs.Pairwise fun x y => x.2.startLine = y.2.startLine → x.1 < y.1

theorem inLineOrder_mergeSort (n : SyntaxNode) :
    InLineOrder (n.placedRecords.mergeSort fun x y => x.2.startLine ≤ y.2.startLine) where
  lines := pairwise_mergeSort_key n.placedRecords
  oneLine := pairwise_of_filter fun line => by
    rw [filter_mergeSort fun x : Position × FunctionRecord => x.2.startLine]
    exact n.pairwise_placedRecords.filter _

/-- Lines and order of the functions of any tree. The lines of each function count from one and are
in order. As they are met, functions stand in the order of their positions. By line, the same
functions stand each as often, first lines do not go back, and functions on one line stand as they
were met. -/
theorem functions_lineOrder (n : SyntaxNode) :
    (∀ order, ∀ f ∈ (n.functions order).value, 1 ≤ f.startLine ∧ f.startLine ≤ f.endLine) ∧
    (n.functions .sourceLine).value.Perm (n.functions .traversal).value ∧
    (n.placedRecords.map Prod.snd = (n.functions .traversal).value ∧
      n.placedRecords.Pairwise fun x y => x.1 < y.1) ∧
    ∃ sorted, sorted.map Prod.snd = (n.functions .sourceLine).value ∧
      sorted.Perm n.placedRecords ∧ InLineOrder sorted := by
  refine ⟨fun order f => lines_of_mem_functions, n.perm_functions .sourceLine,
    ⟨n.map_snd_placedRecords, n.pairwise_placedRecords⟩, ?_⟩
  exact ⟨_, n.map_snd_mergeSort_placedRecords, List.mergeSort_perm .., n.inLineOrder_mergeSort⟩

end SyntaxNode

end ScriptCensus
