import ScriptCensus.FileSystem.Basic
import ScriptCensus.Proofs.Paths

/-!
# The pieces of related paths

A path is followed piece by piece (`FileSystem.piecesOf`). The path without its last component has a
front of the pieces (`Path.piecesOf_of_parent?`). A file name is the last piece that counts
(`Path.exists_splitAt_of_fileName?`, `Path.fileName?_of_piecesOf`). A path with another extension
differs in that piece, in which it is never the same, and in what stands behind it
(`Path.differsInName_withExtension`); something stands there only if the path ends in a slash or in
dots (`Path.endsInSlash_or_endsInDots`).
-/

namespace ScriptCensus

open FileSystem (piecesOf)

theorem mem_splitAt {separator : Char} :
    ∀ {cs piece : List Char}, piece ∈ splitAt separator cs → separator ∉ piece ∧ piece ⊆ cs
  | [], piece, h => by
    rw [List.mem_singleton.1 h]
    simp
  | c :: rest, piece, h => by
    rw [splitAt] at h
    obtain ⟨p, ps, hps⟩ := List.exists_cons_of_ne_nil (splitAt_ne_nil separator rest)
    have hrest : ∀ q ∈ p :: ps, separator ∉ q ∧ q ⊆ rest := fun q hq => mem_splitAt (hps ▸ hq)
    obtain ⟨hp, hps'⟩ := List.forall_mem_cons.1 hrest
    rw [hps] at h
    by_cases hc : c = separator
    · simp only [if_pos hc] at h
      rcases List.mem_cons.1 h with rfl | h
      · simp
      · exact ⟨(hrest piece h).1, fun x hx => List.mem_cons_of_mem c ((hrest piece h).2 hx)⟩
    · simp only [if_neg hc] at h
      rcases List.mem_cons.1 h with rfl | h
      · refine ⟨?_, List.cons_subset_cons c hp.2⟩
        rw [List.mem_cons, not_or]
        exact ⟨fun h => hc h.symm, hp.1⟩
      · exact ⟨(hps' piece h).1, fun x hx => List.mem_cons_of_mem c ((hps' piece h).2 hx)⟩

/-! ## Absolute and relative paths -/

theorem splitAt_slash (cs : List Char) : splitAt '/' ('/' :: cs) = [] :: splitAt '/' cs :=
  splitAt_append_cons '/' [] cs

/-- Pieces of an absolute path stand behind an empty one. -/
theorem piecesOf_absolute {p : Path} {ps : List (List Char)}
    (h : splitAt '/' p.text.toList = [] :: ps) (hne : ps ≠ []) :
    p.isAbsolute = true ∧ piecesOf p.text = ps.map String.ofList := by
  constructor
  · obtain ⟨q, qs, rfl⟩ := List.exists_cons_of_ne_nil hne
    rw [Path.isAbsolute, ← intercalate_splitAt '/' p.text.toList, h, List.intercalate_cons_cons]
    rfl
  · rw [piecesOf, h]
    simp [hne]

/-- A path whose first piece is not empty, or that is nothing but that piece, is relative. -/
theorem piecesOf_relative {p : Path} (h : ∀ ps, ps ≠ [] → splitAt '/' p.text.toList ≠ [] :: ps) :
    p.isAbsolute = false ∧ piecesOf p.text = (splitAt '/' p.text.toList).map String.ofList := by
  constructor
  · rw [Path.isAbsolute, beq_eq_false_iff_ne]
    intro hhead
    obtain ⟨cs, hcs⟩ := List.head?_eq_some_iff.1 hhead
    exact h _ (splitAt_ne_nil '/' cs) (by rw [hcs, splitAt_slash])
  · rw [piecesOf]
    split
    · next rest heq =>
      by_cases hrest : rest = []
      · rw [heq, hrest]
        rfl
      · exact absurd heq (h rest hrest)
    · rfl

/-- All that stands between slashes, but for a slash at the front, is a piece. -/
theorem exists_splitAt_eq (text : String) :
    ∃ lead, splitAt '/' text.toList = lead ++ (piecesOf text).map String.toList := by
  have hmap : ∀ ps : List (List Char), (ps.map String.ofList).map String.toList = ps := by
    intro ps
    rw [List.map_map]
    exact List.map_id'' (fun _ => String.toList_ofList) ps
  by_cases habs : ∀ ps, ps ≠ [] → splitAt '/' text.toList ≠ [] :: ps
  · refine ⟨[], ?_⟩
    rw [(piecesOf_relative (p := ⟨text⟩) habs).2, hmap, List.nil_append]
  · push Not at habs
    obtain ⟨ps, hne, hps⟩ := habs
    refine ⟨[[]], ?_⟩
    rw [(piecesOf_absolute (p := ⟨text⟩) hps hne).2, hmap, hps, List.singleton_append]

/-- The pieces of a path have no slashes, and no characters that the path has not. -/
theorem mem_piecesOf {text piece : String} (h : piece ∈ piecesOf text) :
    '/' ∉ piece.toList ∧ piece.toList ⊆ text.toList := by
  obtain ⟨lead, hsplit⟩ := exists_splitAt_eq text
  have hmem : piece.toList ∈ splitAt '/' text.toList := by
    rw [hsplit]
    exact List.mem_append_right lead (List.mem_map_of_mem h)
  exact mem_splitAt hmem

/-! ## The path above -/

theorem intercalate_append {separator : List Char} :
    ∀ {a b : List (List Char)}, a ≠ [] → b ≠ [] →
      separator.intercalate (a ++ b) =
        separator.intercalate a ++ (separator ++ separator.intercalate b)
  | [], _, ha, _ => absurd rfl ha
  | [x], b, _, hb => by
    obtain ⟨y, ys, rfl⟩ := List.exists_cons_of_ne_nil hb
    simp
  | x :: y :: ys, b, _, hb => by
    have ih : separator.intercalate (y :: ys ++ b) = _ := intercalate_append (by simp) hb
    simp only [List.cons_append, List.intercalate_cons_cons] at ih ⊢
    rw [ih]
    simp only [List.append_assoc]

theorem mem_intercalate {separator : List Char} {c : Char} :
    ∀ {pieces : List (List Char)}, c ∈ separator.intercalate pieces →
      c ∈ separator ∨ ∃ piece ∈ pieces, c ∈ piece
  | [], h => by simp at h
  | [x], h => Or.inr ⟨x, List.mem_singleton_self x, by simpa using h⟩
  | x :: y :: rest, h => by
    rw [List.intercalate_cons_cons, List.mem_append, List.mem_append] at h
    rcases h with (h | h) | h
    · exact Or.inr ⟨x, List.mem_cons_self, h⟩
    · exact Or.inl h
    · exact (mem_intercalate h).imp_right fun ⟨piece, hp, hc⟩ =>
        ⟨piece, List.mem_cons_of_mem x hp, hc⟩

theorem prefix_intercalate_append {separator : List Char} {a : List (List Char)} (ha : a ≠ [])
    (b : List (List Char)) : separator.intercalate a <+: separator.intercalate (a ++ b) := by
  by_cases hb : b = []
  · simp [hb]
  · rw [intercalate_append ha hb]
    exact List.prefix_append _ _

namespace Path

theorem toList_joinPieces (pieces : List (List Char)) :
    (joinPieces pieces).toList = ['/'].intercalate pieces :=
  String.toList_ofList

/-- The pieces that were joined are found again. -/
theorem splitAt_joinPieces {pieces : List (List Char)} (h : ∀ piece ∈ pieces, '/' ∉ piece)
    (hne : pieces ≠ []) : splitAt '/' (joinPieces pieces).toList = pieces := by
  rw [toList_joinPieces, splitAt_intercalate h hne]

theorem splitAt_slash_joinPieces {pieces : List (List Char)} (h : ∀ piece ∈ pieces, '/' ∉ piece)
    (hne : pieces ≠ []) : splitAt '/' ("/" ++ joinPieces pieces).toList = [] :: pieces := by
  have htext : ("/" ++ joinPieces pieces).toList = '/' :: (joinPieces pieces).toList := by
    rw [String.toList_append]
    rfl
  rw [htext, splitAt_slash, splitAt_joinPieces h hne]

/-- Dropping pieces at the end keeps a front of the pieces. -/
theorem prefix_of_dropSilentEnd (front : Bool) (pieces : List (List Char)) :
    dropSilentEnd front pieces <+: pieces := by
  rcases dropSilentEnd_cases front pieces with h | ⟨before, piece, more, -, h, hp⟩
  · rw [h]
    exact List.nil_prefix
  · rw [h, hp]
    exact ⟨more, by simp⟩

/-- Without the last of the pieces that count and those that do not count before it, there are fewer
pieces. -/
theorem exists_append_dropSilentEnd {front : Bool} {pieces : List (List Char)} (other : Bool)
    (h : dropSilentEnd front pieces ≠ []) :
    ∃ b, b ≠ [] ∧ pieces = dropSilentEnd other (dropSilentEnd front pieces).dropLast ++ b := by
  rcases dropSilentEnd_cases front pieces with h' | ⟨before, piece, more, -, hk, hp⟩
  · exact absurd h' h
  · obtain ⟨c, hc⟩ := prefix_of_dropSilentEnd other before
    rw [hk, List.dropLast_concat]
    refine ⟨c ++ piece :: more, by simp, ?_⟩
    rw [← List.append_assoc, hc, hp]

/-- The path above has a front of the pieces, unless it is the top. -/
theorem piecesOf_of_parent? {p q : Path} (h : p.parent? = some q) (hq : q.text ≠ "") :
    q.isAbsolute = p.isAbsolute ∧ q.text.toList <+: p.text.toList ∧
      ((∃ b, b ≠ [] ∧ piecesOf p.text = piecesOf q.text ++ b) ∨
        p.isAbsolute = true ∧ piecesOf q.text = [""]) := by
  have hslash : ∀ piece ∈ splitAt '/' p.text.toList, '/' ∉ piece :=
    fun piece hp => (mem_splitAt hp).1
  have htext : p.text.toList = ['/'].intercalate (splitAt '/' p.text.toList) :=
    (intercalate_splitAt _ _).symm
  unfold parent? at h
  split at h
  · next first rest hsplit =>
    obtain ⟨habs, hpieces⟩ := piecesOf_absolute hsplit (by simp)
    rw [hsplit] at hslash htext
    split at h
    · simp at h
    · next hne =>
      obtain ⟨b, hb, hfront⟩ := exists_append_dropSilentEnd false hne
      obtain rfl := Option.some.inj h
      generalize dropSilentEnd false (dropSilentEnd false (first :: rest)).dropLast = front
        at hfront ⊢
      rw [habs, hpieces, htext]
      by_cases hfront' : front = []
      · rw [hfront']
        exact ⟨by decide, by simp [joinPieces], Or.inr ⟨rfl, by decide⟩⟩
      · have hslash' : ∀ piece ∈ front, '/' ∉ piece := fun piece hp => hslash piece (by
          rw [hfront]
          exact List.mem_cons_of_mem _ (List.mem_append_left b hp))
        have hsplit' := splitAt_slash_joinPieces hslash' hfront'
        obtain ⟨habs', hpieces'⟩ := piecesOf_absolute (p := ⟨_⟩) hsplit' hfront'
        refine ⟨habs', ?_, Or.inl ⟨b.map String.ofList, by simpa using hb, ?_⟩⟩
        · rw [String.toList_append, List.intercalate_cons_cons, hfront, toList_joinPieces]
          exact (List.prefix_append_right_inj _).2 (prefix_intercalate_append hfront' b)
        · rw [hpieces', hfront, List.map_append]
  · next hrel =>
    obtain ⟨habs, hpieces⟩ := piecesOf_relative (p := p) fun ps hne hps => by
      obtain ⟨first, rest, rfl⟩ := List.exists_cons_of_ne_nil hne
      exact hrel first rest hps
    split at h
    · simp at h
    · next hne =>
      obtain ⟨b, hb, hfront⟩ := exists_append_dropSilentEnd true hne
      obtain rfl := Option.some.inj h
      generalize
        dropSilentEnd true (dropSilentEnd true (splitAt '/' p.text.toList)).dropLast = front
        at hfront hq ⊢
      have hfront' : front ≠ [] := by
        rintro rfl
        exact hq rfl
      have hslash' : ∀ piece ∈ front, '/' ∉ piece := fun piece hp => hslash piece (by
        rw [hfront]
        exact List.mem_append_left b hp)
      have hsplit' := splitAt_joinPieces hslash' hfront'
      obtain ⟨habs', hpieces'⟩ := piecesOf_relative (p := ⟨joinPieces front⟩) fun ps hne hps => by
        rw [hsplit'] at hps
        obtain ⟨first, rest, rfl⟩ := List.exists_cons_of_ne_nil hne
        rw [hps] at hfront
        exact hrel _ _ hfront
      refine ⟨habs'.trans habs.symm, ?_, Or.inl ⟨b.map String.ofList, by simpa using hb, ?_⟩⟩
      · rw [htext, hfront, toList_joinPieces]
        exact prefix_intercalate_append hfront' b
      · rw [hpieces, hpieces', hsplit', ← List.map_append, ← hfront]

/-! ## The last piece that counts -/

theorem ofPiece?_eq_none_iff {piece : List Char} :
    Component.ofPiece? piece = none ↔ isSilentPiece piece = true := by
  unfold Component.ofPiece? isSilentPiece
  split <;> simp_all

theorem ofPiece?_eq_normal {piece : List Char} {name : String} (hslash : '/' ∉ piece)
    (h : Component.ofPiece? piece = some (.normal name)) : piece = name.toList ∧ IsName name := by
  unfold Component.ofPiece? at h
  split at h
  · simp at h
  · simp at h
  · simp at h
  · next hempty hdot hdots =>
    obtain rfl : String.ofList piece = name := by simpa using h
    have hne : ∀ s : String, piece ≠ s.toList → String.ofList piece ≠ s := by
      rintro s hne rfl
      exact hne String.toList_ofList.symm
    rw [String.toList_ofList]
    exact ⟨rfl, hne "" hempty, hne "." hdot, hne ".." hdots, by rwa [String.toList_ofList]⟩

theorem fileName?_eq_some_iff {p : Path} {name : String} :
    p.fileName? = some name ↔
      ((splitAt '/' p.text.toList).filterMap Component.ofPiece?).getLast? =
        some (.normal name) := by
  have hfront : ∀ c, (if p.text.toList.head? = some '/' then [Component.root]
      else if (splitAt '/' p.text.toList).head? = some ['.'] then [.current] else []).getLast? =
        some c → ∀ n, c ≠ .normal n := by
    intro c hc n hn
    rw [hn] at hc
    split at hc
    · simp at hc
    · split at hc <;> simp at hc
  rw [fileName?, components_eq, List.getLast?_append]
  cases hlast : ((splitAt '/' p.text.toList).filterMap Component.ofPiece?).getLast? with
  | none =>
    rw [Option.none_or]
    split
    · next n hn => exact absurd rfl (hfront _ hn n)
    · simp
  | some c =>
    rw [Option.some_or]
    cases c <;> simp

/-- A file name is the last piece that counts. -/
theorem exists_splitAt_of_fileName? {p : Path} {name : String} (h : p.fileName? = some name) :
    ∃ before silent, splitAt '/' p.text.toList = before ++ name.toList :: silent ∧
      (∀ piece ∈ silent, isSilentPiece piece = true) ∧ IsName name := by
  rw [fileName?_eq_some_iff, List.getLast?_filterMap, List.findSome?_eq_some_iff] at h
  obtain ⟨after, piece, before, hsplit, hpiece, hafter⟩ := h
  have hmem : piece ∈ splitAt '/' p.text.toList := by
    rw [← List.mem_reverse, hsplit]
    simp
  obtain ⟨rfl, hname⟩ := ofPiece?_eq_normal (mem_splitAt hmem).1 hpiece
  refine ⟨before.reverse, after.reverse, ?_, fun q hq => ?_, hname⟩
  · rw [← List.reverse_inj, hsplit]
    simp
  · exact ofPiece?_eq_none_iff.1 (hafter q (List.mem_reverse.1 hq))

/-- The last piece that counts is the file name, if it can be a name. -/
theorem fileName?_of_piecesOf {p : Path} {before silent : List String} {name : String}
    (h : piecesOf p.text = before ++ name :: silent) (hname : IsName name)
    (hsilent : ∀ piece ∈ silent, piece = "" ∨ piece = ".") : p.fileName? = some name := by
  obtain ⟨lead, hsplit⟩ := exists_splitAt_eq p.text
  have hnone : (silent.map String.toList).filterMap Component.ofPiece? = [] := by
    rw [List.filterMap_eq_nil_iff]
    intro c hc
    obtain ⟨piece, hpiece, rfl⟩ := List.mem_map.1 hc
    rw [ofPiece?_eq_none_iff, isSilentPiece]
    rcases hsilent piece hpiece with rfl | rfl <;> rfl
  rw [fileName?_eq_some_iff, hsplit, h, List.map_append, List.map_cons, List.filterMap_append,
    List.filterMap_append, List.filterMap_cons, ofPiece?_name hname, hnone, List.getLast?_append,
    List.getLast?_append]
  rfl

/-! ## Another extension -/

theorem dropSilentEnd_append_cons {before silent : List (List Char)} {piece : List Char}
    (hpiece : isSilentPiece piece = false) (hsilent : ∀ q ∈ silent, isSilentPiece q = true)
    (front : Bool) : dropSilentEnd front (before ++ piece :: silent) = before ++ [piece] := by
  have hrev : (before ++ piece :: silent).reverse.dropWhile isSilentPiece =
      piece :: before.reverse := by
    have hall : ∀ q ∈ silent.reverse, isSilentPiece q = true := fun q hq =>
      hsilent q (List.mem_reverse.1 hq)
    rw [List.reverse_append, List.reverse_cons, List.append_assoc,
      List.dropWhile_append_of_pos hall, List.singleton_append,
      List.dropWhile_cons_of_neg (by simp [hpiece])]
  rw [dropSilentEnd, hrev, List.reverse_cons, List.reverse_reverse]
  cases before <;> rfl

/-- The path of some pieces, without those at the end that stand for nothing. -/
def ofPieces : List (List Char) → Path
  | [] :: rest => ⟨"/" ++ joinPieces (dropSilentEnd false rest)⟩
  | pieces => ⟨joinPieces (dropSilentEnd true pieces)⟩

/-- The path above a path is told by the pieces before the last one that counts. -/
theorem parent?_of_splitAt {p : Path} {before silent : List (List Char)} {piece : List Char}
    (h : splitAt '/' p.text.toList = before ++ piece :: silent)
    (hpiece : isSilentPiece piece = false) (hsilent : ∀ q ∈ silent, isSilentPiece q = true) :
    p.parent? = some (ofPieces before) := by
  have hne : piece ≠ [] := by
    rintro rfl
    simp [isSilentPiece] at hpiece
  rw [parent?, h]
  split
  · next first rest heq =>
    cases before with
    | nil => exact absurd (List.cons.inj heq).1 hne
    | cons b before =>
      rw [List.cons_append] at heq
      obtain ⟨rfl, hrest⟩ := List.cons.inj heq
      rw [← hrest, dropSilentEnd_append_cons hpiece hsilent]
      split
      · next hnil => simp at hnil
      · rw [List.dropLast_concat]
        rfl
  · next hrel =>
    rw [dropSilentEnd_append_cons hpiece hsilent]
    split
    · next hnil => simp at hnil
    · rw [List.dropLast_concat]
      cases before with
      | nil => rfl
      | cons b before =>
        cases b with
        | cons => rfl
        | nil =>
          have hne : before ++ piece :: silent ≠ [] := by simp
          obtain ⟨q, qs, hqs⟩ := List.exists_cons_of_ne_nil hne
          exact absurd (by rw [List.cons_append, hqs]) (hrel q qs)

/-- A name is its stem, or its stem, which is not empty, with an extension. -/
theorem splitName_cases (name : String) : (splitName name).1 = name ∨
    (splitName name).1 ≠ "" ∧
      ∃ e : String, '.' ∉ e.toList ∧ name = (splitName name).1 ++ "." ++ e := by
  rw [splitName, List.span_eq_takeWhile_dropWhile]
  split
  · next after before heq =>
    obtain ⟨hafter, hbefore⟩ := Prod.mk.inj heq
    by_cases hempty : before.isEmpty
    · simp [hempty]
    · rw [if_neg hempty]
      refine Or.inr ⟨by simpa using hempty, String.ofList after.reverse, ?_, ?_⟩
      · rw [String.toList_ofList, List.mem_reverse, ← hafter]
        intro hdot
        simpa using List.all_eq_true.1 List.all_takeWhile '.' hdot
      · rw [← String.toList_inj, ← List.reverse_inj]
        simp [← hbefore, ← hafter, List.takeWhile_append_dropWhile]
  · exact Or.inl rfl

theorem splitName_fst_subset (name : String) : (splitName name).1.toList ⊆ name.toList := by
  rcases splitName_cases name with h | ⟨-, e, -, h⟩
  · rw [h]
    exact fun c hc => hc
  · intro c hc
    rw [h]
    simp [hc]

/-- The stem of a name with an extension that has a dot in it is another name. -/
theorem splitName_fst_append_ne (name : String) {e : String} (he : '.' ∈ e.toList) :
    (splitName name).1 ++ "." ++ e ≠ name := by
  intro heq
  rcases splitName_cases name with h | ⟨-, f, hf, h⟩
  · rw [h] at heq
    have := congrArg String.length heq
    simp only [String.length_append] at this
    have hdot : ".".length = 1 := rfl
    omega
  · have hboth := heq.trans h
    rw [← String.toList_inj] at hboth
    simp only [String.toList_append, List.append_cancel_left_eq] at hboth
    exact hf (hboth ▸ he)

theorem isName_splitName_fst_append {name : String} (hname : IsName name) {e : String}
    (hslash : '/' ∉ e.toList) (hdot : '.' ∈ e.toList) :
    IsName ((splitName name).1 ++ "." ++ e) := by
  have hstem : (splitName name).1 ≠ "" := by
    rcases splitName_cases name with h | ⟨h, -⟩
    · rw [h]
      exact hname.1
    · exact h
  have hlong : 3 ≤ ((splitName name).1 ++ "." ++ e).length := by
    have h1 : 0 < (splitName name).1.toList.length := List.length_pos_iff.2 (by simpa using hstem)
    have h2 := List.length_pos_of_mem hdot
    have h3 : ".".length = 1 := rfl
    rw [String.length_toList] at h1 h2
    simp only [String.length_append]
    omega
  have hne : ∀ s : String, s.length < 3 → (splitName name).1 ++ "." ++ e ≠ s := by
    rintro s hs rfl
    omega
  refine ⟨hne "" (by decide), hne "." (by decide), hne ".." (by decide), ?_⟩
  rw [String.toList_append, String.toList_append, List.mem_append, List.mem_append, not_or, not_or]
  exact ⟨⟨fun h => hname.2.2.2 (splitName_fst_subset name h), by decide⟩, hslash⟩

/-- The pieces behind a slash at the front, or all pieces if there is none. -/
def behindFront : List (List Char) → List (List Char)
  | [] :: rest => rest
  | pieces => pieces

theorem piecesOf_of_splitAt {p : Path} {before after : List (List Char)} {piece : List Char}
    (h : splitAt '/' p.text.toList = before ++ piece :: after) (hpiece : piece ≠ []) :
    p.isAbsolute = (before.head? == some []) ∧
      piecesOf p.text = (behindFront before ++ piece :: after).map String.ofList := by
  by_cases hfront : before.head? = some []
  · obtain ⟨rest, rfl⟩ := List.head?_eq_some_iff.1 hfront
    rw [List.cons_append] at h
    exact piecesOf_absolute h (by simp)
  · have hbehind : behindFront before = before := by
      unfold behindFront
      split
      · simp at hfront
      · rfl
    have hrel : ∀ ps, ps ≠ [] → splitAt '/' p.text.toList ≠ [] :: ps := by
      intro ps _ hps
      rw [h] at hps
      cases before with
      | nil => exact hpiece (List.cons.inj hps).1
      | cons b rest => exact hfront (congrArg some (List.cons.inj hps).1)
    obtain ⟨habs, hpieces⟩ := piecesOf_relative hrel
    rw [hpieces, habs, hbehind, h]
    exact ⟨(beq_eq_false_iff_ne.2 hfront).symm, rfl⟩

/-- Two paths that differ in the last piece that counts, and in what stands behind it. -/
structure DiffersInName (p q : Path) (front : List String) (name other : String)
    (silent : List String) : Prop where
  pieces : piecesOf p.text = front ++ name :: silent
  silent : ∀ piece ∈ silent, piece = "" ∨ piece = "."
  pieces_other : piecesOf q.text = front ++ [other]
  isName : IsName name
  isName_other : IsName other
  ne : other ≠ name
  isAbsolute : q.isAbsolute = p.isAbsolute
  parent? : q.parent? = p.parent?

/-- A path with another extension differs from the path in its name. -/
theorem differsInName_withExtension {p : Path} {name e : String} (h : p.fileName? = some name)
    (hslash : '/' ∉ e.toList) (hdot : '.' ∈ e.toList) : ∃ front other silent,
      DiffersInName p (p.withExtension e) front name other silent := by
  obtain ⟨before, silent, hsplit, hsilent, hname⟩ := exists_splitAt_of_fileName? h
  have hother := isName_splitName_fst_append hname hslash hdot
  have hcounts : ∀ {n : String}, IsName n → isSilentPiece n.toList = false ∧ n.toList ≠ [] := by
    intro n hn
    have hsome := ofPiece?_name hn
    refine ⟨?_, by simpa using hn.1⟩
    rw [Bool.eq_false_iff, ne_eq, ← ofPiece?_eq_none_iff, hsome]
    simp
  have htext : (p.withExtension e).text =
      joinPieces (before ++ [((splitName name).1 ++ "." ++ e).toList]) := by
    rw [withExtension, h]
    simp only [hsplit, dropSilentEnd_append_cons (hcounts hname).1 hsilent, List.dropLast_concat]
  have hne := splitName_fst_append_ne name hdot
  generalize (splitName name).1 ++ "." ++ e = other at hother htext hne
  have hsplit' : splitAt '/' (p.withExtension e).text.toList = before ++ [other.toList] := by
    rw [htext, splitAt_joinPieces _ (by simp)]
    intro piece hpiece
    rcases List.mem_append.1 hpiece with hpiece | hpiece
    · exact (mem_splitAt (hsplit ▸ List.mem_append_left _ hpiece)).1
    · rw [List.mem_singleton.1 hpiece]
      exact hother.2.2.2
  obtain ⟨habs, hpieces⟩ := piecesOf_of_splitAt hsplit (hcounts hname).2
  obtain ⟨habs', hpieces'⟩ := piecesOf_of_splitAt hsplit' (hcounts hother).2
  refine ⟨(behindFront before).map String.ofList, other, silent.map String.ofList,
    ?_, ?_, ?_, hname, hother, hne, habs'.trans habs.symm, ?_⟩
  · rw [hpieces, List.map_append, List.map_cons, String.ofList_toList]
  · intro piece hpiece
    obtain ⟨q, hq, rfl⟩ := List.mem_map.1 hpiece
    have := hsilent q hq
    simpa [isSilentPiece, ← String.toList_inj] using this
  · rw [hpieces', List.map_append, List.map_cons, String.ofList_toList, List.map_nil]
  · rw [parent?_of_splitAt hsplit (hcounts hname).1 hsilent,
      parent?_of_splitAt hsplit' (hcounts hother).1 (by simp)]

/-- A path that ends in pieces that do not count ends in a slash or in dots. -/
theorem endsInSlash_or_endsInDots {p : Path} {front silent : List String} {name : String}
    (h : piecesOf p.text = front ++ name :: silent)
    (hsilent : ∀ piece ∈ silent, piece = "" ∨ piece = ".") (hne : silent ≠ []) :
    FileSystem.endsInSlash p = true ∨ FileSystem.endsInDots p = true := by
  obtain ⟨lead, hsplit⟩ := exists_splitAt_eq p.text
  obtain ⟨init, last, rfl⟩ := (List.eq_nil_or_concat silent).resolve_left hne
  rw [List.concat_eq_append] at h hsilent
  -- the text ends in the last of these pieces, and there are pieces before it
  obtain ⟨before, hbefore, hsplit⟩ : ∃ before, before ≠ [] ∧
      splitAt '/' p.text.toList = before ++ [last.toList] := by
    refine ⟨lead ++ (front ++ name :: init).map String.toList, by simp, ?_⟩
    rw [hsplit, h]
    simp
  rcases hsilent last (by simp) with rfl | rfl
  · left
    have htext : p.text.toList = ['/'].intercalate before ++ ['/'] := by
      rw [← intercalate_splitAt '/' p.text.toList, hsplit, intercalate_append hbefore (by simp)]
      rfl
    rw [FileSystem.endsInSlash, htext, List.getLast?_concat]
    rfl
  · right
    rw [FileSystem.endsInDots, hsplit, List.reverse_append]
    rfl

end Path

end ScriptCensus
