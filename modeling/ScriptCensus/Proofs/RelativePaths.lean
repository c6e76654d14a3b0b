import ScriptCensus.Discovery
import ScriptCensus.Proofs.IgnoreLists
import ScriptCensus.Proofs.PathPieces

/-!
# The paths of locations

A scan asks the rules about the path of a location, which is its names with slashes between them.
The names can be read off the path again (`Discovery.splitAt_relativePath`), the path above it is
that of the location above it (`Discovery.parent?_relativePath`), and under an absolute root all of
it is matched (`Discovery.matchedPart_relativePath`).
-/

namespace ScriptCensus.Discovery

open IgnoreList (matchedPart)

theorem toList_relativePath (l : Location) :
    (relativePath l).text.toList = ['/'].intercalate (l.map String.toList) := by
  rw [relativePath, String.toList_intercalate]
  rfl

/-- What is below a location has a path inside the path of the location. -/
theorem relativePath_append {above more : Location} (habove : above ≠ []) (hmore : more ≠ []) :
    relativePath (above ++ more) =
      ⟨(relativePath above).text ++ "/" ++ (relativePath more).text⟩ := by
  refine Path.eq_of_toList ?_
  simp only [String.toList_append, toList_relativePath, List.map_append]
  rw [intercalate_append (by simpa using habove) (by simpa using hmore)]
  simp

theorem relativePath_singleton (name : String) : relativePath [name] = ⟨name⟩ := by
  refine Path.eq_of_toList ?_
  simp [toList_relativePath]

theorem splitAt_relativePath {l : Location} (hne : l ≠ []) (hl : ∀ name ∈ l, '/' ∉ name.toList) :
    splitAt '/' (relativePath l).text.toList = l.map String.toList := by
  rw [toList_relativePath]
  refine splitAt_intercalate ?_ (by simpa using hne)
  simpa using hl

theorem length_splitAt_le (cs : List Char) : (splitAt '/' cs).length ≤ cs.length + 1 := by
  induction cs with
  | nil => simp [splitAt]
  | cons c cs ih =>
    obtain ⟨piece, pieces, hpieces⟩ := List.exists_cons_of_ne_nil (splitAt_ne_nil '/' cs)
    rw [hpieces, List.length_cons] at ih
    rw [splitAt, hpieces]
    by_cases hc : c = '/'
    · simp only [hc, if_true, List.length_cons]
      omega
    · simp only [hc, if_false, List.length_cons]
      omega

theorem length_le_length_relativePath {l : Location} (h : ∀ name ∈ l, '/' ∉ name.toList) :
    l.length ≤ (relativePath l).text.length + 1 := by
  cases l with
  | nil => simp
  | cons name more =>
    have hle := length_splitAt_le (relativePath (name :: more)).text.toList
    rw [splitAt_relativePath (List.cons_ne_nil name more) h, List.length_map,
      String.length_toList] at hle
    exact hle

theorem map_toList_injective {l l' : Location} (h : l.map String.toList = l'.map String.toList) :
    l = l' :=
  List.map_inj_right (fun _ _ => String.toList_inj.1) |>.1 h

/-- Names without slashes that have the same path are the same. -/
theorem relativePath_injective {l l' : Location} (hne : l ≠ []) (hne' : l' ≠ [])
    (hl : ∀ name ∈ l, '/' ∉ name.toList) (hl' : ∀ name ∈ l', '/' ∉ name.toList)
    (h : relativePath l = relativePath l') : l = l' := by
  refine map_toList_injective ?_
  rw [← splitAt_relativePath hne hl, ← splitAt_relativePath hne' hl', h]

/-- A slash in the path of a location stands between the paths of two parts of it. -/
theorem exists_append_of_relativePath_eq {l : Location} (hne : l ≠ [])
    (hl : ∀ name ∈ l, '/' ∉ name.toList) {d q : String}
    (h : (relativePath l).text = d ++ "/" ++ q) :
    ∃ above more, l = above ++ more ∧ above ≠ [] ∧ more ≠ [] ∧ d = (relativePath above).text := by
  have hsplit := splitAt_relativePath hne hl
  have htext : (relativePath l).text.toList = d.toList ++ '/' :: q.toList := by
    rw [h]
    simp
  rw [htext, splitAt_append_cons] at hsplit
  obtain ⟨above, more, rfl, habove, hmore⟩ := List.map_eq_append_iff.1 hsplit.symm
  refine ⟨above, more, rfl, ?_, ?_, ?_⟩
  · rintro rfl
    exact splitAt_ne_nil '/' d.toList habove.symm
  · rintro rfl
    exact splitAt_ne_nil '/' q.toList hmore.symm
  · rw [← String.toList_inj, toList_relativePath, habove, intercalate_splitAt]

theorem isSilentPiece_of_isName {name : String} (h : Path.IsName name) :
    Path.isSilentPiece name.toList = false := by
  rw [Bool.eq_false_iff]
  intro hsilent
  rw [← Path.ofPiece?_eq_none_iff, Path.ofPiece?_name h] at hsilent
  simp at hsilent

theorem ofPieces_names {l : Location} (h : ∀ name ∈ l, Path.IsName name) :
    Path.ofPieces (l.map String.toList) = relativePath l := by
  have hrelative : Path.ofPieces (l.map String.toList) =
      ⟨Path.joinPieces (Path.dropSilentEnd true (l.map String.toList))⟩ := by
    cases l with
    | nil => rfl
    | cons name more =>
      obtain ⟨c, cs, hcs⟩ := List.exists_cons_of_ne_nil (show name.toList ≠ [] by
        simpa using (h name (by simp)).1)
      rw [List.map_cons, hcs]
      rfl
  have hkept : Path.dropSilentEnd true (l.map String.toList) = l.map String.toList := by
    rcases l.eq_nil_or_concat with rfl | ⟨before, last, rfl⟩
    · rfl
    · have hlast := isSilentPiece_of_isName (h last (by simp))
      rw [List.concat_eq_append, List.map_append]
      exact Path.dropSilentEnd_append_cons hlast (by simp) true
  refine Path.eq_of_toList ?_
  rw [hrelative, hkept, Path.toList_joinPieces, toList_relativePath]

/-- The path above the path of a location. -/
theorem parent?_relativePath {above : Location} {name : String}
    (h : ∀ n ∈ above ++ [name], Path.IsName n) :
    (relativePath (above ++ [name])).parent? = some (relativePath above) := by
  have hsplit : splitAt '/' (relativePath (above ++ [name])).text.toList =
      above.map String.toList ++ name.toList :: [] := by
    rw [splitAt_relativePath (by simp) fun n hn => (h n hn).2.2.2]
    simp
  have hname := isSilentPiece_of_isName (h name (by simp))
  rw [Path.parent?_of_splitAt hsplit hname (by simp), ofPieces_names]
  exact fun n hn => h n (List.mem_append_left _ hn)

theorem withoutDot_relativePath {l : Location} (h : ∀ name ∈ l, Path.IsName name) :
    (relativePath l).withoutDot = relativePath l := by
  unfold Path.withoutDot
  cases hdrop : IgnoreList.dropFront? "./" (relativePath l) with
  | none => rfl
  | some q =>
    -- then the first name would be a dot
    rw [IgnoreList.dropFront?_eq_some_iff] at hdrop
    cases l with
    | nil => simp [toList_relativePath] at hdrop
    | cons name more =>
      have hsplit := splitAt_relativePath (List.cons_ne_nil name more) fun n hn => (h n hn).2.2.2
      have hdot : splitAt '/' ("./".toList ++ q.text.toList) = ['.'] :: splitAt '/' q.text.toList :=
        splitAt_append_cons '/' ['.'] q.text.toList
      rw [hdrop, hdot, List.map_cons] at hsplit
      have hname : name.toList = ".".toList := (List.cons.inj hsplit).1.symm
      exact absurd (String.toList_inj.1 hname) (h name (by simp)).2.1

/-- Under an absolute root, all of the path of a location is matched. -/
theorem matchedPart_relativePath {root : Path} (hroot : root.isAbsolute = true) {l : Location}
    (h : ∀ name ∈ l, Path.IsName name) : matchedPart root (relativePath l) = relativePath l := by
  have hrelative : (relativePath l).withoutDot.isAbsolute = false :=
    IgnoreList.withoutDot_isAbsolute (Path.isTidy_intercalate h)
  rw [IgnoreList.matchedPart_of_not_swallows hrelative
    (IgnoreList.not_swallows_of_absolute hroot hrelative), withoutDot_relativePath h]

end ScriptCensus.Discovery
