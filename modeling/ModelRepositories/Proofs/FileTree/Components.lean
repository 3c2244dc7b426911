import ModelRepositories.Proofs.FileTree.PathNames

/-!
What paths are compared by: how they begin and the names they go through. A name that is joined to a
path comes behind all that it consists of, and what is above the name consists of just that.
-/

namespace ModelRepositories.Path

/-- The slash or the `.` that the path begins with, if it does, and its names. Two paths that
consist of the same are one path. -/
def components (path : Path) : List String :=
  let start := (lead path.text.toList).1
  (if start = "" then [] else [start]) ++ path.names

theorem lead_busy {piece : String} (free : '/' ∉ piece.toList) (busy : isIdle piece = false) :
    lead piece.toList = ("", piece.toList) := by
  have notHere : piece.toList ≠ ['.'] := by
    intro dot
    rw [String.toList_inj.mp (dot.trans (by rfl : ['.'] = ".".toList))] at busy
    cases busy
  generalize piece.toList = text at free notHere
  fun_cases lead text with
  | case1 rest => simp at free
  | case2 => exact absurd rfl notHere
  | case3 rest => simp at free
  | case4 => rfl

theorem lead_slash {front : String} (written : front ≠ "") (rest : String) :
    (lead (front ++ "/" ++ rest).toList).1 = (lead front.toList).1 := by
  have nonempty : front.toList ≠ [] := by simpa using written
  rw [String.toList_append, String.toList_append, List.append_assoc,
    show "/".toList ++ rest.toList = '/' :: rest.toList from rfl, lead_append nonempty]

theorem lead_trim (text : List Char) : (lead (trim text).text.toList).1 = (lead text).1 := by
  rw [trim]
  fun_cases lead text with
  | case1 rest => simp [lead]
  | case2 => decide
  | case3 rest =>
    simp only [split_slash, dropIdle_cons]
    split
    · decide
    · next busy =>
      have below : dropIdle (split rest) ≠ [] := fun idle => busy ⟨idle, by decide⟩
      rw [String.intercalate_cons_of_ne_nil below, String.empty_append, ← String.append_assoc,
        lead_slash (by decide)]
      decide
  | case4 text noSlash noDot noDotSlash =>
    cases text with
    | nil => rfl
    | cons c rest =>
      have apart : c ≠ '/' := by
        rintro rfl
        exact noSlash rest rfl
      obtain ⟨piece, pieces, after, names, busy, first⟩ := dropIdle_split apart noDot noDotSlash
      have member : piece ∈ split (c :: rest) := mem_of_mem_dropIdle (names ▸ List.mem_cons_self)
      have start : (lead piece.toList).1 = "" := by
        rw [lead_busy (free_of_mem_split member) busy]
      rw [names, String.empty_append]
      cases pieces with
      | nil => rwa [String.intercalate_singleton]
      | cons next pieces =>
        have opened : piece ≠ "" := by
          rintro rfl
          cases first
        rw [String.intercalate_cons_of_ne_nil (by simp), lead_slash opened, start]

theorem components_trim (text : List Char) :
    (trim text).components = (Path.mk (String.ofList text)).components := by
  simp only [components, lead_trim, names_trim, String.toList_ofList]

theorem components_slash {front : String} (written : front ≠ "") (rest : String) :
    (Path.mk (front ++ "/" ++ rest)).components =
      (Path.mk front).components ++ (Path.mk rest).names := by
  simp only [components, lead_slash written, names_slash, List.append_assoc]

section Name

variable {name : String} (proper : isName name = true)
include proper

theorem names_of_isName : (Path.mk name).names = [name] := by
  obtain ⟨-, -, notHere, -⟩ := isName_iff.mp proper
  rw [names, pieces_of_isName proper, proper_cons notHere, proper_nil]

theorem lead_of_isName : lead name.toList = ("", name.toList) := by
  obtain ⟨present, free, notHere, -⟩ := isName_iff.mp proper
  exact lead_busy free (by simp [isIdle, present, notHere])

theorem components_of_isName : (Path.mk name).components = [name] := by
  simp [components, lead_of_isName proper, names_of_isName proper]

theorem parent?_of_isName : (Path.mk name).parent? = some ⟨""⟩ := by
  obtain ⟨-, free, -, -⟩ := isName_iff.mp proper
  have alone : dropIdle (split name.toList) = [name] := by
    rw [split_of_free free, String.ofList_toList]
    exact dropIdle_append proper []
  simp only [parent?, lead_of_isName proper]
  rw [alone]
  rfl

theorem join_cases (left : Path) :
    left = ⟨""⟩ ∧ left.join ⟨name⟩ = ⟨name⟩ ∨
    left = ⟨"/"⟩ ∧ left.join ⟨name⟩ = ⟨"" ++ "/" ++ name⟩ ∨
    ∃ start, start ≠ "" ∧ left.components = (Path.mk start).components ∧
      left.join ⟨name⟩ = ⟨start ++ "/" ++ name⟩ := by
  rcases left with ⟨left⟩
  by_cases nameless : left = ""
  · refine Or.inl ⟨by rw [nameless], ?_⟩
    simp [join, isAbsolute_of_isName proper, nameless, isEmpty]
  · have written : (Path.mk left).isEmpty = false := by simpa [isEmpty] using nameless
    obtain ⟨start, shape, joined⟩ := join_eq written
    refine Or.inr ?_
    rw [joined _ (isAbsolute_of_isName proper)]
    by_cases root : start = ""
    · rcases shape with ⟨-, unrooted⟩ | ending
      · exact absurd root unrooted
      · refine Or.inl ⟨?_, by rw [root]⟩
        rw [mk.injEq]
        simpa [root] using ending
    · refine Or.inr ⟨start, root, ?_, rfl⟩
      rcases shape with ⟨whole, -⟩ | ending
      · exact congrArg (Path.components ⟨·⟩) whole
      · have behind := components_slash root ""
        rw [String.append_empty, show (Path.mk "").names = [] by decide, List.append_nil] at behind
        rw [← behind]
        exact congrArg (Path.components ⟨·⟩) ending

theorem components_join (left : Path) :
    (left.join ⟨name⟩).components = left.components ++ [name] := by
  rcases join_cases proper left with ⟨rfl, joined⟩ | ⟨rfl, joined⟩ | ⟨start, opened, same, joined⟩
  · rw [joined, components_of_isName proper]
    rfl
  · have root : (lead ("" ++ "/" ++ name).toList).1 = "/" := by simp [lead]
    rw [joined, components, root, names_slash, names_of_isName proper]
    rfl
  · rw [joined, components_slash opened, names_of_isName proper, same]

theorem components_parent (left : Path) :
    ∃ parent, (left.join ⟨name⟩).parent? = some parent ∧ parent.components = left.components := by
  rcases join_cases proper left with ⟨rfl, joined⟩ | ⟨rfl, joined⟩ | ⟨start, opened, same, joined⟩
  · exact ⟨⟨""⟩, by rw [joined, parent?_of_isName proper], rfl⟩
  · exact ⟨⟨"/"⟩, by rw [joined, parent?_root proper], rfl⟩
  · refine ⟨trim start.toList, by rw [joined, parent?_slash opened proper], ?_⟩
    rw [components_trim, String.ofList_toList, same]

theorem join_slash (left : Path) {dir : String} (holder : isName dir = true) :
    left.join ⟨dir ++ "/" ++ name⟩ = (left.join ⟨dir⟩).join ⟨name⟩ := by
  obtain ⟨present, -, -, -⟩ := isName_iff.mp holder
  have next (front : String) :
      (Path.mk (front ++ dir)).join ⟨name⟩ = ⟨front ++ (dir ++ "/" ++ name)⟩ := by
    simp [join, isAbsolute_of_isName proper, endsInSlash_of_isName front holder, isEmpty, present,
      String.append_assoc]
  simp only [join.eq_1 left, isAbsolute_slash holder, isAbsolute_of_isName holder]
  split
  · cases ‹false = true›
  · split
    · exact (next left.text).symm
    · exact (next (left.text ++ "/")).symm

end Name

end ModelRepositories.Path
