import ModelRepositories.Proofs.FileTree.Emptying
import ModelRepositories.Proofs.Text.Utf8

/-!
Writing a file into a directory that its path opens, reading a file back, and what becomes of a path
that starts at a removed directory: nothing can be made, emptied or written over it.
-/

namespace ModelRepositories.FileTree

open ModelRepositories.Path

section Entry

variable {tree : FileTree} {path : Path} {front : List String} {name : String}

theorem isEmpty_of_steps (steps : path.steps = front ++ [name]) : path.isEmpty = false := by
  rw [Bool.eq_false_iff]
  intro empty
  have blank : path.text = "" := by simpa [Path.isEmpty] using empty
  simp [Path.steps, Path.endsInSlash, Path.pieces, blank, split, Text.splitWhere] at steps

theorem resolve_entry (passed : path.check = .ok ()) (steps : path.steps = front ++ [name])
    (opens : tree.Opens (tree.start path) (proper front)) (called : isName name = true)
    (unlinked : ∀ target,
      tree.get? ((tree.start path).place ++ proper front ++ [name]) ≠ some (.link target)) :
    tree.resolve path =
      if maxNameBytes < name.utf8ByteSize then .error .nameTooLong
      else if (tree.get? ((tree.start path).place ++ proper front ++ [name])).isSome then
        .ok (.present ((tree.start path).place ++ proper front ++ [name]))
      else .ok (.absent ((tree.start path).place ++ proper front ++ [name])) := by
  obtain ⟨-, -, notHere, notAbove⟩ := isName_iff.mp called
  have resolved := resolveNames_opens opens [name]
  rw [resolve, passed, isEmpty_of_steps steps, steps]
  refine Eq.trans resolved ?_
  rw [follow, walk]
  simp only [opens.directory, notHere, notAbove, Bool.not_true, Bool.false_eq_true, if_false]
  by_cases long : maxNameBytes < name.utf8ByteSize
  · rw [if_pos long, if_pos long]
  · rw [if_neg long, if_neg long]
    cases found : tree.get? ((tree.start path).place ++ proper front ++ [name]) with
    | none => rfl
    | some entry =>
      cases entry with
      | directory => rfl
      | file content => rfl
      | link target => exact absurd found (unlinked target)

theorem write_entry (passed : path.check = .ok ()) (steps : path.steps = front ++ [name])
    (opens : tree.Opens (tree.start path) (proper front)) (called : isName name = true)
    (unlinked : ∀ target,
      tree.get? ((tree.start path).place ++ proper front ++ [name]) ≠ some (.link target))
    (content : ByteArray) :
    tree.write path content =
      if maxNameBytes < name.utf8ByteSize then .error .nameTooLong
      else if tree.isDirectory ((tree.start path).place ++ proper front ++ [name]) then
        .error .isDirectory
      else .ok (tree.put ((tree.start path).place ++ proper front ++ [name]) (.file content)) := by
  rw [write, resolve_entry passed steps opens called unlinked]
  by_cases long : maxNameBytes < name.utf8ByteSize
  · rw [if_pos long, if_pos long]
    rfl
  · rw [if_neg long, if_neg long]
    cases found : tree.get? ((tree.start path).place ++ proper front ++ [name]) with
    | none =>
      have free : tree.isDirectory ((tree.start path).place ++ proper front ++ [name]) = false := by
        rw [isDirectory, found]
      rw [free]
      rfl
    | some entry => rfl

theorem check_of_write {content : ByteArray} {after : FileTree}
    (wrote : tree.write path content = .ok after) : path.check = .ok () := by
  cases checked : path.check with
  | error fault =>
    rw [write, resolve, checked] at wrote
    cases wrote
  | ok => rfl

end Entry

theorem readText_of_resolve {tree : FileTree} {path : Path} {place : Location} {text : String}
    (resolved : tree.resolve path = .ok (.present place))
    (file : tree.get? place = some (.file text.toUTF8)) : tree.readText path = .ok text := by
  rw [readText, resolved]
  simp only [bind, Except.bind, file, Text.fromUTF8?_toUTF8]
  rfl

section Stranded

variable {tree : FileTree} {start : Start} {path : Path}

theorem surface_stranded {removed : Nat} {pieces : List String} (climbless : ".." ∉ pieces) :
    surface (removed + 1) pieces = .ok none ∨ surface (removed + 1) pieces = .error .notFound := by
  induction pieces with
  | nil => exact Or.inl rfl
  | cons name rest ih =>
    have onward : ".." ∉ rest := fun member => climbless (List.mem_cons_of_mem name member)
    have notAbove : name ≠ ".." := by
      rintro rfl
      exact climbless (by simp)
    by_cases idle : name = "."
    · simpa [surface, idle] using ih onward
    · exact Or.inr (by simp [surface, idle, notAbove])

theorem resolveNames_stranded (tree : FileTree) (gone : 0 < start.removed) {pieces : List String}
    (climbless : ".." ∉ pieces) :
    tree.resolveNames start pieces = .ok .removed ∨
      tree.resolveNames start pieces = .error .notFound := by
  obtain ⟨removed, deep⟩ := Nat.exists_eq_succ_of_ne_zero (Nat.ne_of_gt gone)
  rw [resolveNames, deep]
  rcases surface_stranded climbless with removed | fault
  · rw [removed]
    exact Or.inl rfl
  · rw [fault]
    exact Or.inr rfl

theorem makeDirectory_stranded (tree : FileTree) (gone : 0 < start.removed) {pieces : List String}
    (climbless : ".." ∉ pieces) (made : FileTree) :
    tree.makeDirectory start pieces ≠ .ok made := by
  intro done
  cases vacant : tree.vacancy start pieces with
  | error fault =>
    rw [makeDirectory, vacant] at done
    cases done
  | ok place =>
    obtain ⟨front, name, dir, rfl, resolved, -⟩ := vacancy_ok vacant
    have above : ".." ∉ front ++ ["."] := by simpa using fun member => climbless (by simp [member])
    rcases resolveNames_stranded tree gone above with removed | fault
    · rw [removed] at resolved
      cases resolved
    · rw [fault] at resolved
      cases resolved

theorem makeDirectories_stranded (gone : 0 < (tree.start path).removed)
    (climbless : ".." ∉ path.names) : (tree.makeDirectories path).1 = tree := by
  have pieces := climbless_pieces climbless
  rw [makeDirectories_eq]
  split
  · rfl
  · split
    · rfl
    · refine @makeChain_relates (fun before after => after = before) (fun _ => rfl)
        (fun first second => second.trans first) _ _ _ ?_
      intro reached _ way member made done
      have climbs : ".." ∉ way := by
        rcases List.mem_cons.mp member with rfl | above
        · exact pieces
        · exact fun climbs => pieces ((mem_above above).1 ".." climbs)
      exact absurd done (makeDirectory_stranded reached gone climbs made)

theorem resolve_stranded (gone : 0 < (tree.start path).removed) (climbless : ".." ∉ path.names) :
    tree.resolve path = .ok .removed ∨ ∃ fault, tree.resolve path = .error fault := by
  have steps : ".." ∉ path.steps := by
    unfold Path.steps
    split
    · simpa using climbless_pieces climbless
    · exact climbless_pieces climbless
  rw [resolve]
  cases checked : path.check with
  | error fault => exact Or.inr ⟨fault, rfl⟩
  | ok =>
    by_cases empty : path.isEmpty = true
    · exact Or.inr ⟨.notFound, by simp [empty, bind, Except.bind]⟩
    · rcases resolveNames_stranded tree gone steps with removed | fault
      · exact Or.inl (by simp [empty, removed, bind, Except.bind])
      · exact Or.inr ⟨.notFound, by simp [empty, fault, bind, Except.bind]⟩

theorem emptyDirectory_stranded (gone : 0 < (tree.start path).removed)
    (climbless : ".." ∉ path.names) : (tree.emptyDirectory path).1 = tree := by
  rcases resolve_stranded gone climbless with removed | ⟨fault, refused⟩
  · have listed : tree.listDirectory path = .ok [] := by
      rw [listDirectory, removed]
      rfl
    rw [emptyDirectory_eq, listed]
    rfl
  · have listed : tree.listDirectory path = .error fault := by
      rw [listDirectory, refused]
      rfl
    rw [emptyDirectory_eq, listed]

theorem write_stranded (gone : 0 < (tree.start path).removed) (climbless : ".." ∉ path.names)
    (content : ByteArray) : ∃ fault, tree.write path content = .error fault := by
  rcases resolve_stranded gone climbless with removed | ⟨fault, refused⟩
  · exact ⟨.isDirectory, by rw [write, removed]; rfl⟩
  · exact ⟨fault, by rw [write, refused]; rfl⟩

end Stranded

end ModelRepositories.FileTree
