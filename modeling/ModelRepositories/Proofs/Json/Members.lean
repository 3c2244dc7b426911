import ModelRepositories.Json.Value

/-!
The members that a reader keeps. They stay sorted by key however they arrive, and of two members of
the same key the later one is there.
-/

namespace ModelRepositories.Json.Members

def Sorted (members : Members) : Prop :=
  List.Pairwise (fun left right => left.1 < right.1) members

variable {key name : String} {value : Value} {members : Members} {member : String × Value}

theorem mem_put (present : member ∈ members.put key value) :
    member = (key, value) ∨ member ∈ members := by
  induction members with
  | nil => exact Or.inl (List.mem_singleton.mp present)
  | cons other members ih =>
    obtain ⟨there, held⟩ := other
    unfold put at present
    split at present
    · exact List.mem_cons.mp present
    split at present
    · rcases List.mem_cons.mp present with same | member
      · exact Or.inl same
      · exact Or.inr (List.mem_cons_of_mem _ member)
    · rcases List.mem_cons.mp present with same | member
      · exact Or.inr (same ▸ List.mem_cons_self)
      · exact (ih member).imp_right (List.mem_cons_of_mem _)

theorem sorted_put (sorted : members.Sorted) : (members.put key value).Sorted := by
  induction members with
  | nil => exact List.pairwise_singleton _ _
  | cons other members ih =>
    obtain ⟨there, held⟩ := other
    obtain ⟨least, sorted⟩ := List.pairwise_cons.mp sorted
    unfold put
    split
    · next before =>
      refine List.pairwise_cons.mpr ⟨fun other member => ?_, List.pairwise_cons.mpr ⟨least, sorted⟩⟩
      rcases List.mem_cons.mp member with rfl | member
      · exact before
      · exact String.lt_trans before (least other member)
    split
    · next same =>
      exact List.pairwise_cons.mpr ⟨fun other member => same ▸ least other member, sorted⟩
    · next behind other =>
      have after : there < key := by
        rcases String.le_total there key with le | le
        · refine String.not_le.mp fun ge => other (String.le_antisymm ge le)
        · exact absurd (String.le_antisymm (String.not_lt.mp behind) le).symm other
      refine List.pairwise_cons.mpr ⟨fun another member => ?_, ih sorted⟩
      rcases mem_put member with rfl | member
      · exact after
      · exact least another member

theorem put_last (last : ∀ member ∈ members, member.1 < key) :
    members.put key value = members ++ [(key, value)] := by
  induction members with
  | nil => rfl
  | cons other members ih =>
    obtain ⟨there, held⟩ := other
    have before : there < key := last (there, held) List.mem_cons_self
    have other : key ≠ there := by
      rintro rfl
      exact String.lt_irrefl key before
    have later := ih fun member present => last member (List.mem_cons_of_mem _ present)
    unfold put
    rw [if_neg (String.lt_asymm before), if_neg other, later]
    rfl

theorem get?_cons (members : Members) (key : String) (value : Value) (name : String) :
    get? name ((key, value) :: members) = if name = key then some value else members.get? name := by
  unfold get?
  rw [List.lookup_cons]
  by_cases same : name = key
  · rw [if_pos same, beq_iff_eq.mpr same]
  · rw [if_neg same, beq_eq_false_iff_ne.mpr same]

theorem get?_eq_none (absent : key ∉ members.map Prod.fst) : members.get? key = none := by
  induction members with
  | nil => rfl
  | cons member members ih =>
    obtain ⟨other, value⟩ := member
    obtain ⟨away, absent⟩ := not_or.mp (mt List.mem_cons.mpr absent)
    rw [get?_cons, if_neg away, ih absent]

theorem get?_put (members : Members) (key : String) (value : Value) (name : String) :
    (members.put key value).get? name = if name = key then some value else members.get? name := by
  induction members with
  | nil => exact get?_cons [] key value name
  | cons other members ih =>
    obtain ⟨there, held⟩ := other
    unfold put
    split
    · exact get?_cons _ key value name
    split
    · next same =>
      subst same
      rw [get?_cons, get?_cons]
      by_cases here : name = key
      · rw [if_pos here, if_pos here]
      · rw [if_neg here, if_neg here, if_neg here]
    · next behind other =>
      rw [get?_cons, get?_cons, ih]
      by_cases here : name = there
      · have away : name ≠ key := fun same => other (same.symm.trans here)
        rw [if_pos here, if_neg away, if_pos here]
      · rw [if_neg here, if_neg here]

end ModelRepositories.Json.Members
