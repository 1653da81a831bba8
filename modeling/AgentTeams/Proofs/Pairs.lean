import Mathlib.Data.List.Permutation

/-! Pairs: two elements of a list, by their places in it. -/
namespace AgentTeams

variable {list : List α} {first second : α}

/-- Two elements make a sublist if one stands somewhere before the other. -/
theorem pair_sublist_iff : [first, second].Sublist list ↔
    ∃ i j : Nat, i < j ∧ list[i]? = some first ∧ list[j]? = some second := by
  constructor
  · have places : list.Pairwise fun one other =>
        ∃ i j : Nat, i < j ∧ list[i]? = some one ∧ list[j]? = some other := by
      refine List.pairwise_iff_getElem.mpr ?_
      intro i j inside insideToo before
      exact ⟨i, j, before, List.getElem?_eq_getElem inside, List.getElem?_eq_getElem insideToo⟩
    exact List.pairwise_iff_forall_sublist.mp places
  · rintro ⟨i, j, before, here, there⟩
    obtain ⟨inside, rfl⟩ := List.getElem?_eq_some_iff.mp here
    obtain ⟨insideToo, rfl⟩ := List.getElem?_eq_some_iff.mp there
    have pairs : list.Pairwise fun one other => [one, other].Sublist list :=
      List.pairwise_iff_forall_sublist.mpr id
    exact List.pairwise_iff_getElem.mp pairs i j inside insideToo before

/-- Two elements are among those of a list, as often as they are two, if they have two places. -/
theorem pair_subperm_iff : [first, second].Subperm list ↔
    ∃ i j : Nat, i ≠ j ∧ list[i]? = some first ∧ list[j]? = some second := by
  constructor
  · rintro ⟨chosen, same, within⟩
    rcases List.perm_pair.mp same with rfl | rfl
    · obtain ⟨i, j, before, here, there⟩ := pair_sublist_iff.mp within
      exact ⟨i, j, Nat.ne_of_lt before, here, there⟩
    · obtain ⟨i, j, before, here, there⟩ := pair_sublist_iff.mp within
      exact ⟨j, i, Nat.ne_of_gt before, there, here⟩
  · rintro ⟨i, j, apart, here, there⟩
    rcases Nat.lt_or_gt_of_ne apart with before | after
    · exact (pair_sublist_iff.mpr ⟨i, j, before, here, there⟩).subperm
    · have swapped := pair_sublist_iff.mpr ⟨j, i, after, there, here⟩
      exact (List.Perm.swap second first []).subperm.trans swapped.subperm

theorem pair_sublist_filter_iff {keep : α → Bool} : [first, second].Sublist (list.filter keep) ↔
    [first, second].Sublist list ∧ keep first = true ∧ keep second = true := by
  constructor
  · intro within
    have passed (one : α) (member : one ∈ [first, second]) : keep one = true :=
      (List.mem_filter.mp (within.subset member)).2
    exact ⟨within.trans List.filter_sublist, passed first (by simp), passed second (by simp)⟩
  · rintro ⟨within, passed, passedToo⟩
    simpa [passed, passedToo] using within.filter keep

end AgentTeams
