import AgentTeams.Sorted
import Mathlib.Data.List.Sort

/-! Sets and maps over strings: each is determined by what it contains, and a list that ascends
already comes to the set of its elements. -/
namespace AgentTeams

variable {entries left right : List (String × α)} {key : String} {value : α}

theorem Ascending.nodup_keys (ascending : Ascending entries) : (entries.map (·.1)).Nodup :=
  List.pairwise_map.mpr (ascending.imp Std.ne_of_lt)

theorem lookup_eq_some_iff_mem (distinct : (entries.map (·.1)).Nodup) :
    entries.lookup key = some value ↔ (key, value) ∈ entries := by
  induction entries with
  | nil => simp
  | cons entry rest ih =>
    obtain ⟨first, old⟩ := entry
    obtain ⟨new, later⟩ := List.nodup_cons.mp distinct
    rw [lookup_cons_eq_ite, List.mem_cons, ← ih later]
    by_cases same : key = first
    · subst same
      have gone : rest.lookup key ≠ some value := by
        rw [Ne, ih later]
        exact fun member => new (List.mem_map.mpr ⟨_, member, rfl⟩)
      simp [gone, eq_comm]
    · simp [same]

theorem lookup_reverse (distinct : (entries.map (·.1)).Nodup) (key : String) :
    entries.reverse.lookup key = entries.lookup key := by
  apply Option.ext
  intro value
  have turned : (entries.reverse.map (·.1)).Nodup := by
    simpa using distinct
  rw [lookup_eq_some_iff_mem turned, lookup_eq_some_iff_mem distinct, List.mem_reverse]

theorem Ascending.eq_of_lookup (ascending : Ascending left) (other : Ascending right)
    (same : ∀ key, left.lookup key = right.lookup key) : left = right := by
  have : Std.Irrefl fun before after : String × α => before.1 < after.1 :=
    ⟨fun _ => Std.lt_irrefl⟩
  have : Std.Antisymm fun before after : String × α => before.1 < after.1 :=
    ⟨fun _ _ less greater => (Std.not_gt_of_lt less greater).elim⟩
  refine ascending.eq_of_mem_iff other ?_
  rintro ⟨key, value⟩
  rw [← lookup_eq_some_iff_mem ascending.nodup_keys, same,
    lookup_eq_some_iff_mem other.nodup_keys]

theorem putByKey_of_above {key : α → String} {item : α} {items : List α}
    (above : ∀ other ∈ items, key other < key item) :
    putByKey key item items = items ++ [item] := by
  induction items with
  | nil => rfl
  | cons other rest ih =>
    obtain ⟨here, later⟩ := List.forall_mem_cons.mp above
    unfold putByKey
    rw [if_neg (Std.not_gt_of_lt here), if_neg (Std.ne_of_lt here).symm, ih later,
      List.cons_append]

theorem StringMap.ext_get? {left right : StringMap α}
    (same : ∀ key, left.get? key = right.get? key) : left = right :=
  StringMap.ext (left.ascending.eq_of_lookup right.ascending same)

namespace StringSet

theorem ext_mem {left right : StringSet} (same : ∀ element, element ∈ left ↔ element ∈ right) :
    left = right :=
  StringSet.ext (left.ascending.eq_of_mem_iff right.ascending same)

theorem mem_foldl_insert {elements : List String} {set : StringSet} {element : String} :
    element ∈ elements.foldl insert set ↔ element ∈ set ∨ element ∈ elements := by
  induction elements generalizing set with
  | nil => simp
  | cons head rest ih =>
    rw [List.foldl_cons, ih, mem_insert, List.mem_cons]
    tauto

@[simp] theorem mem_ofList {elements : List String} {element : String} :
    element ∈ ofList elements ↔ element ∈ elements := by
  unfold ofList
  simp [mem_foldl_insert]

theorem ofList_elements (set : StringSet) : ofList set.elements = set :=
  ext_mem fun _ => mem_ofList

end StringSet

end AgentTeams
