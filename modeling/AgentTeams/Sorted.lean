/-!
Sets and maps over strings, kept as lists in strictly increasing order. The order is that of the
code points, which is also the order of the UTF-8 bytes. Each set and each map has one list, so
equal contents are equal values.
-/
namespace AgentTeams

/-- Put an item into a list that ascends by key; an item with the same key gives way. -/
def putByKey (key : α → String) (item : α) : List α → List α
  | [] => [item]
  | other :: rest =>
      if key item < key other then item :: other :: rest
      else if key item = key other then item :: rest
      else other :: putByKey key item rest

section ByKey

variable {key : α → String} {item other : α} {items : List α}

theorem mem_putByKey (ascending : items.Pairwise (key · < key ·)) :
    other ∈ putByKey key item items ↔ other = item ∨ other ∈ items ∧ key other ≠ key item := by
  induction items with
  | nil => simp [putByKey]
  | cons head rest ih =>
    obtain ⟨below, tail⟩ := List.pairwise_cons.mp ascending
    unfold putByKey
    split
    · rename_i less
      have apart : other ∈ head :: rest → key other ≠ key item := by
        intro member
        rcases List.mem_cons.mp member with isHead | later
        · exact isHead ▸ (Std.ne_of_lt less).symm
        · exact (Std.ne_of_lt (Std.lt_trans less (below other later))).symm
      rw [List.mem_cons, and_iff_left_of_imp apart]
    · split
      · rename_i same
        have apart : other ∈ rest → key other ≠ key head :=
          fun later => (Std.ne_of_lt (below other later)).symm
        grind
      · rw [List.mem_cons, ih tail, List.mem_cons]
        grind

private theorem lt_of_not_lt_of_ne {a b : String} (notLess : ¬ a < b) (differ : a ≠ b) : b < a :=
  Std.lt_of_le_of_ne (Std.not_lt.mp notLess) (Ne.symm differ)

theorem pairwise_putByKey (ascending : items.Pairwise (key · < key ·)) (item : α) :
    (putByKey key item items).Pairwise (key · < key ·) := by
  induction items with
  | nil => exact List.pairwise_singleton _ _
  | cons head rest ih =>
    obtain ⟨below, tail⟩ := List.pairwise_cons.mp ascending
    unfold putByKey
    split
    · rename_i less
      refine List.pairwise_cons.mpr ⟨?_, ascending⟩
      intro old member
      rcases List.mem_cons.mp member with isHead | later
      · exact isHead ▸ less
      · exact Std.lt_trans less (below old later)
    · split
      · rename_i same
        refine List.pairwise_cons.mpr ⟨?_, tail⟩
        intro old member
        exact same ▸ below old member
      · rename_i notLess differ
        refine List.pairwise_cons.mpr ⟨?_, ih tail⟩
        intro old member
        rcases (mem_putByKey tail).mp member with isNew | ⟨earlier, _⟩
        · exact isNew ▸ lt_of_not_lt_of_ne notLess differ
        · exact below old earlier

end ByKey

/-- Keys increase strictly. -/
def Ascending (entries : List (String × α)) : Prop :=
  entries.Pairwise (fun before after => before.1 < after.1)

theorem lookup_cons_eq_ite [BEq κ] [LawfulBEq κ] [DecidableEq κ] (first : κ) (old : α)
    (rest : List (κ × α)) (key : κ) :
    ((first, old) :: rest).lookup key = if key = first then some old else rest.lookup key := by
  by_cases same : key = first
  · simp [same]
  · have apart : (key == first) = false := by simpa using same
    simp [List.lookup_cons, same, apart]

theorem lookup_putByKey (key : String) (value : α) (entries : List (String × α)) (other : String) :
    (putByKey Prod.fst (key, value) entries).lookup other =
      if other = key then some value else entries.lookup other := by
  induction entries with
  | nil => exact lookup_cons_eq_ite key value [] other
  | cons head rest ih =>
    obtain ⟨first, old⟩ := head
    unfold putByKey
    split
    · exact lookup_cons_eq_ite key value ((first, old) :: rest) other
    · split
      · rename_i replaced
        obtain rfl : key = first := replaced
        rw [lookup_cons_eq_ite, lookup_cons_eq_ite]
        split <;> rfl
      · rename_i differ
        rw [lookup_cons_eq_ite, lookup_cons_eq_ite, ih]
        by_cases here : other = first
        · simp [here, Ne.symm differ]
        · simp [here]

/-- A finite map from strings. -/
structure StringMap (α : Type) where
  entries : List (String × α)
  ascending : Ascending entries

namespace StringMap

@[ext] theorem ext {left right : StringMap α} (same : left.entries = right.entries) :
    left = right := by
  cases left; cases right; cases same; rfl

def empty : StringMap α := ⟨[], List.Pairwise.nil⟩

instance : Inhabited (StringMap α) := ⟨empty⟩

def insert (map : StringMap α) (key : String) (value : α) : StringMap α :=
  ⟨putByKey Prod.fst (key, value) map.entries, pairwise_putByKey map.ascending _⟩

def get? (map : StringMap α) (key : String) : Option α :=
  map.entries.lookup key

@[simp] theorem get?_empty (key : String) : (empty : StringMap α).get? key = none := rfl

theorem get?_insert (map : StringMap α) (key : String) (value : α) (other : String) :
    (map.insert key value).get? other = if other = key then some value else map.get? other :=
  lookup_putByKey key value map.entries other

/-- Of entries with one key the last stays. -/
def ofList (entries : List (String × α)) : StringMap α :=
  entries.foldl (fun map entry => map.insert entry.1 entry.2) empty

end StringMap

/-- A finite set of strings. -/
structure StringSet where
  elements : List String
  ascending : elements.Pairwise (· < ·)

namespace StringSet

@[ext] theorem ext {left right : StringSet} (same : left.elements = right.elements) :
    left = right := by
  cases left; cases right; cases same; rfl

instance : DecidableEq StringSet := fun left right =>
  if same : left.elements = right.elements then .isTrue (StringSet.ext same)
  else .isFalse (fun equal => same (congrArg StringSet.elements equal))

def empty : StringSet := ⟨[], List.Pairwise.nil⟩

instance : Inhabited StringSet := ⟨empty⟩

def insert (set : StringSet) (element : String) : StringSet :=
  ⟨putByKey id element set.elements, pairwise_putByKey set.ascending element⟩

def ofList (elements : List String) : StringSet :=
  elements.foldl insert empty

instance : Membership String StringSet := ⟨fun set element => element ∈ set.elements⟩

instance (element : String) (set : StringSet) : Decidable (element ∈ set) :=
  inferInstanceAs (Decidable (element ∈ set.elements))

@[simp] theorem not_mem_empty (element : String) : element ∉ empty := List.not_mem_nil

@[simp] theorem mem_insert {set : StringSet} {element other : String} :
    other ∈ set.insert element ↔ other = element ∨ other ∈ set := by
  -- An element is its own key, so what gives way is the element itself.
  refine (mem_putByKey set.ascending).trans ?_
  by_cases same : other = element
  · simp [same]
  · exact or_congr_right (and_iff_left same)

end StringSet

end AgentTeams
