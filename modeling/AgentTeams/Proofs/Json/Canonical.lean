import AgentTeams.Json.Tree
import AgentTeams.Proofs.Sorted

/-! The canonical form: a value that was stored comes back from its tree in this form, and every
value that a tree comes to has it. -/
namespace AgentTeams.Json

/-- Storing the value leaves it as it is. -/
def IsCanonical (value : Json) : Prop :=
  value.canonical = value

namespace Tree

mutual
/-- What a stored value comes to is its canonical form. -/
theorem toJson?_ofJson : ∀ value : Json, (ofJson value).toJson? = some value.canonical
  | .null | .bool _ | .num _ | .str _ => rfl
  | .arr items => by
    simp [ofJson, toJson?, canonical, toItems?_ofItems items]
  | .obj members => by
    simp [ofJson, toJson?, canonical, toMembers?_ofMembers members]

theorem toItems?_ofItems : ∀ items : List Json,
    toItems? (ofItems items) = some (canonicalItems items)
  | [] => rfl
  | item :: rest => by
    simp [ofItems, toItems?, canonicalItems, toJson?_ofJson item, toItems?_ofItems rest]

theorem toMembers?_ofMembers : ∀ (members entered : List (String × Json)),
    toMembers? (ofMembers members) entered = some (canonicalMembers members entered)
  | [], _ => rfl
  | (key, value) :: rest, entered => by
    simp [ofMembers, toMembers?, canonicalMembers, toJson?_ofJson value, toMembers?_ofMembers rest]
end

mutual
theorem wellFormed_ofJson : ∀ value : Json, (ofJson value).wellFormed = true
  | .null | .bool _ | .num _ | .str _ => rfl
  | .arr items => by
    simp [ofJson, wellFormed, wellFormedItems_ofItems items]
  | .obj members => by
    simp [ofJson, wellFormed, wellFormedMembers_ofMembers members]

theorem wellFormedItems_ofItems : ∀ items : List Json, wellFormedItems (ofItems items) = true
  | [] => rfl
  | item :: rest => by
    simp [ofItems, wellFormedItems, wellFormed_ofJson item, wellFormedItems_ofItems rest]

theorem wellFormedMembers_ofMembers : ∀ members : List (String × Json),
    wellFormedMembers (ofMembers members) = true
  | [] => rfl
  | (key, value) :: rest => by
    simp [ofMembers, wellFormedMembers, wellFormed_ofJson value, wellFormedMembers_ofMembers rest]
end

theorem height_le_heightItems {items : List Json} {item : Json} (member : item ∈ items) :
    (ofJson item).height ≤ heightItems (ofItems items) := by
  induction items with
  | nil => simp at member
  | cons first rest ih =>
    rcases List.mem_cons.mp member with rfl | later
    · exact Nat.le_max_left _ _
    · exact Nat.le_trans (ih later) (Nat.le_max_right _ _)

end Tree

theorem canonical_obj (members : List (String × Json)) :
    (obj members).canonical = obj (canonicalMembers members []) := rfl

theorem ascending_canonicalMembers {members entered : List (String × Json)}
    (ascending : Ascending entered) : Ascending (canonicalMembers members entered) := by
  induction members generalizing entered with
  | nil => exact ascending
  | cons member rest ih => exact ih (pairwise_putByKey ascending _)

theorem nodup_keys_canonicalMembers (members : List (String × Json)) :
    ((canonicalMembers members []).map (·.1)).Nodup :=
  (ascending_canonicalMembers List.Pairwise.nil).nodup_keys

theorem lookup_canonicalMembers (members entered : List (String × Json)) (key : String) :
    (canonicalMembers members entered).lookup key =
      ((members.reverse.lookup key).map canonical).or (entered.lookup key) := by
  induction members generalizing entered with
  | nil => simp [canonicalMembers]
  | cons member rest ih =>
    obtain ⟨first, value⟩ := member
    rw [canonicalMembers, ih, lookup_putByKey, List.reverse_cons, List.lookup_append,
      lookup_cons_eq_ite]
    by_cases same : key = first <;> cases rest.reverse.lookup key <;> simp [same]

theorem canonicalMembers_of_ascending {members entered : List (String × Json)}
    (ascending : Ascending (entered ++ members))
    (canonical : ∀ member ∈ members, IsCanonical member.2) :
    canonicalMembers members entered = entered ++ members := by
  induction members generalizing entered with
  | nil => simp [canonicalMembers]
  | cons member rest ih =>
    obtain ⟨key, value⟩ := member
    obtain ⟨here, later⟩ := List.forall_mem_cons.mp canonical
    have above : ∀ entry ∈ entered, entry.1 < key := fun entry old =>
      (List.pairwise_append.mp ascending).2.2 entry old _ List.mem_cons_self
    rw [canonicalMembers, here, putByKey_of_above above, ih (by simpa using ascending) later]
    simp

/-- Under each key of an object stands what has been stored of its value. -/
theorem lookup_canonicalMembers_nil {members : List (String × Json)}
    (distinct : (members.map (·.1)).Nodup) (key : String) :
    (canonicalMembers members []).lookup key = (members.lookup key).map canonical := by
  rw [lookup_canonicalMembers, lookup_reverse distinct]
  simp

theorem canonicalItems_eq_map (items : List Json) : canonicalItems items = items.map canonical := by
  induction items with
  | nil => rfl
  | cons item rest ih => rw [canonicalItems, ih, List.map_cons]

theorem isCanonical_arr_iff {items : List Json} :
    IsCanonical (arr items) ↔ ∀ item ∈ items, IsCanonical item := by
  have fixed : items.map canonical = items.map id ↔ ∀ item ∈ items, IsCanonical item :=
    List.map_inj_left
  rw [← fixed, IsCanonical, canonical, canonicalItems_eq_map, List.map_id, arr.injEq]

/-- In an object that is in canonical form keys ascend, and so each stands there once. -/
theorem isCanonical_obj_iff {members : List (String × Json)} : IsCanonical (obj members) ↔
    Ascending members ∧ ∀ member ∈ members, IsCanonical member.2 := by
  rw [IsCanonical, canonical_obj, obj.injEq]
  constructor
  · intro same
    have entered : Ascending (canonicalMembers members []) :=
      ascending_canonicalMembers List.Pairwise.nil
    have ascending : Ascending members := same ▸ entered
    refine ⟨ascending, ?_⟩
    rintro ⟨key, value⟩ member
    have found := (lookup_eq_some_iff_mem ascending.nodup_keys).mpr member
    have stored := lookup_canonicalMembers_nil ascending.nodup_keys key
    rw [same, found, Option.map_some] at stored
    exact (Option.some.inj stored).symm
  · rintro ⟨ascending, canonical⟩
    have above : Ascending ([] ++ members) := ascending
    exact canonicalMembers_of_ascending above canonical

mutual
/-- A value that was read is in canonical form. -/
theorem isCanonical_of_toJson? : ∀ (tree : Tree) {value : Json}, tree.toJson? = some value →
    IsCanonical value
  | .null, _, read | .bool _, _, read => by
    cases read
    rfl
  | .num number, _, read | .str text, _, read => by
    obtain ⟨_, _, rfl⟩ := Option.map_eq_some_iff.mp read
    rfl
  | .arr items closing, _, read => by
    obtain ⟨_, closed⟩ := Option.ite_none_left_eq_some.mp read
    obtain ⟨values, each, rfl⟩ := Option.map_eq_some_iff.mp closed
    exact isCanonical_arr_iff.mpr (isCanonical_of_toItems? items each)
  | .obj members closing, _, read => by
    obtain ⟨_, closed⟩ := Option.ite_none_left_eq_some.mp read
    obtain ⟨entries, each, rfl⟩ := Option.map_eq_some_iff.mp closed
    exact isCanonical_obj_iff.mpr
      (isCanonical_of_toMembers? members each List.Pairwise.nil (by simp))
  | .buried _, _, read | .broken, _, read => by
    cases read

theorem isCanonical_of_toItems? : ∀ (items : List Tree) {values : List Json},
    Tree.toItems? items = some values → ∀ value ∈ values, IsCanonical value
  | [], _, read => by
    cases read
    simp
  | item :: rest, _, read => by
    simp only [Tree.toItems?, Option.bind_eq_bind, Option.bind_eq_some_iff] at read
    obtain ⟨value, here, values, later, same⟩ := read
    cases same
    exact List.forall_mem_cons.mpr
      ⟨isCanonical_of_toJson? item here, isCanonical_of_toItems? rest later⟩

theorem isCanonical_of_toMembers? : ∀ (members : List (Option String × Tree))
    {entered entries : List (String × Json)}, Tree.toMembers? members entered = some entries →
    Ascending entered → (∀ member ∈ entered, IsCanonical member.2) →
    Ascending entries ∧ ∀ member ∈ entries, IsCanonical member.2
  | [], _, _, read, ascending, canonical => by
    cases read
    exact ⟨ascending, canonical⟩
  | (none, _) :: _, _, _, read, _, _ => by
    cases read
  | (some key, tree) :: rest, entered, _, read, ascending, canonical => by
    obtain ⟨value, here, later⟩ := Option.bind_eq_some_iff.mp read
    refine isCanonical_of_toMembers? rest later (pairwise_putByKey ascending (key, value)) ?_
    intro member entry
    rcases (mem_putByKey ascending).mp entry with rfl | ⟨old, _⟩
    · exact isCanonical_of_toJson? tree here
    · exact canonical member old
end

theorem canonical_canonical (value : Json) : value.canonical.canonical = value.canonical :=
  isCanonical_of_toJson? (Tree.ofJson value) (Tree.toJson?_ofJson value)

end AgentTeams.Json
