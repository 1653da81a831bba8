import AgentTeams.Proofs.Json.Storing
import AgentTeams.Run.Activity
import Mathlib.Data.Finset.Card
import Mathlib.Data.List.Dedup
import Mathlib.Data.List.Induction

/-! Activity: what names that were recorded one by one leave behind. Each name is there once, where
it was mentioned last, in the order as in the set. -/
namespace AgentTeams.Activity

variable {activity : Activity} {name other : String}

/-- Whether it was there or not, the name stands at the end and nowhere else. -/
theorem order_record (activity : Activity) (name : String) :
    (activity.record name).order = activity.order.filter (· ≠ name) ++ [name] := by
  unfold record
  split
  · rfl
  · rename_i fresh
    have unmoved : activity.order.filter (· ≠ name) = activity.order := by
      rw [List.filter_eq_self]
      rintro other member
      have apart : other ≠ name := by
        rintro rfl
        exact fresh ((activity.together other).mpr member)
      exact decide_eq_true apart
    rw [unmoved]

theorem contains_iff : activity.contains name = true ↔ name ∈ activity.order :=
  decide_eq_true_iff.trans (activity.together name)

@[simp] theorem contains_record : (activity.record name).contains other = true ↔
    other = name ∨ activity.contains other = true := by
  by_cases same : other = name <;> simp [contains_iff, order_record, same]

@[ext] theorem ext {left right : Activity} (same : left.order = right.order) : left = right := by
  have members : left.members = right.members := StringSet.ext_mem fun name => by
    rw [left.together, right.together, same]
  cases left; cases right; cases same; cases members; rfl

theorem latestAmong?_eq (names : List String) :
    activity.latestAmong? names = (activity.order.filter (· ∈ names)).getLast? :=
  List.getLast?_filter.symm

/-- The latest of some names is the one that was just recorded, unless it is none of them. -/
theorem latestAmong?_record (names : List String) : (activity.record name).latestAmong? names =
    if name ∈ names then some name else activity.latestAmong? names := by
  rw [latestAmong?_eq, latestAmong?_eq, order_record, List.filter_append, List.filter_filter]
  by_cases wanted : name ∈ names
  · rw [if_pos wanted, List.filter_cons_of_pos (by simpa using wanted), List.filter_nil,
      List.getLast?_concat]
  · -- Nobody looks for the name, so it makes no difference where it stood before.
    have unmoved : activity.order.filter (fun other => other ∈ names && other ≠ name) =
        activity.order.filter (· ∈ names) := by
      apply List.filter_congr
      intro other _
      by_cases same : other = name <;> simp [same, wanted]
    rw [if_neg wanted, List.filter_cons_of_neg (by simpa using wanted), List.filter_nil,
      List.append_nil, unmoved]

theorem ofList_concat (names : List String) (name : String) :
    ofList (names ++ [name]) = (ofList names).record name :=
  List.foldl_concat ..

/-- Of a name that comes once more, only this last mention stays. -/
theorem dedup_concat (names : List String) (name : String) :
    (names ++ [name]).dedup = names.dedup.filter (· ≠ name) ++ [name] := by
  induction names with
  | nil => rfl
  | cons first rest ih =>
    rw [List.cons_append, List.dedup_cons, List.dedup_cons, ih]
    by_cases same : first = name
    · subst same
      by_cases later : first ∈ rest <;> simp [later]
    · by_cases later : first ∈ rest <;> simp [later, same]

/-- The order is what was recorded, without every mention of a name that is not its last. -/
theorem order_ofList (names : List String) : (ofList names).order = names.dedup := by
  induction names using List.reverseRecOn with
  | nil => rfl
  | append_singleton names name ih => rw [ofList_concat, order_record, ih, dedup_concat]

theorem contains_ofList {names : List String} :
    (ofList names).contains name = true ↔ name ∈ names := by
  rw [contains_iff, order_ofList, List.mem_dedup]

theorem size_ofList (names : List String) : (ofList names).size = names.toFinset.card := by
  rw [size, order_ofList, List.card_toFinset]

theorem latest?_ofList (names : List String) : (ofList names).latest? = names.getLast? := by
  rcases List.eq_nil_or_concat' names with rfl | ⟨names, name, rfl⟩
  · rfl
  · rw [ofList_concat, latest?, order_record, List.getLast?_concat, List.getLast?_concat]

theorem latestAmong?_ofList (names wanted : List String) :
    (ofList names).latestAmong? wanted = (names.filter (· ∈ wanted)).getLast? := by
  induction names using List.reverseRecOn with
  | nil => rfl
  | append_singleton names name ih =>
    rw [ofList_concat, latestAmong?_record, ih, List.filter_append]
    by_cases member : name ∈ wanted <;> simp [member]

theorem ofList_order (activity : Activity) : ofList activity.order = activity :=
  ext ((order_ofList activity.order).trans activity.distinct.dedup)

/-- A list of names is read as if they were recorded, repeats included. -/
theorem decoder_strings (names : List String) :
    decoder (Json.Tree.ofJson (Json.strings names).canonical) = .ok (ofList names) :=
  Json.map_eq_ok_iff.mpr ⟨names, Json.restores_strings names, rfl⟩

theorem restores_activity (activity : Activity) : Json.Restores toJson decoder activity :=
  (decoder_strings activity.order).trans (congrArg Except.ok (ofList_order activity))

/-- What has been read, written and read again is what has been read. -/
theorem decoder_again (tree : Json.Tree) :
    (decoder tree >>= fun activity => decoder (Json.Tree.ofJson activity.toJson.canonical)) =
      decoder tree := by
  cases decoder tree with
  | error error => rfl
  | ok activity => exact restores_activity activity

/-- An activity tells what there is to know of names that were recorded. -/
structure Recalls (activity : Activity) (names : List String) : Prop where
  order : activity.order = names.dedup
  distinct : activity.order.Nodup
  together : ∀ name, name ∈ activity.members ↔ name ∈ activity.order
  contained : ∀ name, activity.contains name = true ↔ name ∈ names
  size : activity.size = names.toFinset.card
  latest : activity.latest? = names.getLast?
  latestAmong : ∀ wanted, activity.latestAmong? wanted = (names.filter (· ∈ wanted)).getLast?

/-- Names that are recorded into an empty set are recalled, each once and by its last mention. The
set comes back from the list of its order, and reading any list makes the same set once and for
all. -/
theorem recording_recalls (names : List String) :
    (ofList names).Recalls names ∧
      decoder (Json.Tree.ofJson (Json.strings names).canonical) = .ok (ofList names) ∧
      Json.Restores toJson decoder (ofList names) ∧ ofList (ofList names).order = ofList names ∧
      ∀ tree, (decoder tree >>= fun activity =>
        decoder (Json.Tree.ofJson activity.toJson.canonical)) = decoder tree := by
  have recalls : (ofList names).Recalls names := {
    order := order_ofList names
    distinct := (ofList names).distinct
    together := (ofList names).together
    contained _ := contains_ofList
    size := size_ofList names
    latest := latest?_ofList names
    latestAmong := latestAmong?_ofList names }
  exact ⟨recalls, decoder_strings names, restores_activity _, ofList_order _, decoder_again⟩

/-- Who speaks again moves to the end. -/
example : (ofList ["a", "b", "c", "a"]).order = ["b", "c", "a"] ∧
    (ofList ["a", "b", "c", "a"]).latestAmong? ["c", "b"] = some "c" := by decide

end AgentTeams.Activity
