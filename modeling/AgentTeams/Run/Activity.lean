import AgentTeams.Json.Document

/-!
Activity: who has spoken, in the order of the last time. The names are kept twice, in their order
and in a set in which a name is looked up.
-/
namespace AgentTeams

structure Activity where
  order : List String
  members : StringSet
  distinct : order.Nodup
  /-- The set has the names of the order and no others. -/
  together : ∀ name, name ∈ members ↔ name ∈ order

namespace Activity

def empty : Activity := ⟨[], StringSet.empty, List.Pairwise.nil, by simp⟩

instance : Inhabited Activity := ⟨empty⟩

private theorem nodup_moved {order : List String} (distinct : order.Nodup) (name : String) :
    (order.filter (· ≠ name) ++ [name]).Nodup := by
  refine List.nodup_append.mpr ⟨distinct.filter _, by simp, ?_⟩
  intro earlier membership other single same
  have isName : other = name := List.mem_singleton.mp single
  have notName := (List.mem_filter.mp membership).2
  simp [same, isName] at notName

private theorem mem_moved {order : List String} {name : String} (known : name ∈ order)
    (other : String) : other ∈ order ↔ other ∈ order.filter (· ≠ name) ++ [name] := by
  by_cases same : other = name
  · simp [same, known]
  · simp [same]

private theorem nodup_added {order : List String} (distinct : order.Nodup) (fresh : name ∉ order) :
    (order ++ [name]).Nodup := by
  refine List.nodup_append.mpr ⟨distinct, by simp, ?_⟩
  rintro earlier membership other single rfl
  exact fresh (List.mem_singleton.mp single ▸ membership)

/-- The name becomes the latest one: a name that is there is moved, any other is added. -/
def record (activity : Activity) (name : String) : Activity :=
  if known : name ∈ activity.members then
    { activity with
      order := activity.order.filter (· ≠ name) ++ [name]
      distinct := nodup_moved activity.distinct name
      together := fun other => (activity.together other).trans
        (mem_moved ((activity.together name).mp known) other) }
  else
    { order := activity.order ++ [name]
      members := activity.members.insert name
      distinct := nodup_added activity.distinct (mt (activity.together name).mpr known)
      together := by simp [activity.together, or_comm] }

def ofList (names : List String) : Activity :=
  names.foldl record empty

def contains (activity : Activity) (name : String) : Bool :=
  name ∈ activity.members

def latest? (activity : Activity) : Option String :=
  activity.order.getLast?

/-- The latest of the given names. -/
def latestAmong? (activity : Activity) (names : List String) : Option String :=
  activity.order.reverse.find? (· ∈ names)

def size (activity : Activity) : Nat := activity.order.length

def isEmpty (activity : Activity) : Bool := activity.order.isEmpty

def toJson (activity : Activity) : Json := .strings activity.order

def decoder : Json.Decoder Activity := fun tree =>
  (Json.Decoder.strings tree).map ofList

instance : Json.Document Activity := ⟨toJson, decoder⟩

end Activity

end AgentTeams
