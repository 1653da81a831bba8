import AgentTeams.Topology.Basic

/-!
Registries: the topologies that are known, in the order of their documents. Loading is all or
nothing; the first document that is refused decides the error.
-/
namespace AgentTeams

structure Registry where
  topologies : List Topology
  /-- The place of each topology, by its id. -/
  index : StringMap Nat
  indexed : ∀ id place, index.get? id = some place ↔ (topologies.map (·.id))[place]? = some id

namespace Registry

def empty : Registry := ⟨[], StringMap.empty, by simp⟩

instance : Inhabited Registry := ⟨empty⟩

def ids (registry : Registry) : List String :=
  registry.topologies.map (·.id)

def find? (registry : Registry) (id : String) : Option Topology :=
  (registry.index.get? id).bind fun place => registry.topologies[place]?

/-- The index leads to the topology that has the id, and there is no other one. -/
theorem find?_eq_some_iff {registry : Registry} {id : String} {topology : Topology} :
    registry.find? id = some topology ↔ topology ∈ registry.topologies ∧ topology.id = id := by
  constructor
  · intro found
    obtain ⟨place, listed, present⟩ := Option.bind_eq_some_iff.mp found
    have named := (registry.indexed id place).mp listed
    refine ⟨List.mem_of_getElem? present, ?_⟩
    simpa [present] using named
  · rintro ⟨member, rfl⟩
    obtain ⟨place, present⟩ := List.mem_iff_getElem?.mp member
    have listed := (registry.indexed topology.id place).mpr (by simp [present])
    exact Option.bind_eq_some_iff.mpr ⟨place, listed, present⟩

theorem index_get?_eq_none_iff {registry : Registry} {id : String} :
    registry.index.get? id = none ↔ id ∉ registry.ids := by
  rw [Option.eq_none_iff_forall_ne_some]
  simp only [ne_eq, registry.indexed, ← List.mem_iff_getElem?, ← not_exists]
  exact Iff.rfl

theorem distinct (registry : Registry) : registry.ids.Nodup := by
  apply List.pairwise_iff_getElem.mpr
  intro first second firstInside secondInside before same
  have one := (registry.indexed _ first).mpr (List.getElem?_eq_getElem firstInside)
  have other := (registry.indexed _ second).mpr (List.getElem?_eq_getElem secondInside)
  rw [same, other] at one
  have equal : second = first := Option.some.inj one
  omega

/-- The first topology of a driver kind. -/
def findDriverKind? (registry : Registry) (kind : DriverKind) : Option Topology :=
  registry.topologies.find? (fun topology => topology.driverKind == kind)

private theorem indexed_concat {ids : List String} {index : StringMap Nat} {id : String}
    (indexed : ∀ other place, index.get? other = some place ↔ ids[place]? = some other)
    (fresh : index.get? id = none) (other : String) (place : Nat) :
    (index.insert id ids.length).get? other = some place ↔ (ids ++ [id])[place]? = some other := by
  rw [StringMap.get?_insert]
  rcases Nat.lt_trichotomy place ids.length with earlier | last | beyond
  · rw [List.getElem?_append_left earlier, ← indexed]
    by_cases same : other = id
    · simp [same, fresh, Nat.ne_of_gt earlier]
    · simp [same]
  · have outside : index.get? other ≠ some ids.length := by simp [indexed]
    by_cases same : other = id
    · simp [same, last]
    · simp [same, last, outside, Ne.symm same]
  · have outside : index.get? other ≠ some place := by
      simp [indexed, Nat.le_of_lt beyond]
    have nothing : (ids ++ [id])[place]? = none := by simp; omega
    rw [nothing]
    by_cases same : other = id
    · simp [same, Nat.ne_of_lt beyond]
    · simp [same, outside]

/-- Put a topology at the end, unless its id is taken. -/
def add (registry : Registry) (topology : Topology) : Except LoadError Registry :=
  match fresh : registry.index.get? topology.id with
  | some _ => .error (.duplicateId topology.id)
  | none => .ok {
      topologies := registry.topologies ++ [topology]
      index := registry.index.insert topology.id registry.topologies.length
      indexed := by
        rw [List.map_append, ← List.length_map (·.id)]
        exact indexed_concat registry.indexed fresh }

/-- Add the topologies of documents, each given with the name of its source. -/
def addDocuments (registry : Registry) :
    List (String × TopologyDocument) → Except LoadError Registry
  | [] => .ok registry
  | (source, document) :: rest => do
      let topology ← Topology.ofDocument source document
      let registry ← registry.add topology
      registry.addDocuments rest

def ofDocuments (documents : List (String × TopologyDocument)) : Except LoadError Registry :=
  empty.addDocuments documents

/-- A text and the name of its source. -/
structure Source where
  name : String
  text : String

/-- Decode all texts; the first that does not decode decides the error. -/
def decodeSources : List Source → Except LoadError (List (String × TopologyDocument))
  | [] => .ok []
  | source :: rest => do
      let document ← (Json.Document.read TopologyDocument source.text).mapError
        (LoadError.malformed source.name)
      return (source.name, document) :: (← decodeSources rest)

/-- Load a registry. No topology is checked before all texts are decoded. -/
def load (sources : List Source) : Except LoadError Registry := do
  ofDocuments (← decodeSources sources)

/-- The closing entry of a load. -/
private def loaded (registry : Registry) : Journal.Entry :=
  ⟨.info, "| topology registry | Loaded " ++ toString registry.topologies.length ++
    " topologies: " ++ ", ".intercalate registry.ids⟩

/-- What is said as the documents are added. -/
def addingJournal (registry : Registry) : List (String × TopologyDocument) → Journal
  | [] => [loaded registry]
  | (source, document) :: rest =>
      match Topology.ofDocument source document with
      | .error _ => []
      | .ok topology =>
          topology.journal ++
            match registry.add topology with
            | .error _ => []
            | .ok registry => registry.addingJournal rest

def documentsJournal (documents : List (String × TopologyDocument)) : Journal :=
  empty.addingJournal documents

def loadJournal (sources : List Source) : Journal :=
  match decodeSources sources with
  | .ok documents => documentsJournal documents
  | .error _ => []

end Registry

end AgentTeams
