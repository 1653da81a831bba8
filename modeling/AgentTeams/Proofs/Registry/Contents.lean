import AgentTeams.Proofs.Compiler.Answers
import AgentTeams.Proofs.Registry.Loading

/-! Contents: the topologies that a registry has once its documents are loaded, and how it finds
them. -/
namespace AgentTeams

open Json (Tree)

namespace Registry

variable {registry next : Registry} {documents : List (String × TopologyDocument)}

theorem find?_eq_none_iff {id : String} : registry.find? id = none ↔
    ∀ topology ∈ registry.topologies, topology.id ≠ id := by
  simp [Option.eq_none_iff_forall_ne_some, find?_eq_some_iff]

/-- The index leads to a place inside the registry, where the topology with this id stands. -/
theorem topology_of_index {id : String} {place : Nat}
    (listed : registry.index.get? id = some place) :
    ∃ topology, registry.topologies[place]? = some topology ∧ topology.id = id := by
  have named := (registry.indexed id place).mp listed
  simpa using named

theorem findDriverKind?_eq_some_iff {kind : DriverKind} {topology : Topology} :
    registry.findDriverKind? kind = some topology ↔ ∃ before after,
      registry.topologies = before ++ topology :: after ∧ topology.driverKind = kind ∧
      ∀ earlier ∈ before, earlier.driverKind ≠ kind := by
  unfold findDriverKind?
  rw [List.find?_eq_some_iff_append]
  simp only [beq_iff_eq, Bool.not_eq_true', beq_eq_false_iff_ne]
  constructor
  · rintro ⟨same, before, after, split, others⟩
    exact ⟨before, after, split, same, others⟩
  · rintro ⟨before, after, split, same, others⟩
    exact ⟨same, before, after, split, others⟩

theorem findDriverKind?_eq_none_iff {kind : DriverKind} : registry.findDriverKind? kind = none ↔
    ∀ topology ∈ registry.topologies, topology.driverKind ≠ kind := by
  simp [findDriverKind?]

/-- A registry has the topologies of these documents, in their order and each under its own id. It
finds every one of them by its id and the earliest of each driver kind. -/
structure Represents (registry : Registry) (documents : List (String × TopologyDocument)) :
    Prop where
  completed : List.Forall₂ (fun document topology => topology.Completes document.2) documents
    registry.topologies
  distinct : registry.ids.Nodup
  named : ∀ topology ∈ registry.topologies, Text.trim topology.id ≠ ""
  accepted : ∀ topology ∈ registry.topologies,
    AcceptedNames (topology.exampleAgents.map (·.name))
  indexed : ∀ id place, registry.index.get? id = some place →
    ∃ topology, registry.topologies[place]? = some topology ∧ topology.id = id
  found : ∀ id topology, registry.find? id = some topology ↔
    topology ∈ registry.topologies ∧ topology.id = id
  unknown : ∀ id, registry.find? id = none ↔
    ∀ topology ∈ registry.topologies, topology.id ≠ id
  earliest : ∀ kind topology, registry.findDriverKind? kind = some topology ↔ ∃ before after,
    registry.topologies = before ++ topology :: after ∧ topology.driverKind = kind ∧
    ∀ earlier ∈ before, earlier.driverKind ≠ kind
  unserved : ∀ kind, registry.findDriverKind? kind = none ↔
    ∀ topology ∈ registry.topologies, topology.driverKind ≠ kind

/-- What a registry finds follows from what it has. -/
theorem represents_of_completes
    (completed : List.Forall₂ (fun document topology => topology.Completes document.2) documents
      registry.topologies) : registry.Represents documents where
  completed := completed
  distinct := registry.distinct
  named topology _ blank := by
    simpa [topology.id_not_blank] using Text.trim_eq_empty_iff.mp blank
  accepted topology _ := ((nameFault?_eq_none_iff [] _).mp topology.names_accepted).1
  indexed _ _ := topology_of_index
  found _ _ := find?_eq_some_iff
  unknown _ := find?_eq_none_iff
  earliest _ _ := findDriverKind?_eq_some_iff
  unserved _ := findDriverKind?_eq_none_iff

theorem addDocuments_completes (added : registry.addDocuments documents = .ok next) :
    ∃ later, next.topologies = registry.topologies ++ later ∧
      List.Forall₂ (fun document topology => topology.Completes document.2) documents later := by
  induction documents generalizing registry with
  | nil =>
    cases added
    exact ⟨[], by simp, .nil⟩
  | cons head rest ih =>
    obtain ⟨source, document⟩ := head
    rw [addDocuments_cons] at added
    rcases accept_cases registry source document with
      ⟨error, failed, _⟩ | ⟨between, topology, accepted, _, completes, appended⟩
    · simp [failed, bind, Except.bind] at added
    · -- The rest is put to a registry with one topology more, so the start has to be free.
      rw [accepted] at added
      obtain ⟨later, rest, others⟩ := ih added
      exact ⟨topology :: later, by simp [rest, appended], .cons completes others⟩

theorem represents_of_ofDocuments (made : ofDocuments documents = .ok registry) :
    registry.Represents documents := by
  obtain ⟨later, topologies, completed⟩ := addDocuments_completes made
  apply represents_of_completes
  rwa [topologies, empty, List.nil_append]

/-- What the text of a source comes to. -/
def Source.tree (source : Source) : Tree :=
  (Tree.ofText source.text).1

theorem Decoded.overrides {sources : List Source} (decoded : Decoded sources documents) :
    List.Forall₂ (fun source document => document.2.OverridesFrom source.tree) sources
      documents := by
  refine (Traversal.map_eq_map_iff.mp decoded).imp ?_
  rintro source ⟨name, document⟩ same
  have read := Json.of_decodeText (Prod.mk.inj same).2
  exact TopologyDocument.overridesFrom_of_decoder read

/-- A registry represents its documents, whether it is made of them or of their texts. What a
document overrides is then what its text has in the two blocks and is not null. -/
theorem load_represents :
    (∀ documents registry, ofDocuments documents = .ok registry →
      registry.Represents documents) ∧
    ∀ sources registry, load sources = .ok registry → ∃ documents,
      Decoded sources documents ∧ registry.Represents documents ∧
      List.Forall₂ (fun source document => document.2.OverridesFrom source.tree) sources
        documents := by
  refine ⟨fun _ _ => represents_of_ofDocuments, ?_⟩
  intro sources registry loaded
  obtain ⟨documents, decoding, made⟩ := Json.bind_eq_ok_iff.mp loaded
  have decoded := decodeSources_eq_ok_iff.mp decoding
  exact ⟨documents, decoded, represents_of_ofDocuments made, decoded.overrides⟩

/-- A topology has the icon that its text asks for. -/
theorem load_represents_of_icon :
    let source : Source := {
      name := "relay.json"
      text := Json.compact <| .obj [("id", .str "relay"), ("name", .str "Relay"),
        ("description", .str ""), ("driverKind", .str "fixed_order"), ("exampleAgents", .arr []),
        ("visualOverride", .obj [("icon", .str "star"), ("layout", .null)])] }
    ∃ registry topology, load [source] = .ok registry ∧ registry.topologies = [topology] ∧
      registry.find? topology.id = some topology ∧ topology.visual.icon = "star" := by
  intro source
  have succeeded : (load [source]).isOk = true := by decide +kernel
  have asked : (TopologyDocument.visualPart? source.tree "icon").map Json.Decoder.string =
      some (.ok "star") := by decide +kernel
  obtain ⟨registry, loaded⟩ := exists_ok_of_isOk succeeded
  obtain ⟨documents, _, represents, overrides⟩ := load_represents.2 [source] registry loaded
  obtain ⟨document, _, overriding, none, rfl⟩ := List.forall₂_cons_left_iff.mp overrides
  obtain rfl := List.forall₂_nil_left_iff.mp none
  obtain ⟨topology, _, completes, none, topologies⟩ :=
    List.forall₂_cons_left_iff.mp represents.completed
  obtain rfl := List.forall₂_nil_left_iff.mp none
  obtain ⟨icon, own, same⟩ := Option.map_eq_some_iff.mp (overriding.look.icon.symm.trans asked)
  cases same
  refine ⟨registry, topology, loaded, topologies, ?_, by simp [completes.icon, own]⟩
  exact (represents.found _ _).mpr ⟨by simp [topologies], rfl⟩

end Registry

end AgentTeams
