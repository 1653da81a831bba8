import AgentTeams.Proofs.Names
import AgentTeams.Proofs.Topology
import AgentTeams.Proofs.Traversal
import Mathlib.Data.List.DropRight

/-! Loading: which documents make a registry, and which of them decides the error when they do not.
A text that does not decode is told of before any document is looked at; of the documents the first
one that is refused decides, by the first of its checks that it fails. -/
namespace AgentTeams

namespace Text

/-- A text without the white space at its ends. -/
def trim (text : String) : String :=
  String.ofList ((text.toList.dropWhile isSpace).rdropWhile isSpace)

theorem trim_eq_empty_iff {text : String} : trim text = "" ↔ isBlank text = true := by
  have inner : (text.toList.dropWhile isSpace).all isSpace = text.toList.all isSpace := by
    have parts : text.toList.takeWhile isSpace ++ text.toList.dropWhile isSpace = text.toList :=
      List.takeWhile_append_dropWhile
    conv => rhs; rw [← parts]
    rw [List.all_append, List.all_takeWhile, Bool.true_and]
  rw [trim, isBlank, String.ofList_eq_empty_iff, List.rdropWhile_eq_nil_iff, ← inner,
    List.all_eq_true]

end Text

theorem DriverKind.ofName?_eq_some_iff {name : String} {kind : DriverKind} :
    ofName? name = some kind ↔ kind.name = name := by
  constructor
  · intro found
    exact beq_iff_eq.mp (List.find?_some (p := fun kind : DriverKind => kind.name == name) found)
  · rintro rfl
    exact ofName?_name kind

theorem DriverKind.ofName?_eq_none_iff {name : String} :
    ofName? name = none ↔ ∀ kind : DriverKind, kind.name ≠ name := by
  rw [Option.eq_none_iff_forall_ne_some]
  exact forall_congr' fun kind => not_congr ofName?_eq_some_iff

namespace Registry

/-- Why a document is refused when these ids are taken. The cases are its checks in their order;
each is for a document that has passed those above it. -/
inductive Refused (taken : List String) (source : String) (document : TopologyDocument) :
    LoadError → Prop where
  | blank (blank : Text.trim document.id = "") :
      Refused taken source document (.emptyId source)
  | unknownKind (named : Text.trim document.id ≠ "")
      (unknown : ∀ kind : DriverKind, kind.name ≠ document.driverKind) :
      Refused taken source document (.unknownDriverKind document.id document.driverKind)
  | reserved {kind : DriverKind} {name : String} (named : Text.trim document.id ≠ "")
      (known : kind.name = document.driverKind)
      (first : FirstFault (document.exampleAgents.map (·.name)) (.reserved name)) :
      Refused taken source document (.reservedExampleAgent document.id name)
  | repeated {kind : DriverKind} {name : String} (named : Text.trim document.id ≠ "")
      (known : kind.name = document.driverKind)
      (first : FirstFault (document.exampleAgents.map (·.name)) (.repeated name)) :
      Refused taken source document (.duplicateExampleAgent document.id name)
  | taken {kind : DriverKind} (named : Text.trim document.id ≠ "")
      (known : kind.name = document.driverKind)
      (accepted : AcceptedNames (document.exampleAgents.map (·.name)))
      (used : document.id ∈ taken) :
      Refused taken source document (.duplicateId document.id)

/-- Each document is accepted after those before it. -/
def Accepted (taken : List String) : List (String × TopologyDocument) → Prop
  | [] => True
  | (source, document) :: rest =>
      (∀ error, ¬ Refused taken source document error) ∧ Accepted (taken ++ [document.id]) rest

/-- The error is that of the first document that is refused. -/
def FirstRefused (taken : List String) (documents : List (String × TopologyDocument))
    (error : LoadError) : Prop :=
  ∃ before source document after, documents = before ++ (source, document) :: after ∧
    Accepted taken before ∧ Refused (taken ++ before.map (·.2.id)) source document error

/-- Check a document and put its topology at the end. -/
def accept (registry : Registry) (source : String) (document : TopologyDocument) :
    Except LoadError Registry := do
  registry.add (← Topology.ofDocument source document)

variable {registry next : Registry} {topology : Topology} {source : String}
  {document : TopologyDocument} {error : LoadError}

theorem add_eq_error_iff : registry.add topology = .error error ↔
    topology.id ∈ registry.ids ∧ error = .duplicateId topology.id := by
  have fresh : registry.index.get? topology.id = none ↔ topology.id ∉ registry.ids :=
    index_get?_eq_none_iff
  unfold add
  split
  · rename_i place listed
    simp_all [eq_comm]
  · simp_all

theorem topologies_of_add (added : registry.add topology = .ok next) :
    next.topologies = registry.topologies ++ [topology] := by
  unfold add at added
  split at added
  · simp at added
  · cases added
    rfl

/-- A document is refused for itself, or its topology completes it. -/
theorem ofDocument_cases (source : String) (document : TopologyDocument) :
    (∃ error, Topology.ofDocument source document = .error error ∧
      ∀ taken, Refused taken source document error) ∨
    ∃ topology, Topology.ofDocument source document = .ok topology ∧
      topology.Completes document ∧ Text.trim document.id ≠ "" ∧
      AcceptedNames (document.exampleAgents.map (·.name)) := by
  unfold Topology.ofDocument
  split
  · rename_i blank
    exact .inl ⟨_, rfl, fun _ => .blank (Text.trim_eq_empty_iff.mpr blank)⟩
  · rename_i named
    have named : Text.trim document.id ≠ "" := by simp [Text.trim_eq_empty_iff, named]
    split
    · rename_i unknown
      exact .inl ⟨_, rfl, fun _ => .unknownKind named (DriverKind.ofName?_eq_none_iff.mp unknown)⟩
    · rename_i kind known
      have known := DriverKind.ofName?_eq_some_iff.mp known
      split
      · rename_i fault found
        have first := nameFault?_eq_some_iff.mp found
        cases fault with
        | reserved name => exact .inl ⟨_, rfl, fun _ => .reserved named known first⟩
        | repeated name => exact .inl ⟨_, rfl, fun _ => .repeated named known first⟩
      · rename_i accepted
        have accepted := ((nameFault?_eq_none_iff [] _).mp accepted).1
        refine .inr ⟨_, rfl, ?_, named, accepted⟩
        exact ⟨rfl, rfl, rfl, known, rfl, rfl, rfl, rfl, rfl, rfl, rfl, rfl, rfl, rfl⟩

/-- A document with an id of its own, a known driver kind and accepted names is not refused. -/
theorem not_refused {taken : List String} {kind : DriverKind}
    (named : Text.trim document.id ≠ "") (known : kind.name = document.driverKind)
    (accepted : AcceptedNames (document.exampleAgents.map (·.name)))
    (fresh : document.id ∉ taken) : ¬ Refused taken source document error := by
  intro refused
  cases refused with
  | blank blank => exact named blank
  | unknownKind _ unknown => exact unknown kind known
  | reserved _ _ first => exact first.not_accepted accepted
  | repeated _ _ first => exact first.not_accepted accepted
  | taken _ _ _ used => exact fresh used

theorem Refused.unique {taken : List String} {other : LoadError}
    (one : Refused taken source document error) (two : Refused taken source document other) :
    error = other := by
  -- A check that both fail has one error; one that only the first fails was passed by the second.
  cases one with
  | blank blank =>
    cases two with
    | blank => rfl
    | unknownKind named | reserved named | repeated named | taken named =>
      exact absurd blank named
  | unknownKind named unknown =>
    cases two with
    | blank blank => exact absurd blank named
    | unknownKind => rfl
    | reserved _ known | repeated _ known | taken _ known => exact absurd known (unknown _)
  | reserved named known first =>
    cases two with
    | blank blank => exact absurd blank named
    | unknownKind _ unknown => exact absurd known (unknown _)
    | reserved _ _ second => cases first.unique second; rfl
    | repeated _ _ second => cases first.unique second
    | taken _ _ accepted => exact absurd accepted first.not_accepted
  | repeated named known first =>
    cases two with
    | blank blank => exact absurd blank named
    | unknownKind _ unknown => exact absurd known (unknown _)
    | reserved _ _ second => cases first.unique second
    | repeated _ _ second => cases first.unique second; rfl
    | taken _ _ accepted => exact absurd accepted first.not_accepted
  | taken named known accepted =>
    cases two with
    | blank blank => exact absurd blank named
    | unknownKind _ unknown => exact absurd known (unknown _)
    | reserved _ _ first | repeated _ _ first => exact absurd accepted first.not_accepted
    | taken => rfl

/-- A document that is put to a registry is refused, or its topology stands at the end. -/
theorem accept_cases (registry : Registry) (source : String) (document : TopologyDocument) :
    (∃ error, registry.accept source document = .error error ∧
      Refused registry.ids source document error) ∨
    ∃ next topology, registry.accept source document = .ok next ∧
      (∀ error, ¬ Refused registry.ids source document error) ∧
      topology.Completes document ∧ next.topologies = registry.topologies ++ [topology] := by
  unfold accept
  rcases ofDocument_cases source document with
    ⟨error, failed, refused⟩ | ⟨topology, completed, completes, named, accepted⟩
  · rw [failed]
    exact .inl ⟨error, rfl, refused registry.ids⟩
  · rw [completed]
    change (∃ error, registry.add topology = .error error ∧ _) ∨
      ∃ next _, registry.add topology = .ok next ∧ _
    cases added : registry.add topology with
    | error error =>
      obtain ⟨used, rfl⟩ := add_eq_error_iff.mp added
      rw [completes.id] at used ⊢
      exact .inl ⟨_, rfl, .taken named completes.driverKind accepted used⟩
    | ok next =>
      have fresh : document.id ∉ registry.ids := by
        intro used
        have failed := add_eq_error_iff.mpr ⟨completes.id ▸ used, rfl⟩
        simp [added] at failed
      exact .inr ⟨next, topology, rfl,
        fun _ => not_refused named completes.driverKind accepted fresh, completes,
        topologies_of_add added⟩

theorem ids_concat (completes : topology.Completes document)
    (appended : next.topologies = registry.topologies ++ [topology]) :
    next.ids = registry.ids ++ [document.id] := by
  simp [ids, appended, completes.id]

theorem addDocuments_cons (registry : Registry) (source : String) (document : TopologyDocument)
    (rest : List (String × TopologyDocument)) :
    registry.addDocuments ((source, document) :: rest) = (do
      (← registry.accept source document).addDocuments rest) := by
  rw [addDocuments]
  unfold accept
  cases Topology.ofDocument source document with
  | error => rfl
  | ok topology => rfl

variable {documents : List (String × TopologyDocument)}

theorem not_firstRefused_nil {taken : List String} : ¬ FirstRefused taken [] error := by
  rintro ⟨before, source, document, after, split, _⟩
  simp at split

theorem firstRefused_cons {taken : List String} {rest : List (String × TopologyDocument)} :
    FirstRefused taken ((source, document) :: rest) error ↔
      Refused taken source document error ∨
        (∀ cause, ¬ Refused taken source document cause) ∧
          FirstRefused (taken ++ [document.id]) rest error := by
  constructor
  · rintro ⟨before, _, _, after, split, accepted, refused⟩
    cases before with
    | nil =>
      cases split
      exact .inl (by simpa using refused)
    | cons head before =>
      cases split
      exact .inr ⟨accepted.1, before, _, _, after, rfl, accepted.2, by simpa using refused⟩
  · rintro (refused | ⟨good, before, _, _, after, rfl, accepted, refused⟩)
    · exact ⟨[], source, document, rest, rfl, trivial, by simpa using refused⟩
    · exact ⟨(source, document) :: before, _, _, after, rfl, ⟨good, accepted⟩,
        by simpa using refused⟩

theorem addDocuments_eq_error_iff : registry.addDocuments documents = .error error ↔
    FirstRefused registry.ids documents error := by
  induction documents generalizing registry with
  | nil => simp [addDocuments, not_firstRefused_nil]
  | cons head rest ih =>
    obtain ⟨source, document⟩ := head
    rw [addDocuments_cons, firstRefused_cons]
    rcases accept_cases registry source document with
      ⟨cause, failed, refused⟩ | ⟨next, topology, done, good, completes, appended⟩
    · have only : Refused registry.ids source document error ↔ cause = error :=
        ⟨refused.unique, fun same => same ▸ refused⟩
      have bad : ¬ ∀ cause, ¬ Refused registry.ids source document cause := fun good =>
        good cause refused
      simp [failed, bind, Except.bind, only, bad]
    · simp [done, bind, Except.bind, good, ih, ids_concat completes appended]

theorem addDocuments_eq_ok_iff : (∃ next, registry.addDocuments documents = .ok next) ↔
    Accepted registry.ids documents := by
  induction documents generalizing registry with
  | nil => simp [addDocuments, Accepted]
  | cons head rest ih =>
    obtain ⟨source, document⟩ := head
    rw [addDocuments_cons, Accepted]
    rcases accept_cases registry source document with
      ⟨cause, failed, refused⟩ | ⟨next, topology, done, good, completes, appended⟩
    · have bad : ¬ ∀ cause, ¬ Refused registry.ids source document cause := fun good =>
        good cause refused
      simp [failed, bind, Except.bind, bad]
    · simp [done, bind, Except.bind, good, ih, ids_concat completes appended]

/-- The texts decode to these documents. -/
def Decoded (sources : List Source) (documents : List (String × TopologyDocument)) : Prop :=
  sources.map (fun source => (source.name, Json.Document.read TopologyDocument source.text)) =
    documents.map fun (source, document) => (source, .ok document)

/-- The error is that of the first text that does not decode. -/
def FirstMalformed (sources : List Source) (error : LoadError) : Prop :=
  ∃ before source after fault, sources = before ++ source :: after ∧
    (∃ documents, Decoded before documents) ∧
    Json.Document.read TopologyDocument source.text = .error fault ∧
    error = .malformed source.name fault

variable {sources : List Source}

/-- Decode one text. -/
def decodeSource (source : Source) : Except LoadError (String × TopologyDocument) := do
  let document ← (Json.Document.read TopologyDocument source.text).mapError
    (LoadError.malformed source.name)
  return (source.name, document)

theorem decodeSource_eq_ok_iff {source : Source} {named : String × TopologyDocument} :
    decodeSource source = .ok named ↔
      (source.name, Json.Document.read TopologyDocument source.text) = (named.1, .ok named.2) := by
  unfold decodeSource
  cases Json.Document.read TopologyDocument source.text with
  | error fault => simp [Except.mapError, bind, Except.bind]
  | ok document => simp [Except.mapError, bind, Except.bind, pure, Except.pure, Prod.ext_iff]

theorem decodeSource_eq_error_iff {source : Source} : decodeSource source = .error error ↔
    ∃ fault, Json.Document.read TopologyDocument source.text = .error fault ∧
      error = .malformed source.name fault := by
  unfold decodeSource
  cases Json.Document.read TopologyDocument source.text with
  | error fault => simp [Except.mapError, bind, Except.bind, eq_comm]
  | ok document => simp [Except.mapError, bind, Except.bind, pure, Except.pure]

theorem decodeSources_eq_mapM (sources : List Source) :
    decodeSources sources = sources.mapM decodeSource := by
  induction sources with
  | nil => rfl
  | cons source rest ih =>
    rw [decodeSources, List.mapM_cons, ← ih]
    simp [decodeSource]

theorem decoded_iff : Decoded sources documents ↔
    List.Forall₂ (fun source named => decodeSource source = .ok named) sources documents := by
  simp only [decodeSource_eq_ok_iff]
  exact Traversal.map_eq_map_iff

theorem decodeSources_eq_ok_iff : decodeSources sources = .ok documents ↔
    Decoded sources documents := by
  rw [decodeSources_eq_mapM, Traversal.mapM_eq_ok_iff, decoded_iff]

theorem decodeSources_eq_error_iff : decodeSources sources = .error error ↔
    FirstMalformed sources error := by
  rw [decodeSources_eq_mapM, Traversal.mapM_eq_error_iff]
  simp only [FirstMalformed, decoded_iff, decodeSource_eq_error_iff, exists_and_left]

/-- Loading is all or nothing. It fails for the first text that does not decode, whatever is wrong
with the documents before it; only when all texts decode does it fail for the first document that
is refused, and if there is none it succeeds. -/
theorem load_refuses_first (sources : List Source) :
    (∀ error, load sources = .error error ↔ FirstMalformed sources error ∨
      ∃ documents, Decoded sources documents ∧ FirstRefused [] documents error) ∧
    ((∃ registry, load sources = .ok registry) ↔
      ∃ documents, Decoded sources documents ∧ Accepted [] documents) := by
  cases decoding : decodeSources sources with
  | error fault =>
    have failed : load sources = .error fault := by simp [load, decoding, bind, Except.bind]
    have first (error : LoadError) : FirstMalformed sources error ↔ fault = error := by
      simp [← decodeSources_eq_error_iff, decoding]
    have undecoded (documents) : ¬ Decoded sources documents := by
      simp [← decodeSources_eq_ok_iff, decoding]
    simp [failed, first, undecoded]
  | ok documents =>
    have loaded : load sources = empty.addDocuments documents := by
      simp [load, decoding, bind, Except.bind, ofDocuments]
    have readable (error : LoadError) : ¬ FirstMalformed sources error := by
      simp [← decodeSources_eq_error_iff, decoding]
    have only (others) : Decoded sources others ↔ documents = others := by
      simp [← decodeSources_eq_ok_iff, decoding]
    rw [loaded, addDocuments_eq_ok_iff]
    simp [addDocuments_eq_error_iff, readable, only, ids, empty]

end Registry

end AgentTeams
