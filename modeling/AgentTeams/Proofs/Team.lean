import AgentTeams.Inference
import AgentTeams.Proofs.Compiler.Agents
import AgentTeams.Proofs.TerminationRule

/-! Stored teams. Nothing of a team is lost when it is stored: what is absent, empty or null stays
apart, and so do the members that are known here and those that are not. -/
namespace AgentTeams

open Json (Document Tree Decoder Restores keys_member?_sublist restores_bool restores_list
  restores_string restores_strings restores_stringSet)
open Json.Record

theorem DriverKind.restores_decoder (kind : DriverKind) :
    Restores (fun kind => .str kind.name) decoder kind := by
  cases kind <;> rfl

theorem ModelBinding.restores_decoder (binding : ModelBinding) :
    Restores toJson decoder binding := by
  have written : (Json.Record.both (.required "provider" Decoder.string)
      (.required "model" Decoder.string)).WrittenAs
      (fun key => ([("provider", .str binding.provider), ("model", .str binding.model)].lookup
        key).map Json.canonical) (binding.provider, binding.model) :=
    ⟨writtenAs_of_member (by simp) (restores_string binding.provider),
      writtenAs_of_member (by simp [lookup_cons_eq_ite]) (restores_string binding.model)⟩
  exact Json.map_eq_ok_iff.mpr ⟨_, decode_canonical (by decide) (by simp) written, rfl⟩

namespace Agent

variable {agent : Agent} {key : String}

/-- What is kept of an agent's document has no key that is known here, and its values are in
canonical form, as all values are that were read or stored. -/
structure Storable (agent : Agent) : Prop where
  foreign : ∀ key ∈ ownMembers, agent.extra.get? key = none
  canonical : ∀ key value, agent.extra.get? key = some value → value.IsCanonical

theorem storable_of_decoder {tree : Tree} (decoded : decoder tree = .ok agent) :
    agent.Storable := by
  obtain ⟨⟨known, kept⟩, read, rfl⟩ := Json.map_eq_ok_iff.mp decoded
  constructor
  · intro key own
    exact (get?_decodeKeeping read).1 own
  · intro key value found
    have foreign : key ∉ ownMembers := by
      intro own
      have absent : kept.get? key = none := (get?_decodeKeeping read).1 own
      simp [absent] at found
    have stored := (get?_decodeKeeping read).2 foreign
    rw [found, Option.map_some, eq_comm, Option.map_eq_some_iff] at stored
    obtain ⟨member, _, read⟩ := stored
    exact Json.isCanonical_of_toJson? member read

theorem lookup_tools (agent : Agent) (key : String) :
    (if agent.tools.elements = [] then []
      else [("tools", Json.strings agent.tools.elements)]).lookup key =
    if key = "tools" ∧ agent.tools.elements ≠ [] then
      some (Json.strings agent.tools.elements) else none := by
  by_cases empty : agent.tools.elements = [] <;> simp [empty, lookup_cons_eq_ite]

/-- What is kept of a document is stored as it is. -/
theorem Storable.get?_canonical (storable : agent.Storable) (key : String) :
    (agent.extra.get? key).map Json.canonical = agent.extra.get? key := by
  cases found : agent.extra.get? key with
  | none => rfl
  | some value => exact congrArg some (storable.canonical key value found)

theorem lookup_entries_own (foreign : ∀ key ∈ ownMembers, agent.extra.get? key = none)
    (own : key ∈ ownMembers) :
    (agent.ownEntries ++ agent.extra.entries).lookup key = agent.ownEntries.lookup key := by
  have absent : agent.extra.entries.lookup key = none := foreign key own
  rw [List.lookup_append, absent, Option.or_none]

/-- Empty tools are left out and come back as they were. -/
theorem tools_writtenAs {members : String → Option Json}
    (member : members "tools" = (if agent.tools.elements = [] then none
      else some (Json.strings agent.tools.elements)).map Json.canonical) :
    (defaulted "tools" Decoder.stringSet StringSet.empty).WrittenAs members agent.tools := by
  by_cases empty : agent.tools.elements = []
  · have same : StringSet.empty = agent.tools := StringSet.ext empty.symm
    exact writtenAs_of_absent (by simp [member, empty]) (congrArg some same)
  · exact writtenAs_of_member (by simp [member, empty]) (restores_stringSet agent.tools)

theorem restores_decoder (storable : agent.Storable) : Restores toJson decoder agent := by
  have once : ((agent.ownEntries ++ agent.extra.entries).map (·.1)).Nodup :=
    nodup_keys_toJson storable.foreign
  have written : record.WrittenAs
      (fun key => ((agent.ownEntries ++ agent.extra.entries).lookup key).map Json.canonical)
      (agent.name, agent.description, agent.instructions, agent.tools, agent.modelBinding,
        agent.handoffTargets) := by
    refine ⟨writtenAs_of_member ?_ (restores_string agent.name),
      writtenAs_of_member ?_ (restores_string agent.description),
      writtenAs_of_member ?_ (restores_string agent.instructions),
      tools_writtenAs ?_,
      omissible_writtenAs ?_ rfl fun binding _ => binding.restores_decoder,
      omissible_writtenAs ?_ rfl fun targets _ => restores_strings targets⟩
    all_goals
      rw [lookup_entries_own storable.foreign (by decide)]
      simp [ownEntries, List.lookup_append, lookup_tools, Json.lookup_member?, lookup_cons_eq_ite,
        Function.comp_def]
  obtain ⟨kept, read, members⟩ := decodeKeeping_canonical (by decide) once written
  rw [← toJson_eq] at read
  have same : kept = agent.extra := by
    apply StringMap.ext_get?
    intro key
    rw [members key]
    by_cases own : key ∈ ownMembers
    · exact (if_pos own).trans (storable.foreign key own).symm
    · have beyond : (agent.ownEntries ++ agent.extra.entries).lookup key = agent.extra.get? key :=
        get?_toJson own
      exact (if_neg own).trans (by rw [beyond, storable.get?_canonical])
  exact Json.map_eq_ok_iff.mpr ⟨_, read, by rw [same]⟩

end Agent

namespace Team

variable {team : Team}

/-- All agents can be stored. -/
def Storable (team : Team) : Prop :=
  ∀ agent ∈ team.agents, agent.Storable

theorem storable_of_decoder {tree : Tree} (decoded : decoder tree = .ok team) :
    team.Storable := by
  have agents := (agentDocuments_decode decoded).imp fun _ agent decoded =>
    And.intro (Agent.storable_of_decoder decoded) decoded
  exact ((List.forall₂_and_left _ _).mp agents.flip).1

/-- The members that a team is written with. -/
def entries (team : Team) : List (String × Json) :=
  [("driverKind", .str team.driverKind.name)] ++
  Json.member? "topologyId" team.topologyId .str ++
  Json.member? "label" team.label .str ++
  Json.member? "description" team.description .str ++
  [("agents", .arr (team.agents.map Agent.toJson))] ++
  Json.member? "teamModelBinding" team.teamModelBinding ModelBinding.toJson ++
  Json.member? "coordinationPrompt" team.coordinationPrompt .str ++
  Json.member? "allowRepeatedSpeaker" team.allowRepeatedSpeaker .bool ++
  Json.member? "terminationRule" team.terminationRule TerminationRule.toJson

theorem toJson_eq (team : Team) : team.toJson = .obj team.entries := rfl

theorem nodup_keys_entries (team : Team) : (team.entries.map (·.1)).Nodup := by
  have known : (team.entries.map (·.1)).Sublist record.names := by
    simp only [entries, List.map_append]
    exact ((((((((List.Sublist.refl _).append (keys_member?_sublist ..)).append
      (keys_member?_sublist ..)).append (keys_member?_sublist ..)).append
      (List.Sublist.refl _)).append (keys_member?_sublist ..)).append
      (keys_member?_sublist ..)).append (keys_member?_sublist ..)).append (keys_member?_sublist ..)
  exact known.nodup (by decide)

theorem restores_decoder (storable : team.Storable) : Restores toJson decoder team := by
  have agents : Restores (fun agents => .arr (agents.map Agent.toJson))
      (Decoder.list Agent.decoder) team.agents :=
    restores_list fun agent member => Agent.restores_decoder (storable agent member)
  have written : record.WrittenAs (fun key => (team.entries.lookup key).map Json.canonical)
      (team.driverKind, team.topologyId, team.label, team.description, team.agents,
        team.teamModelBinding, team.coordinationPrompt, team.allowRepeatedSpeaker,
        team.terminationRule) := by
    refine ⟨writtenAs_of_member ?_ team.driverKind.restores_decoder,
      omissible_writtenAs ?_ rfl fun text _ => restores_string text,
      omissible_writtenAs ?_ rfl fun text _ => restores_string text,
      omissible_writtenAs ?_ rfl fun text _ => restores_string text,
      writtenAs_of_member ?_ agents,
      omissible_writtenAs ?_ rfl fun binding _ => binding.restores_decoder,
      omissible_writtenAs ?_ rfl fun text _ => restores_string text,
      omissible_writtenAs ?_ rfl fun value _ => restores_bool value,
      omissible_writtenAs ?_ rfl fun rule _ => rule.restores_decoder⟩
    all_goals
      simp [entries, List.lookup_append, Json.lookup_member?, lookup_cons_eq_ite, Function.comp_def]
  have read := decode_canonical (by decide) team.nodup_keys_entries written
  rw [← toJson_eq] at read
  exact Json.map_eq_ok_iff.mpr ⟨_, read, rfl⟩

theorem ofStored_stored (storable : team.Storable) :
    Document.ofStored Team (Document.stored team) = .ok team :=
  restores_decoder storable

/-- What is left of a stored document that is read as a team and stored again. -/
def rewrite (document : Json) : Except Json.DecodeError Json :=
  (Document.ofStored Team document).map Document.stored

theorem rewrite_idempotent {document written : Json} (once : rewrite document = .ok written) :
    rewrite written = .ok written := by
  obtain ⟨team, read, rfl⟩ := Json.map_eq_ok_iff.mp once
  exact Json.map_eq_ok_iff.mpr ⟨team, ofStored_stored (storable_of_decoder read), rfl⟩

theorem eq_of_stored {left right : Team} (first : left.Storable) (second : right.Storable)
    (same : Document.stored left = Document.stored right) : left = right := by
  have read := ofStored_stored first
  rw [same, ofStored_stored second] at read
  exact (Except.ok.inj read).symm

/-- A team that can be stored comes back as it was, and its topology is inferred from what was
stored as it is from the team. So no two such teams are stored alike. Every team that was read is
such a team, whatever it was read from: a document that was rewritten once does not change any
more. -/
theorem storing_faithful :
    (∀ team : Team, team.Storable →
      Document.ofStored Team (Document.stored team) = .ok team ∧
      inferStored (Document.stored team) = team.inferredTopology) ∧
    (∀ left right : Team, left.Storable → right.Storable →
      Document.stored left = Document.stored right → left = right) ∧
    (∀ (tree : Tree) (team : Team), decoder tree = .ok team → team.Storable) ∧
    ∀ document written : Json, rewrite document = .ok written → rewrite written = .ok written := by
  refine ⟨fun team storable => ⟨ofStored_stored storable, ?_⟩,
    fun left right first second same => eq_of_stored first second same,
    fun tree team decoded => storable_of_decoder decoded,
    fun document written once => rewrite_idempotent once⟩
  simp [inferStored, ofStored_stored storable]

/-- An empty list of targets is not the same as none, not even next to empty tools, a null that is
kept and rules inside rules. -/
theorem storing_faithful_of_targets :
    let agent (targets : Option (List String)) : Agent := {
      name := "triage"
      handoffTargets := targets
      extra := (StringMap.empty.insert "endpoint" .null).insert "limits"
        (.obj [("burst", .ofNat 3), ("hosts", .arr [.str "local", .null])]) }
    let team (targets : Option (List String)) : Team := {
      driverKind := .peerHandoff
      label := some ""
      agents := [agent targets,
        { name := "writer", tools := StringSet.ofList ["search", "browse"] }]
      terminationRule := some (.any [.textMention "DONE", .any [.maxMessages 4, .any []]]) }
    Document.ofStored Team (Document.stored (team (some []))) = .ok (team (some [])) ∧
    inferStored (Document.stored (team (some []))) = TopologyId.handoff ∧
    Document.stored (team (some [])) ≠ Document.stored (team none) := by
  intro agent team
  have triage (targets : Option (List String)) : (agent targets).Storable := by
    constructor
    · simp [agent, Agent.ownMembers, StringMap.get?_insert]
    · intro key value found
      simp only [agent, StringMap.get?_insert] at found
      split at found
      · cases found
        rfl
      · split at found
        · cases found
          rfl
        · cases found
  have writer : Agent.Storable
      { name := "writer", tools := StringSet.ofList ["search", "browse"] } :=
    ⟨fun _ _ => rfl, fun _ _ found => nomatch found⟩
  have storable (targets : Option (List String)) : (team targets).Storable :=
    List.forall_mem_cons.mpr ⟨triage targets, List.forall_mem_singleton.mpr writer⟩
  obtain ⟨restored, injective, _, _⟩ := storing_faithful
  obtain ⟨read, inferred⟩ := restored (team (some [])) (storable (some []))
  refine ⟨read, inferred, ?_⟩
  intro same
  have equal := injective _ _ (storable (some [])) (storable none) same
  simp [team, agent] at equal

end Team

end AgentTeams
