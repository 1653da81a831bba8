import AgentTeams.Proofs.Compiler.Switching
import AgentTeams.Proofs.Json.Record
import AgentTeams.Proofs.Sorted

/-! Agents: what a run of retrofits keeps of the agents of a team, and of the documents from which
they were read. -/
namespace AgentTeams

open Json (Tree)

/-- The keys of an object in their order. -/
def Json.keys : Json → List String
  | obj members => members.map (·.1)
  | _ => []

theorem Json.lookup_member? (key : String) (value : Option α) (encode : α → Json)
    (other : String) : (Json.member? key value encode).lookup other =
      if other = key then value.map encode else none := by
  cases value with
  | none => simp [Json.member?]
  | some present => simp [Json.member?, lookup_cons_eq_ite]

theorem Json.keys_member?_sublist (key : String) (value : Option α) (encode : α → Json) :
    ((Json.member? key value encode).map (·.1)).Sublist [key] := by
  cases value <;> simp [Json.member?]

namespace Agent

/-- The members of an agent's document that are known here. -/
def ownMembers : List String :=
  ["name", "description", "instructions", "tools", "modelBinding", "handoffTargets"]

/-- The members that an agent is written with, apart from those that are not known here. -/
def ownEntries (agent : Agent) : List (String × Json) :=
  [("name", .str agent.name), ("description", .str agent.description),
    ("instructions", .str agent.instructions)] ++
  (if agent.tools.elements.isEmpty then [] else [("tools", .strings agent.tools.elements)]) ++
  Json.member? "modelBinding" agent.modelBinding ModelBinding.toJson ++
  Json.member? "handoffTargets" agent.handoffTargets Json.strings

variable {agent : Agent} {key : String}

theorem toJson_eq (agent : Agent) :
    agent.toJson = .obj (agent.ownEntries ++ agent.extra.entries) := rfl

theorem ownEntries_sublist (agent : Agent) :
    (agent.ownEntries.map (·.1)).Sublist ownMembers := by
  have tools : ((if agent.tools.elements.isEmpty then []
      else [("tools", Json.strings agent.tools.elements)]).map (·.1)).Sublist ["tools"] := by
    split <;> simp
  simp only [ownEntries, List.map_append]
  exact (((List.Sublist.refl _).append tools).append (Json.keys_member?_sublist ..)).append
    (Json.keys_member?_sublist ..)

theorem lookup_ownEntries (foreign : key ∉ ownMembers) : agent.ownEntries.lookup key = none := by
  apply List.lookup_eq_none_iff.mpr
  rintro ⟨own, value⟩ member
  have known : own ∈ ownMembers :=
    agent.ownEntries_sublist.subset (List.mem_map.mpr ⟨_, member, rfl⟩)
  simpa using fun same : key = own => foreign (same ▸ known)

theorem get?_toJson (foreign : key ∉ ownMembers) :
    agent.toJson.get? key = agent.extra.get? key := by
  simp [toJson_eq, Json.get?, List.lookup_append, lookup_ownEntries foreign, StringMap.get?]

theorem nodup_keys_toJson (apart : ∀ key ∈ ownMembers, agent.extra.get? key = none) :
    agent.toJson.keys.Nodup := by
  rw [toJson_eq, Json.keys, List.map_append, List.nodup_append]
  refine ⟨agent.ownEntries_sublist.nodup (by decide), agent.extra.ascending.nodup_keys, ?_⟩
  rintro key own _ other rfl
  obtain ⟨⟨_, value⟩, member, rfl⟩ := List.mem_map.mp other
  have known := agent.ownEntries_sublist.subset own
  simpa using List.lookup_eq_none_iff.mp (apart _ known) _ member

/-- An agent is written with every member of a document that is not known here, with the value it
has there, and with no other such member. -/
structure WrittenFrom (document : Tree) (written : Json) : Prop where
  distinct : written.keys.Nodup
  foreign : ∀ key ∉ ownMembers,
    (written.get? key).map some = (document.member? key).map Tree.toJson?

/-- An agent that was read from a document, whatever has become of it, is written from it as long
as it has the members that are not known here. -/
theorem writtenFrom_of_decoder {document : Tree} {before after : Agent}
    (decoded : decoder document = .ok before) (extra : after.extra = before.extra) :
    WrittenFrom document after.toJson := by
  obtain ⟨⟨known, kept⟩, read, rfl⟩ := Json.map_eq_ok_iff.mp decoded
  have same : after.extra = kept := extra
  constructor
  · apply nodup_keys_toJson
    intro key own
    rw [same]
    exact (Json.Record.get?_decodeKeeping read).1 own
  · intro key foreign
    rw [get?_toJson foreign, same]
    exact (Json.Record.get?_decodeKeeping read).2 foreign

end Agent

namespace Team

/-- The documents of the agents in the document of a team. -/
def agentDocuments (document : Tree) : List Tree :=
  match record.part? "agents" document with
  | some (.arr documents _) => documents
  | _ => []

theorem agentDocuments_decode {document : Tree} {team : Team}
    (decoded : decoder document = .ok team) :
    List.Forall₂ (fun tree agent => Agent.decoder tree = .ok agent) (agentDocuments document)
      team.agents := by
  obtain ⟨⟨_, _, _, _, agents, _⟩, read, rfl⟩ := Json.map_eq_ok_iff.mp decoded
  obtain ⟨_, _, _, _, here, _⟩ := Json.Record.decode_readFrom (by decide) read
  unfold agentDocuments
  rcases Json.Record.readFrom_field_iff.mp here with ⟨tree, part, listed⟩ | ⟨part, nothing⟩
  · obtain ⟨trees, closing, rfl, items⟩ := Json.Decoder.list_forall₂ listed
    simpa [part] using items
  · have none : agents = [] := by simpa [eq_comm] using nothing
    simp [part, none]

theorem get?_agents (team : Team) :
    team.toJson.get? "agents" = some (.arr (team.agents.map Agent.toJson)) := by
  simp [toJson, Json.get?, List.lookup_append, Json.lookup_member?, lookup_cons_eq_ite]

end Team

/-- What retrofits to these topologies keep of an agent. A model is filled in by the first of them
if there is none. -/
structure Agent.KeptBy (options : Options) (ids : List String) (before after : Agent) : Prop where
  name : after.name = before.name
  description : after.description = before.description
  tools : after.tools = before.tools
  extra : after.extra = before.extra
  modelBinding : after.modelBinding =
    if ids = [] then before.modelBinding
    else some (before.modelBinding.getD options.defaultModel)

namespace Agent.KeptBy

variable {options : Options} {first rest ids : List String} {before between after : Agent}

theorem refl (options : Options) (agent : Agent) : KeptBy options [] agent agent :=
  ⟨rfl, rfl, rfl, rfl, rfl⟩

theorem append (opening : KeptBy options first before between)
    (closing : KeptBy options rest between after) :
    KeptBy options (first ++ rest) before after where
  name := closing.name.trans opening.name
  description := closing.description.trans opening.description
  tools := closing.tools.trans opening.tools
  extra := closing.extra.trans opening.extra
  modelBinding := by
    rw [closing.modelBinding, opening.modelBinding]
    by_cases start : first = [] <;> by_cases stop : rest = [] <;> simp [start, stop]

/-- To leave a topology an agent gives up its note, to enter one it gets a model and its part. -/
theorem settled (topology : Topology) (options : Options) (id : String) (kind : DriverKind)
    (names : List String) (agent : Agent) :
    KeptBy options [id] agent (topology.seat names ((agent.own kind).bound options)) := by
  have same : KeptBy options [id] agent ((agent.own kind).bound options) := by
    unfold own noteOff withoutNote
    split
    · split <;> exact ⟨rfl, rfl, rfl, rfl, rfl⟩
    · exact ⟨rfl, rfl, rfl, rfl, rfl⟩
  unfold Topology.seat
  split
  · exact ⟨same.name, same.description, same.tools, same.extra, same.modelBinding⟩
  · exact same

end Agent.KeptBy

/-- A topology changes the agents of a team where they stand. -/
theorem Topology.settle_changes_agents (topology : Topology) (options : Options) (id : String)
    (team : Team) :
    ∃ change, (topology.settle options team).agents = team.agents.map change ∧
      ∀ agent, Agent.KeptBy options [id] agent (change agent) := by
  refine ⟨fun agent => topology.seat team.agentNames
    ((agent.own team.driverKind).bound options), ?_, ?_⟩
  · simp [settle, Team.ownAgents, Function.comp_def]
  · intro agent
    exact .settled topology options id team.driverKind team.agentNames agent

namespace Compiler

variable {compiler : Compiler} {team final : Team} {ids : List String}

theorem retrofit_changes_agents {id : String} {compilation : Compilation} (given : team.agents ≠ [])
    (answered : compiler.retrofit team id = .ok compilation) :
    ∃ change, compilation.team.agents = team.agents.map change ∧
      ∀ agent, Agent.KeptBy compiler.options [id] agent (change agent) := by
  obtain ⟨topology, _, _, rfl⟩ := (retrofit_eq_ok_iff given).mp answered
  rw [Topology.convert_team]
  exact topology.settle_changes_agents compiler.options id team

/-- A run of retrofits changes the agents where they stand. -/
theorem retrofitAll_changes_agents (given : team.agents ≠ [])
    (walked : compiler.retrofitAll team ids = .ok final) :
    ∃ change, final.agents = team.agents.map change ∧
      ∀ agent, Agent.KeptBy compiler.options ids agent (change agent) := by
  induction ids generalizing team with
  | nil =>
    cases walked
    exact ⟨id, by simp, Agent.KeptBy.refl compiler.options⟩
  | cons id rest ih =>
    obtain ⟨compilation, answered, onward⟩ := Json.bind_eq_ok_iff.mp walked
    obtain ⟨opening, opened, first⟩ := retrofit_changes_agents given answered
    obtain ⟨closing, closed, others⟩ := ih (by simpa [opened] using given) onward
    -- The first retrofit may fill in a model, which the others then find and keep.
    refine ⟨closing ∘ opening, by rw [closed, opened, List.map_map], ?_⟩
    intro agent
    exact (first agent).append (others (opening agent))

/-- A run of retrofits keeps the agents of a team in their order, each with its name, description,
tools and unknown members, and with its model if it has one. Each is written with the members that
its document had, those apart that are known here, and with no other such member. -/
theorem retrofitAll_keeps_agents {document : Tree} (decoded : Team.decoder document = .ok team)
    (given : team.agents ≠ []) (walked : compiler.retrofitAll team ids = .ok final) :
    List.Forall₂ (Agent.KeptBy compiler.options ids) team.agents final.agents ∧
    ∃ written, final.toJson.get? "agents" = some (.arr written) ∧
      List.Forall₂ Agent.WrittenFrom (Team.agentDocuments document) written := by
  obtain ⟨change, changed, kept⟩ := retrofitAll_changes_agents given walked
  refine ⟨?_, final.agents.map Agent.toJson, final.get?_agents, ?_⟩
  · rw [changed, List.forall₂_map_right_iff, List.forall₂_same]
    exact fun agent _ => kept agent
  · rw [changed, List.map_map, List.forall₂_map_right_iff]
    exact (Team.agentDocuments_decode decoded).imp fun document agent decoded =>
      Agent.writtenFrom_of_decoder decoded (kept agent).extra

/-- An agent keeps its endpoint, through notes and targets that come and go. -/
theorem retrofitAll_keeps_agents_of_endpoint :
    let document := Tree.ofJson <| .obj [("driverKind", .str "fixed_order"),
      ("agents", .arr [.obj [("name", .str "planner"), ("endpoint", .str "local")],
        .obj [("name", .str "writer")]])]
    let team : Team := {
      driverKind := .fixedOrder
      agents := [
        { name := "planner", extra := StringMap.empty.insert "endpoint" (.str "local") },
        { name := "writer" }] }
    Team.decoder document = .ok team ∧ ∃ final planner writer,
      bundled.retrofitAll team [TopologyId.handoff, TopologyId.sequential, TopologyId.selector] =
        .ok final ∧
      final.toJson.get? "agents" = some (.arr [planner, writer]) ∧
      planner.get? "endpoint" = some (.str "local") := by
  intro document team
  have decoded : Team.decoder document = .ok team := by rfl
  have succeeded : (bundled.retrofitAll team
      [TopologyId.handoff, TopologyId.sequential, TopologyId.selector]).isOk = true := by
    decide +kernel
  obtain ⟨final, walked⟩ := exists_ok_of_isOk succeeded
  obtain ⟨_, written, found, rewritten⟩ :=
    retrofitAll_keeps_agents decoded (List.cons_ne_nil _ _) walked
  cases rewritten with
  | cons planner rest =>
    cases rest with
    | cons writer rest =>
      cases rest
      have endpoint := planner.foreign "endpoint" (by decide)
      change _ = some (some (Json.str "local")) at endpoint
      exact ⟨decoded, final, _, _, walked, found, by simpa using endpoint⟩

end Compiler

end AgentTeams
