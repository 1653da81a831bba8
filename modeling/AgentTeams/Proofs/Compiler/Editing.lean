import AgentTeams.Proofs.Compiler.Answers
import AgentTeams.Proofs.Handoff.Graph
import Mathlib.Logic.Relation

/-! Editing sessions: a team is retrofitted and its roster edited, in any order. Each agent is
followed through the session with the instructions it entered with. They are never lost, and at
most one note stands under them. -/
namespace AgentTeams

/-- An agent of a session and its base: the instructions it entered the session with. -/
structure Member where
  agent : Agent
  base : String

/-- An edit of a roster. Agents that stay keep their targets and instructions, new ones have no
targets yet. -/
inductive RosterEdit : List Member → List Member → Prop where
  | insert (before after : List Member) (agent : Agent) (untargeted : agent.handoffTargets = none) :
      RosterEdit (before ++ after) (before ++ ⟨agent, agent.instructions⟩ :: after)
  | remove (before after : List Member) (member : Member) :
      RosterEdit (before ++ member :: after) (before ++ after)
  | reorder (same : before.Perm after) : RosterEdit before after
  /-- Change the name, the description, the tools, the model or the members not known here. -/
  | revise (before after : List Member) (member : Member) (agent : Agent)
      (instructions : agent.instructions = member.agent.instructions)
      (handoffTargets : agent.handoffTargets = member.agent.handoffTargets) :
      RosterEdit (before ++ member :: after) (before ++ { member with agent } :: after)

/-- A team in an editing session. -/
structure Session where
  team : Team
  members : List Member
  aligned : members.map (·.agent) = team.agents

private theorem map_agent_zipWith {agents : List Agent} {bases : List String}
    (length : agents.length = bases.length) :
    (List.zipWith Member.mk agents bases).map (·.agent) = agents := by
  induction agents generalizing bases with
  | nil => rfl
  | cons agent rest ih =>
    cases bases with
    | nil => simp at length
    | cons base later => simpa using ih (by simpa using length)

variable {session : Session} {compiler : Compiler} {id : String} {compilation : Compilation}

namespace Session

/-- The session that begins with a team. -/
def start (team : Team) : Session where
  team
  members := team.agents.map fun agent => ⟨agent, agent.instructions⟩
  aligned := by simp [Function.comp_def]

/-- The bases after a retrofit: the same as before, or the instructions of the example agents if
there was nobody and the team is built afresh. -/
def basesAfter (session : Session) (compiler : Compiler) (id : String) : List String :=
  if session.members.isEmpty then
    match compiler.registry.find? id with
    | some topology => topology.exampleAgents.map (·.instructions)
    | none => []
  else session.members.map (·.base)

theorem agents_eq_nil_iff : session.team.agents = [] ↔ session.members = [] := by
  rw [← session.aligned, List.map_eq_nil_iff]

theorem length_basesAfter (answered : compiler.retrofit session.team id = .ok compilation) :
    compilation.team.agents.length = (session.basesAfter compiler id).length := by
  by_cases given : session.team.agents = []
  · have nobody := agents_eq_nil_iff.mp given
    rw [Compiler.retrofit_empty given] at answered
    obtain ⟨topology, found, _, rfl⟩ := Compiler.buildFromTemplate_eq_ok_iff.mp answered
    simp [basesAfter, nobody, found, Topology.build_eq, Topology.settle, Team.ownAgents,
      Topology.blank]
  · have somebody := mt agents_eq_nil_iff.mpr given
    obtain ⟨topology, _, _, rfl⟩ := (Compiler.retrofit_eq_ok_iff given).mp answered
    simp [basesAfter, somebody, Topology.convert_team, Topology.settle, Team.ownAgents,
      ← session.aligned]

/-- The session after a retrofit. -/
def retrofitted (session : Session)
    (answered : compiler.retrofit session.team id = .ok compilation) : Session where
  team := compilation.team
  members := List.zipWith Member.mk compilation.team.agents (session.basesAfter compiler id)
  aligned := map_agent_zipWith (length_basesAfter answered)

/-- One step of a session. An edit may also change what else is set for the team, but not its
driver. -/
inductive Step : Session → Session → Prop where
  | edit {before after : Session} (kind : after.team.driverKind = before.team.driverKind)
      (roster : RosterEdit before.members after.members) : Step before after
  | retrofit {before : Session} {compiler : Compiler} {id : String} {compilation : Compilation}
      (answered : compiler.retrofit before.team id = .ok compilation) :
      Step before (before.retrofitted answered)

end Session

/-- The targets that an agent was told of, if its team is of this kind. -/
def Agent.told (kind : DriverKind) (agent : Agent) : List String :=
  if kind = .peerHandoff then agent.handoffTargets.getD [] else []

/-- The instructions are the base with the note for the targets that the agent was told of. -/
def Member.Intact (kind : DriverKind) (member : Member) : Prop :=
  member.agent.instructions = HandoffNote.append (member.agent.told kind) member.base

theorem Agent.told_of_untargeted {kind : DriverKind} {agent : Agent}
    (untargeted : agent.handoffTargets = none) : agent.told kind = [] := by
  simp [told, untargeted]

theorem Member.Intact.own_instructions {kind : DriverKind} {member : Member}
    (intact : member.Intact kind) : (member.agent.own kind).instructions = member.base := by
  unfold Member.Intact Agent.told at intact
  unfold Agent.own Agent.noteOff
  by_cases handoff : kind = .peerHandoff
  · cases listed : member.agent.handoffTargets with
    | none => simpa [handoff, listed, Agent.withoutNote] using intact
    | some targets =>
      -- The note was written for the targets that are still listed, whoever has joined or left.
      have noted : member.agent.instructions = HandoffNote.append targets member.base := by
        simpa [handoff, listed] using intact
      simp [handoff, listed, Agent.withoutNote, noted]
  · simpa [handoff] using intact

/-- An edit keeps members intact under the same driver. -/
theorem RosterEdit.intact {kind : DriverKind} (edit : RosterEdit before after)
    (intact : ∀ member ∈ before, member.Intact kind) : ∀ member ∈ after, member.Intact kind := by
  cases edit with
  | insert front rest agent untargeted =>
    obtain ⟨earlier, later⟩ := List.forall_mem_append.mp intact
    have fresh : Member.Intact kind ⟨agent, agent.instructions⟩ := by
      simp [Member.Intact, Agent.told_of_untargeted untargeted]
    exact List.forall_mem_append.mpr ⟨earlier, List.forall_mem_cons.mpr ⟨fresh, later⟩⟩
  | remove front rest member =>
    obtain ⟨earlier, later⟩ := List.forall_mem_append.mp intact
    exact List.forall_mem_append.mpr ⟨earlier, (List.forall_mem_cons.mp later).2⟩
  | reorder same =>
    intro member present
    exact intact member (same.mem_iff.mpr present)
  | revise front rest member agent instructions handoffTargets =>
    obtain ⟨earlier, later⟩ := List.forall_mem_append.mp intact
    obtain ⟨old, later⟩ := List.forall_mem_cons.mp later
    have revised : Member.Intact kind { member with agent } := by
      unfold Member.Intact Agent.told at old ⊢
      rw [instructions, handoffTargets]
      exact old
    exact List.forall_mem_append.mpr ⟨earlier, List.forall_mem_cons.mpr ⟨revised, later⟩⟩

namespace Session

/-- All members of a session are intact. -/
def Intact (session : Session) : Prop :=
  ∀ member ∈ session.members, member.Intact session.team.driverKind

/-- A retrofit of an intact session settles a team whose agents have by themselves the bases for
their instructions. -/
theorem retrofit_source (intact : session.Intact)
    (answered : compiler.retrofit session.team id = .ok compilation) :
    ∃ topology source, compiler.registry.find? id = some topology ∧
      AcceptedNames source.agentNames ∧
      compilation.team = topology.settle compiler.options source ∧
      session.basesAfter compiler id = source.ownAgents.map (·.instructions) := by
  by_cases given : session.team.agents = []
  · -- Nobody is left: the source is the blank team of the example agents.
    have nobody := agents_eq_nil_iff.mp given
    rw [Compiler.retrofit_empty given] at answered
    obtain ⟨topology, found, _, rfl⟩ := Compiler.buildFromTemplate_eq_ok_iff.mp answered
    refine ⟨topology, topology.blank (topology.exampleAgents.map Role.toAgent), found,
      topology.exampleNames_accepted, by rw [Topology.build_eq], ?_⟩
    simp only [basesAfter, nobody, found, Topology.blank, Team.ownAgents, List.map_map]
    apply List.map_congr_left
    intro role _
    have own : role.toAgent.own topology.driverKind = role.toAgent :=
      Agent.own_of_untargeted rfl topology.driverKind
    exact congrArg Agent.instructions own.symm
  · have somebody := mt agents_eq_nil_iff.mpr given
    obtain ⟨topology, found, accepted, rfl⟩ := (Compiler.retrofit_eq_ok_iff given).mp answered
    refine ⟨topology, session.team, found, accepted, topology.convert_team compiler.options _, ?_⟩
    rw [Team.ownAgents, ← session.aligned, List.map_map, List.map_map]
    simp only [basesAfter, List.isEmpty_iff, somebody, if_false]
    apply List.map_congr_left
    intro member present
    exact (intact member present).own_instructions.symm

/-- In a retrofit of an intact session each member gets its part in the topology, over its base. -/
theorem retrofitted_members (intact : session.Intact)
    (answered : compiler.retrofit session.team id = .ok compilation) :
    ∃ topology, compiler.registry.find? id = some topology ∧
      compilation.team.driverKind = topology.driverKind ∧
      AcceptedNames compilation.team.agentNames ∧
      ∀ member ∈ (session.retrofitted answered).members, ∃ own : Agent,
        own.handoffTargets = none ∧ own.instructions = member.base ∧
        own.name ∈ compilation.team.agentNames ∧
        member.agent = topology.seat compilation.team.agentNames own := by
  obtain ⟨topology, source, found, accepted, settled, bases⟩ := retrofit_source intact answered
  have names : compilation.team.agentNames = source.agentNames := by
    rw [settled, Topology.settle_agentNames]
  refine ⟨topology, found, by rw [settled]; rfl, names ▸ accepted, ?_⟩
  intro member present
  have members : (session.retrofitted answered).members = source.ownAgents.map fun own =>
      ⟨topology.seat source.agentNames (own.bound compiler.options), own.instructions⟩ := by
    change List.zipWith Member.mk compilation.team.agents (session.basesAfter compiler id) = _
    rw [bases, settled]
    simp [Topology.settle, List.zipWith_map, List.zipWith_self]
  rw [members] at present
  obtain ⟨own, among, rfl⟩ := List.mem_map.mp present
  have untargeted := Team.untargeted_of_ownAgents among
  have named := Team.name_mem_of_ownAgents among
  exact ⟨own.bound compiler.options, untargeted, rfl, names ▸ named, by rw [names]⟩

theorem retrofitted_intact (intact : session.Intact)
    (answered : compiler.retrofit session.team id = .ok compilation) :
    (session.retrofitted answered).Intact := by
  obtain ⟨topology, _, kind, _, parts⟩ := retrofitted_members intact answered
  intro member present
  obtain ⟨own, untargeted, base, _, part⟩ := parts member present
  change member.Intact compilation.team.driverKind
  unfold Member.Intact Agent.told
  rw [part, kind, ← base]
  by_cases handoff : topology.driverKind = .peerHandoff
  · simp [Topology.seat, handoff, Agent.handingOff]
  · simp [topology.seat_of_ne handoff, handoff]

theorem Step.intact {before after : Session} (step : Step before after) (intact : before.Intact) :
    after.Intact := by
  cases step with
  | edit kind roster =>
    unfold Session.Intact
    rw [kind]
    exact roster.intact intact
  | retrofit answered => exact retrofitted_intact intact answered

end Session

end AgentTeams
