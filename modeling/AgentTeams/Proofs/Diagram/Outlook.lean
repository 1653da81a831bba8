import AgentTeams.Proofs.Diagram.Scenes

/-! Outlook: all that can be seen of a team and its run in a diagram. Of the agents these are the
names and descriptions, of the activity who in the team has spoken and who of them was the last,
and of the run whether it has begun and how it has ended. -/
namespace AgentTeams

/-- An agent with nothing but what is seen of it. -/
def Agent.outward (agent : Agent) : Agent where
  name := agent.name
  description := agent.description

namespace Diagram

/-- Stages of a run that are drawn in the same way. -/
def SameStage (left right : Run.Status) : Prop :=
  left = right ∨ (left ∈ [.active, .awaitingInput] ∧ right ∈ [.active, .awaitingInput]) ∨
    (left ∈ [.error, .stopped, .timeout] ∧ right ∈ [.error, .stopped, .timeout])

/-- Scenes that look alike, whatever else there is to the agents, whoever else has spoken and in
whatever order. -/
structure Scene.Alike (left right : Scene) : Prop where
  visual : left.visual = right.visual
  agents : left.agents.map (fun agent => (agent.name, agent.description)) =
    right.agents.map fun agent => (agent.name, agent.description)
  spoken : ∀ name ∈ left.names, left.activity.contains name = right.activity.contains name
  latest : left.latestAgent? = right.latestAgent?
  status : SameStage left.status right.status

theorem names_outward (agents : List Agent) :
    (agents.map Agent.outward).map (·.name) = agents.map (·.name) :=
  List.map_map

theorem Mesh.router?_outward (agents : List Agent) :
    router? (agents.map Agent.outward) = (router? agents).map Agent.outward := by
  unfold router?
  rw [List.find?_map, List.head?_map, ← Option.map_or]
  rfl

theorem Mesh.peers_outward (router : Agent) (agents : List Agent) :
    peers router.outward (agents.map Agent.outward) = (peers router agents).map Agent.outward := by
  unfold peers
  rw [List.filter_map]
  rfl

theorem plan_outward (agents : List Agent) (activity : Activity) (status : Run.Status)
    (visual : Visual) : plan ⟨agents.map Agent.outward, activity, status, visual⟩ =
      plan ⟨agents, activity, status, visual⟩ := by
  have names := names_outward agents
  unfold plan
  cases visual.layout with
  | chain =>
    simp only [Chain.plan, Scene.names, names, List.zipIdx_map, List.map_map, List.length_map]
    rfl
  | hubAndSpoke =>
    simp only [Hub.plan, Scene.latestAgent?, Scene.names, names, List.zipIdx_map, List.map_map,
      List.length_map]
    rfl
  | mesh =>
    unfold Mesh.plan
    rw [Mesh.router?_outward]
    cases Mesh.router? agents with
    | none => rfl
    | some router =>
      simp only [Option.map_some, Mesh.peers_outward, List.zipIdx_map, List.map_map,
        List.length_map]
      rfl
  | forkJoin =>
    simp only [ForkJoin.plan, Scene.names, names, List.zipIdx_map, List.map_map, List.length_map]
    rfl
  | tree =>
    cases agents with
    | nil => rfl
    | cons supervisor workers =>
      simp only [Tree.plan, Scene.names, List.map_cons, List.zipIdx_map, List.map_map,
        List.length_map]
      rfl
  | ring =>
    simp only [Ring.plan, Scene.names, names, List.zipIdx_map, List.map_map, List.length_map]
    rfl

variable {left right : Scene}

theorem Scene.Alike.names (alike : left.Alike right) : left.names = right.names := by
  have read (agents : List Agent) : agents.map (·.name) =
      (agents.map fun agent => (agent.name, agent.description)).map Prod.fst := by
    rw [List.map_map]
    rfl
  rw [Scene.names, Scene.names, read, alike.agents, ← read]

theorem Scene.Alike.outward (alike : left.Alike right) :
    left.agents.map Agent.outward = right.agents.map Agent.outward := by
  have read (agents : List Agent) : agents.map Agent.outward =
      (agents.map fun agent => (agent.name, agent.description)).map
        fun seen => { name := seen.1, description := seen.2 } := by
    rw [List.map_map]
    rfl
  rw [read, alike.agents, ← read]

theorem Scene.Alike.plan_eq (alike : left.Alike right) : plan left = plan right := by
  have shown : (right.agents.map Agent.outward).map (·.name) = left.names := by
    rw [← alike.outward]
    exact names_outward left.agents
  calc plan left
      = plan ⟨left.agents.map Agent.outward, left.activity, left.status, left.visual⟩ :=
        (plan_outward left.agents left.activity left.status left.visual).symm
    _ = plan ⟨right.agents.map Agent.outward, left.activity, left.status, right.visual⟩ := by
        rw [alike.outward, alike.visual]
    _ = plan ⟨right.agents.map Agent.outward, right.activity, right.status, right.visual⟩ := by
        apply plan_congr
        · rw [shown]
          exact alike.spoken
        · have latest := alike.latest
          unfold Scene.latestAgent? at latest
          rw [shown, latest, alike.names]
    _ = plan right := plan_outward right.agents right.activity right.status right.visual

/-- What does not tell stages apart that are drawn in the same way is the same for both. -/
theorem SameStage.congr {α : Type} {first second : Run.Status} (same : SameStage first second)
    (view : Run.Status → α) (waiting : view .awaitingInput = view .active)
    (stopped : view .stopped = view .error) (timedOut : view .timeout = view .error) :
    view first = view second := by
  rcases same with rfl | ⟨going, goingToo⟩ | ⟨failed, failedToo⟩
  · rfl
  · have going_eq : ∀ status ∈ [Run.Status.active, .awaitingInput], view status = view .active := by
      simp [waiting]
    rw [going_eq first going, going_eq second goingToo]
  · have failed_eq : ∀ status ∈ [Run.Status.error, .stopped, .timeout],
        view status = view .error := by
      simp [stopped, timedOut]
    rw [failed_eq first failed, failed_eq second failedToo]

theorem Scene.Alike.anyAgentActive_eq (alike : left.Alike right) :
    left.anyAgentActive = right.anyAgentActive := by
  rw [Bool.eq_iff_iff, anyAgentActive_iff, anyAgentActive_iff, ← alike.names]
  exact exists_congr fun name => and_congr_right fun member => by rw [alike.spoken name member]

theorem Scene.Alike.isActive_eq (alike : left.Alike right) (id : String) :
    left.isActive id = right.isActive id := by
  have begun : decide (left.status ≠ .created) = decide (right.status ≠ .created) :=
    alike.status.congr (fun status => decide (status ≠ .created)) rfl rfl rfl
  unfold isActive
  rw [← alike.names, alike.anyAgentActive_eq, begun]
  split
  · rename_i agent
    exact alike.spoken id agent
  · rfl

theorem Scene.Alike.draw_eq (alike : left.Alike right) (plan : Plan) :
    plan.draw left = plan.draw right := by
  have running := plan.drawRunning_congr alike.visual alike.isActive_eq
  have ended : left.status.isTerminal = right.status.isTerminal :=
    alike.status.congr Run.Status.isTerminal rfl rfl rfl
  have finish : endNode left.status plan.endPosition = endNode right.status plan.endPosition :=
    alike.status.congr (endNode · plan.endPosition) rfl rfl rfl
  simp only [Plan.draw, running, ended, finish, alike.latest]

/-- Scenes that look alike have the same diagram. -/
theorem generate_eq_of_alike (alike : left.Alike right) : generate left = generate right := by
  unfold generate
  rw [alike.plan_eq, alike.draw_eq]

/-- What an agent is told and whom it may hand off to is not seen, nor are strangers, nor who of
the others spoke first. -/
theorem generate_eq_of_alike_mesh :
    let left : Scene :=
      { agents := [{ name := "router" }, { name := "writer" }, { name := "critic" }]
        activity := Activity.ofList ["router", "writer", "critic"]
        status := .stopped
        visual := Visual.ofDriverKind .peerHandoff }
    let right : Scene :=
      { agents := [{ name := "router", handoffTargets := some ["writer"] },
          { name := "writer", instructions := "Write." }, { name := "critic" }]
        activity := Activity.ofList ["writer", "router", "critic", "stranger"]
        status := .timeout
        visual := Visual.ofDriverKind .peerHandoff }
    left.Alike right ∧ generate left = generate right := by
  intro left right
  have alike : left.Alike right := by
    constructor
    case visual => rfl
    case agents => rfl
    case spoken => decide
    case latest => decide
    case status => exact .inr (.inr ⟨by decide, by decide⟩)
  exact ⟨alike, generate_eq_of_alike alike⟩

end Diagram

end AgentTeams
