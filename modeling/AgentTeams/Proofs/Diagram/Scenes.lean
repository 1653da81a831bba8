import AgentTeams.Diagram.Layout
import Mathlib.Data.List.Basic

/-! Scenes: what is read off them when a diagram is planned and drawn. The agents and the look
decide all of a plan but the word at the selected agent and the links of a mesh. -/
namespace AgentTeams

/-- A team as far as a run has come. -/
def Run.scene (run : Run) (agents : List Agent) (visual : Visual) : Diagram.Scene where
  agents
  activity := run.activity
  status := run.status
  visual

namespace Diagram

/-- A node is active that carries the name of an agent who has spoken, the user's once the run has
begun, and one that the family has of its own once anybody has spoken. -/
theorem Scene.isActive_iff {scene : Scene} {id : String} : scene.isActive id = true ↔
    id ∈ scene.names ∧ scene.activity.contains id = true ∨
      id ∉ scene.names ∧ (id = NodeId.user ∧ scene.status ≠ .created ∨
        id ∈ [NodeId.hub, NodeId.distribute, NodeId.aggregate] ∧ scene.anyAgentActive = true) := by
  have apart : NodeId.user ∉ [NodeId.hub, NodeId.distribute, NodeId.aggregate] := by decide
  unfold isActive
  by_cases agent : id ∈ scene.names
  · simp [agent]
  · by_cases user : id = NodeId.user
    · subst user
      simp [agent, apart]
    · simp [agent, user]

theorem Scene.isActive_agent {scene : Scene} {id : String} (known : id ∈ scene.names) :
    scene.isActive id = scene.activity.contains id :=
  if_pos known

theorem Scene.anyAgentActive_iff {scene : Scene} : scene.anyAgentActive = true ↔
    ∃ name ∈ scene.names, scene.activity.contains name = true :=
  List.any_eq_true

theorem Scene.isActive_user {scene : Scene} (absent : NodeId.user ∉ scene.names) :
    scene.isActive NodeId.user = true ↔ scene.status ≠ .created := by
  rw [isActive, if_neg absent, if_pos rfl, decide_eq_true_iff]

theorem Scene.isActive_fixture {scene : Scene} {id : String} (absent : id ∉ scene.names)
    (fixed : id ∈ [NodeId.hub, NodeId.distribute, NodeId.aggregate]) :
    scene.isActive id = true ↔
      ∃ name ∈ scene.names, scene.activity.contains name = true := by
  have notUser : id ≠ NodeId.user := ne_of_mem_of_not_mem fixed (by decide)
  rw [isActive, if_neg absent, if_neg notUser, if_pos fixed, anyAgentActive_iff]

theorem Plan.nodes_draw (plan : Plan) (scene : Scene) : (plan.draw scene).nodes =
    plan.spots.map (Spot.draw scene) ++
      if scene.status.isTerminal then [endNode scene.status plan.endPosition] else [] := by
  unfold draw
  split
  · rfl
  · exact (List.append_nil _).symm

theorem Plan.edges_draw (plan : Plan) (scene : Scene) : (plan.draw scene).edges =
    plan.lines.map (Line.draw scene) ++
      if scene.status.isTerminal then [endEdge (scene.latestAgent?.getD plan.anchor)] else [] := by
  unfold draw
  split
  · rfl
  · exact (List.append_nil _).symm

theorem of_mem_draw_nodes {plan : Plan} {scene : Scene} {node : Node}
    (member : node ∈ (plan.draw scene).nodes) :
    (∃ spot ∈ plan.spots, node = spot.draw scene) ∨
      ∃ position, node = endNode scene.status position := by
  rw [plan.nodes_draw] at member
  rcases List.mem_append.mp member with drawn | last
  · obtain ⟨spot, placed, rfl⟩ := List.mem_map.mp drawn
    exact .inl ⟨spot, placed, rfl⟩
  · split at last
    · exact .inr ⟨_, List.mem_singleton.mp last⟩
    · cases last

theorem of_mem_draw_edges {plan : Plan} {scene : Scene} {edge : Edge}
    (member : edge ∈ (plan.draw scene).edges) :
    (∃ line ∈ plan.lines, edge = line.draw scene) ∨ ∃ source, edge = endEdge source := by
  rw [plan.edges_draw] at member
  rcases List.mem_append.mp member with drawn | last
  · obtain ⟨line, listed, rfl⟩ := List.mem_map.mp drawn
    exact .inl ⟨line, listed, rfl⟩
  · split at last
    · exact .inr ⟨_, List.mem_singleton.mp last⟩
    · cases last

/-- While a run goes on its plan is drawn and nothing else. -/
theorem generate_of_going {scene : Scene} (going : scene.status.isTerminal = false) :
    generate scene = (plan scene).drawRunning scene :=
  if_neg (by simp [going])

/-- Of a scene, drawing sees the look and which nodes are active. -/
theorem Plan.drawRunning_congr {left right : Scene} (visual : left.visual = right.visual)
    (active : ∀ id, left.isActive id = right.isActive id) (plan : Plan) :
    plan.drawRunning left = plan.drawRunning right := by
  have nodes : Spot.draw left = Spot.draw right := by
    funext spot
    simp only [Spot.draw, active]
  have edges : Line.draw left = Line.draw right := by
    funext line
    simp only [Line.draw, active, visual]
  simp only [drawRunning, nodes, edges]

/-- A line as it is whoever was selected. -/
def Line.bare (line : Line) : Line := { line with label := none }

/-- Two plans differ in their lines at most. -/
structure Plan.SameFrame (left right : Plan) : Prop where
  spots : left.spots = right.spots
  anchor : left.anchor = right.anchor
  endPosition : left.endPosition = right.endPosition

variable {agents : List Agent} {visual : Visual} {heard spoken : Activity}
  {status stage : Run.Status}

/-- Whoever has spoken and however the run stands, a team has the same places. -/
theorem plan_sameFrame : (plan ⟨agents, heard, status, visual⟩).SameFrame
    (plan ⟨agents, spoken, stage, visual⟩) := by
  unfold plan
  cases visual.layout with
  | chain => exact ⟨rfl, rfl, rfl⟩
  | hubAndSpoke => exact ⟨rfl, rfl, rfl⟩
  | mesh =>
    unfold Mesh.plan
    cases Mesh.router? agents with
    | none => exact ⟨rfl, rfl, rfl⟩
    | some router => exact ⟨rfl, rfl, rfl⟩
  | forkJoin => exact ⟨rfl, rfl, rfl⟩
  | tree =>
    cases agents with
    | nil => exact ⟨rfl, rfl, rfl⟩
    | cons supervisor workers => exact ⟨rfl, rfl, rfl⟩
  | ring => exact ⟨rfl, rfl, rfl⟩

theorem Hub.spokes_bare (bidirectional : Bool) (selected other : Option String) (name : String) :
    (Hub.spokes bidirectional selected name).map Line.bare =
      (Hub.spokes bidirectional other name).map Line.bare := by
  simp [Hub.spokes, Line.bare]

theorem peerLines_sublist {names more : List String} (within : names.Sublist more) :
    (peerLines names).Sublist (peerLines more) := by
  induction within with
  | slnil => exact .refl _
  | cons name within ih => exact ih.trans (List.sublist_append_right _ _)
  | cons_cons name within ih => exact (within.map _).append ih

/-- Where more agents have spoken, no line is missing. -/
theorem plan_lines_sublist
    (more : ∀ name, heard.contains name = true → spoken.contains name = true) :
    ((plan ⟨agents, heard, status, visual⟩).lines.map Line.bare).Sublist
      ((plan ⟨agents, spoken, stage, visual⟩).lines.map Line.bare) := by
  unfold plan
  cases visual.layout with
  | chain => exact .refl _
  | hubAndSpoke =>
    simp only [Hub.plan, List.map_cons, List.map_flatMap]
    rw [funext (Hub.spokes_bare _ _ (Scene.latestAgent? ⟨agents, spoken, stage, visual⟩))]
    exact .refl _
  | mesh =>
    unfold Mesh.plan
    cases Mesh.router? agents with
    | none => exact .refl _
    | some router =>
      have links := peerLines_sublist (List.monotone_filter_right
        ((Mesh.peers router agents).map (·.name)) more)
      exact ((links.append_left _).cons_cons _).map _
  | forkJoin => exact .refl _
  | tree => exact .refl _
  | ring => exact .refl _

/-- The word at the selected agent and the links of a mesh come from who spoke last and from who
in the team has spoken. -/
theorem plan_congr
    (same : ∀ name ∈ agents.map (·.name), heard.contains name = spoken.contains name)
    (latest : heard.latestAmong? (agents.map (·.name)) =
      spoken.latestAmong? (agents.map (·.name))) :
    plan ⟨agents, heard, status, visual⟩ = plan ⟨agents, spoken, stage, visual⟩ := by
  unfold plan
  cases visual.layout with
  | chain => rfl
  | hubAndSpoke =>
    simp only [Hub.plan, Scene.latestAgent?, Scene.names, latest]
  | mesh =>
    unfold Mesh.plan
    cases Mesh.router? agents with
    | none => rfl
    | some router =>
      have peers : ((Mesh.peers router agents).map (·.name)).filter heard.contains =
          ((Mesh.peers router agents).map (·.name)).filter spoken.contains := by
        apply List.filter_congr
        intro name member
        have within : (Mesh.peers router agents).map (·.name) ⊆ agents.map (·.name) :=
          (List.filter_sublist.map _).subset
        exact same name (within member)
      simp only [Mesh.lines, peers]
  | forkJoin => rfl
  | tree => rfl
  | ring => rfl

end Diagram

end AgentTeams
