import AgentTeams.Proofs.Diagram.Scenes
import AgentTeams.Proofs.Run.Progress

/-! Growth: the diagrams of a team in the course of a run. What was drawn stays where it is; nodes
and edges come into use and never fall out of it, and peers are joined once both have spoken. -/
namespace AgentTeams.Diagram

/-- A node and what it is later. -/
structure Node.Becomes (before after : Node) : Prop where
  id : after.id = before.id
  kind : after.kind = before.kind
  label : after.label = before.label
  position : after.position = before.position
  color : after.color = before.color
  active : before.active = true → after.active = true

/-- An edge and what it is later. Only the word at it may change. -/
structure Edge.Becomes (before after : Edge) : Prop where
  id : after.id = before.id
  source : after.source = before.source
  target : after.target = before.target
  dashed : after.dashed = before.dashed
  animated : before.animated = true → after.animated = true
  weight : before.weight ≤ after.weight

/-- A diagram and what it is later: nothing that was drawn has gone. -/
structure Becomes (before after : Diagram) : Prop where
  nodes : ∀ node ∈ before.nodes, ∃ same ∈ after.nodes, node.Becomes same
  edges : ∀ edge ∈ before.edges, ∃ same ∈ after.edges, edge.Becomes same

theorem Becomes.refl (diagram : Diagram) : diagram.Becomes diagram where
  nodes node member := ⟨node, member, rfl, rfl, rfl, rfl, rfl, fun active => active⟩
  edges edge member := ⟨edge, member, rfl, rfl, rfl, rfl, fun animated => animated, Rat.le_refl⟩

theorem Becomes.draw {diagram : Diagram} {plan : Plan} {scene : Scene}
    (becomes : diagram.Becomes (plan.drawRunning scene)) : diagram.Becomes (plan.draw scene) where
  nodes node member := by
    obtain ⟨same, present, becomes⟩ := becomes.nodes node member
    rw [plan.nodes_draw]
    exact ⟨same, List.mem_append_left _ present, becomes⟩
  edges edge member := by
    obtain ⟨same, present, becomes⟩ := becomes.edges edge member
    rw [plan.edges_draw]
    exact ⟨same, List.mem_append_left _ present, becomes⟩

variable {before after : Run} {agents : List Agent} {visual : Visual}

theorem isActive_mono (later : before.Precedes after) {id : String}
    (active : (before.scene agents visual).isActive id = true) :
    (after.scene agents visual).isActive id = true := by
  rcases Scene.isActive_iff.mp active with ⟨agent, spoken⟩ | ⟨noAgent, ⟨user, begun⟩ | ⟨fixed, any⟩⟩
  · exact Scene.isActive_iff.mpr (.inl ⟨agent, later.spoken id spoken⟩)
  · exact Scene.isActive_iff.mpr (.inr ⟨noAgent, .inl ⟨user, later.begun begun⟩⟩)
  · obtain ⟨name, member, spoken⟩ := Scene.anyAgentActive_iff.mp any
    have anyLater : (after.scene agents visual).anyAgentActive = true :=
      Scene.anyAgentActive_iff.mpr ⟨name, member, later.spoken name spoken⟩
    exact Scene.isActive_iff.mpr (.inr ⟨noAgent, .inr ⟨fixed, anyLater⟩⟩)

theorem Spot.draw_becomes (later : before.Precedes after) (spot : Spot) :
    (spot.draw (before.scene agents visual)).Becomes (spot.draw (after.scene agents visual)) :=
  ⟨rfl, rfl, rfl, rfl, rfl, isActive_mono later⟩

theorem idleWeight_le_activeWeight : idleWeight ≤ activeWeight := by decide +kernel

theorem weight_mono {first second : Bool} (grows : first = true → second = true) :
    (if first then activeWeight else idleWeight) ≤
      if second then activeWeight else idleWeight := by
  cases first with
  | true =>
    obtain rfl := grows rfl
    exact Rat.le_refl
  | false =>
    cases second with
    | true => exact idleWeight_le_activeWeight
    | false => exact Rat.le_refl

/-- A line comes into use with its ends, whatever word stands at it. -/
theorem Line.draw_becomes (later : before.Precedes after) {line other : Line}
    (same : line.bare = other.bare) : (line.draw (before.scene agents visual)).Becomes
      (other.draw (after.scene agents visual)) := by
  obtain ⟨source, target, stroke, _⟩ := line
  obtain ⟨_, _, _, label⟩ := other
  simp only [bare, mk.injEq, and_true] at same
  obtain ⟨rfl, rfl, rfl⟩ := same
  have both : ((before.scene agents visual).isActive source &&
        (before.scene agents visual).isActive target) = true →
      ((after.scene agents visual).isActive source &&
        (after.scene agents visual).isActive target) = true := by
    intro active
    obtain ⟨first, second⟩ := Bool.and_eq_true_iff.mp active
    exact Bool.and_eq_true_iff.mpr ⟨isActive_mono later first, isActive_mono later second⟩
  exact ⟨rfl, rfl, rfl, rfl, both, weight_mono both⟩

theorem drawRunning_becomes (later : before.Precedes after) :
    ((plan (before.scene agents visual)).drawRunning (before.scene agents visual)).Becomes
      ((plan (after.scene agents visual)).drawRunning (after.scene agents visual)) where
  nodes node member := by
    obtain ⟨spot, present, rfl⟩ := List.mem_map.mp member
    have frame : (plan (before.scene agents visual)).SameFrame
        (plan (after.scene agents visual)) := plan_sameFrame
    exact ⟨_, List.mem_map_of_mem (frame.spots ▸ present), spot.draw_becomes later⟩
  edges edge member := by
    obtain ⟨line, present, rfl⟩ := List.mem_map.mp member
    have kept : ((plan (before.scene agents visual)).lines.map Line.bare).Sublist
        ((plan (after.scene agents visual)).lines.map Line.bare) :=
      plan_lines_sublist later.spoken
    obtain ⟨other, listed, same⟩ := List.mem_map.mp (kept.subset (List.mem_map_of_mem present))
    exact ⟨_, List.mem_map_of_mem listed, Line.draw_becomes later same.symm⟩

theorem generate_becomes (later : before.Precedes after) :
    (generate (before.scene agents visual)).Becomes (generate (after.scene agents visual)) := by
  cases ended : before.status.isTerminal with
  | true =>
    -- Nothing happens any more, so the end hangs where it hung.
    rw [later.ended ended]
    exact .refl _
  | false =>
    have running : generate (before.scene agents visual) =
        (plan (before.scene agents visual)).drawRunning (before.scene agents visual) :=
      generate_of_going ended
    rw [running]
    exact (drawRunning_becomes later).draw

/-- Diagrams grow along a run: whatever was drawn after some of its events is drawn after more of
them, in the same place and in the same way, and is in use if it was. -/
theorem generate_grows (agents : List Agent) (visual : Visual) (events more : List Run.Event) :
    (generate ((Run.start.extend events).scene agents visual)).Becomes
      (generate ((Run.start.extend (events ++ more)).scene agents visual)) := by
  rw [Run.extend_append]
  exact generate_becomes (Run.precedes_extend _ more)

end AgentTeams.Diagram
