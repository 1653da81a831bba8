import AgentTeams.Proofs.Diagram.Places
import AgentTeams.Proofs.Diagram.Scenes

/-! Stages: the diagrams of one team at the stages of a run. The end of a run is put behind what was
drawn while it went on, and a run that has not begun lacks nothing but the user's part in it. What
the agents are called makes no difference, unless one of them has the name of the user. -/
namespace AgentTeams.Diagram

/-- A node as it is before the run has begun. -/
def Node.unbegun (node : Node) : Node :=
  if node.kind = .user then { node with active := false } else node

/-- An edge as it is before the run has begun. -/
def Edge.unbegun (edge : Edge) : Edge :=
  if edge.source = NodeId.user then { edge with animated := false, weight := idleWeight } else edge

/-- A diagram as it is before the run has begun: the user has not taken part yet. -/
def unbegun (diagram : Diagram) : Diagram where
  nodes := diagram.nodes.map Node.unbegun
  edges := diagram.edges.map Edge.unbegun

variable {scene : Scene} {names own : List String}

/-- A place is of the user's kind exactly if it has the user's id. -/
def Spot.Told (spot : Spot) : Prop := spot.kind = .user ↔ spot.id = NodeId.user

theorem Seats.told {seats : List Spot} (seated : Seats seats names)
    (absent : NodeId.user ∉ names) : ∀ spot ∈ seats, spot.Told := by
  intro spot member
  exact iff_of_false (NodeKind.ne_of_isAgent (seated.manned spot member).1).1
    (ne_of_mem_of_not_mem (seated.id_mem member) absent)

theorem Plan.Furnished.told {plan : Plan} (furnished : plan.Furnished own names)
    (absent : NodeId.user ∉ names) : ∀ spot ∈ plan.spots, spot.Told := by
  obtain ⟨position, fixtures, seats, made, fixed, _, seated⟩ := furnished
  intro spot member
  rcases List.mem_cons.mp (made.mem_iff.mpr member) with rfl | other
  · exact iff_of_true rfl rfl
  · rcases List.mem_append.mp other with fixture | seat
    · exact iff_of_false (fixed spot fixture).notUser.1 (fixed spot fixture).notUser.2
    · exact seated.told absent spot seat

theorem Mesh.names_subset {router : Agent} (found : Mesh.router? scene.agents = some router) :
    router.name :: (Mesh.peers router scene.agents).map (·.name) ⊆ scene.names :=
  List.cons_subset.mpr ⟨List.mem_map_of_mem (Mesh.mem_of_router? found),
    (List.filter_sublist.map _).subset⟩

theorem Mesh.plan_told (absent : NodeId.user ∉ scene.names) :
    ∀ spot ∈ (Mesh.plan scene).spots, spot.Told := by
  cases found : Mesh.router? scene.agents with
  | none => exact (Mesh.plan_furnished_of_none found).told List.not_mem_nil
  | some router =>
    exact (Mesh.plan_furnished found).told (mt (@Mesh.names_subset _ _ found _) absent)

theorem plan_told (absent : NodeId.user ∉ scene.names) :
    ∀ spot ∈ (plan scene).spots, spot.Told := by
  rw [plan]
  cases scene.visual.layout with
  | chain => exact Chain.plan_furnished.told absent
  | hubAndSpoke => exact Hub.plan_furnished.told absent
  | mesh => exact Mesh.plan_told absent
  | forkJoin => exact ForkJoin.plan_furnished.told absent
  | tree => exact Tree.plan_furnished.told absent
  | ring => exact Ring.plan_furnished.told absent

variable {id source target first : String} {rest : List String} {joins : List (String × String)}

/-- None of the joins leads to this id. -/
def Avoids (id : String) (joins : List (String × String)) : Prop :=
  ∀ join ∈ joins, join.2 ≠ id

theorem Avoids.cons (others : Avoids id joins) (apart : target ≠ id) :
    Avoids id ((source, target) :: joins) :=
  List.forall_mem_cons.mpr ⟨apart, others⟩

theorem Avoids.of_absent (absent : id ∉ names) (known : ∀ join ∈ joins, join.2 ∈ names) :
    Avoids id joins :=
  fun join member => ne_of_mem_of_not_mem (known join member) absent

theorem star_avoids {onward : Bool} (absent : id ∉ names) (apart : target ≠ id) :
    Avoids id (star source target onward names) := by
  intro join member
  obtain ⟨name, present, rfl | ⟨_, rfl⟩⟩ := mem_star.mp member
  · exact ne_of_mem_of_not_mem present absent
  · exact apart

theorem peerLines_avoids (absent : id ∉ names) :
    Avoids id ((peerLines names).map Line.ends) := by
  refine .of_absent absent ?_
  intro join member
  obtain ⟨line, listed, rfl⟩ := List.mem_map.mp member
  exact (of_mem_peerLines listed).2.2

theorem cycle_avoids (absent : id ∉ first :: rest) :
    Avoids id ((first :: rest).zip (rest ++ [first])) :=
  .of_absent absent fun _ member => (of_mem_cycle member).2

theorem Chain.lines_avoid {bidirectional : Bool} (absent : id ∉ names) :
    Avoids id ((Chain.lines bidirectional names).map Line.ends) := by
  cases names with
  | nil => exact List.forall_mem_nil _
  | cons first rest =>
    rw [Chain.ends_lines]
    refine Avoids.cons ?_ (ne_of_mem_of_not_mem List.mem_cons_self absent)
    split
    · exact cycle_avoids absent
    · exact .of_absent absent fun _ member => (of_mem_path member).2

theorem Ring.lines_avoid {crossConnections : Bool} (absent : id ∉ names) :
    Avoids id ((Ring.lines crossConnections names).map Line.ends) := by
  cases names with
  | nil => exact List.forall_mem_nil _
  | cons first rest =>
    rw [Ring.ends_lines]
    refine Avoids.cons ?_ (ne_of_mem_of_not_mem List.mem_cons_self absent)
    split
    · exact peerLines_avoids absent
    · split
      · exact List.forall_mem_nil _
      · exact cycle_avoids absent

theorem Hub.lines_avoid (absent : id ∉ scene.names) (apart : NodeId.hub ≠ id) :
    Avoids id ((Hub.plan scene).lines.map Line.ends) := by
  rw [Hub.ends_lines]
  exact (star_avoids absent apart).cons apart

theorem ForkJoin.lines_avoid (absent : id ∉ names) (apart : NodeId.distribute ≠ id)
    (apartToo : NodeId.aggregate ≠ id) : Avoids id ((ForkJoin.lines names).map Line.ends) := by
  rw [ForkJoin.ends_lines]
  exact (star_avoids absent apartToo).cons apart

theorem Tree.lines_avoid {bidirectional : Bool} (absent : id ∉ names) :
    Avoids id ((Tree.lines bidirectional names).map Line.ends) := by
  cases names with
  | nil => exact List.forall_mem_nil _
  | cons supervisor workers =>
    rw [Tree.ends_lines]
    obtain ⟨apart, absent⟩ := List.ne_and_not_mem_of_not_mem_cons absent
    exact (star_avoids absent apart.symm).cons apart.symm

theorem Mesh.lines_avoid {router : String} {peers : List String} {activity : Activity}
    (absent : id ∉ router :: peers) :
    Avoids id ((Mesh.lines router peers activity).map Line.ends) := by
  rw [Mesh.ends_lines]
  obtain ⟨apart, absent⟩ := List.ne_and_not_mem_of_not_mem_cons absent
  refine Avoids.cons (List.forall_mem_append.mpr ⟨star_avoids absent apart.symm, ?_⟩) apart.symm
  exact peerLines_avoids fun member => absent (List.mem_of_mem_filter member)

theorem plan_avoids (absent : NodeId.user ∉ scene.names) :
    Avoids NodeId.user ((plan scene).lines.map Line.ends) := by
  rw [plan]
  cases scene.visual.layout with
  | chain => exact Chain.lines_avoid absent
  | hubAndSpoke => exact Hub.lines_avoid absent (by decide)
  | mesh =>
    rw [Mesh.plan]
    cases found : Mesh.router? scene.agents with
    | none => exact List.forall_mem_nil _
    | some router => exact Mesh.lines_avoid (mt (@Mesh.names_subset _ _ found _) absent)
  | forkJoin => exact ForkJoin.lines_avoid absent (by decide) (by decide)
  | tree => exact Tree.plan_lines ▸ Tree.lines_avoid absent
  | ring => exact Ring.lines_avoid absent

variable {agents : List Agent} {activity : Activity} {visual : Visual} {status stage : Run.Status}

/-- Only at the user's node can it be seen how a run stands, and only whether it has begun. -/
theorem Scene.isActive_status
    (same : id = NodeId.user → (status = .created ↔ stage = .created)) :
    Scene.isActive ⟨agents, activity, status, visual⟩ id =
      Scene.isActive ⟨agents, activity, stage, visual⟩ id := by
  rw [Bool.eq_iff_iff, Scene.isActive_iff, Scene.isActive_iff]
  have begun : id = NodeId.user ∧ status ≠ .created ↔ id = NodeId.user ∧ stage ≠ .created :=
    and_congr_right fun user => not_congr (same user)
  exact or_congr_right (and_congr_right fun _ => or_congr_left begun)

theorem Scene.isActive_created (absent : NodeId.user ∉ agents.map (·.name)) :
    Scene.isActive ⟨agents, activity, .created, visual⟩ NodeId.user = false := by
  apply Bool.eq_false_iff.mpr
  intro active
  have begun := (@Scene.isActive_user ⟨agents, activity, .created, visual⟩ absent).mp active
  exact begun rfl

theorem Spot.draw_created (absent : NodeId.user ∉ agents.map (·.name)) {spot : Spot}
    (told : spot.Told) : spot.draw ⟨agents, activity, .created, visual⟩ =
      (spot.draw ⟨agents, activity, status, visual⟩).unbegun := by
  have kind : (spot.draw ⟨agents, activity, status, visual⟩).kind = .user ↔
      spot.id = NodeId.user := told
  by_cases user : spot.id = NodeId.user
  · rw [Node.unbegun, if_pos (kind.mpr user), draw, user, Scene.isActive_created absent]
    simp only [draw, user]
  · rw [Node.unbegun, if_neg (mt kind.mp user), draw, draw, Scene.isActive_status (absurd · user)]

theorem Line.draw_created (absent : NodeId.user ∉ agents.map (·.name)) {line : Line}
    (onward : line.target ≠ NodeId.user) : line.draw ⟨agents, activity, .created, visual⟩ =
      (line.draw ⟨agents, activity, status, visual⟩).unbegun := by
  have source : (line.draw ⟨agents, activity, status, visual⟩).source = line.source := rfl
  by_cases user : line.source = NodeId.user
  · rw [Edge.unbegun, source, if_pos user, draw, user, Scene.isActive_created absent]
    simp [draw, user]
  · rw [Edge.unbegun, source, if_neg user, draw, draw, Scene.isActive_status (absurd · user),
      Scene.isActive_status (absurd · onward)]

/-- A plan without a stranger at the user's place and a way to it, before the run has begun. -/
theorem drawRunning_created (absent : NodeId.user ∉ agents.map (·.name)) {plan : Plan}
    (told : ∀ spot ∈ plan.spots, spot.Told)
    (avoids : Avoids NodeId.user (plan.lines.map Line.ends)) :
    plan.drawRunning ⟨agents, activity, .created, visual⟩ =
      (plan.drawRunning ⟨agents, activity, status, visual⟩).unbegun := by
  have onward := List.forall_mem_map.mp avoids
  simp only [Plan.drawRunning, unbegun, List.map_map]
  congr 1
  · exact List.map_congr_left fun spot member => Spot.draw_created absent (told spot member)
  · exact List.map_congr_left fun line member => Line.draw_created absent (onward line member)

/-- How the run stands makes no difference to what is planned. -/
theorem plan_status : plan ⟨agents, activity, status, visual⟩ =
    plan ⟨agents, activity, stage, visual⟩ :=
  plan_congr (fun _ _ => rfl) rfl

theorem endNode_verdict (status : Run.Status) (position : Position) :
    ((endNode status position).label, (endNode status position).color) =
      if status = .complete then ("Done", some successColor)
      else ("Failed", some failureColor) := by
  by_cases success : status = .complete
  · subst success
    rfl
  · simp [endNode, Run.Status.isSuccess, success]

/-- What was drawn while a run went on stays when it is over, in front of the end. -/
theorem generate_ended {going ended : Run.Status} (runs : going.isTerminal = false)
    (begun : going ≠ .created) (finished : ended.isTerminal = true) :
    ∃ position source, generate ⟨agents, activity, ended, visual⟩ =
      { nodes := (generate ⟨agents, activity, going, visual⟩).nodes ++ [endNode ended position]
        edges := (generate ⟨agents, activity, going, visual⟩).edges ++ [endEdge source] } := by
  have begunToo : ended ≠ .created := by
    rintro rfl
    contradiction
  have shared : (plan ⟨agents, activity, ended, visual⟩).drawRunning
        ⟨agents, activity, ended, visual⟩ = generate ⟨agents, activity, going, visual⟩ := by
    have planned : plan ⟨agents, activity, ended, visual⟩ =
        plan ⟨agents, activity, going, visual⟩ := plan_status
    rw [planned, generate_of_going runs]
    apply Plan.drawRunning_congr
    · rfl
    · exact fun id => Scene.isActive_status fun _ => iff_of_false begunToo begun
  rw [generate, Plan.draw, if_pos finished, shared]
  exact ⟨_, _, rfl⟩

/-- When a run is over, a diagram has one node and one edge more than it had while the run went on:
the node says how the run ended, and the edge leads there. Before the run has begun, the user has no
part in the diagram, unless an agent goes by that name; nothing else differs. -/
theorem generate_stages (agents : List Agent) (activity : Activity) (visual : Visual)
    (going ended : Run.Status) (goes : going ∈ [.active, .awaitingInput])
    (finished : ended.isTerminal = true) :
    let running := generate ⟨agents, activity, going, visual⟩
    (∃ node edge,
      generate ⟨agents, activity, ended, visual⟩ =
          { nodes := running.nodes ++ [node], edges := running.edges ++ [edge] } ∧
        node.id = NodeId.finish ∧ node.kind = .finish ∧ edge.target = node.id ∧
        (node.label, node.color) = if ended = .complete then ("Done", some successColor)
          else ("Failed", some failureColor)) ∧
      (NodeId.user ∉ agents.map (·.name) →
        generate ⟨agents, activity, .created, visual⟩ = running.unbegun) := by
  intro running
  obtain ⟨runs, begun⟩ : going.isTerminal = false ∧ going ≠ .created := by
    revert going
    decide
  constructor
  · obtain ⟨position, source, drawn⟩ := generate_ended runs begun finished
    exact ⟨_, _, drawn, rfl, rfl, rfl, endNode_verdict ended position⟩
  · intro absent
    have early : generate ⟨agents, activity, .created, visual⟩ =
        (plan ⟨agents, activity, going, visual⟩).drawRunning
          ⟨agents, activity, .created, visual⟩ := by
      rw [generate_of_going rfl, plan_status]
    have late : running = (plan ⟨agents, activity, going, visual⟩).drawRunning
        ⟨agents, activity, going, visual⟩ := generate_of_going runs
    rw [early, late]
    exact drawRunning_created absent (plan_told absent) (plan_avoids absent)

/-- Agents that go by the names of the hub and of the end, one of them twice, in a hub that waits
for input and then runs out of time. -/
theorem generate_stages_of_borrowed_names :
    let agents : List Agent := [{ name := "end" }, { name := "hub" }, { name := "end" }]
    let activity := Activity.ofList ["hub"]
    let visual := Visual.ofDriverKind .centralizedSelection
    let waiting := generate ⟨agents, activity, .awaitingInput, visual⟩
    (∃ node edge,
      generate ⟨agents, activity, .timeout, visual⟩ =
          { nodes := waiting.nodes ++ [node], edges := waiting.edges ++ [edge] } ∧
        node.label = "Failed" ∧ edge.target = "end") ∧
      generate ⟨agents, activity, .created, visual⟩ = waiting.unbegun := by
  intro agents activity visual waiting
  obtain ⟨⟨node, edge, drawn, id, _, target, verdict⟩, early⟩ :=
    generate_stages agents activity visual .awaitingInput .timeout (by decide) rfl
  refine ⟨⟨node, edge, drawn, ?_, target.trans id⟩, early (by decide)⟩
  exact (Prod.mk.inj verdict).1

end AgentTeams.Diagram
