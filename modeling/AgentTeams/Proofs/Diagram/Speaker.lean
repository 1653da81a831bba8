import AgentTeams.Proofs.Diagram.Graph
import AgentTeams.Proofs.Diagram.Scenes
import AgentTeams.Proofs.Run.Progress

/-! The speaker: diagrams point at the agent of the team who really spoke last. The end of a run
hangs behind this one, and a hub has a word at the line to it. -/
namespace AgentTeams.Diagram

variable {scene : Scene}

/-- Where the end of a run hangs if nobody in the team has spoken. -/
def Scene.anchorKind (scene : Scene) : NodeKind :=
  match scene.visual.layout with
  | .chain | .ring => .user
  | .hubAndSpoke => .hub
  | .forkJoin => .aggregate
  | .mesh => if scene.agents.isEmpty then .user else .router
  | .tree => if scene.agents.isEmpty then .user else .supervisor

/-- One edge leads into the end of a run: from the speaker if there is one, else from the only
node of a kind. -/
def EndsBehind (diagram : Diagram) (speaker? : Option String) (kind : NodeKind) : Prop :=
  ∃ edge, diagram.edges.filter (·.target = NodeId.finish) = [edge] ∧
    (∀ name, speaker? = some name → edge.source = name) ∧
    (speaker? = none → (diagram.nodes.filter (·.kind = kind)).map (·.id) = [edge.source])

/-- The word at a line, with what it leads from and to. -/
def Line.word? (line : Line) : Option (String × String × String) :=
  line.label.map (line.source, line.target, ·)

/-- The word at an edge, with what it leads from and to. -/
def Edge.word? (edge : Edge) : Option (String × String × String) :=
  edge.label.map (edge.source, edge.target, ·)

/-- The words at the edges of a diagram. -/
def words (diagram : Diagram) : List (String × String × String) :=
  diagram.edges.filterMap Edge.word?

@[simp] theorem Spot.kind_user (position : Position) : (Spot.user position).kind = .user := rfl

@[simp] theorem Spot.id_user (position : Position) : (Spot.user position).id = NodeId.user := rfl

@[simp] theorem Spot.kind_agent (agent : Agent) (kind : NodeKind) (position : Position) :
    (Spot.agent agent kind position).kind = kind := rfl

@[simp] theorem Spot.id_agent (agent : Agent) (kind : NodeKind) (position : Position) :
    (Spot.agent agent kind position).id = agent.name := rfl

theorem filter_seats {kind : NodeKind} (other : kind ≠ .agent) (agents : List (Agent × Nat))
    (place : Agent × Nat → Position) :
    (agents.map fun seat => Spot.agent seat.1 .agent (place seat)).filter (·.kind = kind) = [] := by
  apply List.filter_eq_nil_iff.mpr
  intro spot member
  obtain ⟨seat, _, rfl⟩ := List.mem_map.mp member
  exact mt of_decide_eq_true other.symm

theorem Hub.plan_anchored :
    idsOf ((Hub.plan scene).spots.filter (·.kind = .hub)) = [(Hub.plan scene).anchor] := by
  simp [Hub.plan, filter_seats]

theorem ForkJoin.plan_anchored :
    idsOf ((ForkJoin.plan scene).spots.filter (·.kind = .aggregate)) =
      [(ForkJoin.plan scene).anchor] := by
  simp [ForkJoin.plan, filter_seats]

theorem Mesh.plan_anchored : idsOf ((Mesh.plan scene).spots.filter
    (·.kind = if scene.agents.isEmpty then .user else .router)) = [(Mesh.plan scene).anchor] := by
  unfold Mesh.plan
  cases found : Mesh.router? scene.agents with
  | none => simp [Mesh.router?_eq_none_iff.mp found]
  | some router =>
    have given := List.ne_nil_of_mem (Mesh.mem_of_router? found)
    simp [given, filter_seats]

theorem Tree.plan_anchored : idsOf ((Tree.plan scene).spots.filter
    (·.kind = if scene.agents.isEmpty then .user else .supervisor)) =
      [(Tree.plan scene).anchor] := by
  obtain ⟨agents, activity, status, visual⟩ := scene
  cases agents with
  | nil => rfl
  | cons supervisor workers => simp [Tree.plan, filter_seats]

theorem plan_anchored (accepted : AcceptedNames scene.names) :
    idsOf ((plan scene).spots.filter (·.kind = scene.anchorKind)) = [(plan scene).anchor] := by
  unfold plan Scene.anchorKind
  cases scene.visual.layout with
  | chain => exact (Chain.plan_proper accepted).places.user
  | hubAndSpoke => exact Hub.plan_anchored
  | mesh => exact Mesh.plan_anchored
  | forkJoin => exact ForkJoin.plan_anchored
  | tree => exact Tree.plan_anchored
  | ring => exact (Ring.plan_proper accepted).places.user

theorem Scene.anchorKind_ne_finish : scene.anchorKind ≠ .finish := by
  unfold anchorKind
  cases scene.visual.layout with
  | chain | hubAndSpoke | forkJoin | ring => exact nofun
  | mesh | tree =>
    dsimp only
    split <;> exact nofun

theorem ids_filter_draw (plan : Plan) {kind : NodeKind} (notFinish : kind ≠ .finish) :
    ((plan.draw scene).nodes.filter (·.kind = kind)).map (·.id) =
      idsOf (plan.spots.filter (·.kind = kind)) := by
  have noEnd : (if scene.status.isTerminal then [endNode scene.status plan.endPosition]
      else []).filter (·.kind = kind) = [] := by
    split
    · simpa [endNode] using notFinish.symm
    · rfl
  rw [plan.nodes_draw, List.filter_append, noEnd, List.append_nil]
  exact ids_filter_drawRunning (· = kind)

/-- Nothing leads into the end but the edge that is drawn with it. -/
theorem edges_into_end (accepted : AcceptedNames scene.names) :
    (generate scene).edges.filter (·.target = NodeId.finish) =
      if scene.status.isTerminal then [endEdge (scene.latestAgent?.getD (plan scene).anchor)]
      else [] := by
  have proper := plan_proper accepted
  have noLine : ((plan scene).lines.map (Line.draw scene)).filter
      (·.target = NodeId.finish) = [] := by
    apply List.filter_eq_nil_iff.mpr
    intro edge member
    obtain ⟨line, present, rfl⟩ := List.mem_map.mp member
    exact mt of_decide_eq_true (proper.ne_finish present).2
  rw [generate, Plan.edges_draw, List.filter_append, noLine, List.nil_append]
  split
  · rfl
  · rfl

theorem generate_ends (accepted : AcceptedNames scene.names)
    (ended : scene.status.isTerminal = true) :
    (generate scene).EndsBehind scene.latestAgent? scene.anchorKind := by
  refine ⟨_, (edges_into_end accepted).trans (if_pos ended), ?_, ?_⟩
  · intro name spoke
    simp [endEdge, spoke]
  · intro silent
    rw [generate, ids_filter_draw _ Scene.anchorKind_ne_finish, plan_anchored accepted]
    simp [endEdge, silent]

theorem words_draw (plan : Plan) : (plan.draw scene).words = plan.lines.filterMap Line.word? := by
  have noWord : (if scene.status.isTerminal then [endEdge (scene.latestAgent?.getD plan.anchor)]
      else []).filterMap Edge.word? = [] := by
    split
    · rfl
    · rfl
  rw [words, plan.edges_draw, List.filterMap_append, noWord, List.append_nil]
  exact List.filterMap_map

theorem peerLines_bare (names : List String) :
    (peerLines names).map Line.bare = peerLines names := by
  induction names with
  | nil => rfl
  | cons name rest ih => simp [peerLines, ih, Line.bare]

theorem Chain.lines_bare (bidirectional : Bool) (names : List String) :
    (Chain.lines bidirectional names).map Line.bare = Chain.lines bidirectional names := by
  cases names with
  | nil => rfl
  | cons first rest =>
    unfold Chain.lines
    rw [List.map_cons, List.map_append, List.map_zipWith]
    congr 2
    split <;> rfl

theorem Mesh.lines_bare (router : String) (peers : List String) (activity : Activity) :
    (Mesh.lines router peers activity).map Line.bare = Mesh.lines router peers activity := by
  unfold Mesh.lines
  rw [List.map_cons, List.map_append, List.map_flatMap, peerLines_bare]
  rfl

theorem ForkJoin.lines_bare (names : List String) :
    (ForkJoin.lines names).map Line.bare = ForkJoin.lines names := by
  unfold ForkJoin.lines
  rw [List.map_cons, List.map_flatMap]
  rfl

theorem Tree.lines_bare (bidirectional : Bool) (names : List String) :
    (Tree.lines bidirectional names).map Line.bare = Tree.lines bidirectional names := by
  cases names with
  | nil => rfl
  | cons supervisor workers =>
    unfold Tree.lines
    rw [List.map_cons, List.map_flatMap]
    cases bidirectional <;> rfl

theorem Ring.lines_bare (crossConnections : Bool) (names : List String) :
    (Ring.lines crossConnections names).map Line.bare = Ring.lines crossConnections names := by
  cases names with
  | nil => rfl
  | cons first rest =>
    unfold Ring.lines
    rw [List.map_cons]
    congr 1
    split
    · exact peerLines_bare _
    · split
      · rfl
      · exact List.map_zipWith

theorem plan_lines_bare (other : scene.visual.layout ≠ .hubAndSpoke) :
    (plan scene).lines.map Line.bare = (plan scene).lines := by
  unfold plan
  cases layout : scene.visual.layout with
  | chain => exact Chain.lines_bare _ _
  | hubAndSpoke => contradiction
  | mesh =>
    unfold Mesh.plan
    cases Mesh.router? scene.agents with
    | none => rfl
    | some router => exact Mesh.lines_bare _ _ _
  | forkJoin => exact ForkJoin.lines_bare _
  | tree => exact Tree.plan_lines ▸ Tree.lines_bare _ _
  | ring => exact Ring.lines_bare _ _

/-- What there is for one of several different names is there once. -/
theorem flatMap_selected {α : Type} {names : List String} {selected : Option String}
    (distinct : names.Nodup) (known : ∀ name, selected = some name → name ∈ names)
    (value : String → α) :
    (names.flatMap fun name => if selected = some name then [value name] else []) =
      selected.toList.map value := by
  cases selected with
  | none => simp
  | some chosen =>
    obtain ⟨front, back, rfl⟩ := List.append_of_mem (known chosen rfl)
    have fresh : chosen ∉ front ++ back := (List.nodup_cons.mp (List.nodup_middle.mp distinct)).1
    have nowhere : ∀ name ∈ front ++ back,
        (if some chosen = some name then [value name] else []) = [] := by
      intro name member
      have apart : chosen ≠ name := (ne_of_mem_of_not_mem member fresh).symm
      exact if_neg (mt Option.some.inj apart)
    obtain ⟨before, after⟩ := List.forall_mem_append.mp nowhere
    rw [List.flatMap_append, List.flatMap_cons, if_pos rfl, List.flatMap_eq_nil_iff.mpr before,
      List.flatMap_eq_nil_iff.mpr after]
    rfl

theorem Hub.words_lines (accepted : AcceptedNames scene.names) :
    (Hub.plan scene).lines.filterMap Line.word? =
      scene.latestAgent?.toList.map (NodeId.hub, ·, "selected") := by
  have spoke : ∀ name, (Hub.spokes scene.visual.bidirectional scene.latestAgent? name).filterMap
      Line.word? =
        if scene.latestAgent? = some name then [(NodeId.hub, name, "selected")] else [] := by
    intro name
    unfold Hub.spokes
    split <;> cases scene.visual.bidirectional <;> rfl
  rw [← flatMap_selected accepted.distinct fun _ => Scene.mem_of_latestAgent?, ← funext spoke,
    ← List.filterMap_flatMap]
  rfl

/-- Only a hub has a word at an edge, and only at the one to the agent who spoke last. -/
theorem words_generate (accepted : AcceptedNames scene.names) : (generate scene).words =
    if scene.visual.layout = .hubAndSpoke then
      scene.latestAgent?.toList.map (NodeId.hub, ·, "selected")
    else [] := by
  rw [generate, words_draw]
  split
  · rename_i hub
    have lines : plan scene = Hub.plan scene := by rw [plan, hub]
    rw [lines, Hub.words_lines accepted]
  · rename_i other
    rw [← plan_lines_bare other, List.filterMap_map]
    exact List.filterMap_eq_nil_iff.mpr fun _ _ => rfl

/-- The latest agent of a scene of a run is the one of the team who really spoke last. -/
theorem latestAgent?_run (agents : List Agent) (visual : Visual) (events : List Run.Event)
    (accepted : AcceptedNames (agents.map (·.name))) :
    ((Run.start.extend events).scene agents visual).latestAgent? =
      Run.lastSpeaker? (agents.map (·.name)) events := by
  have noUser : NodeId.user ∉ agents.map (·.name) := accepted.user_absent
  exact (Run.latestAmong?_extend Run.start events noUser rfl).trans Option.or_none

/-- A diagram points at the agent of the team who spoke last before the run ended, whoever else
spoke and whatever came after. Once the run has ended, one edge leads into the end, from this agent
or else from where the family hangs it. A hub has one word at its edges, at the one to this agent,
and no other family has any. -/
theorem generate_points_at_speaker (agents : List Agent) (visual : Visual)
    (events : List Run.Event) (accepted : AcceptedNames (agents.map (·.name))) :
    let scene := (Run.start.extend events).scene agents visual
    let speaker? := Run.lastSpeaker? (agents.map (·.name)) events
    (events.any Run.Event.isEnd = true →
      (generate scene).EndsBehind speaker? scene.anchorKind) ∧
      (generate scene).words =
        if visual.layout = .hubAndSpoke then speaker?.toList.map (NodeId.hub, ·, "selected")
        else [] := by
  intro scene speaker?
  have latest : scene.latestAgent? = speaker? := latestAgent?_run agents visual events accepted
  have accepted : AcceptedNames scene.names := accepted
  rw [← latest]
  constructor
  · intro finished
    exact generate_ends accepted ((Run.isTerminal_extend Run.start events).trans finished)
  · exact words_generate accepted

/-- The writer speaks last in a team of two: the stranger and the user do not belong to it, and the
critic comes too late. -/
theorem generate_points_at_speaker_of_late_critic :
    let agents : List Agent := [{ name := "critic" }, { name := "writer" }]
    let visual := Visual.ofDriverKind .centralizedSelection
    let events : List Run.Event := [.started, .message "critic", .message "writer",
      .message "stranger", .message "user", .completed, .message "critic"]
    let diagram := generate ((Run.start.extend events).scene agents visual)
    AcceptedNames (agents.map (·.name)) ∧ diagram.EndsBehind (some "writer") .hub ∧
      diagram.words = [(NodeId.hub, "writer", "selected")] := by
  intro agents visual events diagram
  have accepted : AcceptedNames (agents.map (·.name)) := ⟨by decide, by decide⟩
  have speaker : Run.lastSpeaker? (agents.map (·.name)) events = some "writer" := by decide
  obtain ⟨ended, words⟩ := generate_points_at_speaker agents visual events accepted
  rw [speaker] at ended words
  exact ⟨accepted, ended (by decide), words⟩

end AgentTeams.Diagram
