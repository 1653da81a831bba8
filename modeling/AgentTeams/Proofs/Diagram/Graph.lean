import AgentTeams.Proofs.Diagram.Places

/-! Diagrams as graphs: a node per agent, one for the user and perhaps some of the family's own,
joined by a simple graph. The end of a run is one node more, behind one of these. -/
namespace AgentTeams.Diagram

def Edge.ends (edge : Edge) : String × String := (edge.source, edge.target)

def ids (diagram : Diagram) : List String := diagram.nodes.map (·.id)

/-- A diagram of the agents with these names that is a simple graph. A node that stands for no
agent has the name of its kind. -/
structure WellFormed (diagram : Diagram) (names : List String) (ended : Bool) : Prop where
  distinct : diagram.ids.Nodup
  agents : ((diagram.nodes.filter (·.kind.isAgent)).map (·.id)).Perm names
  labelled : ∀ node ∈ diagram.nodes, node.kind.isAgent = true → node.label = node.id
  named : ∀ node ∈ diagram.nodes, node.kind.isAgent = false → node.id = node.kind.name
  user : (diagram.nodes.filter (·.kind = .user)).map (·.id) = [NodeId.user]
  finish : (diagram.nodes.filter (·.kind = .finish)).map (·.id) =
    if ended then [NodeId.finish] else []
  simple : Simple diagram.ids (diagram.edges.map Edge.ends)

variable {plan : Plan} {scene : Scene} {names : List String}

theorem ids_drawRunning : (plan.drawRunning scene).ids = idsOf plan.spots := by
  simp [ids, idsOf, Plan.drawRunning, Spot.draw]

theorem ids_filter_drawRunning (keep : NodeKind → Bool) :
    ((plan.drawRunning scene).nodes.filter (keep ·.kind)).map (·.id) =
      idsOf (plan.spots.filter (keep ·.kind)) := by
  simp [idsOf, Plan.drawRunning, Spot.draw, List.filter_map, Function.comp_def]

theorem ends_drawRunning :
    (plan.drawRunning scene).edges.map Edge.ends = plan.lines.map Line.ends := by
  simp [Plan.drawRunning, Line.draw, Edge.ends, Line.ends]

theorem Plan.Proper.drawRunning (proper : plan.Proper names) :
    (plan.drawRunning scene).WellFormed names false where
  distinct := ids_drawRunning ▸ proper.places.distinct
  agents := ids_filter_drawRunning _ ▸ proper.places.agents
  labelled node member := by
    obtain ⟨spot, present, rfl⟩ := List.mem_map.mp member
    exact proper.places.labelled spot present
  named node member := by
    obtain ⟨spot, present, rfl⟩ := List.mem_map.mp member
    exact proper.places.named spot present
  user := (ids_filter_drawRunning (· = .user)).trans proper.places.user
  finish := by
    rw [ids_filter_drawRunning (· = .finish)]
    simpa [idsOf] using fun spot member => (proper.places.unfinished spot member).1
  simple := by
    rw [ids_drawRunning, ends_drawRunning]
    exact proper.simple

/-- The end of a run, hung on a node of a diagram. -/
theorem WellFormed.end_run {diagram : Diagram} (formed : diagram.WellFormed names false)
    (fresh : NodeId.finish ∉ diagram.ids) {source : String} (known : source ∈ diagram.ids)
    (status : Run.Status) (position : Position) :
    WellFormed { nodes := diagram.nodes ++ [endNode status position]
                 edges := diagram.edges ++ [endEdge source] } names true := by
  have ids : (diagram.nodes ++ [endNode status position]).map (·.id) =
      diagram.ids ++ [NodeId.finish] := List.map_append
  -- of the conditions on nodes, the new one meets only that on the end
  have kept (keep : NodeKind → Bool) (other : keep .finish = false) :
      (diagram.nodes ++ [endNode status position]).filter (keep ·.kind) =
        diagram.nodes.filter (keep ·.kind) := by
    simp [endNode, other]
  constructor
  case distinct =>
    rw [Diagram.ids, ids]
    exact List.nodup_append'.mpr ⟨formed.distinct, List.nodup_singleton _, by simpa using fresh⟩
  case agents =>
    rw [kept _ rfl]
    exact formed.agents
  case labelled =>
    intro node member isAgent
    rcases List.mem_append.mp member with earlier | last
    · exact formed.labelled node earlier isAgent
    · rw [List.mem_singleton.mp last] at isAgent
      contradiction
  case named =>
    intro node member unmanned
    rcases List.mem_append.mp member with earlier | last
    · exact formed.named node earlier unmanned
    · rw [List.mem_singleton.mp last]
      rfl
  case user =>
    rw [kept (· = .user) rfl]
    exact formed.user
  case finish =>
    rw [List.filter_append, List.map_append, formed.finish]
    rfl
  case simple =>
    rw [Diagram.ids, ids, List.map_append]
    exact formed.simple.leave known fresh

theorem Scene.mem_of_latestAgent? {name : String} (latest : scene.latestAgent? = some name) :
    name ∈ scene.names := by
  simpa using List.find?_some latest

theorem Plan.Proper.source_known (proper : plan.Proper scene.names) :
    scene.latestAgent?.getD plan.anchor ∈ idsOf plan.spots := by
  cases latest : scene.latestAgent? with
  | none => exact proper.anchored
  | some name =>
    have seated := proper.places.agents.mem_iff.mpr (Scene.mem_of_latestAgent? latest)
    exact (List.filter_sublist.map _).subset seated

theorem Plan.Proper.draw (proper : plan.Proper scene.names) :
    (plan.draw scene).WellFormed scene.names scene.status.isTerminal := by
  have running : (plan.drawRunning scene).WellFormed scene.names false := proper.drawRunning
  unfold Plan.draw
  cases ended : scene.status.isTerminal with
  | false => exact running
  | true =>
    refine running.end_run ?_ ?_ _ _
    · rw [ids_drawRunning]
      exact fun known => proper.places.ne_finish known rfl
    · rw [ids_drawRunning]
      exact proper.source_known

/-- Every diagram of accepted names is a well-formed graph, whoever has spoken, however the run
stands and however the topology is drawn. -/
theorem generate_wellFormed (accepted : AcceptedNames scene.names) :
    (generate scene).WellFormed scene.names scene.status.isTerminal :=
  (plan_proper accepted).draw

/-- A mesh whose second agent routes. A stranger spoke last before the run ended. -/
theorem generate_wellFormed_of_stranger :
    let scene : Scene :=
      { agents := [{ name := "writer" }, { name := "main_router" }, { name := "critic" }]
        activity := Activity.ofList ["writer", "critic", "stranger"]
        status := .complete
        visual := Visual.ofDriverKind .peerHandoff }
    AcceptedNames scene.names ∧ (generate scene).WellFormed scene.names true := by
  intro scene
  have accepted : AcceptedNames scene.names := ⟨by decide, by decide⟩
  exact ⟨accepted, generate_wellFormed accepted⟩

end AgentTeams.Diagram
