import AgentTeams.Proofs.Diagram.Graph
import AgentTeams.Proofs.Diagram.Scenes

/-! Emphasis: a diagram shows who has taken part in a run by the nodes that are active, and where
the run went by the edges that are animated. Some edges are dashed in every style. -/
namespace AgentTeams.Diagram

/-- What stands at a node has taken part in the run: an agent by speaking, the user by its
beginning, and what the family has of its own as soon as anybody in the team has spoken. -/
def Scene.TookPart (scene : Scene) : NodeKind → String → Prop
  | .agent, name | .router, name | .supervisor, name => scene.activity.contains name = true
  | .user, _ => scene.status ≠ .created
  | .hub, _ | .distribute, _ | .aggregate, _ =>
      ∃ name ∈ scene.names, scene.activity.contains name = true
  | .finish, _ => True

/-- An agent that does not route the mesh. -/
def Scene.IsPeer (scene : Scene) (name : String) : Prop :=
  name ∈ scene.names ∧ ∀ router ∈ Mesh.router? scene.agents, name ≠ router.name

instance (scene : Scene) (name : String) : Decidable (scene.IsPeer name) :=
  inferInstanceAs (Decidable (_ ∧ _))

/-- The ways that are dashed in every style: from the last agent of a chain back to the first, and
between the peers of a mesh or of a ring with cross connections. -/
def Scene.SetApart (scene : Scene) (source target : String) : Prop :=
  match scene.visual.layout with
  | .chain => scene.names.getLast? = some source ∧ scene.names.head? = some target
  | .mesh => scene.IsPeer source ∧ scene.IsPeer target
  | .ring => scene.visual.crossConnections = true ∧ source ∈ scene.names ∧ target ∈ scene.names
  | .hubAndSpoke | .forkJoin | .tree => False

/-- How an edge between two nodes looks. -/
structure Edge.Shows (edge : Edge) (scene : Scene) (source target : Node) : Prop where
  animated : edge.animated = true ↔ source.active = true ∧ target.active = true
  weight : edge.weight = if edge.animated then 5 / 2 else 1
  dashed : edge.dashed = true ↔
    scene.SetApart edge.source edge.target ∨ scene.visual.edgeStyle = .dashed
  linked : scene.visual.layout = .mesh → scene.SetApart edge.source edge.target →
    edge.animated = true

/-- A diagram shows of everyone in a scene whether they took part, and where the run went. The edge
into its end stands out by the weight and by nothing else. -/
structure Reflects (diagram : Diagram) (scene : Scene) : Prop where
  manned : ∀ name ∈ scene.names, ∃ node ∈ diagram.nodes,
    node.kind.isAgent = true ∧ node.id = name
  active : ∀ node ∈ diagram.nodes, node.active = true ↔ scene.TookPart node.kind node.id
  joined : ∀ edge ∈ diagram.edges, ∃ source ∈ diagram.nodes, ∃ target ∈ diagram.nodes,
    edge.ends = (source.id, target.id)
  shown : ∀ edge ∈ diagram.edges, edge.target ≠ NodeId.finish →
    ∀ source ∈ diagram.nodes, ∀ target ∈ diagram.nodes, edge.ends = (source.id, target.id) →
      edge.Shows scene source target
  ending : ∀ edge ∈ diagram.edges, edge.target = NodeId.finish →
    edge.animated = false ∧ edge.dashed = false ∧ edge.weight = 5 / 2

variable {scene : Scene} {names : List String} {line : Line} {spots : List Spot} {spot : Spot}

theorem tookPart_iff (places : Places spots scene.names) (accepted : AcceptedNames scene.names)
    (member : spot ∈ spots) :
    scene.isActive spot.id = true ↔ scene.TookPart spot.kind spot.id := by
  have seated (agent : spot.kind.isAgent = true) : scene.isActive spot.id = true ↔
      scene.activity.contains spot.id = true := by
    have known : spot.id ∈ scene.names :=
      places.agents.mem_iff.mp (List.mem_map_of_mem (List.mem_filter.mpr ⟨member, agent⟩))
    rw [Scene.isActive_agent known]
  have named := places.named spot member
  cases kind : spot.kind with
  | agent | router | supervisor => exact seated (by rw [kind]; rfl)
  | user =>
    rw [named (by rw [kind]; rfl), kind]
    exact Scene.isActive_user accepted.user_absent
  | hub | distribute | aggregate =>
    rw [named (by rw [kind]; rfl), kind]
    exact Scene.isActive_fixture (accepted.absent (by decide)) (by decide)
  | finish => exact absurd kind (places.unfinished spot member).1

theorem Line.dashed_iff {style : EdgeStyle} :
    line.dashed style = true ↔ line.stroke ≠ .primary ∨ style = .dashed := by
  cases stroke : line.stroke with
  | primary => simp [dashed, stroke]
  | secondary => simp [dashed, stroke]
  | peer => simp [dashed, stroke]

theorem of_mem_zipWith {step : String → String → Line} {sources targets : List String}
    (member : line ∈ List.zipWith step sources targets) :
    ∃ source ∈ sources, ∃ target ∈ targets, line = step source target := by
  rw [← List.map_uncurry_zip_eq_zipWith] at member
  obtain ⟨⟨source, target⟩, joined, rfl⟩ := List.mem_map.mp member
  obtain ⟨known, knownToo⟩ := List.of_mem_zip joined
  exact ⟨source, known, target, knownToo, rfl⟩

theorem Chain.apart_iff {bidirectional : Bool} (accepted : AcceptedNames names)
    (member : line ∈ Chain.lines bidirectional names) :
    line.stroke ≠ .primary ↔
      names.getLast? = some line.source ∧ names.head? = some line.target := by
  cases names with
  | nil => cases member
  | cons first rest =>
    rcases List.mem_cons.mp member with rfl | later
    · refine iff_of_false (not_not.mpr rfl) fun ⟨last, _⟩ => ?_
      exact accepted.user_absent (List.mem_of_getLast? last)
    · rcases List.mem_append.mp later with onward | back
      · obtain ⟨source, _, target, known, rfl⟩ := of_mem_zipWith onward
        have fresh := (List.nodup_cons.mp accepted.distinct).1
        refine iff_of_false (not_not.mpr rfl) fun ⟨_, back⟩ => fresh ?_
        exact Option.some.inj back ▸ known
      · split at back
        · rename_i last found
          rw [List.mem_singleton.mp back]
          exact iff_of_true nofun ⟨by rw [List.getLast?_cons, found]; rfl, rfl⟩
        · cases back

theorem Ring.apart_iff {crossConnections : Bool} (accepted : AcceptedNames names)
    (member : line ∈ Ring.lines crossConnections names) :
    line.stroke ≠ .primary ↔
      crossConnections = true ∧ line.source ∈ names ∧ line.target ∈ names := by
  cases names with
  | nil => cases member
  | cons first rest =>
    rcases List.mem_cons.mp member with rfl | later
    · exact iff_of_false (not_not.mpr rfl) fun ⟨_, known, _⟩ => accepted.user_absent known
    · cases crossConnections with
      | true =>
        obtain ⟨peer, known⟩ := of_mem_peerLines later
        exact iff_of_true (peer ▸ nofun) ⟨rfl, known⟩
      | false =>
        refine iff_of_false (not_not.mpr ?_) nofun
        split at later
        · contradiction
        · split at later
          · cases later
          · obtain ⟨source, _, target, _, rfl⟩ := of_mem_zipWith later
            rfl

/-- All of the lines are in the style of the topology's edges. -/
def InStyle (lines : List Line) : Prop := ∀ line ∈ lines, line.stroke = .primary

theorem InStyle.apart_iff {lines : List Line} (style : InStyle lines) (member : line ∈ lines) :
    line.stroke ≠ .primary ↔ False :=
  iff_of_false (not_not.mpr (style line member)) not_false

theorem InStyle.way {out back : Line} {bidirectional : Bool} (onward : out.stroke = .primary)
    (backward : back.stroke = .primary) :
    InStyle (out :: if bidirectional then [back] else []) := by
  refine List.forall_mem_cons.mpr ⟨onward, ?_⟩
  split
  · exact List.forall_mem_singleton.mpr backward
  · exact List.forall_mem_nil _

theorem Hub.lines_inStyle : InStyle (Hub.plan scene).lines :=
  List.forall_mem_cons.mpr ⟨rfl, List.forall_mem_flatMap.mpr fun _ _ => InStyle.way rfl rfl⟩

theorem ForkJoin.lines_inStyle : InStyle (ForkJoin.lines names) := by
  refine List.forall_mem_cons.mpr ⟨rfl, List.forall_mem_flatMap.mpr fun name _ => ?_⟩
  exact List.forall_mem_cons.mpr ⟨rfl, List.forall_mem_singleton.mpr rfl⟩

theorem Tree.lines_inStyle {bidirectional : Bool} : InStyle (Tree.lines bidirectional names) := by
  cases names with
  | nil => exact List.forall_mem_nil _
  | cons supervisor workers =>
    exact List.forall_mem_cons.mpr
      ⟨rfl, List.forall_mem_flatMap.mpr fun _ _ => InStyle.way rfl rfl⟩

/-- A line of a mesh either has the user or the router at an end, or is a link of two peers who
have spoken. -/
theorem Mesh.of_mem_lines {router : String} {peers : List String} {activity : Activity}
    (user : NodeId.user ∉ peers) (fresh : router ∉ peers)
    (member : line ∈ Mesh.lines router peers activity) :
    line.stroke = .primary ∧ ¬ (line.source ∈ peers ∧ line.target ∈ peers) ∨
      line.stroke = .peer ∧ line.source ∈ peers.filter activity.contains ∧
        line.target ∈ peers.filter activity.contains := by
  rcases List.mem_cons.mp member with rfl | later
  · exact .inl ⟨rfl, fun known => user known.1⟩
  · rcases List.mem_append.mp later with way | link
    · obtain ⟨peer, _, way⟩ := List.mem_flatMap.mp way
      rcases List.mem_cons.mp way with rfl | back
      · exact .inl ⟨rfl, fun known => fresh known.1⟩
      · rw [List.mem_singleton.mp back]
        exact .inl ⟨rfl, fun known => fresh known.2⟩
    · exact .inr (of_mem_peerLines link)

theorem Mesh.isPeer_iff {router : Agent} (found : Mesh.router? scene.agents = some router)
    {name : String} :
    scene.IsPeer name ↔ name ∈ (Mesh.peers router scene.agents).map (·.name) := by
  unfold Scene.IsPeer
  constructor
  · rintro ⟨known, apart⟩
    obtain ⟨agent, member, rfl⟩ := List.mem_map.mp known
    have kept : agent ∈ Mesh.peers router scene.agents :=
      List.mem_filter.mpr ⟨member, decide_eq_true (apart router found)⟩
    exact List.mem_map_of_mem kept
  · intro known
    obtain ⟨agent, kept, rfl⟩ := List.mem_map.mp known
    obtain ⟨member, apart⟩ := List.mem_filter.mp kept
    refine ⟨List.mem_map_of_mem member, fun other same => ?_⟩
    obtain rfl := Option.some.inj (found.symm.trans same)
    exact of_decide_eq_true apart

/-- A line of a mesh is dashed in every style if it joins two peers, who have spoken then. -/
theorem Mesh.of_mem_plan_lines (accepted : AcceptedNames scene.names)
    (member : line ∈ (Mesh.plan scene).lines) :
    line.stroke = .primary ∧ ¬ (scene.IsPeer line.source ∧ scene.IsPeer line.target) ∨
      line.stroke = .peer ∧ (scene.IsPeer line.source ∧ scene.IsPeer line.target) ∧
        scene.activity.contains line.source = true ∧
          scene.activity.contains line.target = true := by
  rw [Mesh.plan] at member
  cases found : Mesh.router? scene.agents with
  | none =>
    rw [found] at member
    cases member
  | some router =>
    rw [found] at member
    have noUser : ¬ scene.IsPeer NodeId.user := fun peer => accepted.user_absent peer.1
    have noRouter : ¬ scene.IsPeer router.name := fun peer => peer.2 router found rfl
    simp only [isPeer_iff found] at noUser noRouter ⊢
    refine (of_mem_lines noUser noRouter member).imp_right ?_
    rintro ⟨peer, source, target⟩
    obtain ⟨known, spoken⟩ := List.mem_filter.mp source
    obtain ⟨knownToo, spokenToo⟩ := List.mem_filter.mp target
    exact ⟨peer, ⟨known, knownToo⟩, spoken, spokenToo⟩

theorem Mesh.apart_iff (accepted : AcceptedNames scene.names)
    (member : line ∈ (Mesh.plan scene).lines) :
    line.stroke ≠ .primary ↔ scene.IsPeer line.source ∧ scene.IsPeer line.target := by
  rcases of_mem_plan_lines accepted member with ⟨style, apart⟩ | ⟨style, peers, _⟩
  · exact iff_of_false (not_not.mpr style) apart
  · exact iff_of_true (style ▸ nofun) peers

theorem plan_apart_iff (accepted : AcceptedNames scene.names)
    (member : line ∈ (plan scene).lines) :
    line.stroke ≠ .primary ↔ scene.SetApart line.source line.target := by
  revert member
  rw [plan, Scene.SetApart]
  cases scene.visual.layout with
  | chain => exact Chain.apart_iff accepted
  | hubAndSpoke => exact Hub.lines_inStyle.apart_iff
  | mesh => exact Mesh.apart_iff accepted
  | forkJoin => exact ForkJoin.lines_inStyle.apart_iff
  | tree => exact Tree.plan_lines ▸ Tree.lines_inStyle.apart_iff
  | ring => exact Ring.apart_iff accepted

/-- Peers of a mesh are joined only where both have spoken. -/
theorem plan_linked (accepted : AcceptedNames scene.names) (member : line ∈ (plan scene).lines)
    (mesh : scene.visual.layout = .mesh) (apart : scene.SetApart line.source line.target) :
    scene.isActive line.source = true ∧ scene.isActive line.target = true := by
  rw [plan, mesh] at member
  rw [Scene.SetApart, mesh] at apart
  rcases Mesh.of_mem_plan_lines accepted member with ⟨_, strangers⟩ | ⟨_, _, spoken⟩
  · exact absurd apart strangers
  · rw [Scene.isActive_agent apart.1.1, Scene.isActive_agent apart.2.1]
    exact spoken

/-- Away from the end of the run, it depends on the id alone whether a node is active. -/
theorem active_of_mem_draw {plan : Plan} {node : Node} (member : node ∈ (plan.draw scene).nodes)
    (notEnd : node.id ≠ NodeId.finish) : node.active = scene.isActive node.id := by
  rcases of_mem_draw_nodes member with ⟨spot, _, rfl⟩ | ⟨_, rfl⟩
  · rfl
  · exact absurd rfl notEnd

theorem Line.draw_shows (accepted : AcceptedNames scene.names) (member : line ∈ (plan scene).lines)
    {source target : Node} (fromSource : source.active = scene.isActive line.source)
    (toTarget : target.active = scene.isActive line.target) :
    (line.draw scene).Shows scene source target := by
  have animated : (line.draw scene).animated = true ↔
      scene.isActive line.source = true ∧ scene.isActive line.target = true := Bool.and_eq_true_iff
  constructor
  case animated =>
    rw [fromSource, toTarget]
    exact animated
  case weight => rfl
  case dashed => exact Line.dashed_iff.trans (or_congr_left (plan_apart_iff accepted member))
  case linked => exact fun mesh apart => animated.mpr (plan_linked accepted member mesh apart)

/-- The diagram of a team with accepted names shows what has happened, whoever has spoken, however
the run stands and however the topology is drawn. -/
theorem generate_reflects (accepted : AcceptedNames scene.names) :
    (generate scene).Reflects scene := by
  have proper := plan_proper accepted
  constructor
  case manned =>
    intro name member
    obtain ⟨node, seated, same⟩ := List.mem_map.mp (proper.draw.agents.mem_iff.mpr member)
    obtain ⟨drawn, agent⟩ := List.mem_filter.mp seated
    exact ⟨node, drawn, agent, same⟩
  case active =>
    intro node member
    rcases of_mem_draw_nodes member with ⟨spot, placed, rfl⟩ | ⟨_, rfl⟩
    · exact tookPart_iff proper.places accepted placed
    · exact iff_of_true rfl trivial
  case joined =>
    intro edge member
    obtain ⟨left, right⟩ := proper.draw.simple.known _ (List.mem_map_of_mem member)
    obtain ⟨source, drawn, same⟩ := List.mem_map.mp left
    obtain ⟨target, drawnToo, sameToo⟩ := List.mem_map.mp right
    exact ⟨source, drawn, target, drawnToo, Prod.ext same.symm sameToo.symm⟩
  case shown =>
    intro edge member notEnd source drawn target drawnToo joined
    rcases of_mem_draw_edges member with ⟨line, listed, rfl⟩ | ⟨_, rfl⟩
    · have fromSource : line.source = source.id := (Prod.mk.inj joined).1
      have toTarget : line.target = target.id := (Prod.mk.inj joined).2
      refine Line.draw_shows accepted listed ?_ ?_
      · rw [fromSource]
        exact active_of_mem_draw drawn (fromSource ▸ (proper.ne_finish listed).1)
      · rw [toTarget]
        exact active_of_mem_draw drawnToo (toTarget ▸ (proper.ne_finish listed).2)
    · exact absurd rfl notEnd
  case ending =>
    intro edge member isEnd
    rcases of_mem_draw_edges member with ⟨line, listed, rfl⟩ | ⟨_, rfl⟩
    · exact absurd isEnd (proper.ne_finish listed).2
    · exact ⟨rfl, rfl, rfl⟩

/-- Two peers of a mesh have spoken and the router has not: the link between them is in use, and
dashed though the style is not. -/
theorem generate_reflects_of_spoken_peers :
    let scene : Scene :=
      { agents := [{ name := "router" }, { name := "writer" }, { name := "critic" }]
        activity := Activity.ofList ["critic", "writer"]
        status := .complete
        visual := Visual.ofDriverKind .peerHandoff }
    AcceptedNames scene.names ∧ (generate scene).Reflects scene ∧
      scene.visual.edgeStyle = .solid ∧ ∃ edge ∈ (generate scene).edges,
        edge.ends = ("writer", "critic") ∧ edge.animated = true ∧ edge.dashed = true := by
  intro scene
  have accepted : AcceptedNames scene.names := ⟨by decide, by decide⟩
  have reflects := generate_reflects accepted
  have joined : ("writer", "critic") ∈ (generate scene).edges.map Edge.ends := by decide
  obtain ⟨edge, drawn, ends⟩ := List.mem_map.mp joined
  obtain ⟨source, target⟩ := Prod.mk.inj ends
  have apart : scene.SetApart edge.source edge.target := by
    rw [source, target]
    exact ⟨by decide, by decide⟩
  have notEnd : edge.target ≠ NodeId.finish := by
    rw [target]
    decide
  obtain ⟨left, known, right, knownToo, same⟩ := reflects.joined edge drawn
  have shown := reflects.shown edge drawn notEnd left known right knownToo same
  exact ⟨accepted, reflects, rfl, edge, drawn, ends, shown.linked rfl apart,
    shown.dashed.mpr (.inl apart)⟩

end AgentTeams.Diagram
