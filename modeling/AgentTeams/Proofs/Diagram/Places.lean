import AgentTeams.Proofs.Diagram.Joins

/-! Proper plans: every family has a place for each agent under its name, one for the user and
perhaps some of its own, and joins them by a simple graph. -/
namespace AgentTeams.Diagram

/-- The kinds of nodes that stand for an agent. -/
def NodeKind.isAgent : NodeKind → Bool
  | agent | router | supervisor => true
  | user | hub | distribute | aggregate | finish => false

def idsOf (spots : List Spot) : List String := spots.map (·.id)

@[simp] theorem idsOf_nil : idsOf [] = [] := rfl

@[simp] theorem idsOf_cons (spot : Spot) (rest : List Spot) :
    idsOf (spot :: rest) = spot.id :: idsOf rest := rfl

@[simp] theorem idsOf_append (spots others : List Spot) :
    idsOf (spots ++ others) = idsOf spots ++ idsOf others := List.map_append

/-- Places with different ids: one per agent under its name, one for the user, and none for the
end of a run. -/
structure Places (spots : List Spot) (names : List String) : Prop where
  distinct : (idsOf spots).Nodup
  agents : (idsOf (spots.filter (·.kind.isAgent))).Perm names
  labelled : ∀ spot ∈ spots, spot.kind.isAgent = true → spot.label = spot.id
  named : ∀ spot ∈ spots, spot.kind.isAgent = false → spot.id = spot.kind.name
  user : idsOf (spots.filter (·.kind = .user)) = [NodeId.user]
  unfinished : ∀ spot ∈ spots, spot.kind ≠ .finish ∧ spot.id ≠ NodeId.finish

/-- The places of agents in some order. -/
structure Seats (spots : List Spot) (names : List String) : Prop where
  ids : (idsOf spots).Perm names
  manned : ∀ spot ∈ spots, spot.kind.isAgent = true ∧ spot.label = spot.id

/-- A place that a family has for no one in the team. -/
structure Spot.Fixed (spot : Spot) : Prop where
  unmanned : spot.kind.isAgent = false
  named : spot.id = spot.kind.name
  reserved : spot.id ∈ NodeId.reserved
  notUser : spot.kind ≠ .user ∧ spot.id ≠ NodeId.user
  notFinish : spot.kind ≠ .finish ∧ spot.id ≠ NodeId.finish

variable {names : List String} {spots others seats : List Spot} {spot : Spot}
  {position : Position}

theorem Spot.Fixed.of_kind (kind : spot.kind ∈ [NodeKind.hub, .distribute, .aggregate])
    (named : spot.id = spot.kind.name) : spot.Fixed := by
  have facts : ∀ kind ∈ [NodeKind.hub, .distribute, .aggregate], kind.isAgent = false ∧
      kind.name ∈ NodeId.reserved ∧ (kind ≠ .user ∧ kind.name ≠ NodeId.user) ∧
        kind ≠ .finish ∧ kind.name ≠ NodeId.finish := by decide
  obtain ⟨unmanned, reserved, notUser, notFinish⟩ := facts _ kind
  rw [← named] at reserved notUser notFinish
  exact ⟨unmanned, named, reserved, notUser, notFinish⟩

theorem Places.perm (places : Places spots names) (same : spots.Perm others) :
    Places others names where
  distinct := (same.map _).nodup_iff.mp places.distinct
  agents := ((same.filter _).map _).symm.trans places.agents
  labelled spot member := places.labelled spot (same.mem_iff.mpr member)
  named spot member := places.named spot (same.mem_iff.mpr member)
  user := List.perm_singleton.mp (places.user ▸ ((same.filter _).map _).symm)
  unfinished spot member := places.unfinished spot (same.mem_iff.mpr member)

theorem Places.ne_finish (places : Places spots names) {id : String} (known : id ∈ idsOf spots) :
    id ≠ NodeId.finish := by
  obtain ⟨spot, member, rfl⟩ := List.mem_map.mp known
  exact (places.unfinished spot member).2

theorem NodeKind.ne_of_isAgent {kind : NodeKind} (agent : kind.isAgent = true) :
    kind ≠ .user ∧ kind ≠ .finish := by
  cases kind <;> simp_all [isAgent]

theorem seats_nil : Seats [] [] := ⟨.refl _, by simp⟩

theorem Seats.cons (seated : Seats seats names)
    (manned : spot.kind.isAgent = true ∧ spot.label = spot.id) :
    Seats (spot :: seats) (spot.id :: names) :=
  ⟨seated.ids.cons _, List.forall_mem_cons.mpr ⟨manned, seated.manned⟩⟩

theorem seats_zipIdx {agents : List Agent} {place : Agent × Nat → Spot}
    (placed : ∀ agent i, ∃ position, place (agent, i) = Spot.agent agent .agent position) :
    Seats (agents.zipIdx.map place) (agents.map (·.name)) where
  ids := by
    have named : (·.id) ∘ place = (·.name) ∘ Prod.fst := by
      funext ⟨agent, i⟩
      obtain ⟨position, same⟩ := placed agent i
      simp [same, Spot.agent]
    rw [idsOf, List.map_map, named, ← List.map_map, List.zipIdx_map_fst]
  manned spot member := by
    obtain ⟨⟨agent, i⟩, _, rfl⟩ := List.mem_map.mp member
    obtain ⟨position, same⟩ := placed agent i
    rw [same]
    exact ⟨rfl, rfl⟩

theorem Seats.id_mem (seated : Seats seats names) (member : spot ∈ seats) : spot.id ∈ names :=
  seated.ids.mem_iff.mp (List.mem_map_of_mem member)

/-- Seats, fixed places and the user make up the places of a diagram. -/
theorem Seats.places (fixtures : List Spot) (seated : Seats seats names)
    (accepted : AcceptedNames names) (fixed : ∀ spot ∈ fixtures, spot.Fixed)
    (apart : (idsOf fixtures).Nodup) :
    Places (Spot.user position :: (fixtures ++ seats)) names where
  distinct := by
    have named : ∀ id ∈ idsOf seats, id ∉ NodeId.reserved :=
      fun id member => accepted.unreserved id (seated.ids.mem_iff.mp member)
    rw [idsOf_cons, idsOf_append, List.nodup_cons, List.nodup_append']
    refine ⟨?_, apart, seated.ids.nodup_iff.mpr accepted.distinct, ?_⟩
    · intro member
      rcases List.mem_append.mp member with fixture | seat
      · obtain ⟨spot, present, same⟩ := List.mem_map.mp fixture
        exact (fixed spot present).notUser.2 same
      · exact named _ seat List.mem_cons_self
    · intro id fixture seat
      obtain ⟨spot, present, rfl⟩ := List.mem_map.mp fixture
      exact named _ seat (fixed spot present).reserved
  agents := by
    have noFixture : fixtures.filter (·.kind.isAgent) = [] :=
      List.filter_eq_nil_iff.mpr fun spot member => by simp [(fixed spot member).unmanned]
    have allSeats : seats.filter (·.kind.isAgent) = seats :=
      List.filter_eq_self.mpr fun spot member => (seated.manned spot member).1
    rw [List.filter_cons_of_neg (by simp [Spot.user, NodeKind.isAgent]), List.filter_append,
      noFixture, allSeats]
    exact seated.ids
  labelled := by
    refine List.forall_mem_cons.mpr ⟨(fun isAgent => nomatch isAgent),
      List.forall_mem_append.mpr ⟨?_, fun spot seat _ => (seated.manned spot seat).2⟩⟩
    intro spot fixture isAgent
    simp [(fixed spot fixture).unmanned] at isAgent
  named := by
    refine List.forall_mem_cons.mpr ⟨fun _ => rfl,
      List.forall_mem_append.mpr ⟨fun spot fixture _ => (fixed spot fixture).named, ?_⟩⟩
    intro spot seat unmanned
    simp [(seated.manned spot seat).1] at unmanned
  user := by
    have noFixture : fixtures.filter (·.kind = .user) = [] :=
      List.filter_eq_nil_iff.mpr fun spot member => by simp [(fixed spot member).notUser.1]
    have noSeat : seats.filter (·.kind = .user) = [] := List.filter_eq_nil_iff.mpr
      fun spot member => by simp [(NodeKind.ne_of_isAgent (seated.manned spot member).1).1]
    rw [List.filter_cons_of_pos (by simp [Spot.user]), List.filter_append, noFixture, noSeat]
    rfl
  unfinished := by
    refine List.forall_mem_cons.mpr ⟨⟨nofun, by simp [Spot.user, NodeId.user, NodeId.finish]⟩,
      List.forall_mem_append.mpr ⟨fun spot fixture => (fixed spot fixture).notFinish, ?_⟩⟩
    intro spot seat
    exact ⟨(NodeKind.ne_of_isAgent (seated.manned spot seat).1).2,
      ne_of_mem_of_not_mem (seated.id_mem seat) (accepted.absent (by decide))⟩

/-- The places of a plan are the user's, those that the family has of its own, under these ids, and
one for each of these names. -/
inductive Plan.Furnished (plan : Plan) (own names : List String) : Prop where
  | intro (position : Position) (fixtures seats : List Spot)
      (made : (Spot.user position :: (fixtures ++ seats)).Perm plan.spots)
      (fixed : ∀ spot ∈ fixtures, spot.Fixed) (ids : idsOf fixtures = own)
      (seated : Seats seats names)

/-- A plan with a place for everyone, whose lines make a simple graph that the end of a run can
be hung on. -/
structure Plan.Proper (plan : Plan) (names : List String) : Prop where
  places : Places plan.spots names
  simple : Simple (idsOf plan.spots) (plan.lines.map Line.ends)
  anchored : plan.anchor ∈ idsOf plan.spots

theorem Plan.Proper.ne_finish {plan : Plan} (proper : plan.Proper names) {line : Line}
    (member : line ∈ plan.lines) :
    line.source ≠ NodeId.finish ∧ line.target ≠ NodeId.finish :=
  (proper.simple.known _ (List.mem_map_of_mem member)).imp proper.places.ne_finish
    proper.places.ne_finish

theorem Plan.Proper.reorder {plan : Plan} {same : List String} (proper : plan.Proper names)
    (order : names.Perm same) : plan.Proper same :=
  ⟨{ proper.places with agents := proper.places.agents.trans order }, proper.simple,
    proper.anchored⟩

variable {scene : Scene}

/-- A plan is proper with lines that are simple between the places it is furnished with. -/
theorem Plan.Furnished.proper {plan : Plan} {own : List String}
    (furnished : plan.Furnished own names) (accepted : AcceptedNames names) (apart : own.Nodup)
    (simple : Simple (NodeId.user :: (own ++ names)) (plan.lines.map Line.ends))
    (anchored : plan.anchor ∈ NodeId.user :: (own ++ names)) : plan.Proper names := by
  obtain ⟨position, fixtures, seats, made, fixed, rfl, seated⟩ := furnished
  have ids : (NodeId.user :: (idsOf fixtures ++ names)).Perm (idsOf plan.spots) := by
    refine List.Perm.trans ?_ (made.map _)
    rw [List.map_cons, List.map_append]
    exact (seated.ids.symm.append_left _).cons _
  exact ⟨(seated.places fixtures accepted fixed apart).perm made, simple.mono ids.subset,
    ids.subset anchored⟩

theorem Chain.plan_furnished : (Chain.plan scene).Furnished [] scene.names :=
  ⟨_, [], _, .refl _, by simp, rfl, seats_zipIdx fun _ _ => ⟨_, rfl⟩⟩

theorem Ring.plan_furnished : (Ring.plan scene).Furnished [] scene.names :=
  ⟨_, [], _, .refl _, by simp, rfl, seats_zipIdx fun _ _ => ⟨_, rfl⟩⟩

theorem Hub.plan_furnished : (Hub.plan scene).Furnished [NodeId.hub] scene.names := by
  refine ⟨_, [_], _, .refl _, ?_, rfl, seats_zipIdx fun _ _ => ⟨_, rfl⟩⟩
  exact List.forall_mem_singleton.mpr (.of_kind (by simp) rfl)

theorem ForkJoin.plan_furnished :
    (ForkJoin.plan scene).Furnished [NodeId.distribute, NodeId.aggregate] scene.names := by
  refine ⟨_, [_, _], _, (List.perm_append_singleton _ _).symm.cons _ |>.cons _, ?_, rfl,
    seats_zipIdx fun _ _ => ⟨_, rfl⟩⟩
  exact List.forall_mem_cons.mpr ⟨.of_kind (by simp) rfl,
    List.forall_mem_singleton.mpr (.of_kind (by simp) rfl)⟩

theorem Tree.plan_furnished : (Tree.plan scene).Furnished [] scene.names := by
  obtain ⟨agents, activity, status, visual⟩ := scene
  cases agents with
  | nil => exact ⟨_, [], [], .refl _, by simp, rfl, seats_nil⟩
  | cons supervisor workers =>
    refine ⟨_, [], _, .refl _, by simp, rfl, Seats.cons (seats_zipIdx fun _ _ => ⟨_, rfl⟩) ?_⟩
    exact ⟨rfl, rfl⟩

theorem Mesh.router?_eq_none_iff {agents : List Agent} : router? agents = none ↔ agents = [] := by
  rw [router?, Option.or_eq_none_iff, List.head?_eq_none_iff]
  exact ⟨fun both => both.2, fun empty => ⟨by simp [empty], empty⟩⟩

theorem Mesh.mem_of_router? {agents : List Agent} {router : Agent}
    (found : router? agents = some router) : router ∈ agents := by
  rcases Option.or_eq_some_iff.mp found with plays | ⟨_, first⟩
  · exact List.mem_of_find?_eq_some plays
  · exact List.mem_of_head? first

theorem Mesh.names_peers (agents : List Agent) (router : Agent) :
    (Mesh.peers router agents).map (·.name) =
      (agents.map (·.name)).filter (· ≠ router.name) := by
  rw [List.filter_map]
  rfl

theorem Mesh.others_eq_erase {names : List String} (distinct : names.Nodup) (router : String) :
    names.filter (· ≠ router) = names.erase router := by
  rw [distinct.erase_eq_filter]
  exact List.filter_congr fun name _ => by simp [bne, beq_eq_decide]

theorem Mesh.names_perm {agents : List Agent} {router : Agent}
    (distinct : (agents.map (·.name)).Nodup) (member : router ∈ agents) :
    (router.name :: (peers router agents).map (·.name)).Perm (agents.map (·.name)) := by
  rw [names_peers, others_eq_erase distinct]
  exact (List.perm_cons_erase (List.mem_map_of_mem member)).symm

/-- A mesh has places for the agent that routes and its peers, which are all of the agents if no
name repeats. -/
theorem Mesh.plan_furnished {router : Agent} (found : Mesh.router? scene.agents = some router) :
    (Mesh.plan scene).Furnished []
      (router.name :: (Mesh.peers router scene.agents).map (·.name)) := by
  rw [Mesh.plan, found]
  refine ⟨_, [], _, .refl _, by simp, rfl, Seats.cons (seats_zipIdx fun _ _ => ⟨_, rfl⟩) ?_⟩
  exact ⟨rfl, rfl⟩

theorem Mesh.plan_furnished_of_none (nobody : Mesh.router? scene.agents = none) :
    (Mesh.plan scene).Furnished [] [] := by
  rw [Mesh.plan, nobody]
  exact ⟨_, [], [], .refl _, by simp, rfl, seats_nil⟩

theorem Chain.plan_proper (accepted : AcceptedNames scene.names) :
    (Chain.plan scene).Proper scene.names :=
  Chain.plan_furnished.proper accepted List.nodup_nil (Chain.lines_simple accepted)
    List.mem_cons_self

theorem Ring.plan_proper (accepted : AcceptedNames scene.names) :
    (Ring.plan scene).Proper scene.names :=
  Ring.plan_furnished.proper accepted List.nodup_nil (Ring.lines_simple accepted)
    List.mem_cons_self

theorem Hub.plan_proper (accepted : AcceptedNames scene.names) :
    (Hub.plan scene).Proper scene.names :=
  Hub.plan_furnished.proper accepted (List.nodup_singleton _) (Hub.lines_simple accepted)
    (List.mem_cons_of_mem _ List.mem_cons_self)

theorem ForkJoin.plan_proper (accepted : AcceptedNames scene.names) :
    (ForkJoin.plan scene).Proper scene.names :=
  ForkJoin.plan_furnished.proper accepted (by decide) (ForkJoin.lines_simple accepted)
    (List.mem_cons_of_mem _ (List.mem_cons_of_mem _ List.mem_cons_self))

theorem Tree.plan_proper (accepted : AcceptedNames scene.names) :
    (Tree.plan scene).Proper scene.names := by
  obtain ⟨agents, activity, status, visual⟩ := scene
  cases agents with
  | nil => exact Tree.plan_furnished.proper accepted List.nodup_nil .nil List.mem_cons_self
  | cons supervisor workers =>
    exact Tree.plan_furnished.proper accepted List.nodup_nil (Tree.lines_simple accepted)
      (List.mem_cons_of_mem _ List.mem_cons_self)

theorem Mesh.plan_proper (accepted : AcceptedNames scene.names) :
    (Mesh.plan scene).Proper scene.names := by
  cases found : Mesh.router? scene.agents with
  | none =>
    have empty : scene.names = [] := by simp [Scene.names, Mesh.router?_eq_none_iff.mp found]
    have furnished := Mesh.plan_furnished_of_none found
    rw [empty]
    rw [Mesh.plan, found] at furnished ⊢
    exact furnished.proper acceptedNames_nil List.nodup_nil .nil List.mem_cons_self
  | some router =>
    have order := Mesh.names_perm accepted.distinct (Mesh.mem_of_router? found)
    have accepted := accepted.perm order.symm
    have furnished := Mesh.plan_furnished found
    refine Plan.Proper.reorder ?_ order
    rw [Mesh.plan, found] at furnished ⊢
    exact furnished.proper accepted List.nodup_nil (Mesh.lines_simple accepted)
      (List.mem_cons_of_mem _ List.mem_cons_self)

theorem plan_proper (accepted : AcceptedNames scene.names) : (plan scene).Proper scene.names := by
  unfold plan
  cases scene.visual.layout with
  | chain => exact Chain.plan_proper accepted
  | hubAndSpoke => exact Hub.plan_proper accepted
  | mesh => exact Mesh.plan_proper accepted
  | forkJoin => exact ForkJoin.plan_proper accepted
  | tree => exact Tree.plan_proper accepted
  | ring => exact Ring.plan_proper accepted

end AgentTeams.Diagram
