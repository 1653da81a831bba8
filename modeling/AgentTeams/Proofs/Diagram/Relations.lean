import AgentTeams.Proofs.Diagram.Graph
import AgentTeams.Proofs.Diagram.Scenes
import AgentTeams.Proofs.Pairs
import Mathlib.Data.List.Rotate
import Mathlib.Data.Nat.Choose.Basic

/-! Relations: between whom each layout family draws an edge while a run goes on, by the places of
the agents in the team, and how many edges these are. -/
namespace AgentTeams.Diagram

/-- Along the chain, and from the last agent back to the first if the chain is a loop. -/
inductive Chain.Joins (bidirectional : Bool) (names : List String) : String → String → Prop where
  | enter (first : names[0]? = some target) : Joins bidirectional names NodeId.user target
  | next {i : Nat} (here : names[i]? = some source) (there : names[i + 1]? = some target) :
      Joins bidirectional names source target
  | back (loop : bidirectional = true) (several : 2 ≤ names.length)
      (last : names[names.length - 1]? = some source) (first : names[0]? = some target) :
      Joins bidirectional names source target

/-- From the selector to every agent, and from every agent back if the hub listens. -/
inductive Hub.Joins (bidirectional : Bool) (names : List String) : String → String → Prop where
  | enter : Joins bidirectional names NodeId.user NodeId.hub
  | out (agent : target ∈ names) : Joins bidirectional names NodeId.hub target
  | back (listens : bidirectional = true) (agent : source ∈ names) :
      Joins bidirectional names source NodeId.hub

/-- The place of the agent that routes: that of the first that says so, else the first of all. -/
def Mesh.routerIndex (agents : List Agent) : Nat :=
  (agents.findIdx? (·.plays .router)).getD 0

/-- Between the agent at the place of the router and every other, in both directions, and from each
of these others to those after it if both have spoken. -/
inductive Mesh.Joins (router : Nat) (names : List String) (activity : Activity) :
    String → String → Prop where
  | enter (routes : names[router]? = some target) : Joins router names activity NodeId.user target
  | out {i : Nat} (routes : names[router]? = some source) (other : i ≠ router)
      (peer : names[i]? = some target) : Joins router names activity source target
  | back {i : Nat} (other : i ≠ router) (peer : names[i]? = some source)
      (routes : names[router]? = some target) : Joins router names activity source target
  | link {i j : Nat} (order : i < j) (other : i ≠ router) (otherToo : j ≠ router)
      (peer : names[i]? = some source) (peerToo : names[j]? = some target)
      (spoken : activity.contains source = true) (spokenToo : activity.contains target = true) :
      Joins router names activity source target

/-- Out to every agent, and from every agent to where the work is gathered. -/
inductive ForkJoin.Joins (names : List String) : String → String → Prop where
  | enter : Joins names NodeId.user NodeId.distribute
  | fork (agent : target ∈ names) : Joins names NodeId.distribute target
  | join (agent : source ∈ names) : Joins names source NodeId.aggregate

/-- From the first agent to all others, and from all others back if they report. -/
inductive Tree.Joins (bidirectional : Bool) (names : List String) : String → String → Prop where
  | enter (top : names[0]? = some target) : Joins bidirectional names NodeId.user target
  | down {i : Nat} (top : names[0]? = some source) (worker : names[i + 1]? = some target) :
      Joins bidirectional names source target
  | up {i : Nat} (reports : bidirectional = true) (worker : names[i + 1]? = some source)
      (top : names[0]? = some target) : Joins bidirectional names source target

/-- Around the circle, where somebody else is on it, or from each agent to all that come later. -/
inductive Ring.Joins (crossConnections : Bool) (names : List String) : String → String → Prop where
  | enter (first : names[0]? = some target) : Joins crossConnections names NodeId.user target
  | cross {i j : Nat} (crossed : crossConnections = true) (order : i < j)
      (here : names[i]? = some source) (there : names[j]? = some target) :
      Joins crossConnections names source target
  | next {i : Nat} (round : crossConnections = false) (several : 2 ≤ names.length)
      (here : names[i]? = some source)
      (there : names[(i + 1) % names.length]? = some target) :
      Joins crossConnections names source target

namespace Scene

/-- There is an edge from one id to the other. -/
def Joins (scene : Scene) : String → String → Prop :=
  match scene.visual.layout with
  | .chain => Chain.Joins scene.visual.bidirectional scene.names
  | .hubAndSpoke => Hub.Joins scene.visual.bidirectional scene.names
  | .mesh => Mesh.Joins (Mesh.routerIndex scene.agents) scene.names scene.activity
  | .forkJoin => ForkJoin.Joins scene.names
  | .tree => Tree.Joins scene.visual.bidirectional scene.names
  | .ring => Ring.Joins scene.visual.crossConnections scene.names

/-- The agents of a mesh that do not route and have spoken. -/
def spokenPeers (scene : Scene) : List String :=
  (scene.names.eraseIdx (Mesh.routerIndex scene.agents)).filter scene.activity.contains

/-- How many edges there are. -/
def joinCount (scene : Scene) : Nat :=
  let agents := scene.agents.length
  let back := if scene.visual.bidirectional then 1 else 0
  match scene.visual.layout with
  | .chain => if 2 ≤ agents then agents + back else agents
  | .hubAndSpoke => 1 + agents * (1 + back)
  | .mesh =>
      let spoken := scene.spokenPeers.length
      if agents = 0 then 0 else 1 + 2 * (agents - 1) + spoken * (spoken - 1) / 2
  | .forkJoin => 1 + 2 * agents
  | .tree => if agents = 0 then 0 else 1 + (agents - 1) * (1 + back)
  | .ring =>
      if agents = 0 then 0
      else if scene.visual.crossConnections then 1 + agents * (agents - 1) / 2
      else if agents = 1 then 1 else 1 + agents

end Scene

/-- The edges of a diagram are those that the scene asks for, each of them once. -/
structure Draws (diagram : Diagram) (scene : Scene) : Prop where
  joined : ∀ source target,
    (source, target) ∈ diagram.edges.map Edge.ends ↔ scene.Joins source target
  once : (diagram.edges.map Edge.ends).Nodup
  count : diagram.edges.length = scene.joinCount

variable {names rest : List String} {source target first router : String}

theorem mem_path_iff : (source, target) ∈ path names ↔
    ∃ i : Nat, names[i]? = some source ∧ names[i + 1]? = some target := by
  simp [path, List.mem_iff_getElem?, List.getElem?_zip_eq_some]

theorem mem_cycle_iff : (source, target) ∈ (first :: rest).zip (rest ++ [first]) ↔
    ∃ i : Nat, (first :: rest)[i]? = some source ∧
      (first :: rest)[(i + 1) % (first :: rest).length]? = some target := by
  have turned : rest ++ [first] = (first :: rest).rotate 1 := by simp
  rw [turned, List.mem_iff_getElem?]
  simp only [List.getElem?_zip_eq_some]
  refine exists_congr fun i => and_congr_right fun here => ?_
  obtain ⟨inside, _⟩ := List.getElem?_eq_some_iff.mp here
  rw [List.getElem?_rotate inside]

theorem mem_peerLines_iff : (source, target) ∈ (peerLines names).map Line.ends ↔
    [source, target].Sublist names := by
  induction names with
  | nil => simp [peerLines]
  | cons name rest ih =>
    have mine : (source, target) ∈ (rest.map fun other => (name, other)) ↔
        source = name ∧ target ∈ rest := by
      simp [and_comm, eq_comm]
    have split : (peerLines (name :: rest)).map Line.ends =
        rest.map (name, ·) ++ (peerLines rest).map Line.ends := by
      simp [peerLines, Line.ends, Function.comp_def]
    rw [split, List.mem_append, mine, ih, List.cons_sublist_cons', List.singleton_sublist]
    exact or_comm

theorem length_path (first : String) (rest : List String) :
    (path (first :: rest)).length = rest.length := by
  simp [path]

theorem length_star {onward : Bool} : (star source target onward names).length =
    names.length * (1 + if onward then 1 else 0) := by
  cases onward with
  | false => simp [star, way, List.length_flatMap]
  | true => simp [star, way, List.length_flatMap]

theorem length_peerLines (names : List String) :
    (peerLines names).length = names.length * (names.length - 1) / 2 := by
  induction names with
  | nil => rfl
  | cons name rest ih =>
    rw [peerLines, List.length_append, List.length_map, ih, List.length_cons, Nat.triangle_succ,
      Nat.add_comm]

variable {bidirectional crossConnections : Bool} {scene : Scene}

theorem two_le_length_iff (first : String) (rest : List String) :
    2 ≤ (first :: rest).length ↔ rest ≠ [] := by
  rw [List.length_cons, ← List.length_pos_iff]
  omega

theorem Chain.mem_ways_iff : (source, target) ∈
      (if bidirectional = true ∧ rest ≠ [] then (first :: rest).zip (rest ++ [first])
        else path (first :: rest)) ↔
    (source, target) ∈ path (first :: rest) ∨ bidirectional = true ∧ rest ≠ [] ∧
      (first :: rest).getLast? = some source ∧ first = target := by
  split
  · rename_i loop
    rw [path_closed, List.mem_append, List.mem_singleton, Prod.mk.injEq,
      List.getLast?_eq_some_getLast (List.cons_ne_nil _ _), Option.some.injEq]
    simp only [loop, true_and, ne_eq, not_false_eq_true, eq_comm (a := source),
      eq_comm (a := target)]
  · rename_i straight
    refine (or_iff_left ?_).symm
    rintro ⟨loop, several, _⟩
    exact straight ⟨loop, several⟩

theorem Chain.mem_lines_iff : (source, target) ∈ (Chain.lines bidirectional names).map Line.ends ↔
    Chain.Joins bidirectional names source target := by
  cases names with
  | nil =>
    refine iff_of_false List.not_mem_nil ?_
    rintro (first | ⟨here, _⟩ | ⟨_, several, _, _⟩)
    · simp at first
    · simp at here
    · simp at several
  | cons first rest =>
    rw [Chain.ends_lines, List.mem_cons, Chain.mem_ways_iff, mem_path_iff,
      ← two_le_length_iff first, List.getLast?_eq_getElem?]
    constructor
    · rintro (same | ⟨i, here, there⟩ | ⟨loop, several, last, rfl⟩)
      · cases same
        exact .enter rfl
      · exact .next here there
      · exact .back loop several last rfl
    · rintro (top | ⟨here, there⟩ | ⟨loop, several, last, top⟩)
      · cases top
        exact .inl rfl
      · exact .inr (.inl ⟨_, here, there⟩)
      · exact .inr (.inr ⟨loop, several, last, Option.some.inj top⟩)

theorem Ring.mem_lines_iff :
    (source, target) ∈ (Ring.lines crossConnections names).map Line.ends ↔
      Ring.Joins crossConnections names source target := by
  cases names with
  | nil =>
    refine iff_of_false List.not_mem_nil ?_
    rintro (first | ⟨_, _, here, _⟩ | ⟨_, several, _, _⟩)
    · simp at first
    · simp at here
    · simp at several
  | cons first rest =>
    rw [Ring.ends_lines, List.mem_cons]
    constructor
    · rintro (same | way)
      · cases same
        exact .enter rfl
      · split at way
        · rename_i crossed
          obtain ⟨i, j, order, here, there⟩ := pair_sublist_iff.mp (mem_peerLines_iff.mp way)
          exact .cross crossed order here there
        · rename_i round
          split at way
          · cases way
          · rename_i others
            obtain ⟨i, here, there⟩ := mem_cycle_iff.mp way
            have several := (two_le_length_iff first rest).mpr others
            exact .next (Bool.eq_false_of_not_eq_true round) several here there
    · rintro (top | ⟨crossed, order, here, there⟩ | ⟨round, others, here, there⟩)
      · cases top
        exact .inl rfl
      · rw [if_pos crossed]
        exact .inr (mem_peerLines_iff.mpr (pair_sublist_iff.mpr ⟨_, _, order, here, there⟩))
      · rw [if_neg (by simp [round]), if_neg ((two_le_length_iff first rest).mp others)]
        exact .inr (mem_cycle_iff.mpr ⟨_, here, there⟩)

theorem Hub.mem_lines_iff : (source, target) ∈ (Hub.plan scene).lines.map Line.ends ↔
    Hub.Joins scene.visual.bidirectional scene.names source target := by
  rw [Hub.ends_lines, List.mem_cons, mem_star]
  constructor
  · rintro (same | ⟨name, agent, same | ⟨listens, same⟩⟩)
    · cases same
      exact .enter
    · cases same
      exact .out agent
    · cases same
      exact .back listens agent
  · rintro (_ | agent | ⟨listens, agent⟩)
    · exact .inl rfl
    · exact .inr ⟨target, agent, .inl rfl⟩
    · exact .inr ⟨source, agent, .inr ⟨listens, rfl⟩⟩

theorem ForkJoin.mem_lines_iff : (source, target) ∈ (ForkJoin.lines names).map Line.ends ↔
    ForkJoin.Joins names source target := by
  rw [ForkJoin.ends_lines, List.mem_cons, mem_star]
  constructor
  · rintro (same | ⟨name, agent, same | ⟨_, same⟩⟩)
    · cases same
      exact .enter
    · cases same
      exact .fork agent
    · cases same
      exact .join agent
  · rintro (_ | agent | agent)
    · exact .inl rfl
    · exact .inr ⟨target, agent, .inl rfl⟩
    · exact .inr ⟨source, agent, .inr ⟨rfl, rfl⟩⟩

theorem Tree.mem_lines_iff : (source, target) ∈ (Tree.lines bidirectional names).map Line.ends ↔
    Tree.Joins bidirectional names source target := by
  cases names with
  | nil =>
    refine iff_of_false List.not_mem_nil ?_
    rintro (top | ⟨top, _⟩ | ⟨_, _, top⟩)
    all_goals simp at top
  | cons first rest =>
    rw [Tree.ends_lines, List.mem_cons, mem_star]
    constructor
    · rintro (same | ⟨name, worker, same | ⟨reports, same⟩⟩)
      · cases same
        exact .enter rfl
      · cases same
        obtain ⟨i, there⟩ := List.mem_iff_getElem?.mp worker
        exact .down rfl there
      · cases same
        obtain ⟨i, there⟩ := List.mem_iff_getElem?.mp worker
        exact .up reports there rfl
    · rintro (top | ⟨top, worker⟩ | ⟨reports, worker, top⟩)
      · cases top
        exact .inl rfl
      · cases top
        exact .inr ⟨target, List.mem_iff_getElem?.mpr ⟨_, worker⟩, .inl rfl⟩
      · cases top
        exact .inr ⟨source, List.mem_iff_getElem?.mpr ⟨_, worker⟩, .inr ⟨reports, rfl⟩⟩

theorem Mesh.router?_eq_getElem? (agents : List Agent) :
    Mesh.router? agents = agents[Mesh.routerIndex agents]? := by
  unfold Mesh.router? Mesh.routerIndex
  rw [List.find?_eq_bind_findIdx?_getElem?]
  cases found : agents.findIdx? (·.plays .router) with
  | none => simp [List.head?_eq_getElem?]
  | some i =>
    obtain ⟨inside, _⟩ := List.findIdx?_eq_some_iff_getElem.mp found
    simp [List.getElem?_eq_getElem inside]

variable {place : Nat} {activity : Activity}

theorem ne_iff_place_ne (distinct : names.Nodup) {i : Nat} {name : String}
    (routes : names[place]? = some router) (here : names[i]? = some name) :
    name ≠ router ↔ i ≠ place := by
  obtain ⟨_, rfl⟩ := List.getElem?_eq_some_iff.mp routes
  obtain ⟨_, rfl⟩ := List.getElem?_eq_some_iff.mp here
  exact not_congr distinct.getElem_inj_iff

theorem Mesh.mem_others_iff (distinct : names.Nodup) (routes : names[place]? = some router)
    {name : String} : name ∈ names.filter (· ≠ router) ↔
      ∃ i, i ≠ place ∧ names[i]? = some name := by
  rw [List.mem_filter, decide_eq_true_eq, List.mem_iff_getElem?]
  constructor
  · rintro ⟨⟨i, here⟩, other⟩
    exact ⟨i, (ne_iff_place_ne distinct routes here).mp other, here⟩
  · rintro ⟨i, other, here⟩
    exact ⟨⟨i, here⟩, (ne_iff_place_ne distinct routes here).mpr other⟩

theorem Mesh.pair_others_iff (distinct : names.Nodup) (routes : names[place]? = some router) :
    [source, target].Sublist ((names.filter (· ≠ router)).filter activity.contains) ↔
      ∃ i j, i < j ∧ i ≠ place ∧ j ≠ place ∧ names[i]? = some source ∧ names[j]? = some target ∧
        activity.contains source = true ∧ activity.contains target = true := by
  rw [pair_sublist_filter_iff, pair_sublist_filter_iff, pair_sublist_iff]
  simp only [decide_eq_true_eq]
  constructor
  · rintro ⟨⟨⟨i, j, order, here, there⟩, other, otherToo⟩, spoken⟩
    exact ⟨i, j, order, (ne_iff_place_ne distinct routes here).mp other,
      (ne_iff_place_ne distinct routes there).mp otherToo, here, there, spoken⟩
  · rintro ⟨i, j, order, other, otherToo, here, there, spoken⟩
    exact ⟨⟨⟨i, j, order, here, there⟩, (ne_iff_place_ne distinct routes here).mpr other,
      (ne_iff_place_ne distinct routes there).mpr otherToo⟩, spoken⟩

theorem Mesh.mem_lines_iff (distinct : names.Nodup) (routes : names[place]? = some router) :
    (source, target) ∈
        (Mesh.lines router (names.filter (· ≠ router)) activity).map Line.ends ↔
      Mesh.Joins place names activity source target := by
  rw [Mesh.ends_lines, List.mem_cons, List.mem_append, mem_star, mem_peerLines_iff,
    pair_others_iff distinct routes]
  simp only [mem_others_iff distinct routes]
  constructor
  · rintro (same | ⟨name, ⟨i, other, peer⟩, same | ⟨_, same⟩⟩ |
      ⟨i, j, order, other, otherToo, peer, peerToo, spoken, spokenToo⟩)
    · cases same
      exact .enter routes
    · cases same
      exact .out routes other peer
    · cases same
      exact .back other peer routes
    · exact .link order other otherToo peer peerToo spoken spokenToo
  · rintro (found | ⟨found, other, peer⟩ | ⟨other, peer, found⟩ |
      ⟨order, other, otherToo, peer, peerToo, spoken, spokenToo⟩)
    · obtain rfl := Option.some.inj (routes.symm.trans found)
      exact .inl rfl
    · obtain rfl := Option.some.inj (routes.symm.trans found)
      exact .inr (.inl ⟨target, ⟨_, other, peer⟩, .inl rfl⟩)
    · obtain rfl := Option.some.inj (routes.symm.trans found)
      exact .inr (.inl ⟨source, ⟨_, other, peer⟩, .inr ⟨trivial, rfl⟩⟩)
    · exact .inr (.inr ⟨_, _, order, other, otherToo, peer, peerToo, spoken, spokenToo⟩)

theorem Mesh.others_eq_eraseIdx (distinct : names.Nodup) (routes : names[place]? = some router) :
    names.filter (· ≠ router) = names.eraseIdx place := by
  obtain ⟨inside, same⟩ := List.getElem?_eq_some_iff.mp routes
  have found : names.idxOf router = place := by
    rw [← same]
    exact distinct.idxOf_getElem place inside
  rw [others_eq_erase distinct, ← List.eraseIdx_idxOf_eq_erase, found]

theorem length_ends (lines : List Line) : (lines.map Line.ends).length = lines.length :=
  List.length_map _

theorem Chain.length_lines : (Chain.lines bidirectional names).length =
    if 2 ≤ names.length then names.length + (if bidirectional then 1 else 0)
    else names.length := by
  cases names with
  | nil => rfl
  | cons first rest =>
    rw [← length_ends, Chain.ends_lines, List.length_cons]
    simp only [two_le_length_iff]
    by_cases several : rest = []
    · simp [several, path]
    · cases bidirectional with
      | false => simp [several, length_path]
      | true => simp [several]

theorem Ring.length_lines (first : String) (rest : List String) :
    (Ring.lines crossConnections (first :: rest)).length =
      if crossConnections then 1 + (rest.length + 1) * rest.length / 2
      else if rest.length + 1 = 1 then 1 else 1 + (rest.length + 1) := by
  rw [← length_ends, Ring.ends_lines, List.length_cons]
  cases crossConnections with
  | true =>
    rw [if_pos rfl, if_pos rfl, length_ends, length_peerLines, List.length_cons,
      Nat.add_sub_cancel, Nat.add_comm]
  | false =>
    by_cases several : rest = []
    · simp [several]
    · simp [several, Nat.add_comm]

theorem Mesh.length_lines (router : String) (peers : List String) (activity : Activity) :
    (Mesh.lines router peers activity).length =
      1 + 2 * peers.length + (peers.filter activity.contains).length *
        ((peers.filter activity.contains).length - 1) / 2 := by
  rw [← length_ends, Mesh.ends_lines, List.length_cons, List.length_append, length_star,
    length_ends, length_peerLines, if_pos rfl]
  omega

theorem Mesh.mem_plan_iff (distinct : scene.names.Nodup) :
    (source, target) ∈ (Mesh.plan scene).lines.map Line.ends ↔
      Mesh.Joins (Mesh.routerIndex scene.agents) scene.names scene.activity source target := by
  have places : scene.names[Mesh.routerIndex scene.agents]? =
      (Mesh.router? scene.agents).map (·.name) := by
    rw [Mesh.router?_eq_getElem?, Scene.names, List.getElem?_map]
  unfold Mesh.plan
  cases found : Mesh.router? scene.agents with
  | none =>
    have empty : scene.names = [] := by
      simp [Scene.names, Mesh.router?_eq_none_iff.mp found]
    refine iff_of_false List.not_mem_nil ?_
    rw [empty]
    rintro (routes | ⟨routes, _⟩ | ⟨_, _, routes⟩ | ⟨_, _, _, routes⟩)
    all_goals cases routes
  | some router =>
    rw [found] at places
    simp only [Mesh.names_peers]
    exact Mesh.mem_lines_iff distinct places

theorem mem_plan_iff (distinct : scene.names.Nodup) :
    (source, target) ∈ (plan scene).lines.map Line.ends ↔ scene.Joins source target := by
  unfold plan Scene.Joins
  cases scene.visual.layout with
  | chain => exact Chain.mem_lines_iff
  | hubAndSpoke => exact Hub.mem_lines_iff
  | mesh => exact Mesh.mem_plan_iff distinct
  | forkJoin => exact ForkJoin.mem_lines_iff
  | tree => exact Tree.plan_lines ▸ Tree.mem_lines_iff
  | ring => exact Ring.mem_lines_iff

theorem Mesh.length_plan (accepted : AcceptedNames scene.names) :
    (Mesh.plan scene).lines.length =
      if scene.agents.length = 0 then 0
      else 1 + 2 * (scene.agents.length - 1) +
        scene.spokenPeers.length * (scene.spokenPeers.length - 1) / 2 := by
  unfold Mesh.plan
  cases found : Mesh.router? scene.agents with
  | none => simp [Mesh.router?_eq_none_iff.mp found]
  | some router =>
    have routes : scene.names[Mesh.routerIndex scene.agents]? = some router.name := by
      rw [Scene.names, List.getElem?_map, ← Mesh.router?_eq_getElem?, found]
      rfl
    have others : (Mesh.peers router scene.agents).map (·.name) =
        scene.names.eraseIdx (Mesh.routerIndex scene.agents) :=
      (Mesh.names_peers _ _).trans (Mesh.others_eq_eraseIdx accepted.distinct routes)
    obtain ⟨inside, _⟩ := List.getElem?_eq_some_iff.mp routes
    have size : scene.names.length = scene.agents.length := List.length_map _
    rw [Mesh.length_lines, others, List.length_eraseIdx_of_lt inside, size, if_neg (by omega)]
    rfl

theorem length_plan (accepted : AcceptedNames scene.names) :
    (plan scene).lines.length = scene.joinCount := by
  have size : scene.names.length = scene.agents.length := List.length_map _
  unfold plan Scene.joinCount
  cases scene.visual.layout with
  | chain => exact size ▸ Chain.length_lines
  | hubAndSpoke =>
    rw [← length_ends, Hub.ends_lines, List.length_cons, length_star, size, Nat.add_comm]
  | mesh => exact Mesh.length_plan accepted
  | forkJoin =>
    simp only [ForkJoin.plan]
    rw [← length_ends, ForkJoin.ends_lines, List.length_cons, length_star, size, if_pos rfl]
    omega
  | tree =>
    simp only [Tree.plan_lines, ← size]
    cases scene.names with
    | nil => rfl
    | cons first rest =>
      rw [← length_ends, Tree.ends_lines, List.length_cons, length_star]
      simp [Nat.add_comm]
  | ring =>
    simp only [Ring.plan, ← size]
    cases scene.names with
    | nil => rfl
    | cons first rest => simpa using Ring.length_lines first rest

/-- While a run goes on, a team with accepted names is drawn with exactly the edges of its family,
whoever has spoken and whatever the look. -/
theorem generate_draws (accepted : AcceptedNames scene.names)
    (going : scene.status.isTerminal = false) : (generate scene).Draws scene := by
  have drawn : (generate scene).edges.map Edge.ends = (plan scene).lines.map Line.ends := by
    rw [generate_of_going going, ends_drawRunning]
  constructor
  case joined =>
    intro source target
    rw [drawn]
    exact mem_plan_iff accepted.distinct
  case once =>
    rw [drawn]
    exact (plan_proper accepted).simple.distinct
  case count =>
    rw [← length_plan accepted, generate_of_going going]
    exact List.length_map _

/-- The second of four agents routes a mesh, and two of the others have spoken: the link between
these two is the eighth edge. -/
theorem generate_draws_of_routed_mesh :
    let scene : Scene :=
      { agents := [{ name := "writer" }, { name := "main_router" }, { name := "critic" },
          { name := "editor" }]
        activity := Activity.ofList ["editor", "main_router", "stranger", "writer"]
        status := .active
        visual := Visual.ofDriverKind .peerHandoff }
    AcceptedNames scene.names ∧ scene.status.isTerminal = false ∧ (generate scene).Draws scene ∧
      ("writer", "editor") ∈ (generate scene).edges.map Edge.ends ∧
      ("writer", "critic") ∉ (generate scene).edges.map Edge.ends ∧
      (generate scene).edges.length = 8 := by
  intro scene
  have accepted : AcceptedNames scene.names := ⟨by decide, by decide⟩
  have going : scene.status.isTerminal = false := rfl
  have draws := generate_draws accepted going
  refine ⟨accepted, going, draws, ?_, by decide +kernel, draws.count.trans (by decide +kernel)⟩
  refine (draws.joined "writer" "editor").mpr ?_
  exact Mesh.Joins.link (i := 0) (j := 3) (by decide) (by decide +kernel) (by decide +kernel) rfl
    rfl (by decide) (by decide)

end AgentTeams.Diagram
