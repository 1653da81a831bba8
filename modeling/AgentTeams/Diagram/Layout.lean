import AgentTeams.Diagram.Plan
import AgentTeams.Vocabulary

/-!
The six layout families: for each the geometry of its nodes and the lines between them.
-/
namespace AgentTeams.Diagram

private def pi : Float := 3.141592653589793

private def line (source target : String) : Line := { source, target }

/-- Lines between all pairs, each from the earlier to the later agent. -/
def peerLines : List String → List Line
  | [] => []
  | name :: rest =>
      rest.map (fun other => { source := name, target := other, stroke := .peer }) ++ peerLines rest

namespace Chain

private def x (index : Nat) : Float := 250 + 220 * index.toFloat
private def y : Float := 200

/-- From the user along the agents, and back to the first if the chain is a loop. -/
def lines (bidirectional : Bool) : List String → List Line
  | [] => []
  | first :: rest =>
      line NodeId.user first ::
        (List.zipWith line (first :: rest) rest ++
          match bidirectional, rest.getLast? with
          | true, some last => [{ source := last, target := first, stroke := .secondary }]
          | _, _ => [])

/-- Agents from left to right in speaking order. -/
def plan (scene : Scene) : Plan where
  spots := Spot.user ⟨50, y⟩ ::
    scene.agents.zipIdx.map fun (agent, i) => Spot.agent agent .agent ⟨x i, y⟩
  lines := lines scene.visual.bidirectional scene.names
  anchor := NodeId.user
  endPosition := ⟨x scene.agents.length, y⟩

end Chain

namespace Hub

private def center : Position := ⟨300, 250⟩
private def radius : Float := 250
/-- The angle between the first and the last agent. -/
private def spread : Float := 2 * pi / 3

private def angle (index count : Nat) : Float :=
  if count < 2 then 0 else -spread / 2 + spread * index.toFloat / (count - 1).toFloat

/-- From the selector to an agent, and back if the hub listens. -/
def spokes (bidirectional : Bool) (selected : Option String) (name : String) : List Line :=
  { source := NodeId.hub, target := name
    label := if selected = some name then some "selected" else none } ::
  if bidirectional then [line name NodeId.hub] else []

/-- A selector in the middle, agents on an arc to the right. -/
def plan (scene : Scene) : Plan where
  spots := Spot.user ⟨50, center.y⟩ :: ⟨NodeId.hub, .hub, "Selector", center⟩ ::
    scene.agents.zipIdx.map fun (agent, i) =>
      Spot.agent agent .agent (center.polar radius (angle i scene.agents.length))
  lines := line NodeId.user NodeId.hub ::
    scene.names.flatMap (spokes scene.visual.bidirectional scene.latestAgent?)
  anchor := NodeId.hub
  endPosition := center.polar (radius + 150) 0

end Hub

/-- Positions on a full circle, the first at the top. -/
private def onCircle (center : Position) (radius : Float) (index count : Nat) : Position :=
  center.polar radius (2 * pi * index.toFloat / count.toFloat - pi / 2)

namespace Mesh

private def center : Position := ⟨400, 300⟩
private def radius : Float := 220

/-- The agent that routes: the first that says so, else the first. -/
def router? (agents : List Agent) : Option Agent :=
  (agents.find? (·.plays .router)).or agents.head?

/-- The others, by name. -/
def peers (router : Agent) (agents : List Agent) : List Agent :=
  agents.filter fun agent => agent.name ≠ router.name

def lines (router : String) (peers : List String) (activity : Activity) : List Line :=
  line NodeId.user router ::
    (peers.flatMap (fun peer => [line router peer, line peer router]) ++
      peerLines (peers.filter activity.contains))

/-- Peers on a circle around the agent that routes. -/
def plan (scene : Scene) : Plan :=
  let user := Spot.user ⟨center.x, 40⟩
  match router? scene.agents with
  | none => { spots := [user], lines := [], anchor := NodeId.user, endPosition := center }
  | some router =>
      let peers := peers router scene.agents
      { spots := user :: Spot.agent router .router center ::
          peers.zipIdx.map fun (peer, i) =>
            Spot.agent peer .agent (onCircle center radius i peers.length)
        lines := lines router.name (peers.map (·.name)) scene.activity
        anchor := router.name
        endPosition := ⟨center.x + radius + 150, center.y⟩ }

end Mesh

namespace ForkJoin

private def spacing : Float := 130
private def top : Float := 80

def lines (names : List String) : List Line :=
  line NodeId.user NodeId.distribute ::
    names.flatMap fun name => [line NodeId.distribute name, line name NodeId.aggregate]

/-- Work that is handed to a stack of agents and gathered again. -/
def plan (scene : Scene) : Plan :=
  let middle := top + spacing * (scene.agents.length - 1).toFloat / 2
  { spots := Spot.user ⟨50, middle⟩ ::
      ⟨NodeId.distribute, .distribute, "Distribute", ⟨250, middle⟩⟩ ::
      (scene.agents.zipIdx.map (fun (agent, i) =>
        Spot.agent agent .agent ⟨500, top + spacing * i.toFloat⟩) ++
      [⟨NodeId.aggregate, .aggregate, "Aggregate", ⟨750, middle⟩⟩])
    lines := lines scene.names
    anchor := NodeId.aggregate
    endPosition := ⟨950, middle⟩ }

end ForkJoin

namespace Tree

private def center : Float := 400
private def spacing : Float := 220
private def workerY : Float := 300

def lines (bidirectional : Bool) : List String → List Line
  | [] => []
  | supervisor :: workers =>
      line NodeId.user supervisor ::
        workers.flatMap fun worker =>
          line supervisor worker :: if bidirectional then [line worker supervisor] else []

/-- The first agent supervises, the others work in a row underneath. -/
def plan (scene : Scene) : Plan :=
  let user := Spot.user ⟨center, 20⟩
  let lines := lines scene.visual.bidirectional scene.names
  match scene.agents with
  | [] => { spots := [user], lines, anchor := NodeId.user, endPosition := ⟨center, workerY⟩ }
  | supervisor :: workers =>
      let left := center - spacing * (workers.length - 1).toFloat / 2
      { spots := user :: Spot.agent supervisor .supervisor ⟨center, 120⟩ ::
          workers.zipIdx.map fun (worker, i) =>
            Spot.agent worker .agent ⟨left + spacing * i.toFloat, workerY⟩
        lines
        anchor := supervisor.name
        endPosition := ⟨center, workerY + 160⟩ }

end Tree

namespace Ring

private def center : Position := ⟨400, 300⟩
private def radius : Float := 220

/-- Around the circle, or between all pairs. -/
def lines (crossConnections : Bool) : List String → List Line
  | [] => []
  | first :: rest =>
      line NodeId.user first ::
        if crossConnections then peerLines (first :: rest)
        else if rest.isEmpty then []
        else List.zipWith line (first :: rest) (rest ++ [first])

/-- Agents on a circle, the first at the top. -/
def plan (scene : Scene) : Plan where
  spots := Spot.user ⟨60, 60⟩ ::
    scene.agents.zipIdx.map fun (agent, i) =>
      Spot.agent agent .agent (onCircle center radius i scene.agents.length)
  lines := lines scene.visual.crossConnections scene.names
  anchor := NodeId.user
  endPosition := center

end Ring

/-- The plan of a scene by the family that its look names. -/
def plan (scene : Scene) : Plan :=
  match scene.visual.layout with
  | .chain => Chain.plan scene
  | .hubAndSpoke => Hub.plan scene
  | .mesh => Mesh.plan scene
  | .forkJoin => ForkJoin.plan scene
  | .tree => Tree.plan scene
  | .ring => Ring.plan scene

/-- The diagram of a scene. -/
def generate (scene : Scene) : Diagram :=
  (plan scene).draw scene

end AgentTeams.Diagram
