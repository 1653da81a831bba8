import AgentTeams.Agent
import AgentTeams.Diagram.Basic
import AgentTeams.Run.Basic
import AgentTeams.Topology.Visual

/-!
Plans: what a layout family wants drawn, and the rules by which all families are drawn. A plan
says where the nodes are and which lines join them; whether they took part in the run, how lines
look and how the run's end is shown is the same for all.
-/
namespace AgentTeams.Diagram

/-- What a diagram is drawn of. -/
structure Scene where
  agents : List Agent
  activity : Activity
  status : Run.Status
  visual : Visual

namespace Scene

def names (scene : Scene) : List String :=
  scene.agents.map (·.name)

def anyAgentActive (scene : Scene) : Bool :=
  scene.names.any scene.activity.contains

/-- Whether the node of this id has taken part in the run. -/
def isActive (scene : Scene) (id : String) : Bool :=
  if id ∈ scene.names then scene.activity.contains id
  else if id = NodeId.user then scene.status ≠ .created
  else if id ∈ [NodeId.hub, NodeId.distribute, NodeId.aggregate] then scene.anyAgentActive
  else false

/-- The agent that spoke last. -/
def latestAgent? (scene : Scene) : Option String :=
  scene.activity.latestAmong? scene.names

end Scene

/-- How a line looks. -/
inductive Stroke where
  /-- In the style of the topology's edges. -/
  | primary
  /-- Dashed. -/
  | secondary
  /-- Dashed, between two agents of equal standing. -/
  | peer
deriving DecidableEq

structure Spot where
  id : String
  kind : NodeKind
  label : String
  position : Position

structure Line where
  source : String
  target : String
  stroke : Stroke := .primary
  label : Option String := none
deriving DecidableEq

structure Plan where
  spots : List Spot
  lines : List Line
  /-- Where the end hangs when no agent ever spoke. -/
  anchor : String
  endPosition : Position

namespace Spot

def user (position : Position) : Spot := ⟨NodeId.user, .user, "User", position⟩

def agent (agent : Agent) (kind : NodeKind) (position : Position) : Spot :=
  ⟨agent.name, kind, agent.name, position⟩

def draw (scene : Scene) (spot : Spot) : Node where
  id := spot.id
  kind := spot.kind
  label := spot.label
  position := spot.position
  active := scene.isActive spot.id
  color := none

end Spot

/-- The weight of edges in use. -/
def activeWeight : Rat := 5 / 2

def idleWeight : Rat := 1

namespace Line

def id (line : Line) : String :=
  match line.stroke with
  | .primary | .secondary => line.source ++ "->" ++ line.target
  | .peer => line.source ++ "<->" ++ line.target

def dashed (style : EdgeStyle) (line : Line) : Bool :=
  match line.stroke with
  | .primary => style = .dashed
  | .secondary | .peer => true

def draw (scene : Scene) (line : Line) : Edge :=
  let animated := scene.isActive line.source && scene.isActive line.target
  { id := line.id
    source := line.source
    target := line.target
    animated
    dashed := line.dashed scene.visual.edgeStyle
    weight := if animated then activeWeight else idleWeight
    label := line.label }

end Line

def successColor : String := "#22c55e"
def failureColor : String := "#ef4444"

/-- The node that shows how a run ended. -/
def endNode (status : Run.Status) (position : Position) : Node where
  id := NodeId.finish
  kind := .finish
  label := if status.isSuccess then "Done" else "Failed"
  position
  active := true
  color := some (if status.isSuccess then successColor else failureColor)

/-- The edge into the end node. -/
def endEdge (source : String) : Edge where
  id := source ++ "->" ++ NodeId.finish
  source
  target := NodeId.finish
  animated := false
  dashed := false
  weight := activeWeight
  label := none

namespace Plan

/-- The diagram of a run that goes on. -/
def drawRunning (plan : Plan) (scene : Scene) : Diagram where
  nodes := plan.spots.map (Spot.draw scene)
  edges := plan.lines.map (Line.draw scene)

/-- Draw a plan. A run that is over has an end node behind the agent that spoke last. -/
def draw (plan : Plan) (scene : Scene) : Diagram :=
  let running := plan.drawRunning scene
  if scene.status.isTerminal then
    { nodes := running.nodes ++ [endNode scene.status plan.endPosition]
      edges := running.edges ++ [endEdge (scene.latestAgent?.getD plan.anchor)] }
  else running

end Plan

end AgentTeams.Diagram
