import AgentTeams.NodeId

/-!
Diagrams: a team drawn as a graph in the plane. Nodes carry the names of agents or ids of their own.
-/
namespace AgentTeams

/-- A point of the plane; `y` grows downwards. -/
structure Position where
  x : Float
  y : Float

/-- The point at a distance from another, under an angle in radians that is 0 to the right. -/
def Position.polar (center : Position) (radius angle : Float) : Position :=
  ⟨center.x + radius * angle.cos, center.y + radius * angle.sin⟩

namespace Diagram

inductive NodeKind where
  | user
  | agent
  /-- The agent that routes a mesh. -/
  | router
  /-- The agent at the top of a tree. -/
  | supervisor
  /-- The selector in the middle of a hub. -/
  | hub
  | distribute
  | aggregate
  | finish
deriving DecidableEq

def NodeKind.name : NodeKind → String
  | user => "user"
  | agent => "agent"
  | router => "router"
  | supervisor => "supervisor"
  | hub => "hub"
  | distribute => "distribute"
  | aggregate => "aggregate"
  | finish => "end"

structure Node where
  id : String
  kind : NodeKind
  label : String
  position : Position
  active : Bool
  /-- Only the end node has one. -/
  color : Option String

structure Edge where
  id : String
  source : String
  target : String
  /-- Both ends took part in the run. -/
  animated : Bool
  dashed : Bool
  weight : Rat
  label : Option String
deriving DecidableEq

end Diagram

structure Diagram where
  nodes : List Diagram.Node
  edges : List Diagram.Edge

namespace Diagram

/-- The place of the first node with this id. -/
def nodeIndex? (diagram : Diagram) (id : String) : Option Nat :=
  diagram.nodes.findIdx? (fun node => node.id == id)

/-- The place of the first edge between these nodes. -/
def edgeIndex? (diagram : Diagram) (source target : String) : Option Nat :=
  diagram.edges.findIdx? (fun edge => edge.source == source && edge.target == target)

end Diagram

end AgentTeams
