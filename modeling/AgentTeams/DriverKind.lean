import AgentTeams.Json.Document

/-!
Driver kinds: the turn-taking mechanisms that decide which agent speaks next.
-/
namespace AgentTeams

inductive DriverKind where
  /-- Agents speak in list order, round after round. -/
  | fixedOrder
  /-- A model picks the next speaker every turn. -/
  | centralizedSelection
  /-- The speaker transfers control to a peer. -/
  | peerHandoff
  /-- The first agent supervises and delegates to the rest. -/
  | hierarchical
deriving DecidableEq

namespace DriverKind

def all : List DriverKind :=
  [fixedOrder, centralizedSelection, peerHandoff, hierarchical]

def name : DriverKind → String
  | fixedOrder => "fixed_order"
  | centralizedSelection => "centralized_selection"
  | peerHandoff => "peer_handoff"
  | hierarchical => "hierarchical"

def ofName? (name : String) : Option DriverKind :=
  all.find? (fun kind => kind.name == name)

/-- No driver kind has this name. -/
structure UnknownName where
  name : String
deriving DecidableEq

def UnknownName.message (error : UnknownName) : String :=
  "Unknown driver kind: " ++ error.name

def parse (name : String) : Except UnknownName DriverKind :=
  match ofName? name with
  | some kind => .ok kind
  | none => .error ⟨name⟩

theorem ofName?_name (kind : DriverKind) : ofName? kind.name = some kind := by
  cases kind <;> decide

def decoder : Json.Decoder DriverKind :=
  Json.Decoder.choice (all.map (fun kind => (kind.name, kind)))

instance : Json.Document DriverKind := ⟨fun kind => .str kind.name, decoder⟩

end DriverKind

end AgentTeams
