import AgentTeams.Json.Document
import AgentTeams.Text.Quoted

/-!
What a runtime reports while a team runs, and the states in which a run can be.
-/
namespace AgentTeams.Run

inductive Status where
  | created
  | active
  | awaitingInput
  | complete
  | error
  | stopped
  | timeout
deriving DecidableEq

namespace Status

def all : List Status := [created, active, awaitingInput, complete, error, stopped, timeout]

def name : Status → String
  | created => "created"
  | active => "active"
  | awaitingInput => "awaiting_input"
  | complete => "complete"
  | error => "error"
  | stopped => "stopped"
  | timeout => "timeout"

/-- Nothing happens after this. -/
def isTerminal : Status → Bool
  | complete | error | stopped | timeout => true
  | created | active | awaitingInput => false

def isSuccess (status : Status) : Bool := status = complete

def decoder : Json.Decoder Status :=
  Json.Decoder.choice (all.map (fun status => (status.name, status)))

instance : Json.Document Status := ⟨fun status => .str status.name, decoder⟩

end Status

inductive Event where
  | started
  | message (source : String)
  | awaitingInput
  | completed
  | failed (error : String)
  | stopped
  | timedOut
deriving DecidableEq

namespace Event

def toJson : Event → Json
  | started => .obj [("type", .str "runStarted")]
  | message source => .obj [("type", .str "message"), ("source", .str source)]
  | awaitingInput => .obj [("type", .str "awaitingInput")]
  | completed => .obj [("type", .str "runCompleted")]
  | failed error => .obj [("type", .str "runFailed"), ("error", .str error)]
  | stopped => .obj [("type", .str "runStopped")]
  | timedOut => .obj [("type", .str "runTimedOut")]

/-- The kinds of events: those that are known by their tag alone, and the two with a text. -/
inductive Kind where
  | plain (event : Event)
  | message
  | failed

def alternatives : List (String × Kind) := [
  ("runStarted", .plain started), ("message", .message), ("awaitingInput", .plain awaitingInput),
  ("runCompleted", .plain completed), ("runFailed", .failed), ("runStopped", .plain stopped),
  ("runTimedOut", .plain timedOut)]

open Json in
def decoder : Decoder Event := fun tree => do
  let (kind, fields) ← Tagged.split false alternatives tree
  match kind with
  | .plain event => (Tagged.noFields fields).map fun _ => event
  | .message => return message (← (Record.required "source" Decoder.string).decode fields)
  | .failed => return failed (← (Record.required "error" Decoder.string).decode fields)

instance : Json.Document Event := ⟨toJson, decoder⟩

/-- An event in the journal. -/
def describe : Event → String
  | started => "RunStarted"
  | message source => "Message \x7b source: " ++ Text.quoted source ++ " \x7d"
  | awaitingInput => "AwaitingInput"
  | completed => "RunCompleted"
  | failed error => "RunFailed \x7b error: " ++ Text.quoted error ++ " \x7d"
  | stopped => "RunStopped"
  | timedOut => "RunTimedOut"

end Event

end AgentTeams.Run
