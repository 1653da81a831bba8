import AgentTeams.Journal
import AgentTeams.NodeId
import AgentTeams.Run.Activity
import AgentTeams.Run.Event

/-!
Runs: what the events of a run add up to. An event after the end changes nothing.
-/
namespace AgentTeams

structure Run where
  status : Run.Status := .created
  activity : Activity := Activity.empty
  error : Option String := none

namespace Run

def start : Run := {}

instance : Inhabited Run := ⟨start⟩

/-- What an event does to a run that has not ended. The user's own messages are no activity. -/
def step (run : Run) : Event → Run
  | .started => { run with status := .active }
  | .message source =>
      { run with
        status := .active
        activity := if source = NodeId.user then run.activity else run.activity.record source }
  | .awaitingInput => { run with status := .awaitingInput }
  | .completed => { run with status := .complete }
  | .failed error => { run with status := .error, error := some error }
  | .stopped => { run with status := .stopped }
  | .timedOut => { run with status := .timeout }

def apply (run : Run) (event : Event) : Run :=
  if run.status.isTerminal then run else run.step event

def extend (run : Run) (events : List Event) : Run :=
  events.foldl apply run

def applyJournal (run : Run) (event : Event) : Journal :=
  if run.status.isTerminal then
    [⟨.debug, "| run | Ignoring " ++ event.describe ++ " after the run ended as " ++
      run.status.name⟩]
  else
    match event with
    | .failed error => [⟨.error, "| run | Run failed: " ++ error⟩]
    | _ => []

def extendJournal (run : Run) : List Event → Journal
  | [] => []
  | event :: rest => run.applyJournal event ++ (run.apply event).extendJournal rest

def toJson (run : Run) : Json :=
  .obj [("status", .str run.status.name), ("activity", run.activity.toJson),
    ("error", .ofOption run.error .str)]

end Run

end AgentTeams
