import AgentTeams.Team
import AgentTeams.Text.Basic

/-!
Handoff graphs: which agent may transfer control to which. Under peer handoff every agent's
instructions end in a note that names its targets.
-/
namespace AgentTeams

/-- A directed multigraph. Its nodes are agents, numbered in the order in which they were added. -/
structure HandoffGraph where
  /-- The agents' names, each once. -/
  agents : List String
  distinct : agents.Nodup
  /-- Transfers between numbers in the order in which they were added, repeats included. -/
  transfers : List (Fin agents.length × Fin agents.length)

namespace HandoffGraph

/-- The names seen so far, and one more if it is new. -/
def collect (seen : List String) (name : String) : List String :=
  if name ∈ seen then seen else seen ++ [name]

/-- Each name once, where it stands first. -/
def distinctNames (names : List String) : List String :=
  names.foldl collect []

theorem nodup_collect {seen : List String} (distinct : seen.Nodup) (name : String) :
    (collect seen name).Nodup := by
  unfold collect
  split
  · exact distinct
  · rename_i fresh
    refine List.nodup_append.mpr ⟨distinct, by simp, ?_⟩
    intro earlier known other single same
    exact fresh (List.mem_singleton.mp single ▸ same ▸ known)

theorem nodup_distinctNames (names : List String) : (distinctNames names).Nodup := by
  have collected (seen : List String) (distinct : seen.Nodup) :
      (names.foldl collect seen).Nodup := by
    induction names generalizing seen with
    | nil => exact distinct
    | cons name rest ih => exact ih _ (nodup_collect distinct name)
  exact collected [] List.nodup_nil

/-- Every agent may hand off to every other. -/
def complete (names : List String) : HandoffGraph where
  agents := distinctNames names
  distinct := nodup_distinctNames names
  transfers :=
    let numbers := List.finRange (distinctNames names).length
    numbers.flatMap fun source =>
      (numbers.filter (· ≠ source)).map fun target => (source, target)

/-- The transfers that the agents of a team declare, known targets or not. -/
def declared (team : Team) : List (String × String) :=
  team.agents.flatMap fun agent =>
    (agent.handoffTargets.getD []).map fun target => (agent.name, target)

/-- What declared transfers have come to so far: transfers between agents, and those to nobody. -/
structure Reading (agents : List String) where
  transfers : List (Fin agents.length × Fin agents.length) := []
  dangling : List (String × String) := []

def Reading.take {agents : List String} (reading : Reading agents)
    (transfer : String × String) : Reading agents :=
  match agents.finIdxOf? transfer.1, agents.finIdxOf? transfer.2 with
  | some source, some target =>
      { reading with transfers := reading.transfers ++ [(source, target)] }
  | _, _ => { reading with dangling := reading.dangling ++ [transfer] }

def read (team : Team) : Reading (distinctNames team.agentNames) :=
  (declared team).foldl Reading.take {}

/-- The graph that a team declares. Transfers whose targets are no agents are left out. -/
def ofTeam (team : Team) : HandoffGraph where
  agents := distinctNames team.agentNames
  distinct := nodup_distinctNames team.agentNames
  transfers := (read team).transfers

/-- The declared transfers whose targets are no agents. -/
def dangling (team : Team) : List (String × String) :=
  (read team).dangling

/-- Leave out what is equal to the element right before it. -/
def dropRepeats : List (Fin count) → List (Fin count)
  | first :: second :: rest =>
      if first = second then dropRepeats (second :: rest)
      else first :: dropRepeats (second :: rest)
  | short => short

variable (graph : HandoffGraph)

/-- The number of the agent with this name. -/
def number? (name : String) : Option (Fin graph.agents.length) :=
  graph.agents.finIdxOf? name

/-- Where the transfers of an agent lead, from the last one that was added to the first. -/
def successors (source : Fin graph.agents.length) : List (Fin graph.agents.length) :=
  (graph.transfers.reverse.filter (·.1 = source)).map (·.2)

/-- To whom an agent may hand off, in the order of the agents. -/
def targets (name : String) : List String :=
  match graph.number? name with
  | none => []
  | some source => (dropRepeats (graph.successors source).mergeSort).map (graph.agents[·])

/-- The agents that may hand off to themselves. -/
def selfLoops : List String :=
  graph.agents.filter fun name =>
    (graph.number? name).any fun number => (number, number) ∈ graph.transfers

/-- The transfers, by the names at their ends. -/
def namedTransfers : List (String × String) :=
  graph.transfers.map fun transfer => (graph.agents[transfer.1], graph.agents[transfer.2])

def dotName (name : String) : String :=
  "\"" ++ name ++ "\""

/-- The graph in DOT. -/
def toDot : String :=
  "digraph handoffs \x7b\n" ++
    String.join (graph.agents.map fun name =>
      "    " ++ dotName name ++ " [label=" ++ dotName name ++ "];\n") ++
    String.join (graph.namedTransfers.map fun (source, target) =>
      "    " ++ dotName source ++ " -> " ++ dotName target ++ ";\n") ++
    "\x7d\n"

end HandoffGraph

namespace HandoffNote

/-- The note for these targets. -/
def text (targets : List String) : String :=
  "Handoff targets: " ++ ", ".intercalate targets ++
    ". Transfer control to one of them when another agent is better suited to continue."

/-- A blank line sets the note apart. -/
def separator : String := "\n\n"

/-- Write the note for these targets under a text. -/
def append (targets : List String) (base : String) : String :=
  if targets.isEmpty then base
  else if base.isEmpty then text targets
  else base ++ separator ++ text targets

/-- Take the note for exactly these targets off a text. -/
def strip (targets : List String) (instructions : String) : String :=
  if targets.isEmpty then instructions
  else if instructions = text targets then ""
  else ((Text.stripEnding? (text targets) instructions).bind
    (Text.stripEnding? separator)).getD instructions

end HandoffNote

namespace Agent

/-- The agent without the note for its targets. -/
def withoutNote (agent : Agent) : Agent :=
  match agent.handoffTargets with
  | some targets => { agent with instructions := HandoffNote.strip targets agent.instructions }
  | none => agent

/-- The agent with targets and the note for them. -/
def handingOff (agent : Agent) (targets : List String) : Agent :=
  { agent with
    instructions := HandoffNote.append targets agent.instructions
    handoffTargets := some targets }

end Agent

end AgentTeams
