import AgentTeams.Bundled
import AgentTeams.Text.Basic

/-!
Coordination prompts: what a model that selects speakers is told. A template has places for the
list of agents and for their names; all other places are left to the runtime.
-/
namespace AgentTeams.Prompt

def listPlace : String := "{agent_list}"
def namesPlace : String := "{agent_names}"

def debateTemplate : String :=
"You are the moderator of a structured debate. Choose who speaks next.

Participants:
{agent_list}

Debate rules:
1. Never select the same agent twice in a row. The previous speaker must not speak again immediately.
2. Rotate through all agents so that every participant speaks before anyone speaks a third time.
3. Let the arguing sides exchange at least two rounds before the deciding participant gives the verdict.
4. Once a verdict has been given, select no further arguments.

Conversation so far:
{history}

Reply with exactly one name from this list and nothing else: {agent_names}"

def genericTemplate : String :=
"You coordinate a team of specialized agents. Choose who speaks next.

Available agents:
{agent_list}

Read the conversation and select the agent whose description best matches what the conversation " ++
"needs next.

Conversation so far:
{history}

Reply with exactly one name from this list and nothing else: {agent_names}"

/-- The entry of an agent in the list. -/
def listEntry (agent : Agent) : String :=
  if agent.description.isEmpty then "- " ++ agent.name
  else "- " ++ agent.name ++ ": " ++ agent.description

def agentList (agents : List Agent) : String :=
  "\n".intercalate (agents.map listEntry)

def agentNames (agents : List Agent) : String :=
  ", ".intercalate (agents.map (·.name))

/-- Fill a template: first the list, then the names. -/
def fill (template : String) (agents : List Agent) : String :=
  Text.replace namesPlace (agentNames agents) (Text.replace listPlace (agentList agents) template)

/-- The template that goes with a bundled id. -/
def templateOfId (id : String) : String :=
  if id = TopologyId.debate then debateTemplate else genericTemplate

def ofId (id : String) (agents : List Agent) : String :=
  fill (templateOfId id) agents

end AgentTeams.Prompt

namespace AgentTeams.Topology

/-- The template of a topology: its own, else the rules of debate if it is one. -/
def promptTemplate (topology : Topology) : String :=
  match topology.coordinationPromptTemplate with
  | some template => template
  | none => if topology.isDebate then Prompt.debateTemplate else Prompt.genericTemplate

/-- The coordination prompt of a team of this topology. -/
def prompt (topology : Topology) (agents : List Agent) : String :=
  Prompt.fill topology.promptTemplate agents

end AgentTeams.Topology
