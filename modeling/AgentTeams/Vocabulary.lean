import AgentTeams.Agent
import AgentTeams.Text.Words

/-!
What agents say about their parts in a team. An agent plays a part if a word of its name or of its
description is in the vocabulary of that part.
-/
namespace AgentTeams

/-- The words by which a part is known. -/
abbrev Vocabulary := List String

namespace Vocabulary

def adjudicator : Vocabulary := ["judge", "moderator", "arbiter", "referee"]

def arguer : Vocabulary :=
  ["advocate", "proponent", "opponent", "critic", "debater", "affirmative", "negative"]

def producer : Vocabulary :=
  ["generator", "writer", "creator", "drafter", "author", "producer", "coder"]

def reviewer : Vocabulary := ["critic", "reviewer", "evaluator", "reflector", "checker"]

def router : Vocabulary := ["triage", "router", "routing", "dispatcher", "receptionist"]

end Vocabulary

namespace Agent

/-- The words of the name, then those of the description. -/
def words (agent : Agent) : List String :=
  Text.words agent.name ++ Text.words agent.description

def plays (agent : Agent) (part : Vocabulary) : Bool :=
  agent.words.any (· ∈ part)

end Agent

/-- An adjudicator, and another agent that argues. -/
def isDebate (agents : List Agent) : Bool :=
  agents.zipIdx.any fun (adjudicator, i) =>
    adjudicator.plays .adjudicator &&
      agents.zipIdx.any fun (arguer, j) => i != j && arguer.plays .arguer

/-- Exactly two agents, of which one produces and the other reviews. -/
def isReflection : List Agent → Bool
  | [first, second] =>
      (first.plays .producer && second.plays .reviewer) ||
        (second.plays .producer && first.plays .reviewer)
  | _ => false

end AgentTeams
