import AgentTeams.Registry

/-!
The topologies that come with the library.
-/
namespace AgentTeams

namespace TopologyId

def sequential : String := "sequential"
def reflection : String := "reflection"
def selector : String := "selector"
def debate : String := "debate"
def handoff : String := "handoff"
def hierarchical : String := "hierarchical"
def parallel : String := "parallel"
def roundTable : String := "round_table"
/-- What is inferred for a document that is not a team; no topology has this id. -/
def custom : String := "custom"

end TopologyId

namespace Bundled

def sequential : TopologyDocument where
  id := TopologyId.sequential
  name := "Sequential Pipeline"
  description :=
    "Researcher, writer and reviewer work in a fixed order, each building on the previous output."
  driverKind := "fixed_order"
  exampleAgents := [
    { name := "researcher"
      description := "Research lead: gathers and organizes information"
      instructions :=
        "You are a researcher. Investigate the given topic and collect the key facts, then " ++
          "pass them on." },
    { name := "writer"
      description := "Writer: turns research into a draft"
      instructions :=
        "You are a writer. Write a clear draft based on the researcher's findings and hand " ++
          "it to the reviewer." },
    { name := "reviewer"
      description := "Reviewer: checks the draft and gives feedback"
      instructions :=
        "You are a reviewer. Review the draft and give concrete feedback. When the result " ++
          "is final, say TERMINATE." }]

def reflection : TopologyDocument where
  id := TopologyId.reflection
  name := "Reflection Loop"
  description :=
    "A generator and a critic iterate until the critic approves the result."
  driverKind := "fixed_order"
  exampleAgents := [
    { name := "generator"
      description := "Content generator"
      instructions :=
        "You are a content generator. Complete the task. When you receive critique, " ++
          "produce an improved version that addresses it." },
    { name := "critic"
      description := "Quality reviewer giving feedback"
      instructions :=
        "You are a quality reviewer. Review the generated result and suggest specific " ++
          "improvements. If it is good enough, say APPROVED." }]
  visualOverride := some {
    colors := some ⟨"#ec4899", "#fce7f3"⟩
    icon := some "refresh-cw"
    bidirectional := some true }
  requiredConfig := some {
    termination := some (.any [.textMention "APPROVED", .textMention "TERMINATE", .maxMessages 6]) }

def selector : TopologyDocument where
  id := TopologyId.selector
  name := "Expert Selector"
  description :=
    "A selector model routes every turn to the expert best suited to the conversation."
  driverKind := "centralized_selection"
  exampleAgents := [
    { name := "coordinator"
      description := "Handles general questions and coordination"
      instructions :=
        "You are the coordinator. Handle general questions that no other expert covers." },
    { name := "history_expert"
      description := "Expert for history questions"
      instructions :=
        "You are a history expert. Answer history questions in detail." },
    { name := "science_expert"
      description := "Expert for science questions"
      instructions :=
        "You are a science expert. Answer science questions in detail." },
    { name := "math_expert"
      description := "Expert for solving math problems"
      instructions :=
        "You are a math expert. Solve and explain math problems. When you are done, say " ++
          "TERMINATE." }]

def debate : TopologyDocument where
  id := TopologyId.debate
  name := "Debate"
  description :=
    "An advocate and a critic argue a proposal and a judge delivers a balanced verdict."
  driverKind := "centralized_selection"
  exampleAgents := [
    { name := "advocate"
      description := "Supports the proposal and highlights its strengths"
      instructions :=
        "You support the proposal. Emphasize its benefits and opportunities and rebut " ++
          "objections logically." },
    { name := "critic"
      description := "Critical analysis and risk assessment"
      instructions :=
        "You are the critic. Point out weaknesses, risks and potential problems, and " ++
          "challenge the advocate's claims." },
    { name := "judge"
      description := "Neutral judge who makes the final decision"
      instructions :=
        "You are a neutral judge. Weigh both sides fairly and deliver a balanced final " ++
          "verdict, then say TERMINATE." }]
  visualOverride := some {
    colors := some ⟨"#ef4444", "#fee2e2"⟩
    icon := some "scale" }
  requiredConfig := some {
    allowRepeatedSpeaker := some false
    termination := some (.any [.textMention "TERMINATE", .maxMessages 8]) }

def handoff : TopologyDocument where
  id := TopologyId.handoff
  name := "Handoff Mesh"
  description :=
    "A triage agent classifies requests and peers transfer control directly to each other."
  driverKind := "peer_handoff"
  exampleAgents := [
    { name := "triage_agent"
      description := "Classifies customer requests and routes them"
      instructions :=
        "You triage customer service requests. Analyze the request and transfer it to the " ++
          "right specialist." },
    { name := "support_agent"
      description := "Technical support"
      instructions :=
        "You handle technical support. Solve the technical problem, then say TERMINATE." },
    { name := "sales_agent"
      description := "Sales and product questions"
      instructions :=
        "You handle sales. Help with product questions and purchases, then say TERMINATE." },
    { name := "refund_agent"
      description := "Refunds and returns"
      instructions :=
        "You handle refunds and returns. Process the request, then say TERMINATE." }]
  requiredConfig := some {
    termination := some (.any [.textMention "TERMINATE", .maxMessages 15]) }

def hierarchical : TopologyDocument where
  id := TopologyId.hierarchical
  name := "Supervisor Tree"
  description :=
    "A supervisor breaks the task down and delegates the parts to workers."
  driverKind := "hierarchical"
  exampleAgents := [
    { name := "supervisor"
      description := "Plans the work and delegates to workers"
      instructions :=
        "You are the supervisor. Split the task into parts, delegate them, and combine the " ++
          "results. Say TERMINATE when done." },
    { name := "frontend_worker"
      description := "Implements user-facing parts"
      instructions :=
        "You implement the user interface parts assigned by the supervisor and report back." },
    { name := "backend_worker"
      description := "Implements server-side parts"
      instructions :=
        "You implement the server-side parts assigned by the supervisor and report back." }]

def parallel : TopologyDocument where
  id := TopologyId.parallel
  name := "Parallel Analysis"
  description :=
    "The task is distributed to independent analysts whose results are aggregated."
  driverKind := "hierarchical"
  exampleAgents := [
    { name := "market_analyst"
      description := "Analyzes market conditions"
      instructions :=
        "You analyze the market side of the task independently and report your findings." },
    { name := "tech_analyst"
      description := "Analyzes technical feasibility"
      instructions :=
        "You analyze the technical side of the task independently and report your findings." },
    { name := "risk_analyst"
      description := "Analyzes risks"
      instructions :=
        "You analyze the risks of the task independently and report your findings." }]
  visualOverride := some {
    layout := some .forkJoin
    colors := some ⟨"#06b6d4", "#cffafe"⟩
    icon := some "git-merge"
    bidirectional := some false }

def roundTable : TopologyDocument where
  id := TopologyId.roundTable
  name := "Round Table"
  description :=
    "Participants take turns around the table and everyone hears every contribution."
  driverKind := "fixed_order"
  exampleAgents := [
    { name := "visionary"
      description := "Proposes bold ideas"
      instructions :=
        "You propose bold, original ideas and build on what others said." },
    { name := "pragmatist"
      description := "Grounds ideas in practice"
      instructions :=
        "You evaluate ideas for practicality and suggest concrete next steps." },
    { name := "skeptic"
      description := "Questions assumptions"
      instructions :=
        "You question assumptions and point out what could go wrong." },
    { name := "facilitator"
      description := "Summarizes the discussion"
      instructions :=
        "You summarize the round and say TERMINATE once the group has converged." }]
  visualOverride := some {
    layout := some .ring
    colors := some ⟨"#84cc16", "#ecfccb"⟩
    icon := some "users"
    edgeStyle := some .dashed
    crossConnections := some true }

/-- The documents with the names of their sources. -/
def documents : List (String × TopologyDocument) :=
  [sequential, reflection, selector, debate, handoff, hierarchical, parallel, roundTable].map
    (fun document => (document.id ++ ".json", document))

end Bundled

/-- The registry of the topologies that come with the library. -/
def Registry.bundled : Except LoadError Registry :=
  Registry.ofDocuments Bundled.documents

end AgentTeams
