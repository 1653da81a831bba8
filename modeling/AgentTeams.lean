import AgentTeams.Amendment
import AgentTeams.Decimal.Fixed
import AgentTeams.Engine
import AgentTeams.Schema
import AgentTeams.Text.Padding
import AgentTeams.Proofs.Sorted
import AgentTeams.Proofs.Json.Record
import AgentTeams.Proofs.Json.Canonical
import AgentTeams.Proofs.Json.Storing
import AgentTeams.Proofs.Text.Replace
import AgentTeams.Proofs.Handoff.Declarations
import AgentTeams.Proofs.Handoff.Note
import AgentTeams.Proofs.Handoff.Complete
import AgentTeams.Proofs.Handoff.Dot
import AgentTeams.Proofs.Names
import AgentTeams.Proofs.Topology
import AgentTeams.Proofs.Registry.Loading
import AgentTeams.Proofs.Registry.Contents
import AgentTeams.Proofs.Validation
import AgentTeams.Proofs.Prompt
import AgentTeams.Proofs.Prompt.Places
import AgentTeams.Proofs.TerminationRule
import AgentTeams.Proofs.Compiler.Answers
import AgentTeams.Proofs.Compiler.Soundness
import AgentTeams.Proofs.Compiler.Stability
import AgentTeams.Proofs.Compiler.Steering
import AgentTeams.Proofs.Compiler.Switching
import AgentTeams.Proofs.Compiler.Agents
import AgentTeams.Proofs.Compiler.Editing
import AgentTeams.Proofs.Compiler.Warnings
import AgentTeams.Proofs.Compiler.Refusal
import AgentTeams.Proofs.Compiler.Rebuilding
import AgentTeams.Proofs.Compiler.Defaults
import AgentTeams.Proofs.Inference
import AgentTeams.Proofs.Team
import AgentTeams.Proofs.Engine.Transparency
import AgentTeams.Proofs.Run.Progress
import AgentTeams.Proofs.Run.Outcome
import AgentTeams.Proofs.Diagram.Joins
import AgentTeams.Proofs.Diagram.Graph
import AgentTeams.Proofs.Diagram.EdgeId
import AgentTeams.Proofs.Diagram.Scenes
import AgentTeams.Proofs.Diagram.Growth
import AgentTeams.Proofs.Diagram.Speaker
import AgentTeams.Proofs.Diagram.Outlook
import AgentTeams.Proofs.Diagram.Appearance
import AgentTeams.Proofs.Compiler.SelectorModel
import AgentTeams.Proofs.Diagram.Stages
import AgentTeams.Proofs.Diagram.Emphasis
import AgentTeams.Proofs.Diagram.Relations
import AgentTeams.Proofs.Roster
import AgentTeams.Proofs.Text.Words
import AgentTeams.Proofs.Wording
import AgentTeams.Proofs.TerminationRule.Joining
import AgentTeams.Proofs.Options
import AgentTeams.Proofs.Engine.Fallback
import AgentTeams.Proofs.Text.Bytes
import AgentTeams.Proofs.Traversal
import AgentTeams.Proofs.Registry.Directory
