import AgentTeams.Proofs.Compiler.Steering
import AgentTeams.Proofs.Text.Braces

/-! Coordination prompts: when the list of the agents stands in a prompt as it is. The names are
filled in after the list, so a text of an agent must not be taken for their place. -/
namespace AgentTeams

open Text (Contains replaceAfter)

namespace Prompt

variable {agents : List Agent} {agent : Agent} {before after : String}

theorem toList_listEntry (agent : Agent) : (listEntry agent).toList =
    ('-' :: ' ' :: agent.name.toList) ++
      if agent.description = "" then [] else ':' :: ' ' :: agent.description.toList := by
  have dash : "- ".toList = ['-', ' '] := rfl
  have colon : ": ".toList = [':', ' '] := rfl
  by_cases empty : agent.description = ""
  · simp [listEntry, empty, dash]
  · simp [listEntry, empty, dash, colon]

/-- Every list of agents begins with a dash. -/
theorem toList_agentList_cons (agent : Agent) (rest : List Agent) :
    ∃ others, (agentList (agent :: rest)).toList = '-' :: others := by
  cases rest with
  | nil => exact ⟨_, by simp [agentList, toList_listEntry]; rfl⟩
  | cons next rest => exact ⟨_, by simp [agentList, toList_listEntry]; rfl⟩

theorem listEntry_contains_names_iff : Contains (listEntry agent) namesPlace ↔
    Contains agent.name namesPlace ∨ Contains agent.description namesPlace := by
  have filled : namesPlace.toList ≠ [] := by decide
  have dash : '-' ∉ namesPlace.toList := by decide
  have blank : ' ' ∉ namesPlace.toList := by decide
  have colon : ':' ∉ namesPlace.toList := by decide
  have nowhere : ¬ namesPlace.toList <:+: [] := by decide
  simp only [Text.contains_iff_infix, toList_listEntry]
  by_cases empty : agent.description = ""
  · simp [empty, nowhere, Text.infix_cons_iff_of_not_mem dash filled,
      Text.infix_cons_iff_of_not_mem blank filled]
  · rw [if_neg empty, Text.infix_append_cons_iff colon, Text.infix_cons_iff_of_not_mem dash filled,
      Text.infix_cons_iff_of_not_mem blank filled, Text.infix_cons_iff_of_not_mem blank filled]

theorem agentList_contains_names_iff : Contains (agentList agents) namesPlace ↔
    ∃ agent ∈ agents, Contains agent.name namesPlace ∨ Contains agent.description namesPlace := by
  have line : '\n' ∉ namesPlace.toList := by decide
  induction agents with
  | nil => simp [agentList, Text.contains_iff_infix]; decide
  | cons agent rest ih =>
    cases rest with
    | nil => simp [agentList, listEntry_contains_names_iff]
    | cons next rest =>
      have cut : (agentList (agent :: next :: rest)).toList =
          (listEntry agent).toList ++ '\n' :: (agentList (next :: rest)).toList := by
        simp [agentList]
      have parts : Contains (agentList (agent :: next :: rest)) namesPlace ↔
          Contains (listEntry agent) namesPlace ∨
            Contains (agentList (next :: rest)) namesPlace := by
        simp only [Text.contains_iff_infix, cut, Text.infix_append_cons_iff line]
      rw [parts, listEntry_contains_names_iff]
      simp only [ih, List.mem_cons, exists_eq_or_imp]

/-- The texts of the agents leave their list as it is where this part of a template follows it. None
of them has the place for the names in it, and the end of the list does not become that place with
what follows. -/
structure Undisturbed (agents : List Agent) (after : String) : Prop where
  name : ∀ agent ∈ agents, ¬ Contains agent.name namesPlace
  description : ∀ agent ∈ agents, ¬ Contains agent.description namesPlace
  ending : ∀ opening closing front rest, namesPlace = opening ++ closing → opening ≠ "" →
    closing ≠ "" → agentList agents = front ++ opening → after ≠ closing ++ rest

theorem toList_fill (template : String) (agents : List Agent) : (fill template agents).toList =
    replaceAfter namesPlace.toList (agentNames agents).toList 0
      (replaceAfter listPlace.toList (agentList agents).toList 0 template.toList) := by
  simp [fill, Text.replace]

theorem braced_listPlace : Text.Braced listPlace.toList :=
  ⟨"agent_list".toList, rfl, by decide, by decide⟩

theorem braced_namesPlace : Text.Braced namesPlace.toList :=
  ⟨"agent_names".toList, rfl, by decide, by decide⟩

theorem replaceAfter_listPlace (list before after : List Char) :
    replaceAfter listPlace.toList list 0 (before ++ (listPlace.toList ++ after)) =
      replaceAfter listPlace.toList list 0 before ++
        (list ++ replaceAfter listPlace.toList list 0 after) := by
  have uncrossed : Text.Uncrossed listPlace.toList before (listPlace.toList ++ after) :=
    braced_listPlace.uncrossed_before braced_listPlace
  rw [Text.replaceAfter_append uncrossed (Nat.zero_le _),
    Text.replaceAfter_pattern_append (by decide)]

/-- The place for the names does not stand across the end of an undisturbed list. -/
theorem Undisturbed.uncrossed (undisturbed : Undisturbed agents after) (given : agents ≠ []) :
    Text.Uncrossed namesPlace.toList (agentList agents).toList
      (replaceAfter listPlace.toList (agentList agents).toList 0 after.toList) := by
  obtain ⟨agent, rest, rfl⟩ := List.exists_cons_of_ne_nil given
  obtain ⟨others, dash⟩ := toList_agentList_cons agent rest
  intro opening closing split nonempty nonempty' ⟨front, ending⟩ beginning
  have absent : '-' ∉ closing := by
    intro member
    have placed : '-' ∈ namesPlace.toList := by simp [split, member]
    exact absurd placed (by decide)
  rw [dash] at beginning
  obtain ⟨rest, follows⟩ := Text.prefix_of_prefix_replaceAfter absent beginning
  refine undisturbed.ending (String.ofList opening) (String.ofList closing) (String.ofList front)
    (String.ofList rest) ?_ ?_ ?_ ?_ ?_
  · simp [← String.toList_inj, split]
  · simpa [← String.toList_inj] using nonempty
  · simpa [← String.toList_inj] using nonempty'
  · simp [← String.toList_inj, ending]
  · simp [← String.toList_inj, follows]

/-- An undisturbed list stands in a prompt between what its surroundings are filled to. -/
theorem fill_around_list (undisturbed : Undisturbed agents after) (given : agents ≠ [])
    (before : String) : fill (before ++ listPlace ++ after) agents =
      fill before agents ++ agentList agents ++ fill after agents := by
  have uncrossed := undisturbed.uncrossed given
  have absent : ¬ namesPlace.toList <:+: (agentList agents).toList := by
    rw [← Text.contains_iff_infix, agentList_contains_names_iff]
    rintro ⟨agent, member, inName | inDescription⟩
    · exact undisturbed.name agent member inName
    · exact undisturbed.description agent member inDescription
  obtain ⟨agent, rest, rfl⟩ := List.exists_cons_of_ne_nil given
  obtain ⟨others, dash⟩ := toList_agentList_cons agent rest
  -- The place for the names has no dash, and the list begins with one.
  have entered : ∀ front back, Text.Uncrossed namesPlace.toList front
      ((agentList (agent :: rest)).toList ++ back) := by
    intro front back
    rw [dash]
    exact Text.uncrossed_of_head (by decide)
  rw [← String.toList_inj]
  simp only [toList_fill, String.toList_append, List.append_assoc, replaceAfter_listPlace]
  rw [Text.replaceAfter_append (entered _ _) (Nat.zero_le _),
    Text.replaceAfter_append uncrossed (Nat.zero_le _), Text.replaceAfter_of_absent absent]

theorem fill_contains_list (undisturbed : Undisturbed agents after) (before : String) :
    Contains (fill (before ++ listPlace ++ after) agents) (agentList agents) := by
  by_cases given : agents = []
  · subst given
    exact ⟨"", fill (before ++ listPlace ++ after) [], by simp [agentList]⟩
  · exact ⟨fill before agents, fill after agents, fill_around_list undisturbed given before⟩

/-- A template has a place for the list where the texts of the agents leave it as it is. -/
def Clear (template : String) (agents : List Agent) : Prop :=
  ∃ before after, template = before ++ listPlace ++ after ∧ Undisturbed agents after

/-- The templates that come with the library. -/
def builtIn : List String := [debateTemplate, genericTemplate]

set_option maxRecDepth 4000 in
theorem debateTemplate_line : Contains debateTemplate (listPlace ++ "\n") := by
  -- A text is compared as its characters; reading them out of the text itself takes too long.
  obtain ⟨chars, same, found⟩ : ∃ chars, debateTemplate = String.ofList chars ∧
      listPlace.toList ++ ['\n'] <:+: chars := ⟨_, rfl, by decide +kernel⟩
  rw [Text.contains_iff_infix, same]
  simpa using found

set_option maxRecDepth 4000 in
theorem genericTemplate_line : Contains genericTemplate (listPlace ++ "\n") := by
  obtain ⟨chars, rest, same, found⟩ : ∃ chars rest, genericTemplate = String.ofList chars ++ rest ∧
      listPlace.toList ++ ['\n'] <:+: chars := ⟨_, _, rfl, by decide +kernel⟩
  have whole := found.trans (List.prefix_append chars rest.toList).isInfix
  rw [Text.contains_iff_infix, same]
  simpa using whole

theorem builtIn_line {template : String} (member : template ∈ builtIn) :
    ∃ before rest, template = before ++ listPlace ++ ("\n" ++ rest) := by
  have placed : Contains template (listPlace ++ "\n") := by
    simp only [builtIn, List.mem_cons, List.not_mem_nil, or_false] at member
    rcases member with rfl | rfl
    · exact debateTemplate_line
    · exact genericTemplate_line
  obtain ⟨before, rest, same⟩ := placed
  exact ⟨before, rest, by simp only [same, String.append_assoc]⟩

/-- In front of a new line the list cannot become anything else at its end. -/
theorem undisturbed_of_line (name : ∀ agent ∈ agents, ¬ Contains agent.name namesPlace)
    (description : ∀ agent ∈ agents, ¬ Contains agent.description namesPlace) (rest : String) :
    Undisturbed agents ("\n" ++ rest) := by
  refine ⟨name, description, ?_⟩
  intro opening closing _ others split _ nonempty _ follows
  have line : '\n' ∉ namesPlace.toList := by decide
  have start : "\n".toList = ['\n'] := rfl
  obtain ⟨first, closing', chars⟩ :=
    List.exists_cons_of_ne_nil (mt String.toList_eq_nil_iff.mp nonempty)
  rw [← String.toList_inj] at follows split
  simp only [String.toList_append, start, chars, List.cons_append, List.nil_append,
    List.cons.injEq] at follows split
  exact line (by simp [split, ← follows.1])

theorem clear_of_builtIn {template : String} (member : template ∈ builtIn)
    (name : ∀ agent ∈ agents, ¬ Contains agent.name namesPlace)
    (description : ∀ agent ∈ agents, ¬ Contains agent.description namesPlace) :
    Clear template agents := by
  obtain ⟨before, rest, rfl⟩ := builtIn_line member
  exact ⟨before, "\n" ++ rest, rfl, undisturbed_of_line name description rest⟩

theorem fill_contains_of_clear {template : String} (clear : Clear template agents) :
    Contains (fill template agents) (agentList agents) := by
  obtain ⟨before, after, rfl, undisturbed⟩ := clear
  exact fill_contains_list undisturbed before

end Prompt

theorem Topology.promptTemplate_builtIn {topology : Topology}
    (own : topology.coordinationPromptTemplate = none) :
    topology.promptTemplate ∈ Prompt.builtIn := by
  simp only [promptTemplate, own, Prompt.builtIn]
  split <;> simp

/-- A prompt lists the agents as they are, and a selector is told exactly what its agents carry, as
long as their texts leave the list in its template alone. For a template that comes with the library
they do if none of them has the place for the names in it. -/
theorem Prompt.lists_agents {template : String} {agents : List Agent}
    (clear : Clear template agents ∨ template ∈ builtIn ∧ ∀ agent ∈ agents,
      ¬ Contains agent.name namesPlace ∧ ¬ Contains agent.description namesPlace) :
    Contains (fill template agents) (agentList agents) ∧
    ∀ (compiler : Compiler) id request compilation topology,
      compiler.answer id request = .ok compilation → compiler.registry.find? id = some topology →
      topology.driverKind = .centralizedSelection → topology.promptTemplate = template →
      compilation.team.agents = agents →
      ∃ prompt, compilation.team.coordinationPrompt = some prompt ∧
        Contains prompt (agentList agents) := by
  have filled : Contains (fill template agents) (agentList agents) := by
    rcases clear with clear | ⟨member, texts⟩
    · exact fill_contains_of_clear clear
    · exact fill_contains_of_clear (clear_of_builtIn member
        (fun agent present => (texts agent present).1) fun agent present => (texts agent present).2)
  refine ⟨filled, ?_⟩
  rintro compiler id request compilation topology answered found selected rfl rfl
  obtain ⟨other, known, steered, _⟩ := Compiler.answer_steered answered
  obtain rfl := Option.some.inj (known.symm.trans found)
  simp only [Team.SteeredBy, selected] at steered
  exact ⟨_, steered.1.prompt, filled⟩

/-- Braces in a description do no harm as long as they are not those of the names. -/
theorem Prompt.lists_agents_of_braces :
    let agents : List Agent := [
      { name := "planner", description := "keeps {history} and {agent_list}" }, { name := "writer" }]
    ∃ compilation prompt,
      Compiler.bundled.answer TopologyId.selector (.agents agents) = .ok compilation ∧
      compilation.team.coordinationPrompt = some prompt ∧
      Contains prompt "- planner: keeps {history} and {agent_list}\n- writer" := by
  intro agents
  have listed : ((Compiler.bundled.answer TopologyId.selector (.agents agents)).toOption.map
      fun compilation => agentList compilation.team.agents) =
        some "- planner: keeps {history} and {agent_list}\n- writer" := by decide +kernel
  have texts : ((Compiler.bundled.answer TopologyId.selector (.agents agents)).toOption.map
      fun compilation => decide (∀ agent ∈ compilation.team.agents,
        ¬ Contains agent.name namesPlace ∧ ¬ Contains agent.description namesPlace)) =
        some true := by decide +kernel
  have known : (Compiler.bundled.registry.find? TopologyId.selector).map
      (fun topology => (topology.driverKind, topology.coordinationPromptTemplate)) =
        some (.centralizedSelection, none) := by decide +kernel
  obtain ⟨compilation, answered⟩ : ∃ compilation,
      Compiler.bundled.answer TopologyId.selector (.agents agents) = .ok compilation :=
    exists_ok_of_isOk (by decide +kernel)
  obtain ⟨topology, found, same⟩ := Option.map_eq_some_iff.mp known
  obtain ⟨selected, own⟩ := Prod.mk.inj same
  simp only [answered, Except.toOption, Option.map_some, Option.some.injEq,
    decide_eq_true_eq] at listed texts
  obtain ⟨_, compiled⟩ := lists_agents (.inr ⟨topology.promptTemplate_builtIn own, texts⟩)
  obtain ⟨prompt, told, inside⟩ :=
    compiled _ _ _ compilation topology answered found selected rfl rfl
  exact ⟨compilation, prompt, answered, told, listed ▸ inside⟩

/-- A description that has the place for the names in it is rewritten, and so is one that becomes it
together with the template. -/
theorem Prompt.list_rewritten :
    let agents : List Agent := [{ name := "guide", description := "explains {agent_names}" }]
    let others : List Agent := [{ name := "guide", description := "writes \x7bagent_" }]
    (Contains listPlace listPlace ∧ fill listPlace agents = "- guide: explains guide" ∧
      ¬ Contains (fill listPlace agents) (agentList agents)) ∧
    (Contains "{agent_list}names\x7d" listPlace ∧
      ¬ Contains (fill "{agent_list}names\x7d" others) (agentList others)) := by
  decide +kernel

end AgentTeams
