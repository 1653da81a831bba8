import AgentTeams.Proofs.Prompt

/-! Coordination prompts: the places of a template that are left to the runtime. No text of an agent
can become a part of one, so all of them stand in the prompt, in the order of the template. -/
namespace AgentTeams.Prompt

open Text (Braced bracedParts occurrences)

/-- The places that filling a template replaces. -/
def filledPlaces : List (List Char) :=
  [listPlace.toList, namesPlace.toList]

/-- Any other word in braces is a place for the runtime. -/
def LeftOpen (place : List Char) : Prop :=
  Braced place ∧ place ∉ filledPlaces

/-- The places for the runtime in a text, from left to right. -/
def openPlaces (text : String) : List (List Char) :=
  (bracedParts text.toList).filter (· ∉ filledPlaces)

variable {place : String}

theorem fill_around_place (left : LeftOpen place.toList) (agents : List Agent)
    (before after : String) : fill (before ++ place ++ after) agents =
      fill before agents ++ place ++ fill after agents := by
  obtain ⟨braced, unfilled⟩ := left
  have notList : listPlace.toList ≠ place.toList :=
    fun same => unfilled (by simp [filledPlaces, same])
  have notNames : namesPlace.toList ≠ place.toList :=
    fun same => unfilled (by simp [filledPlaces, same])
  rw [← String.toList_inj]
  simp only [toList_fill, String.toList_append, List.append_assoc]
  rw [Text.replaceAfter_around braced_listPlace braced notList,
    Text.replaceAfter_around braced_namesPlace braced notNames]

theorem openPlaces_sublist_fill (template : String) (agents : List Agent) :
    (openPlaces template).Sublist (openPlaces (fill template agents)) := by
  let filled (text : List Char) : List Char := (fill (String.ofList text) agents).toList
  have around : ∀ part, Braced part → decide (part ∉ filledPlaces) → ∀ front back,
      filled (front ++ (part ++ back)) = filled front ++ (part ++ filled back) := by
    intro part braced unfilled front back
    have left : LeftOpen (String.ofList part).toList := by
      rw [String.toList_ofList]
      exact ⟨braced, of_decide_eq_true unfilled⟩
    have split := fill_around_place left agents (String.ofList front) (String.ofList back)
    simpa [filled, String.append_assoc] using congrArg String.toList split
  have kept := (Text.filter_bracedParts_sublist around template.toList).filter (· ∉ filledPlaces)
  simpa [openPlaces, filled] using kept

theorem count_openPlaces (left : LeftOpen place.toList) (text : String) :
    (openPlaces text).count place.toList = occurrences place.toList text.toList := by
  obtain ⟨braced, unfilled⟩ := left
  rw [← braced.count_bracedParts, openPlaces]
  exact List.count_filter (by simpa using unfilled)

theorem occurrences_le_fill (left : LeftOpen place.toList) (template : String)
    (agents : List Agent) : occurrences place.toList template.toList ≤
      occurrences place.toList (fill template agents).toList := by
  rw [← count_openPlaces left, ← count_openPlaces left]
  exact (openPlaces_sublist_fill template agents).count_le _

/-- The prompt that a template is filled to has each open place at least as often as the template,
and those of the template in their order, each between what its two sides are filled to. -/
theorem keeps_open_places (template : String) (agents : List Agent) :
    (∀ place : String, LeftOpen place.toList → occurrences place.toList template.toList ≤
      occurrences place.toList (fill template agents).toList) ∧
    (openPlaces template).Sublist (openPlaces (fill template agents)) ∧
    ∀ before place after, LeftOpen place.toList → template = before ++ place ++ after →
      fill template agents = fill before agents ++ place ++ fill after agents := by
  refine ⟨fun place left => occurrences_le_fill left template agents,
    openPlaces_sublist_fill template agents, ?_⟩
  rintro before place after left rfl
  exact fill_around_place left agents before after

/-- The runtime finds its place twice, though the list becomes a place for the names together with
what follows it. -/
theorem keeps_open_places_of_history :
    let agents : List Agent := [{ name := "guide", description := "{task} \x7bagent_" }]
    let template := "{agent_list}names\x7d {history} {agent_names}{history}"
    LeftOpen "{history}".toList ∧
      2 ≤ occurrences "{history}".toList (fill template agents).toList ∧
      ["{history}".toList, "{history}".toList].Sublist (openPlaces (fill template agents)) := by
  intro agents template
  have left : LeftOpen "{history}".toList :=
    ⟨⟨"history".toList, rfl, by decide, by decide⟩, by decide⟩
  have twice : occurrences "{history}".toList template.toList = 2 := by decide +kernel
  have places : openPlaces template = ["{history}".toList, "{history}".toList] := by
    decide +kernel
  obtain ⟨kept, order, _⟩ := keeps_open_places template agents
  exact ⟨left, twice ▸ kept "{history}" left, places ▸ order⟩

end AgentTeams.Prompt
