import AgentTeams.Proofs.Diagram.Relations
import AgentTeams.Proofs.Diagram.Speaker
import AgentTeams.Proofs.Inference
import AgentTeams.Proofs.Text.Words

/-! Wording: how an agent has to word its name and its description to be taken for a part. Whole
words count, in whatever case and whatever stands between them. -/
namespace AgentTeams

/-- The parts that agents are looked at for. -/
def Vocabulary.parts : List Vocabulary := [adjudicator, arguer, producer, reviewer, router]

/-- Agents whose texts differ in their style at most. -/
structure Agent.Restyled (agent other : Agent) : Prop where
  name : Text.Restyled agent.name other.name
  description : Text.Restyled agent.description other.description

/-- A word is in lower case what stands in the name or in the description as a run of letters and
digits that is not within a longer one. -/
def Agent.Mentions (lower : List Char → List Char) (agent : Agent) (word : String) : Prop :=
  ∃ run, (Text.IsRun Text.isAlphanumeric agent.name.toList run ∨
    Text.IsRun Text.isAlphanumeric agent.description.toList run) ∧ lower run = word.toList

variable {agents others : List Agent} {agent other : Agent} {lower : List Char → List Char}
  {word : String}

theorem Agent.Restyled.plays_eq (restyled : agent.Restyled other) : agent.plays = other.plays := by
  funext part
  simp [plays, words, restyled.name.words_eq, restyled.description.words_eq]

theorem map_plays_eq (restyled : List.Forall₂ Agent.Restyled agents others) :
    others.map Agent.plays = agents.map Agent.plays := by
  induction restyled with
  | nil => rfl
  | cons first _ ih => rw [List.map_cons, List.map_cons, first.plays_eq, ih]

theorem Diagram.Mesh.routerIndex_congr
    (same : others.map Agent.plays = agents.map Agent.plays) :
    routerIndex others = routerIndex agents := by
  have seen (agents : List Agent) : routerIndex agents =
      ((agents.map Agent.plays).findIdx? (· .router)).getD 0 := by
    simp [routerIndex, Function.comp_def]
  rw [seen, seen, same]

theorem Diagram.ids_routers {scene : Scene} (mesh : scene.visual.layout = .mesh) :
    ((generate scene).nodes.filter (·.kind = .router)).map (·.id) =
      scene.names[Mesh.routerIndex scene.agents]?.toList := by
  have planned : plan scene = Mesh.plan scene := by simp [plan, mesh]
  rw [generate, ids_filter_draw _ (by decide), planned, Scene.names, List.getElem?_map,
    ← Mesh.router?_eq_getElem?]
  unfold Mesh.plan
  cases Mesh.router? scene.agents with
  | none => simp
  | some router => simp [filter_seats]

/-- A word of ASCII characters is looked for in the runs, whatever becomes of other characters. -/
theorem Text.mem_words_iff {text : String} (lowers : ∀ run, Lowered run (lower run))
    (ascii : ∀ c ∈ word.toList, c.toNat < 0x80) :
    word ∈ words text ↔ ∃ run, IsRun isAlphanumeric text.toList run ∧ lower run = word.toList := by
  simp only [words, List.mem_map, mem_runs_iff]
  refine exists_congr fun run => and_congr_right fun _ => ?_
  rw [(lowers run).eq_iff ascii, ← String.toList_inj, String.toList_ofList]

theorem Agent.mem_words_iff (lowers : ∀ run, Text.Lowered run (lower run))
    (ascii : ∀ c ∈ word.toList, c.toNat < 0x80) :
    word ∈ agent.words ↔ agent.Mentions lower word := by
  rw [words, List.mem_append, Text.mem_words_iff lowers ascii, Text.mem_words_iff lowers ascii,
    ← exists_or]
  simp only [Mentions, or_and_right]

theorem Vocabulary.ascii : ∀ part ∈ parts, ∀ word ∈ part, ∀ c ∈ word.toList, c.toNat < 0x80 := by
  have listed : (parts.all fun part => part.all fun word =>
      word.toList.all fun c => decide (c.toNat < 0x80)) = true := by decide +kernel
  simpa only [List.all_eq_true, decide_eq_true_eq] using listed

/-- Agents may be written in another style: the same is inferred of a team, and the same place in it
is that of the router, whose agent is the one that a mesh draws as router. And an agent plays a
part exactly if it mentions a word of it, in its name or in its description. -/
theorem inference_ignores_style :
    (∀ team other : Team, other.driverKind = team.driverKind →
      List.Forall₂ Agent.Restyled team.agents other.agents →
      other.inferredTopology = team.inferredTopology) ∧
    (∀ agents others, List.Forall₂ Agent.Restyled agents others →
      Diagram.Mesh.routerIndex others = Diagram.Mesh.routerIndex agents) ∧
    (∀ scene : Diagram.Scene, scene.visual.layout = .mesh →
      ((Diagram.generate scene).nodes.filter (·.kind = .router)).map (·.id) =
        scene.names[Diagram.Mesh.routerIndex scene.agents]?.toList) ∧
    ∀ lower, (∀ run, Text.Lowered run (lower run)) → ∀ agent : Agent, ∀ part ∈ Vocabulary.parts,
      (∀ word ∈ part, word ∈ agent.words ↔ agent.Mentions lower word) ∧
      (agent.plays part = true ↔ ∃ word ∈ part, agent.Mentions lower word) := by
  refine ⟨?_, ?_, fun _ => Diagram.ids_routers, ?_⟩
  · intro team other kind restyled
    exact Team.inferredTopology_congr kind (map_plays_eq restyled)
  · intro agents others restyled
    exact Diagram.Mesh.routerIndex_congr (map_plays_eq restyled)
  · intro lower lowers agent part known
    have mentioned : ∀ word ∈ part, word ∈ agent.words ↔ agent.Mentions lower word := by
      intro word member
      exact Agent.mem_words_iff lowers (Vocabulary.ascii part known word member)
    refine ⟨mentioned, ?_⟩
    simp only [Agent.plays, List.any_eq_true, decide_eq_true_eq]
    constructor
    · rintro ⟨word, spoken, member⟩
      exact ⟨word, member, (mentioned word member).mp spoken⟩
    · rintro ⟨word, member, found⟩
      exact ⟨word, (mentioned word member).mpr found, member⟩

/-- A writer and a checker who routes, and the same two with a capital and other signs between the
words. A Kelvin sign is a letter of a word, and a longer word is another. -/
theorem inference_ignores_style_of_pair :
    let writer : Agent := { name := "writer" }
    let checker : Agent := { name := "code-checker", description := "routing" }
    let capital : Agent := { name := "Writer" }
    let spaced : Agent := { name := "code_ checker", description := "routing" }
    let scene : Diagram.Scene :=
      { agents := [capital, spaced]
        activity := Activity.ofList []
        status := .created
        visual := Visual.ofDriverKind .peerHandoff }
    let lower := List.map Text.lowerChar
    List.Forall₂ Agent.Restyled [writer, checker] scene.agents ∧
      Team.inferredTopology { driverKind := .fixedOrder, agents := scene.agents } =
        TopologyId.reflection ∧
      Diagram.Mesh.routerIndex scene.agents = 1 ∧
      ((Diagram.generate scene).nodes.filter (·.kind = .router)).map (·.id) = ["code_ checker"] ∧
      Agent.Mentions lower { name := "CHEC\u212aER" } "checker" ∧
      ¬ Agent.Mentions lower { name := "checkers" } "checker" := by
  intro writer checker capital spaced scene lower
  obtain ⟨inferred, routed, drawn, mentioned⟩ := inference_ignores_style
  have recased : Text.Restyled "writer" "Writer" := by
    have step : Text.Restyle ([] ++ 'w' :: "riter".toList) ([] ++ 'W' :: "riter".toList) :=
      .recase rfl rfl rfl
    exact .single (by simpa using step)
  have parted : Text.Restyled "code-checker" "code_ checker" := by
    have other : Text.Restyle ("code".toList ++ '-' :: "checker".toList)
        ("code".toList ++ '_' :: "checker".toList) := .replace rfl rfl
    have separates : Text.isAlphanumeric '_' = false := rfl
    have wider : Text.Restyle ("code_".toList ++ "checker".toList)
        ("code_".toList ++ ' ' :: "checker".toList) := .add rfl (.inl (by simpa using separates))
    exact .tail (.single (by simpa using other)) (by simpa using wider)
  have restyled : List.Forall₂ Agent.Restyled [writer, checker] scene.agents :=
    .cons ⟨recased, .refl⟩ (.cons ⟨parted, .refl⟩ .nil)
  have reviewer : Vocabulary.reviewer ∈ Vocabulary.parts := by decide
  have checks : "checker" ∈ Vocabulary.reviewer := by decide
  refine ⟨restyled, ?_, ?_, ?_, ?_, ?_⟩
  · rw [inferred { driverKind := .fixedOrder, agents := [writer, checker] }
      { driverKind := .fixedOrder, agents := scene.agents } rfl restyled]
    decide +kernel
  · rw [routed _ _ restyled]
    decide +kernel
  · rw [drawn scene rfl, routed _ _ restyled]
    decide +kernel
  · refine ((mentioned lower Text.lowered_map _ _ reviewer).1 _ checks).mp ?_
    decide +kernel
  · refine mt ((mentioned lower Text.lowered_map _ _ reviewer).1 _ checks).mpr ?_
    decide +kernel

end AgentTeams
