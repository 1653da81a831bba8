import AgentTeams.Proofs.Compiler.Refusal
import AgentTeams.Proofs.Engine.Transparency

/-! Falling back: what an engine answers to a request that names an unknown topology, after whatever
calls, and that it keeps nothing of the replacement. -/
namespace AgentTeams

theorem Compiler.compile_eq_unknown_iff {compiler : Compiler} {existing : Option Team}
    {id other : String} : compiler.compile existing id = .error (.unknownTopology other) ↔
      other = id ∧ id ∉ compiler.registry.ids := by
  change compiler.answer id (.compile existing) = _ ↔ _
  rw [answer_eq_error_iff, refused_unknown_iff]

namespace Engine

variable {engine : Engine} {selections : List Selection} {drawings : List Drawing}

theorem registry_after (engine : Engine) (calls : List Call) :
    (engine.after calls).registry = engine.registry := by
  induction calls generalizing engine with
  | nil => rfl
  | cons call rest ih => exact (ih (engine.perform call).2).trans (registry_perform engine call)

theorem compiler_after_requests (engine : Engine) (requests : List Selection) :
    (engine.after (requests.map .selectOrDefault)).compiler = engine.compiler := by
  induction requests generalizing engine with
  | nil => rfl
  | cons request rest ih =>
    exact (ih (engine.perform (.selectOrDefault request)).2).trans
      (compiler_perform engine (.selectOrDefault request))

/-- What a request comes to that may name an unknown topology. -/
structure FallsBack (engine : Engine) (selection : Selection) : Prop where
  /-- If the topology is known, it is selected as by any other request. -/
  known : selection.id ∈ engine.registry.ids →
    engine.selectOrDefault selection.existing selection.id =
      ((engine.select selection.existing selection.id).1.map (·.value),
        (engine.select selection.existing selection.id).2)
  /-- If it is not, the default topology is compiled, with one warning in front of its own. -/
  replaced : selection.id ∉ engine.registry.ids → defaultTopology ∈ engine.registry.ids →
    (engine.selectOrDefault selection.existing selection.id).1 =
      (engine.compiler.compile selection.existing defaultTopology).map fun compilation =>
        { team := compilation.team
          warnings := .unknownTopology selection.id defaultTopology :: compilation.warnings }
  /-- Whatever the engine keeps of that, it keeps of a request for the default topology. -/
  unseen : selection.id ∉ engine.registry.ids →
    (engine.selectOrDefault selection.existing selection.id).2 =
      (engine.select selection.existing defaultTopology).2
  /-- If the default topology is not known either, it is this one that is missed. -/
  missed : selection.id ∉ engine.registry.ids → defaultTopology ∉ engine.registry.ids →
    (engine.selectOrDefault selection.existing selection.id).1 =
      .error (.unknownTopology defaultTopology)
  /-- With a default topology none is missed. -/
  found : defaultTopology ∈ engine.registry.ids → ∀ id,
    (engine.selectOrDefault selection.existing selection.id).1 ≠ .error (.unknownTopology id)

theorem selectOrDefault_of_known {selection : Selection}
    (known : selection.id ∈ engine.registry.ids) :
    engine.selectOrDefault selection.existing selection.id =
      ((engine.select selection.existing selection.id).1.map (·.value),
        (engine.select selection.existing selection.id).2) := by
  obtain ⟨topology, found⟩ := Registry.find?_of_mem_ids known
  rw [selectOrDefault_eq, found]

theorem selectOrDefault_of_unknown {selection : Selection}
    (unknown : selection.id ∉ engine.registry.ids) :
    engine.selectOrDefault selection.existing selection.id =
      (((engine.select selection.existing defaultTopology).1.map (·.value)).map
        (Compilation.insteadOf selection.id),
          (engine.select selection.existing defaultTopology).2) := by
  rw [selectOrDefault_eq, Registry.find?_eq_none_iff_not_mem.mpr unknown]

/-- With faithful tables the default is selected as it is compiled, and so is a known topology. -/
theorem Faithful.fallsBack (faithful : engine.Faithful selections drawings)
    (apart : KeysApart selections drawings) {selection : Selection}
    (asked : selection.orDefault engine.registry ∈ selections)
    (default : ⟨selection.existing, defaultTopology⟩ ∈ selections) :
    engine.FallsBack selection := by
  have plain : (engine.select selection.existing defaultTopology).1.map (·.value) =
      engine.compiler.compile selection.existing defaultTopology :=
    select_value faithful apart ⟨selection.existing, defaultTopology⟩ default
  refine ⟨selectOrDefault_of_known, ?_, ?_, ?_, ?_⟩
  · intro unknown registered
    rw [selectOrDefault_of_unknown unknown, plain]
    rfl
  · intro unknown
    rw [selectOrDefault_of_unknown unknown]
  · intro unknown missing
    have refused : engine.compiler.compile selection.existing defaultTopology =
        .error (.unknownTopology defaultTopology) :=
      Compiler.compile_eq_unknown_iff.mpr ⟨rfl, missing⟩
    rw [selectOrDefault_of_unknown unknown, plain, refused]
    rfl
  · intro registered id failed
    by_cases known : selection.id ∈ engine.registry.ids
    · obtain ⟨topology, found⟩ := Registry.find?_of_mem_ids known
      have own : selection.orDefault engine.registry = selection := by
        simp [Selection.orDefault, found]
      rw [selectOrDefault_of_known known, select_value faithful apart selection (own ▸ asked)]
        at failed
      exact (Compiler.compile_eq_unknown_iff.mp failed).2 known
    · rw [selectOrDefault_of_unknown known, plain] at failed
      cases compiled : engine.compiler.compile selection.existing defaultTopology with
      | ok compilation => simp [compiled, Except.map] at failed
      | error error =>
        rw [compiled] at failed
        obtain rfl : error = .unknownTopology id := Except.error.inj failed
        exact (Compiler.compile_eq_unknown_iff.mp compiled).2 registered

/-- After any history of calls a request for an unknown topology falls back on the default one: its
answer is that compilation with a warning in front, and the tables keep the compilation without it,
so that after any number of further requests the default topology is still compiled plainly. -/
theorem selectOrDefault_falls_back (registry : Registry) (options : Options) (calls : List Call)
    (requests : List Selection) (selection : Selection) :
    let history := calls ++ requests.map .selectOrDefault ++
      [.selectOrDefault selection, .select ⟨selection.existing, defaultTopology⟩]
    KeysApart (selectionsOf registry history) (drawingsOf history) →
    let engine := Engine.after { registry, options } calls
    engine.FallsBack selection ∧
      ((engine.after (requests.map .selectOrDefault)).select selection.existing
        defaultTopology).1.map (·.value) =
          engine.compiler.compile selection.existing defaultTopology := by
  intro history apart engine
  have asks : ∀ call ∈ history, call.Asks registry (selectionsOf registry history)
      (drawingsOf history) := fun _ member => asks_of_mem member
  have asked := (asks (.selectOrDefault selection) (by simp [history])).1 _ rfl
  have default := (asks (.select ⟨selection.existing, defaultTopology⟩) (by simp [history])).1 _ rfl
  have faithful : engine.Faithful (selectionsOf registry history) (drawingsOf history) :=
    (faithful_fresh registry options).after rfl fun call member =>
      asks call (by simp [history, member])
  have later : (engine.after (requests.map .selectOrDefault)).Faithful
      (selectionsOf registry history) (drawingsOf history) :=
    faithful.after (registry_after _ calls) fun call member =>
      asks call (List.mem_append_left _ (List.mem_append_right _ member))
  refine ⟨faithful.fallsBack apart ?_ default, ?_⟩
  · rwa [registry_after]
  · rw [← compiler_after_requests engine requests]
    exact select_value later apart ⟨selection.existing, defaultTopology⟩ default

/-- Two unknown topologies, after a change of options. -/
theorem selectOrDefault_falls_back_of_nowhere :
    let registry := Compiler.bundled.registry
    let calls : List Call := [.select ⟨none, defaultTopology⟩,
      .withOptions { defaultModel := ⟨"local", "small"⟩ }, .selectOrDefault ⟨none, "elsewhere"⟩]
    let engine := Engine.after { registry } calls
    "nowhere" ∉ registry.ids ∧
      (engine.selectOrDefault none "nowhere").1 =
        (engine.compiler.compile none defaultTopology).map (Compilation.insteadOf "nowhere") ∧
      ((engine.after [.selectOrDefault ⟨none, "nowhere"⟩]).select none defaultTopology).1.map
        (·.value) = engine.compiler.compile none defaultTopology := by
  intro registry calls engine
  have unknown : "nowhere" ∉ registry.ids := by decide +kernel
  have absent : "elsewhere" ∉ registry.ids := by decide +kernel
  have registered : defaultTopology ∈ registry.ids := by decide +kernel
  have same : engine.registry = registry := registry_after _ calls
  have only : ∀ selection ∈ selectionsOf registry (calls ++
      [⟨none, "nowhere"⟩].map .selectOrDefault ++ [.selectOrDefault ⟨none, "nowhere"⟩,
        .select ⟨none, defaultTopology⟩]), selection = ⟨none, defaultTopology⟩ := by
    simp [selectionsOf, calls, List.filterMap_cons, Call.selection?, Selection.orDefault,
      Registry.find?_eq_none_iff_not_mem.mpr unknown, Registry.find?_eq_none_iff_not_mem.mpr absent]
  obtain ⟨falls, plain⟩ := selectOrDefault_falls_back registry {} calls [⟨none, "nowhere"⟩]
    ⟨none, "nowhere"⟩ ⟨fun first one second two _ => (only first one).trans (only second two).symm,
      by simp [calls, drawingsOf, Call.drawing?]⟩
  exact ⟨unknown, falls.replaced (same ▸ unknown) (same ▸ registered), plain⟩

end Engine

end AgentTeams
