import AgentTeams.HandoffGraph
import Mathlib.Data.Fin.Basic
import Mathlib.Data.List.FinRange
import Mathlib.Data.List.Induction
import Mathlib.Data.List.Perm.Subperm
import Mathlib.Data.List.Sort

/-! Handoff graphs: what is read off them by names, and whom the complete graph lets an agent hand
off to. -/
namespace AgentTeams.HandoffGraph

private theorem mem_collected {names seen : List String} :
    name ∈ names.foldl collect seen ↔ name ∈ seen ∨ name ∈ names := by
  induction names generalizing seen with
  | nil => simp
  | cons first rest ih =>
    rw [List.foldl_cons, ih, List.mem_cons, collect]
    split
    · rename_i known
      constructor
      · rintro (earlier | later)
        · exact .inl earlier
        · exact .inr (.inr later)
      · rintro (earlier | same | later)
        · exact .inl earlier
        · exact .inl (same ▸ known)
        · exact .inr later
    · rw [List.mem_append, List.mem_singleton, or_assoc]

@[simp] theorem mem_distinctNames {names : List String} :
    name ∈ distinctNames names ↔ name ∈ names := by
  simp [distinctNames, mem_collected]

private theorem collected_of_fresh (seen names : List String) (distinct : (seen ++ names).Nodup) :
    names.foldl collect seen = seen ++ names := by
  induction names generalizing seen with
  | nil => simp
  | cons first rest ih =>
    have fresh : first ∉ seen := by
      intro known
      exact (List.nodup_append.mp distinct).2.2 first known first (by simp) rfl
    rw [List.foldl_cons, collect, if_neg fresh, ih (seen ++ [first]) (by simpa using distinct)]
    simp

theorem distinctNames_of_nodup {names : List String} (distinct : names.Nodup) :
    distinctNames names = names := by
  simpa [distinctNames] using collected_of_fresh [] names distinct

theorem distinctNames_concat (names : List String) (name : String) :
    distinctNames (names ++ [name]) =
      if name ∈ names then distinctNames names else distinctNames names ++ [name] := by
  have appended : distinctNames (names ++ [name]) = if name ∈ distinctNames names then
      distinctNames names else distinctNames names ++ [name] := List.foldl_append
  simpa only [mem_distinctNames] using appended

/-- Names are collected in the order in which they stand first. -/
theorem distinctNames_ordered (names : List String) :
    (distinctNames names).Pairwise fun one other => names.idxOf one < names.idxOf other := by
  induction names using List.reverseRecOn with
  | nil => exact .nil
  | append_singleton names name ih =>
    have before : (distinctNames names).Pairwise fun one other =>
        (names ++ [name]).idxOf one < (names ++ [name]).idxOf other := by
      apply ih.imp_of_mem
      intro one other first second earlier
      rwa [List.idxOf_append, if_pos (mem_distinctNames.mp first), List.idxOf_append,
        if_pos (mem_distinctNames.mp second)]
    rw [distinctNames_concat]
    split
    · exact before
    · rename_i fresh
      refine List.pairwise_append.mpr ⟨before, List.pairwise_singleton _ _, ?_⟩
      intro one collected last same
      obtain rfl := List.mem_singleton.mp same
      have present := mem_distinctNames.mp collected
      rw [List.idxOf_append, if_pos present, List.idxOf_append, if_neg fresh]
      exact Nat.lt_add_left _ (List.idxOf_lt_length_iff.mpr present)

variable {graph : HandoffGraph}

theorem number?_eq_some_iff {number : Fin graph.agents.length} :
    graph.number? name = some number ↔ graph.agents.get number = name := by
  unfold number?
  rw [List.finIdxOf?_eq_some_iff]
  refine and_iff_left_of_imp ?_
  -- no other agent has the name
  rintro named earlier before same
  have equal := graph.distinct.getElem_inj_iff.mp (same.trans named.symm)
  exact absurd equal (Nat.ne_of_lt before)

theorem number?_eq_none_iff : graph.number? name = none ↔ name ∉ graph.agents :=
  List.finIdxOf?_eq_none_iff

theorem mem_dropRepeats {number : Fin count} {numbers : List (Fin count)} :
    number ∈ dropRepeats numbers ↔ number ∈ numbers := by
  fun_induction dropRepeats numbers with
  | case1 first rest ih => simp [ih]
  | case2 first second rest apart ih => simp [ih]
  | case3 => rfl

/-- In an ascending list, what is equal stands together, so all repeats are dropped. -/
theorem pairwise_dropRepeats {numbers : List (Fin count)} (ordered : numbers.Pairwise (· ≤ ·)) :
    (dropRepeats numbers).Pairwise (· < ·) := by
  fun_induction dropRepeats numbers with
  | case1 first rest ih => exact ih ordered.tail
  | case2 first second rest apart ih =>
    obtain ⟨least, tail⟩ := List.pairwise_cons.mp ordered
    have below : first < second := lt_of_le_of_ne (least second List.mem_cons_self) apart
    refine List.pairwise_cons.mpr ⟨?_, ih tail⟩
    intro other member
    rcases List.mem_cons.mp (mem_dropRepeats.mp member) with rfl | later
    · exact below
    · exact lt_of_lt_of_le below ((List.pairwise_cons.mp tail).1 other later)
  | case3 short notLong =>
    match short, notLong with
    | [], _ => exact .nil
    | [_], _ => exact List.pairwise_singleton _ _
    | first :: second :: rest, notLong => exact absurd rfl (notLong first second rest)

theorem mem_successors {source target : Fin graph.agents.length} :
    target ∈ graph.successors source ↔ (source, target) ∈ graph.transfers := by
  simp [successors]

theorem mem_namedTransfers {source target : String} :
    (source, target) ∈ graph.namedTransfers ↔
      ∃ number other, (number, other) ∈ graph.transfers ∧
        graph.agents.get number = source ∧ graph.agents.get other = target := by
  simp [namedTransfers]

/-- An agent may hand off to those to whom there is a transfer from it. -/
theorem mem_targets : target ∈ graph.targets name ↔ (name, target) ∈ graph.namedTransfers := by
  rw [mem_namedTransfers, targets]
  cases found : graph.number? name with
  | none =>
    refine iff_of_false List.not_mem_nil ?_
    rintro ⟨number, _, _, named, _⟩
    exact number?_eq_none_iff.mp found (named ▸ List.getElem_mem _)
  | some source =>
    have named := number?_eq_some_iff.mp found
    simp only [List.mem_map, mem_dropRepeats, List.mem_mergeSort, mem_successors]
    constructor
    · rintro ⟨other, transfer, rfl⟩
      exact ⟨source, other, transfer, named, rfl⟩
    · rintro ⟨number, other, transfer, same, rfl⟩
      obtain rfl := Option.some.inj (found.symm.trans (number?_eq_some_iff.mpr same))
      exact ⟨other, transfer, rfl⟩

/-- Targets are listed as the agents are, none of them twice. -/
theorem targets_sublist (graph : HandoffGraph) (name : String) :
    (graph.targets name).Sublist graph.agents := by
  unfold targets
  cases graph.number? name with
  | none => exact List.nil_sublist _
  | some source =>
    exact List.map_getElem_sublist (pairwise_dropRepeats (List.pairwise_mergeSort' (· ≤ ·) _))

theorem targets_nodup (graph : HandoffGraph) (name : String) : (graph.targets name).Nodup :=
  graph.distinct.sublist (graph.targets_sublist name)

/-- However transfers were added and repeated, targets are a choice from the list of agents. -/
theorem targets_eq_filter (graph : HandoffGraph) (name : String) : graph.targets name =
    graph.agents.filter fun target => (name, target) ∈ graph.namedTransfers := by
  have chosen : (graph.targets name).filter (fun target => (name, target) ∈ graph.namedTransfers) =
      graph.targets name := by
    rw [List.filter_eq_self]
    intro target listed
    exact decide_eq_true (mem_targets.mp listed)
  have inner := (graph.targets_sublist name).filter fun target =>
    (name, target) ∈ graph.namedTransfers
  rw [chosen] at inner
  refine inner.eq_of_length_le (List.subperm_of_subset (graph.distinct.filter _) ?_).length_le
  intro target kept
  exact mem_targets.mpr (of_decide_eq_true (List.mem_filter.mp kept).2)

theorem mem_selfLoops : name ∈ graph.selfLoops ↔ (name, name) ∈ graph.namedTransfers := by
  simp only [selfLoops, List.mem_filter, Option.any_eq_true, decide_eq_true_eq,
    mem_namedTransfers, number?_eq_some_iff]
  constructor
  · rintro ⟨_, number, named, transfer⟩
    exact ⟨number, number, transfer, named, named⟩
  · rintro ⟨number, other, transfer, named, same⟩
    obtain rfl := Fin.ext (graph.distinct.getElem_inj_iff.mp (named.trans same.symm))
    exact ⟨named ▸ List.getElem_mem _, number, named, transfer⟩

theorem mem_complete_transfers {names : List String}
    {source target : Fin (complete names).agents.length} :
    (source, target) ∈ (complete names).transfers ↔ target ≠ source := by
  have listed (number : Fin (distinctNames names).length) : number ∈ List.finRange _ :=
    List.mem_finRange number
  unfold complete
  simp only [List.mem_flatMap, List.mem_map, List.mem_filter, listed, true_and, decide_eq_true_eq]
  constructor
  · rintro ⟨number, other, apart, same⟩
    cases same
    exact apart
  · intro apart
    exact ⟨source, target, apart, rfl⟩

theorem mem_complete_namedTransfers {names : List String} :
    (source, target) ∈ (complete names).namedTransfers ↔
      source ∈ names ∧ target ∈ names ∧ target ≠ source := by
  have distinct := (complete names).distinct
  have listed {name : String} : name ∈ names ↔ name ∈ (complete names).agents :=
    mem_distinctNames.symm
  simp only [mem_namedTransfers, mem_complete_transfers]
  constructor
  · rintro ⟨number, other, apart, rfl, rfl⟩
    refine ⟨listed.mpr (List.getElem_mem _), listed.mpr (List.getElem_mem _), ?_⟩
    intro same
    exact apart (Fin.ext (distinct.getElem_inj_iff.mp same))
  · rintro ⟨known, knownToo, apart⟩
    obtain ⟨number, inside, rfl⟩ := List.getElem_of_mem (listed.mp known)
    obtain ⟨other, insideToo, rfl⟩ := List.getElem_of_mem (listed.mp knownToo)
    refine ⟨⟨number, inside⟩, ⟨other, insideToo⟩, ?_, rfl, rfl⟩
    rintro same
    exact apart (congrArg (complete names).agents.get same)

theorem mem_targets_complete {names : List String} :
    target ∈ (complete names).targets name ↔ name ∈ names ∧ target ∈ names ∧ target ≠ name := by
  rw [mem_targets, mem_complete_namedTransfers]

theorem targets_complete_of_mem {names : List String} (member : name ∈ names) :
    (complete names).targets name = (distinctNames names).filter (· ≠ name) := by
  have agents : (complete names).agents = distinctNames names := rfl
  rw [targets_eq_filter, agents]
  apply List.filter_congr
  intro target present
  simp [mem_complete_namedTransfers, member, mem_distinctNames.mp present]

theorem targets_complete {names : List String} (distinct : names.Nodup) (member : name ∈ names) :
    (complete names).targets name = names.filter (· ≠ name) := by
  rw [targets_complete_of_mem member, distinctNames_of_nodup distinct]

end AgentTeams.HandoffGraph
