import AgentTeams.Proofs.Diagram.Graph
import Mathlib.Data.List.Infix

/-! Edge ids: the ids of both ends with an arrow between them. They tell the edges of a diagram
apart where names leave the arrow to be found, but not for all names that are accepted. -/
namespace AgentTeams.Diagram

def arrow : List Char := ['-', '>']

/-- What stands in front of the arrow between peers. -/
def barb : List Char := ['<']

/-- A name after which the arrow of an edge id is found. -/
structure Readable (name : String) : Prop where
  unarrowed : ¬ arrow <:+: name.toList
  unbarbed : ¬ barb <:+ name.toList

instance (name : String) : Decidable (Readable name) :=
  decidable_of_iff (¬ arrow <:+: name.toList ∧ ¬ barb <:+ name.toList)
    ⟨fun ⟨unarrowed, unbarbed⟩ => ⟨unarrowed, unbarbed⟩,
      fun readable => ⟨readable.unarrowed, readable.unbarbed⟩⟩

/-- No arrow begins within another one. -/
theorem arrow_apart {middle target goal : List Char}
    (same : arrow ++ target = middle ++ (arrow ++ goal)) : middle = [] ∨ arrow <+: middle := by
  match middle with
  | [] => exact .inl rfl
  | [_] => simp [arrow] at same
  | dash :: tip :: rest =>
    simp only [arrow, List.cons_append, List.nil_append, List.cons.injEq] at same
    obtain ⟨rfl, rfl, _⟩ := same
    exact .inr ⟨rest, rfl⟩

/-- There is one way to read a text as a stem without an arrow, an arrow and the rest. -/
theorem arrow_read_unique {stem other target goal : List Char}
    (same : stem ++ (arrow ++ target) = other ++ (arrow ++ goal))
    (unarrowed : ¬ arrow <:+: stem) (unarrowedToo : ¬ arrow <:+: other) :
    stem = other ∧ target = goal := by
  have stems : stem = other := by
    rcases List.append_eq_append_iff.mp same with ⟨middle, longer, rest⟩ | ⟨middle, longer, rest⟩
    · rcases arrow_apart rest with rfl | ⟨after, rfl⟩
      · simpa using longer.symm
      · exact absurd ⟨stem, after, by rw [longer, List.append_assoc]⟩ unarrowedToo
    · rcases arrow_apart rest with rfl | ⟨after, rfl⟩
      · simpa using longer
      · exact absurd ⟨other, after, by rw [longer, List.append_assoc]⟩ unarrowed
  subst stems
  exact ⟨rfl, List.append_cancel_left (List.append_cancel_left same)⟩

theorem Readable.unarrowed_append {name : String} {mark : List Char} (readable : Readable name)
    (marked : mark ∈ [[], barb]) : ¬ arrow <:+: name.toList ++ mark := by
  simp only [List.mem_cons, List.not_mem_nil, or_false] at marked
  rcases marked with rfl | rfl
  · rw [List.append_nil]
    exact readable.unarrowed
  · intro within
    rcases List.infix_concat_iff.mp within with last | earlier
    · obtain ⟨front, same⟩ := last
      have tips := congrArg List.getLast? same
      simp [arrow] at tips
    · exact readable.unarrowed earlier

theorem Readable.append_inj {name other : String} {mark otherMark : List Char}
    (readable : Readable name) (readableToo : Readable other) (marked : mark ∈ [[], barb])
    (markedToo : otherMark ∈ [[], barb]) (same : name.toList ++ mark = other.toList ++ otherMark) :
    name = other := by
  simp only [List.mem_cons, List.not_mem_nil, or_false] at marked markedToo
  rcases marked with rfl | rfl <;> rcases markedToo with rfl | rfl
  · exact String.toList_inj.mp (by simpa using same)
  · exact absurd ⟨_, by simpa using same.symm⟩ readable.unbarbed
  · exact absurd ⟨_, by simpa using same⟩ readableToo.unbarbed
  · exact String.toList_inj.mp (List.append_cancel_right same)

/-- An edge whose id is made of its ends. -/
def Edge.Arrowed (edge : Edge) : Prop :=
  ∃ mark ∈ [[], barb], edge.id.toList = edge.source.toList ++ mark ++ (arrow ++ edge.target.toList)

theorem Line.draw_arrowed (scene : Scene) (line : Line) : (line.draw scene).Arrowed := by
  obtain ⟨source, target, stroke, label⟩ := line
  cases stroke with
  | primary => exact ⟨[], by simp, by simp [Line.draw, Line.id, arrow]⟩
  | secondary => exact ⟨[], by simp, by simp [Line.draw, Line.id, arrow]⟩
  | peer => exact ⟨barb, by simp, by simp [Line.draw, Line.id, arrow, barb]⟩

theorem endEdge_arrowed (source : String) : (endEdge source).Arrowed :=
  ⟨[], by simp, by simp [endEdge, arrow]⟩

theorem Plan.draw_arrowed (plan : Plan) (scene : Scene) :
    ∀ edge ∈ (plan.draw scene).edges, edge.Arrowed := by
  have running : ∀ edge ∈ (plan.drawRunning scene).edges, edge.Arrowed := by
    intro edge member
    obtain ⟨line, _, rfl⟩ := List.mem_map.mp member
    exact line.draw_arrowed scene
  unfold Plan.draw
  cases scene.status.isTerminal with
  | false => exact running
  | true =>
    intro edge member
    rcases List.mem_append.mp member with earlier | last
    · exact running edge earlier
    · rw [List.mem_singleton.mp last]
      exact endEdge_arrowed _

variable {edge other : Edge}

theorem Edge.Arrowed.ends_eq (arrowed : edge.Arrowed) (arrowedToo : other.Arrowed)
    (readable : Readable edge.source) (readableToo : Readable other.source)
    (same : edge.id = other.id) : edge.ends = other.ends := by
  obtain ⟨mark, marked, made⟩ := arrowed
  obtain ⟨otherMark, markedToo, madeToo⟩ := arrowedToo
  rw [same, madeToo] at made
  obtain ⟨stems, targets⟩ := arrow_read_unique made (readableToo.unarrowed_append markedToo)
    (readable.unarrowed_append marked)
  have sources := readable.append_inj readableToo marked markedToo stems.symm
  exact Prod.ext sources (String.toList_inj.mp targets.symm)

theorem WellFormed.readable {diagram : Diagram} {names : List String} {ended : Bool}
    (formed : diagram.WellFormed names ended) (readable : ∀ name ∈ names, Readable name) :
    ∀ id ∈ diagram.ids, Readable id := by
  have fixed : ∀ kind : NodeKind, Readable kind.name := by
    intro kind
    cases kind <;> decide
  intro id member
  obtain ⟨node, present, rfl⟩ := List.mem_map.mp member
  cases isAgent : node.kind.isAgent with
  | true =>
    apply readable
    apply formed.agents.subset
    exact List.mem_map_of_mem (List.mem_filter.mpr ⟨present, isAgent⟩)
  | false =>
    rw [formed.named node present isAgent]
    exact fixed node.kind

/-- Under readable names, no two edges of a diagram have the same id. -/
theorem generate_ids_distinct {scene : Scene} (accepted : AcceptedNames scene.names)
    (readable : ∀ name ∈ scene.names, Readable name) :
    ((generate scene).edges.map (·.id)).Nodup := by
  have formed := generate_wellFormed accepted
  have sources : ∀ edge ∈ (generate scene).edges, Readable edge.source := fun edge member =>
    formed.readable readable _ (formed.simple.known _ (List.mem_map_of_mem member)).1
  have arrowed := (plan scene).draw_arrowed scene
  refine List.pairwise_map.mpr ((List.pairwise_map.mp formed.simple.distinct).imp_of_mem ?_)
  intro edge other member memberToo apart same
  exact apart ((arrowed edge member).ends_eq (arrowed other memberToo) (sources edge member)
    (sources other memberToo) same)

/-- Names that begin with what others end with. -/
theorem generate_ids_distinct_of_dashes :
    let scene : Scene :=
      { agents := [{ name := "lead-" }, { name := ">writer" }, { name := "<critic" }]
        activity := Activity.ofList ["lead-", ">writer"]
        status := .complete
        visual := Visual.ofDriverKind .peerHandoff }
    ((generate scene).edges.map (·.id)).Nodup := by
  intro scene
  have accepted : AcceptedNames scene.names := ⟨by decide, by decide⟩
  have readable : ∀ name ∈ scene.names, Readable name := by decide
  exact generate_ids_distinct accepted readable

/-- One agent is enough for two edges with the same id: to the selector and from it, if the arrow
in the agent's name stands between the selector's name on both sides. -/
theorem generate_ids_repeated :
    let scene : Scene :=
      { agents := [{ name := "hub->hub" }]
        activity := Activity.empty
        status := .created
        visual := Visual.ofDriverKind .centralizedSelection }
    AcceptedNames scene.names ∧ ¬ ((generate scene).edges.map (·.id)).Nodup := by
  intro scene
  refine ⟨⟨by decide, by decide⟩, ?_⟩
  have ids : (generate scene).edges.map (·.id) =
      ["user->hub", "hub->hub->hub", "hub->hub->hub"] := rfl
  rw [ids]
  decide

end AgentTeams.Diagram
