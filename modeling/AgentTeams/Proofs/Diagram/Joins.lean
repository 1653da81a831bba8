import AgentTeams.Diagram.Layout
import AgentTeams.Proofs.Names
import Mathlib.Data.List.Nodup

/-! Joins: lines and edges as the pairs of ids they lead from and to. The lines of every layout
family are those of a simple graph. -/
namespace AgentTeams.Diagram

/-- What a line leads from and to. -/
def Line.ends (line : Line) : String × String := (line.source, line.target)

/-- Joins between these ids, none of them from an id to itself and no two of them alike. -/
structure Simple (ids : List String) (joins : List (String × String)) : Prop where
  known : ∀ join ∈ joins, join.1 ∈ ids ∧ join.2 ∈ ids
  loopless : ∀ join ∈ joins, join.1 ≠ join.2
  distinct : joins.Nodup

namespace Simple

variable {ids more : List String} {joins others : List (String × String)} {source target : String}

theorem nil : Simple ids [] := ⟨by simp, by simp, List.nodup_nil⟩

theorem single (from_known : source ∈ ids) (to_known : target ∈ ids) (apart : source ≠ target) :
    Simple ids [(source, target)] :=
  ⟨by simp [from_known, to_known], by simp [apart], List.nodup_singleton _⟩

theorem mono (simple : Simple ids joins) (within : ids ⊆ more) : Simple more joins :=
  ⟨fun join member => (simple.known join member).imp (@within _) (@within _), simple.loopless,
    simple.distinct⟩

theorem append (first : Simple ids joins) (second : Simple ids others)
    (apart : joins.Disjoint others) : Simple ids (joins ++ others) where
  known join member := by
    rcases List.mem_append.mp member with earlier | later
    · exact first.known join earlier
    · exact second.known join later
  loopless join member := by
    rcases List.mem_append.mp member with earlier | later
    · exact first.loopless join earlier
    · exact second.loopless join later
  distinct := List.nodup_append'.mpr ⟨first.distinct, second.distinct, apart⟩

theorem enter (simple : Simple ids joins) (fresh : source ∉ ids) (known : target ∈ ids) :
    Simple (source :: ids) ((source, target) :: joins) := by
  have apart : source ≠ target := fun same => fresh (same ▸ known)
  refine (single (by simp) (by simp [known]) apart).append
    (simple.mono (List.subset_cons_self _ _)) ?_
  rintro join first later
  rw [List.mem_singleton.mp first] at later
  exact fresh (simple.known _ later).1

theorem leave (simple : Simple ids joins) (known : source ∈ ids) (fresh : target ∉ ids) :
    Simple (ids ++ [target]) (joins ++ [(source, target)]) := by
  have apart : source ≠ target := fun same => fresh (same ▸ known)
  refine (simple.mono (List.subset_append_left _ _)).append
    (single (by simp [known]) (by simp) apart) ?_
  rintro join earlier last
  rw [List.mem_singleton.mp last] at earlier
  exact fresh (simple.known _ earlier).2

end Simple

variable {names rest : List String} {source target first : String} {onward : Bool}

/-- From one id to a name, and from there to another id if the way leads on. -/
def way (source target : String) (onward : Bool) (name : String) : List (String × String) :=
  (source, name) :: if onward then [(name, target)] else []

/-- The ways through all of the names. -/
def star (source target : String) (onward : Bool) (names : List String) : List (String × String) :=
  names.flatMap (way source target onward)

theorem mem_way {name : String} {join : String × String} : join ∈ way source target onward name ↔
    join = (source, name) ∨ onward = true ∧ join = (name, target) := by
  cases onward <;> simp [way]

theorem mem_star {join : String × String} : join ∈ star source target onward names ↔
    ∃ name ∈ names, join = (source, name) ∨ onward = true ∧ join = (name, target) := by
  simp [star, mem_way]

theorem star_simple (distinct : names.Nodup) (before : source ∉ names) (after : target ∉ names) :
    Simple (source :: target :: names) (star source target onward names) where
  known join member := by
    obtain ⟨name, present, rfl | ⟨_, rfl⟩⟩ := mem_star.mp member <;> simp [present]
  loopless join member := by
    obtain ⟨name, present, rfl | ⟨_, rfl⟩⟩ := mem_star.mp member
    · exact (ne_of_mem_of_not_mem present before).symm
    · exact ne_of_mem_of_not_mem present after
  distinct := by
    refine List.nodup_flatMap.mpr ⟨fun name present => ?_, ?_⟩
    -- the way through one name, then the ways through two
    · have apart := ne_of_mem_of_not_mem present before
      cases onward <;> simp [way, apart.symm]
    · refine distinct.imp_of_mem fun {name other} present listed apart join mine theirs => ?_
      have notSource := ne_of_mem_of_not_mem present before
      have notOtherSource := ne_of_mem_of_not_mem listed before
      rcases mem_way.mp mine with rfl | ⟨_, rfl⟩
      · rcases mem_way.mp theirs with same | ⟨_, same⟩
        · exact apart (Prod.mk.inj same).2
        · exact notOtherSource (Prod.mk.inj same).1.symm
      · rcases mem_way.mp theirs with same | ⟨_, same⟩
        · exact notSource (Prod.mk.inj same).1
        · exact apart (Prod.mk.inj same).1

/-- A link between peers is drawn as one, whichever of the names it joins. -/
theorem of_mem_peerLines {line : Line} (member : line ∈ peerLines names) :
    line.stroke = .peer ∧ line.source ∈ names ∧ line.target ∈ names := by
  induction names with
  | nil => cases member
  | cons name rest ih =>
    rcases List.mem_append.mp member with mine | later
    · obtain ⟨other, present, rfl⟩ := List.mem_map.mp mine
      exact ⟨rfl, List.mem_cons_self, List.mem_cons_of_mem _ present⟩
    · obtain ⟨stroke, source, target⟩ := ih later
      exact ⟨stroke, List.mem_cons_of_mem _ source, List.mem_cons_of_mem _ target⟩

theorem peerLines_simple (distinct : names.Nodup) :
    Simple names ((peerLines names).map Line.ends) := by
  induction names with
  | nil => exact .nil
  | cons name rest ih =>
    obtain ⟨fresh, distinct⟩ := List.nodup_cons.mp distinct
    have later := ih distinct
    have rays : star name name false rest = rest.map (name, ·) := by
      rw [List.map_eq_flatMap]
      rfl
    have outgoing : Simple (name :: rest) (rest.map (name, ·)) :=
      rays ▸ (star_simple distinct fresh fresh).mono (by simp)
    have apart : (rest.map (name, ·)).Disjoint ((peerLines rest).map Line.ends) := by
      intro join mine theirs
      obtain ⟨other, _, rfl⟩ := List.mem_map.mp mine
      exact fresh (later.known _ theirs).1
    have split : (peerLines (name :: rest)).map Line.ends =
        rest.map (name, ·) ++ (peerLines rest).map Line.ends := by
      simp [peerLines, Line.ends, Function.comp_def]
    rw [split]
    exact outgoing.append (later.mono (List.subset_cons_self _ _)) apart

/-- From each name to the next. -/
def path (names : List String) : List (String × String) :=
  names.zip names.tail

/-- A path that is closed is the list beside itself, turned by one place. -/
theorem path_closed (first : String) (rest : List String) (back : String) :
    (first :: rest).zip (rest ++ [back]) =
      path (first :: rest) ++ [((first :: rest).getLast (by simp), back)] := by
  induction rest generalizing first with
  | nil => rfl
  | cons next rest ih => simp [path, ih next]

theorem path_loopless (distinct : names.Nodup) : ∀ join ∈ path names, join.1 ≠ join.2 := by
  induction names with
  | nil => simp [path]
  | cons first rest ih =>
    obtain ⟨fresh, distinct⟩ := List.nodup_cons.mp distinct
    cases rest with
    | nil => simp [path]
    | cons next rest =>
      intro join member
      rcases List.mem_cons.mp member with rfl | later
      · exact (ne_of_mem_of_not_mem List.mem_cons_self fresh).symm
      · exact ih distinct join later

theorem of_mem_path {join : String × String} (member : join ∈ path names) :
    join.1 ∈ names ∧ join.2 ∈ names :=
  (List.of_mem_zip member).imp_right List.mem_of_mem_tail

theorem path_simple (distinct : names.Nodup) : Simple names (path names) where
  known _ := of_mem_path
  loopless := path_loopless distinct
  distinct := by
    refine List.Nodup.of_map Prod.snd ?_
    rw [path, List.map_snd_zip (by simp)]
    exact distinct.tail

theorem of_mem_cycle {join : String × String}
    (member : join ∈ (first :: rest).zip (rest ++ [first])) :
    join.1 ∈ first :: rest ∧ join.2 ∈ first :: rest := by
  obtain ⟨left, right⟩ := List.of_mem_zip member
  exact ⟨left, by simpa [or_comm] using right⟩

theorem cycle_simple (distinct : (first :: rest).Nodup) (several : rest ≠ []) :
    Simple (first :: rest) ((first :: rest).zip (rest ++ [first])) where
  known _ := of_mem_cycle
  loopless := by
    obtain ⟨fresh, _⟩ := List.nodup_cons.mp distinct
    rw [path_closed]
    intro join member
    rcases List.mem_append.mp member with earlier | last
    · exact path_loopless distinct join earlier
    · rw [List.mem_singleton.mp last]
      simp only [List.getLast_cons several]
      exact ne_of_mem_of_not_mem (List.getLast_mem several) fresh
  distinct := by
    -- already what the joins lead from is different: every name once
    refine List.Nodup.of_map Prod.fst ?_
    rw [List.map_fst_zip (by simp)]
    exact distinct

variable {bidirectional crossConnections : Bool} {selected : Option String}
  {activity : Activity} {router : String} {peers : List String}

/-- Joins among agents, and the user's into the first of them. -/
theorem Simple.fromUser {joins : List (String × String)} (simple : Simple names joins)
    (accepted : AcceptedNames names) (known : first ∈ names) :
    Simple (NodeId.user :: names) ((NodeId.user, first) :: joins) :=
  simple.enter accepted.user_absent known

theorem Chain.ends_lines : (Chain.lines bidirectional (first :: rest)).map Line.ends =
    (NodeId.user, first) ::
      if bidirectional = true ∧ rest ≠ [] then (first :: rest).zip (rest ++ [first])
      else path (first :: rest) := by
  have steps : (Chain.lines false (first :: rest)).map Line.ends =
      (NodeId.user, first) :: path (first :: rest) := by
    simp only [Chain.lines, List.append_nil, List.map_cons, List.map_zipWith]
    rfl
  cases bidirectional with
  | false => simpa using steps
  | true =>
    cases rest with
    | nil => rfl
    | cons next rest =>
      have last : (next :: rest).getLast? = some ((first :: next :: rest).getLast (by simp)) := by
        simp [List.getLast?_eq_some_getLast]
      rw [if_pos (by simp), path_closed, ← List.cons_append, ← steps]
      simp [Chain.lines, last, Line.ends]

theorem Chain.lines_simple (accepted : AcceptedNames names) :
    Simple (NodeId.user :: names) ((Chain.lines bidirectional names).map Line.ends) := by
  cases names with
  | nil => exact .nil
  | cons first rest =>
    rw [Chain.ends_lines]
    refine Simple.fromUser ?_ accepted List.mem_cons_self
    split
    · rename_i loop
      exact cycle_simple accepted.distinct loop.2
    · exact path_simple accepted.distinct

theorem Ring.ends_lines : (Ring.lines crossConnections (first :: rest)).map Line.ends =
    (NodeId.user, first) ::
      if crossConnections = true then (peerLines (first :: rest)).map Line.ends
      else if rest = [] then [] else (first :: rest).zip (rest ++ [first]) := by
  unfold Ring.lines
  rw [List.map_cons]
  cases crossConnections with
  | true => rfl
  | false =>
    cases rest with
    | nil => rfl
    | cons next rest =>
      simp only [Bool.false_eq_true, if_false, List.isEmpty_cons, reduceCtorEq, List.map_zipWith]
      rfl

theorem Ring.lines_simple (accepted : AcceptedNames names) :
    Simple (NodeId.user :: names) ((Ring.lines crossConnections names).map Line.ends) := by
  cases names with
  | nil => exact .nil
  | cons first rest =>
    rw [Ring.ends_lines]
    refine Simple.fromUser ?_ accepted List.mem_cons_self
    split
    · exact peerLines_simple accepted.distinct
    · split
      · exact .nil
      · rename_i several
        exact cycle_simple accepted.distinct several

theorem Hub.ends_lines {scene : Scene} : (Hub.plan scene).lines.map Line.ends =
    (NodeId.user, NodeId.hub) ::
      star NodeId.hub NodeId.hub scene.visual.bidirectional scene.names := by
  rw [Hub.plan, List.map_cons, List.map_flatMap]
  cases scene.visual.bidirectional <;> rfl

theorem Hub.lines_simple {scene : Scene} (accepted : AcceptedNames scene.names) :
    Simple (NodeId.user :: NodeId.hub :: scene.names) ((Hub.plan scene).lines.map Line.ends) := by
  rw [Hub.ends_lines]
  have absent : NodeId.hub ∉ scene.names := accepted.absent (by decide)
  have inner : Simple (NodeId.hub :: scene.names)
      (star NodeId.hub NodeId.hub scene.visual.bidirectional scene.names) :=
    (star_simple accepted.distinct absent absent).mono (by simp)
  refine inner.enter ?_ List.mem_cons_self
  exact List.not_mem_cons_of_ne_of_not_mem (by decide) accepted.user_absent

theorem Tree.plan_lines {scene : Scene} :
    (Tree.plan scene).lines = Tree.lines scene.visual.bidirectional scene.names := by
  unfold Tree.plan
  split <;> rfl

theorem Tree.ends_lines : (Tree.lines bidirectional (first :: rest)).map Line.ends =
    (NodeId.user, first) :: star first first bidirectional rest := by
  rw [Tree.lines, List.map_cons, List.map_flatMap]
  cases bidirectional <;> rfl

theorem Tree.lines_simple (accepted : AcceptedNames names) :
    Simple (NodeId.user :: names) ((Tree.lines bidirectional names).map Line.ends) := by
  cases names with
  | nil => exact .nil
  | cons supervisor workers =>
    rw [Tree.ends_lines]
    refine Simple.fromUser ?_ accepted List.mem_cons_self
    obtain ⟨fresh, distinct⟩ := List.nodup_cons.mp accepted.distinct
    exact (star_simple distinct fresh fresh).mono (by simp)

theorem ForkJoin.ends_lines : (ForkJoin.lines names).map Line.ends =
    (NodeId.user, NodeId.distribute) :: star NodeId.distribute NodeId.aggregate true names := by
  rw [ForkJoin.lines, List.map_cons, List.map_flatMap]
  rfl

theorem ForkJoin.lines_simple (accepted : AcceptedNames names) :
    Simple (NodeId.user :: NodeId.distribute :: NodeId.aggregate :: names)
      ((ForkJoin.lines names).map Line.ends) := by
  rw [ForkJoin.ends_lines]
  have inner : Simple _ (star NodeId.distribute NodeId.aggregate true names) :=
    star_simple accepted.distinct (accepted.absent (by decide))
      (accepted.absent (by decide))
  refine inner.enter ?_ List.mem_cons_self
  exact List.not_mem_cons_of_ne_of_not_mem (by decide)
    (List.not_mem_cons_of_ne_of_not_mem (by decide) accepted.user_absent)

theorem Mesh.ends_lines : (Mesh.lines router peers activity).map Line.ends =
    (NodeId.user, router) :: (star router router true peers ++
      (peerLines (peers.filter activity.contains)).map Line.ends) := by
  rw [Mesh.lines, List.map_cons, List.map_append, List.map_flatMap]
  rfl

theorem Mesh.lines_simple (accepted : AcceptedNames (router :: peers)) :
    Simple (NodeId.user :: router :: peers)
      ((Mesh.lines router peers activity).map Line.ends) := by
  obtain ⟨fresh, distinct⟩ := List.nodup_cons.mp accepted.distinct
  rw [Mesh.ends_lines]
  refine Simple.fromUser ?_ accepted List.mem_cons_self
  have links : Simple peers ((peerLines (peers.filter activity.contains)).map Line.ends) :=
    (peerLines_simple (distinct.filter _)).mono List.filter_sublist.subset
  refine ((star_simple distinct fresh fresh).mono (by simp)).append
    (links.mono (List.subset_cons_self _ _)) ?_
  -- every way has the router at one end, and no link has
  intro join inner link
  obtain ⟨known, knownToo⟩ := links.known join link
  obtain ⟨name, _, rfl | ⟨_, rfl⟩⟩ := mem_star.mp inner
  · exact fresh known
  · exact fresh knownToo

end AgentTeams.Diagram
