import AgentTeams.Memo

/-! Memo tables against the computation that they save. A table is faithful to requests when every
value in it was computed for one of them; as long as no two of the requests share a key, asking a
faithful table is as good as computing. -/
namespace AgentTeams.Memo

variable {memo : Memo α} {requests : List ρ} {keyOf : ρ → UInt64} {computes : ρ → α → Prop}

/-- Every stored value was computed for one of these requests and stands under its key. -/
def Faithful (memo : Memo α) (requests : List ρ) (keyOf : ρ → UInt64) (computes : ρ → α → Prop) :
    Prop :=
  ∀ entry ∈ memo.entries, ∃ request ∈ requests,
    keyOf request = entry.1 ∧ computes request entry.2.value

theorem faithful_of_isEmpty (empty : memo.entries = []) :
    memo.Faithful requests keyOf computes := by
  intro entry stored
  simp [empty] at stored

theorem Faithful.store (faithful : memo.Faithful requests keyOf computes) {request : ρ} {value : α}
    (asked : request ∈ requests) (computed : computes request value) :
    (memo.store (keyOf request) value).2.Faithful requests keyOf computes := by
  intro entry stored
  rcases List.mem_cons.mp stored with fresh | old
  · rw [fresh]
    exact ⟨request, asked, rfl, computed⟩
  · exact faithful entry old

theorem mem_of_find? {key : UInt64} {stored : Ticketed α} (found : memo.find? key = some stored) :
    (key, stored) ∈ memo.entries := by
  unfold find? at found
  obtain ⟨before, after, split, _⟩ := List.lookup_eq_some_iff.mp found
  rw [split]
  exact List.mem_append_right _ List.mem_cons_self

theorem Faithful.computes_of_find? (faithful : memo.Faithful requests keyOf computes) {request : ρ}
    (apart : ∀ other ∈ requests, keyOf other = keyOf request → other = request)
    {stored : Ticketed α} (found : memo.find? (keyOf request) = some stored) :
    computes request stored.value := by
  obtain ⟨other, asked, key, computed⟩ := faithful _ (mem_of_find? found)
  exact apart other asked key ▸ computed

/-- What asking a table can come to: a hit, a failure, or a value that is stored from now on. -/
theorem obtain?_cases (memo : Memo α) (key : UInt64) (compute : Unit → Except ε α) :
    (∃ stored, memo.find? key = some stored ∧ memo.obtain? key compute = (.ok stored, memo)) ∨
    (∃ error, compute () = .error error ∧ memo.obtain? key compute = (.error error, memo)) ∨
    ∃ value, compute () = .ok value ∧ memo.obtain? key compute =
      (.ok (memo.store key value).1, (memo.store key value).2) := by
  unfold obtain?
  cases found : memo.find? key with
  | some stored => exact .inl ⟨stored, rfl, rfl⟩
  | none =>
    cases computed : compute () with
    | error error => exact .inr (.inl ⟨error, rfl, rfl⟩)
    | ok value => exact .inr (.inr ⟨value, rfl, rfl⟩)

theorem snd_obtain?_of_error {key : UInt64} {compute : Unit → Except ε α}
    (failed : (memo.obtain? key compute).1 = .error error) :
    (memo.obtain? key compute).2 = memo := by
  rcases memo.obtain?_cases key compute with
    ⟨stored, _, asked⟩ | ⟨_, _, asked⟩ | ⟨value, _, asked⟩
  · rw [asked]
  · rw [asked]
  · simp [asked] at failed

section Computation

variable {compute : ρ → Except ε α} {request : ρ}

/-- Asking a faithful table keeps it faithful, whether keys clash or not. -/
theorem Faithful.obtain?
    (faithful : memo.Faithful requests keyOf fun request value => compute request = .ok value)
    (asked : request ∈ requests) :
    (memo.obtain? (keyOf request) fun _ => compute request).2.Faithful requests keyOf
      fun request value => compute request = .ok value := by
  rcases memo.obtain?_cases (keyOf request) fun _ => compute request with
    ⟨_, _, answer⟩ | ⟨_, _, answer⟩ | ⟨value, computed, answer⟩
  · rw [answer]
    exact faithful
  · rw [answer]
    exact faithful
  · rw [answer]
    exact faithful.store asked computed

/-- Asking a faithful table is as good as computing. -/
theorem Faithful.obtain?_value
    (faithful : memo.Faithful requests keyOf fun request value => compute request = .ok value)
    (apart : ∀ other ∈ requests, keyOf other = keyOf request → other = request) :
    (memo.obtain? (keyOf request) fun _ => compute request).1.map (·.value) = compute request := by
  rcases memo.obtain?_cases (keyOf request) fun _ => compute request with
    ⟨stored, found, answer⟩ | ⟨error, failed, answer⟩ | ⟨value, computed, answer⟩
  · rw [answer]
    exact (faithful.computes_of_find? apart found).symm
  · rw [answer, failed]
    rfl
  · rw [answer, computed]
    rfl

end Computation

section Total

variable {compute : ρ → α} {request : ρ}

theorem Faithful.obtain
    (faithful : memo.Faithful requests keyOf fun request value => compute request = value)
    (asked : request ∈ requests) :
    (memo.obtain (keyOf request) fun _ => compute request).2.Faithful requests keyOf
      fun request value => compute request = value := by
  unfold Memo.obtain
  cases memo.find? (keyOf request) with
  | some stored => exact faithful
  | none => exact faithful.store asked rfl

theorem Faithful.obtain_value
    (faithful : memo.Faithful requests keyOf fun request value => compute request = value)
    (apart : ∀ other ∈ requests, keyOf other = keyOf request → other = request) :
    (memo.obtain (keyOf request) fun _ => compute request).1.value = compute request := by
  unfold Memo.obtain
  cases found : memo.find? (keyOf request) with
  | some stored => exact (faithful.computes_of_find? apart found).symm
  | none => rfl

end Total

end AgentTeams.Memo
