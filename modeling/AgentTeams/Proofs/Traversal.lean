import Mathlib.Data.List.Forall2

/-! Something that may fail is done for each item of a list. It is done for all of them or it fails,
and of several failures the first one is told of. -/
namespace AgentTeams.Traversal

variable {α β γ ε : Type} {run : α → Except ε β} {item : α} {items : List α} {results : List β}
  {error : ε}

theorem map_eq_map_iff {left : α → γ} {right : β → γ} : items.map left = results.map right ↔
    List.Forall₂ (fun item result => left item = right result) items results := by
  rw [← List.forall₂_eq_eq_eq, List.forall₂_map_left_iff, List.forall₂_map_right_iff]

theorem mapM_eq_ok_iff : items.mapM run = .ok results ↔
    List.Forall₂ (fun item result => run item = .ok result) items results := by
  induction items generalizing results with
  | nil => simp [pure, Except.pure, eq_comm]
  | cons item items ih =>
    rw [List.mapM_cons, List.forall₂_cons_left_iff]
    simp only [← ih]
    cases run item with
    | error fault => simp [bind, Except.bind]
    | ok result => cases items.mapM run <;> simp [bind, Except.bind, pure, Except.pure, eq_comm]

theorem mapM_cons_eq_error_iff : (item :: items).mapM run = .error error ↔
    run item = .error error ∨ (∃ result, run item = .ok result) ∧ items.mapM run = .error error := by
  rw [List.mapM_cons]
  cases run item with
  | error fault => simp [bind, Except.bind]
  | ok result => cases items.mapM run <;> simp [bind, Except.bind, pure, Except.pure]

/-- The error is that of the first item that fails. -/
theorem mapM_eq_error_iff : items.mapM run = .error error ↔
    ∃ before item after, items = before ++ item :: after ∧
      (∃ results, List.Forall₂ (fun item result => run item = .ok result) before results) ∧
      run item = .error error := by
  induction items with
  | nil => simp [pure, Except.pure]
  | cons first rest ih =>
    rw [mapM_cons_eq_error_iff, ih]
    constructor
    · rintro (fails | ⟨⟨result, done⟩, before, item, after, rfl, ⟨results, earlier⟩, fails⟩)
      · exact ⟨[], first, rest, rfl, ⟨[], .nil⟩, fails⟩
      · exact ⟨first :: before, item, after, rfl, ⟨result :: results, .cons done earlier⟩, fails⟩
    · rintro ⟨before, item, after, split, ⟨results, earlier⟩, fails⟩
      cases earlier with
      | nil =>
        cases split
        exact .inl fails
      | cons done earlier =>
        cases split
        exact .inr ⟨⟨_, done⟩, _, item, after, rfl, ⟨_, earlier⟩, fails⟩

end AgentTeams.Traversal
