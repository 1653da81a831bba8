import AgentTeams.Proofs.Json.Storing
import AgentTeams.TerminationRule

/-! Termination rules come back from storage, however deep their conditions stand inside each
other. -/
namespace AgentTeams.TerminationRule

open Json

/-- How deep arrays and objects stand inside each other in what is stored of a rule. -/
def depth (rule : TerminationRule) : Nat :=
  (Json.Tree.ofJson rule.toJson.canonical).height

theorem toJsons_eq_map (rules : List TerminationRule) : toJsons rules = rules.map toJson := by
  induction rules with
  | nil => rfl
  | cons rule rest ih => rw [toJsons, ih, List.map_cons]

theorem toJson_any (conditions : List TerminationRule) :
    (any conditions).toJson = .obj [(Tagged.tagField, .str "any"),
      ("conditions", .arr (conditions.map toJson))] := by
  rw [toJson, toJsons_eq_map, Tagged.tagField]

theorem depth_lt_of_mem {conditions : List TerminationRule} {rule : TerminationRule}
    (member : rule ∈ conditions) : rule.depth < (any conditions).depth := by
  have stored : rule.toJson.canonical ∈ canonicalItems (conditions.map toJson) := by
    rw [canonicalItems_eq_map]
    exact List.mem_map_of_mem (List.mem_map_of_mem member)
  have within := Json.Tree.height_le_heightItems stored
  have outside : (any conditions).depth =
      Json.Tree.heightItems (Json.Tree.ofItems (canonicalItems (conditions.map toJson))) + 2 := by
    rw [depth, toJson_any, Tagged.canonical_tagged (by decide)]
    simp [canonical, Json.Tree.ofJson, Json.Tree.ofMembers, Json.Tree.height,
      Json.Tree.heightMembers]
  rw [outside, depth]
  omega

theorem restores_decodeWithin {deep : Nat} {nested : Bool} {rule : TerminationRule}
    (within : rule.depth < deep) : Restores toJson (decodeWithin nested deep) rule := by
  induction deep generalizing nested rule with
  | zero => exact absurd within (Nat.not_lt_zero _)
  | succ deep ih =>
    cases rule with
    | textMention text =>
      have field := Record.decode_required "text" (restores_string text)
      exact bind_eq_ok_iff.mpr ⟨_, Tagged.split_stored (by decide) rfl,
        bind_eq_ok_iff.mpr ⟨text, field, rfl⟩⟩
    | maxMessages limit =>
      have field := Record.decode_required "limit" (restores_word32 limit)
      exact bind_eq_ok_iff.mpr ⟨_, Tagged.split_stored (by decide) rfl,
        bind_eq_ok_iff.mpr ⟨limit, field, rfl⟩⟩
    | any conditions =>
      have each : ∀ rule ∈ conditions, Restores toJson (decodeWithin true deep) rule := by
        intro rule member
        have less := depth_lt_of_mem member
        exact ih (by omega)
      have field := Record.decode_required "conditions" (restores_list each)
      unfold Restores
      rw [toJson_any]
      exact bind_eq_ok_iff.mpr ⟨_, Tagged.split_stored (by decide) rfl,
        bind_eq_ok_iff.mpr ⟨conditions, field, rfl⟩⟩

theorem restores_decoder (rule : TerminationRule) : Restores toJson decoder rule :=
  restores_decodeWithin (Nat.lt_succ_self _)

end AgentTeams.TerminationRule
