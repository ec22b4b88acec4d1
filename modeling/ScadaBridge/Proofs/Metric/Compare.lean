import ScadaBridge.Proofs.Metric.Outcome

/-!
# Comparing before merging

`Metric.compare` looks through two metrics as `Metric.assign` does, but changes nothing. It finds a difference
where the merge changes something, and in one case more: a leaf that has a value differs from one without, which
the merge leaves alone (`Metric.Omits`, `compare_eq_different_iff`). So the comparison says beforehand what the
merge will do (`compare_predicts_assign`).
-/

namespace ScadaBridge

open Ordered

/-! ## Leaves and parameters -/

theorem Leaf.compare_eq_different_iff {stored incoming : Leaf} :
    stored.compare incoming = .different ↔
      (stored.assign incoming).2.outcome = .assigned ∨
        (stored.declared = incoming.declared ∧ stored.value ≠ none ∧ incoming.value = none) := by
  unfold compare assign
  by_cases hdeclared : stored.declared = incoming.declared
  · rw [if_neg (not_not.2 hdeclared), if_neg (not_not.2 hdeclared)]
    cases hb : incoming.value with
    | none => cases ha : stored.value <;> simp [hdeclared, Assignment.outcome]
    | some b =>
      cases ha : stored.value with
      | none => simp [Assignment.outcome]
      | some a =>
        dsimp only
        cases a.compare b <;> simp [Assignment.outcome]
  · simp [hdeclared, Assignment.outcome]

theorem Leaf.assign_of_compare_eq_typeMismatch {stored incoming : Leaf}
    (h : stored.compare incoming = .typeMismatch) : (stored.assign incoming).2 = .typeMismatch := by
  unfold compare at h
  unfold assign
  by_cases hdeclared : stored.declared = incoming.declared
  · rw [if_neg (not_not.2 hdeclared)] at h ⊢
    cases hb : incoming.value with
    | none =>
      cases ha : stored.value <;> simp [ha, hb] at h
    | some b =>
      cases ha : stored.value with
      | none => simp [ha, hb] at h
      | some a =>
        simp only [ha, hb] at h
        simp [h]
  · rw [if_pos hdeclared]

/-- Parameters differ if one of them would be taken over. -/
theorem parametersDiffer_eq_true_iff {stored incoming : List Parameter} :
    parametersDiffer stored incoming = true ↔
      ∃ p ∈ incoming, Parameter.verdict (find? Parameter.name p.name stored) p = .assigned := by
  unfold parametersDiffer
  rw [List.any_eq_true]
  refine exists_congr fun p => and_congr_right fun _ => ?_
  unfold compareParameter? Parameter.verdict Scalar.assign
  cases find? Parameter.name p.name stored with
  | none => simp
  | some q =>
    dsimp only [Option.map_some]
    cases q.value.compare p.value <;> simp

namespace Metric

/-! ## Metrics -/

/-- At some level the update names a leaf that has a value, and brings none for it. -/
inductive Omits : Metric → Metric → Prop where
  | leaf {stored incoming : Leaf} (declared : stored.declared = incoming.declared) (known : stored.value ≠ none)
      (omitted : incoming.value = none) : Omits (.leaf stored) (.leaf incoming)
  | udt {stored incoming : UdtHead} {existing children : List Metric} {old m : Metric}
      (same : stored.sameDefinition incoming = true) (listed : m ∈ children)
      (found : find? name m.name existing = some old) (child : Omits old m) :
      Omits (.udt stored existing) (.udt incoming children)

theorem omits_udt_iff {stored incoming : UdtHead} {existing children : List Metric} :
    Omits (.udt stored existing) (.udt incoming children) ↔
      stored.sameDefinition incoming = true ∧
        ∃ m ∈ children, ∃ old, find? name m.name existing = some old ∧ Omits old m := by
  constructor
  · intro h
    cases h with
    | udt same listed found child => exact ⟨same, _, listed, _, found, child⟩
  · rintro ⟨same, m, listed, old, found, child⟩
    exact .udt same listed found child

/-- An update that has a value for each of its leaves omits none. -/
theorem Omits.exists_leaf {stored incoming : Metric} (h : stored.Omits incoming) :
    ∃ path l, (path, l) ∈ incoming.leaves ∧ l.value = none := by
  induction h with
  | leaf _ _ omitted => exact ⟨[], _, List.mem_singleton_self _, omitted⟩
  | @udt _ _ _ children _ m _ listed _ _ ih =>
    obtain ⟨path, l, hl, hnone⟩ := ih
    exact ⟨m.name :: path, l, mem_leavesOf.2 ⟨m, listed, path, hl, rfl⟩, hnone⟩

theorem childrenDiffer_eq_true_iff {stored children : List Metric} :
    childrenDiffer stored children = true ↔
      ∃ m ∈ children, ∀ old, find? name m.name stored = some old → old.compare m = .different := by
  induction children with
  | nil => simp [childrenDiffer]
  | cons m rest ih =>
    rw [childrenDiffer, Bool.or_eq_true, ih, List.exists_mem_cons_iff]
    refine or_congr ?_ Iff.rfl
    cases find? name m.name stored <;> simp

theorem compare_udt_eq_different_iff {stored incoming : UdtHead} {existing children : List Metric} :
    (Metric.udt stored existing).compare (.udt incoming children) = .different ↔
      stored.sameDefinition incoming = true ∧
        ((∃ m ∈ children, ∀ old, find? name m.name existing = some old → old.compare m = .different) ∨
          ∃ p ∈ incoming.parameters,
            Parameter.verdict (find? Parameter.name p.name stored.parameters) p = .assigned) := by
  rw [← childrenDiffer_eq_true_iff, ← parametersDiffer_eq_true_iff, ← Bool.or_eq_true, compare]
  cases stored.sameDefinition incoming with
  | false => simp
  | true =>
    simp only [Bool.not_true, Bool.false_eq_true, if_false, true_and]
    split
    · next hdiffer => simp [hdiffer]
    · next hsame => simp [hsame]

/-- The comparison finds a difference if the merge would change something, or would leave a leaf alone for which
the update has no value. -/
theorem compare_eq_different_iff (stored incoming : Metric) :
    stored.compare incoming = .different ↔
      (stored.assign incoming).2.outcome = .assigned ∨ stored.Omits incoming := by
  induction incoming using Metric.induction generalizing stored with
  | leaf b =>
    cases stored with
    | leaf a =>
      show a.compare b = .different ↔ (a.assign b).2.outcome = .assigned ∨ _
      rw [Leaf.compare_eq_different_iff]
      refine or_congr Iff.rfl ⟨fun ⟨declared, known, omitted⟩ => .leaf declared known omitted, fun h => ?_⟩
      cases h with
      | leaf declared known omitted => exact ⟨declared, known, omitted⟩
    | udt head existing =>
      refine iff_of_false (by simp [compare]) ?_
      rintro (h | h)
      · simp [assign, Assignment.outcome] at h
      · cases h
  | udt incoming children ih =>
    cases stored with
    | leaf a =>
      refine iff_of_false (by simp [compare]) ?_
      rintro (h | h)
      · simp [assign, Assignment.outcome] at h
      · cases h
    | udt stored existing =>
      rw [compare_udt_eq_different_iff, outcome_assign_udt_eq_assigned_iff, omits_udt_iff, ← and_or_left]
      refine and_congr_right fun _ => ?_
      -- a child differs if it would be taken over or omits a leaf; a parameter cannot omit anything
      have hchild : ∀ m ∈ children, (∀ old, find? name m.name existing = some old → old.compare m = .different) ↔
          verdict (find? name m.name existing) m = .assigned ∨
            ∃ old, find? name m.name existing = some old ∧ old.Omits m := by
        intro m hm
        cases find? name m.name existing with
        | none => simp [verdict]
        | some old => simpa [verdict] using ih m hm old
      have hchildren : (∃ m ∈ children, ∀ old, find? name m.name existing = some old → old.compare m = .different) ↔
          (∃ m ∈ children, verdict (find? name m.name existing) m = .assigned) ∨
            ∃ m ∈ children, ∃ old, find? name m.name existing = some old ∧ old.Omits m := by
        rw [← exists_or]
        refine exists_congr fun m => ?_
        rw [← and_or_left]
        exact and_congr_right (hchild m)
      rw [hchildren, or_right_comm]
      simp only [partVerdicts, List.mem_append, List.mem_map]

theorem assign_of_compare_eq_typeMismatch {stored incoming : Metric} (h : stored.compare incoming = .typeMismatch) :
    (stored.assign incoming).2 = .typeMismatch := by
  cases incoming with
  | leaf b =>
    cases stored with
    | leaf a => exact Leaf.assign_of_compare_eq_typeMismatch h
    | udt head existing => rfl
  | udt incoming children =>
    cases stored with
    | leaf a => rfl
    | udt stored existing =>
      rw [compare] at h
      cases hsame : stored.sameDefinition incoming with
      | false => simp [assign, hsame]
      | true =>
        simp only [hsame, Bool.not_true, Bool.false_eq_true, if_false] at h
        split at h <;> cases h

/-- The comparison predicts the merge: what the merge changes differs, what does not match is refused, and where
nothing differs nothing is changed. If the update has a value for each of its leaves, it differs exactly if the
merge changes something. -/
theorem compare_predicts_assign (stored incoming : Metric) :
    ((stored.assign incoming).2.outcome = .assigned → stored.compare incoming = .different) ∧
      (stored.compare incoming = .typeMismatch → (stored.assign incoming).2 = .typeMismatch) ∧
      (stored.compare incoming = .equal → (stored.assign incoming).1 = stored) ∧
      ((∀ e ∈ incoming.leaves, e.2.value ≠ none) →
        (stored.compare incoming = .different ↔ (stored.assign incoming).2.outcome = .assigned)) := by
  have hiff := compare_eq_different_iff stored incoming
  refine ⟨fun htaken => hiff.2 (.inl htaken), assign_of_compare_eq_typeMismatch, fun hequal => ?_, fun hvalues => ?_⟩
  · have hkept : (stored.assign incoming).2.outcome ≠ .assigned := fun htaken => by
      have hdifferent := hiff.2 (.inl htaken)
      rw [hequal] at hdifferent
      cases hdifferent
    exact assign_refused (Assignment.change?_eq_none_iff.2 hkept)
  · have hcomplete : ¬stored.Omits incoming := fun homits => by
      obtain ⟨path, l, hl, hnone⟩ := homits.exists_leaf
      exact hvalues (path, l) hl hnone
    rw [hiff, or_iff_left hcomplete]

/-- The update of the pump has a value for each leaf; its speed and its valve differ, so it will be taken over. -/
theorem pump_update_predicted :
    (∀ e ∈ (pumpUpdate 0x40000000 2).leaves, e.2.value ≠ none) ∧
      (runningPump 0x3fc00000 1).compare (pumpUpdate 0x40000000 2) = .different ∧
      ((runningPump 0x3fc00000 1).assign (pumpUpdate 0x40000000 2)).2.outcome = .assigned := by
  have hvalues : ∀ e ∈ (pumpUpdate 0x40000000 2).leaves, e.2.value ≠ none := by decide +kernel
  have hdifferent : (runningPump 0x3fc00000 1).compare (pumpUpdate 0x40000000 2) = .different := by decide +kernel
  obtain ⟨-, -, -, hiff⟩ := compare_predicts_assign (runningPump 0x3fc00000 1) (pumpUpdate 0x40000000 2)
  exact ⟨hvalues, hdifferent, (hiff hvalues).1 hdifferent⟩

end Metric

end ScadaBridge
