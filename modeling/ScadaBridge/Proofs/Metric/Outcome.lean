import ScadaBridge.Proofs.Metric.Exact

/-!
# Outcomes of merges

The outcome of an update of a UDT follows from what becomes of its parts (`outcome_assign_udt`): the UDT is
changed if a part is taken over, and the update is refused if every part of it is. An update that comes once
more fares as before, but that nothing is left to be taken over (`verdict_merged`). So merging is idempotent
(`assign_idempotent`).
-/

namespace ScadaBridge

open Ordered

namespace Outcome

/-- The outcome of an update that comes once more; what was taken over is known by then. -/
def again : Outcome → Outcome
  | .assigned | .noChange => .noChange
  | .typeMismatch => .typeMismatch

theorem again_ne_assigned (o : Outcome) : o.again ≠ .assigned := by
  cases o <;> simp [again]

theorem again_eq_self {o : Outcome} (h : o ≠ .assigned) : o.again = o := by
  cases o with
  | assigned => exact absurd rfl h
  | noChange => rfl
  | typeMismatch => rfl

theorem again_of_ne {o : Outcome} (h : o ≠ .typeMismatch) : o.again = .noChange := by
  cases o with
  | typeMismatch => exact absurd rfl h
  | noChange => rfl
  | assigned => rfl

/-- The outcome of an update of a UDT, from the outcomes of its parts. -/
def ofParts (parts : List Outcome) : Outcome :=
  if .assigned ∈ parts then .assigned
  else if parts ≠ [] ∧ ∀ o ∈ parts, o = .typeMismatch then .typeMismatch
  else .noChange

theorem ofParts_eq_assigned_iff {parts : List Outcome} : ofParts parts = .assigned ↔ .assigned ∈ parts := by
  unfold ofParts
  split
  · next hmem => simp [hmem]
  · next hmem =>
    simp only [hmem, iff_false]
    split <;> simp

/-- An update of which no part is refused is not refused. -/
theorem ofParts_ne_typeMismatch {parts : List Outcome} (h : ∀ o ∈ parts, o ≠ .typeMismatch) :
    ofParts parts ≠ .typeMismatch := by
  unfold ofParts
  split
  · simp
  · split
    · next hall =>
      obtain ⟨o, ho⟩ := List.exists_mem_of_ne_nil parts hall.1
      exact absurd (hall.2 o ho) (h o ho)
    · simp

theorem ofParts_map_again (parts : List Outcome) : ofParts (parts.map again) = (ofParts parts).again := by
  by_cases hmem : Outcome.assigned ∈ parts
  · have hnone : Outcome.assigned ∉ parts.map again := fun h => by
      obtain ⟨o, -, ho⟩ := List.mem_map.1 h
      exact again_ne_assigned o ho
    have hknown : Outcome.noChange ∈ parts.map again := List.mem_map.2 ⟨_, hmem, rfl⟩
    have hsome : ¬∀ o ∈ parts.map again, o = .typeMismatch := fun hall => by
      simpa using hall _ hknown
    rw [ofParts_eq_assigned_iff.2 hmem, ofParts, if_neg hnone, if_neg fun h => hsome h.2, again]
  · have hself : parts.map again = parts := by
      refine (List.map_congr_left fun o ho => again_eq_self ?_).trans (List.map_id parts)
      rintro rfl
      exact hmem ho
    rw [hself, again_eq_self (mt ofParts_eq_assigned_iff.1 hmem)]

end Outcome

@[simp] theorem UdtHead.sameDefinition_self (head : UdtHead) : head.sameDefinition head = true := by
  simp [sameDefinition]

theorem Assignment.change?_eq_none_iff {result : Assignment} :
    result.change? = none ↔ result.outcome ≠ .assigned := by
  cases result <;> simp [change?, outcome]

theorem Assignment.outcome_eq_noChange_iff {result : Assignment} :
    result.outcome = .noChange ↔ result = .noChange := by
  cases result <;> simp [outcome]

theorem Assignment.outcome_eq_typeMismatch_iff {result : Assignment} :
    result.outcome = .typeMismatch ↔ result = .typeMismatch := by
  cases result <;> simp [outcome]

/-! ## Parameters -/

/-- What becomes of an incoming parameter beside the stored one of its name. -/
def Parameter.verdict (stored : Option Parameter) (p : Parameter) : Outcome :=
  match stored with
  | some q => (q.value.assign p.value).2
  | none => .assigned

/-- A parameter that comes once more meets the one that was kept of it. -/
theorem Parameter.verdict_merged (stored : Option Parameter) (p : Parameter) :
    Parameter.verdict (some (Parameter.merged stored p)) p = (Parameter.verdict stored p).again := by
  cases stored with
  | none => simp [merged, verdict, Scalar.assign, Scalar.compare, Outcome.again]
  | some q =>
    by_cases htype : q.value.dataType = p.value.dataType
    · by_cases hvalue : q.value = p.value
      · simp [merged, verdict, Scalar.assign, Scalar.compare, hvalue, Outcome.again]
      · simp [merged, verdict, Scalar.assign, Scalar.compare, htype, hvalue, Outcome.again]
    · simp [merged, verdict, Scalar.assign, Scalar.compare, htype, Outcome.again]

theorem mergeParameters_cons_of_verdict (stored : List Parameter) (p : Parameter) (rest : List Parameter) :
    mergeParameters stored (p :: rest) =
      match Parameter.verdict (find? Parameter.name p.name stored) p with
      | .noChange => mergeParameters stored rest
      | .typeMismatch =>
        let merged := mergeParameters stored rest
        { merged with mismatches := merged.mismatches + 1 }
      | .assigned => { mergeParameters (Ordered.insert Parameter.name p stored) rest with changed := true } := by
  unfold Parameter.verdict
  rw [mergeParameters]
  cases hfound : find? Parameter.name p.name stored with
  | none => simp [compareParameter?, hfound]
  | some q =>
    simp only [compareParameter?, hfound, Option.map_some, Scalar.assign]
    cases q.value.compare p.value <;> rfl

/-- Parameters change if one of them is taken over. -/
theorem changed_mergeParameters_iff {stored incoming : List Parameter} :
    (mergeParameters stored incoming).changed = true ↔
      ∃ p ∈ incoming, Parameter.verdict (find? Parameter.name p.name stored) p = .assigned := by
  induction incoming with
  | nil => simp [mergeParameters]
  | cons p rest ih =>
    rw [mergeParameters_cons_of_verdict, List.exists_mem_cons_iff]
    cases hp : Parameter.verdict (find? Parameter.name p.name stored) p with
    | assigned => simp
    | noChange => simpa using ih
    | typeMismatch => simpa using ih

theorem mismatches_mergeParameters {incoming : List Parameter} (hs : Ordered.Sorted Parameter.name incoming)
    (stored : List Parameter) :
    (mergeParameters stored incoming).mismatches =
      incoming.countP fun p => Parameter.verdict (find? Parameter.name p.name stored) p = .typeMismatch := by
  induction incoming generalizing stored with
  | nil => rfl
  | cons p rest ih =>
    rw [mergeParameters_cons_of_verdict, List.countP_cons]
    cases hp : Parameter.verdict (find? Parameter.name p.name stored) p with
    | assigned =>
      -- the parameter that was taken over is not looked at again
      have hrest : ∀ q ∈ rest, find? Parameter.name q.name (Ordered.insert Parameter.name p stored) =
          find? Parameter.name q.name stored :=
        fun q hq => find?_insert_of_ne _ _ (hs.head_ne hq) _
      simp only [ih hs.tail, reduceCtorEq, decide_false, Bool.false_eq_true, if_false, Nat.add_zero]
      refine List.countP_congr fun q hq => ?_
      rw [hrest q hq]
    | noChange => simpa using ih hs.tail stored
    | typeMismatch => simpa using ih hs.tail stored

namespace Metric

/-! ## Children -/

/-- What becomes of an incoming metric beside the stored one of its name. -/
def verdict (stored : Option Metric) (incoming : Metric) : Outcome :=
  match stored with
  | some existing => (existing.assign incoming).2.outcome
  | none => .assigned

theorem told_eq_none_iff {stored : Option Metric} {incoming : Metric} :
    told stored incoming = none ↔ verdict stored incoming ≠ .assigned := by
  cases stored with
  | none => simp [told, verdict]
  | some existing => exact Assignment.change?_eq_none_iff

theorem mergeChildren_cons_of_verdict (stored : List Metric) (m : Metric) (rest : List Metric) :
    (mergeChildren stored (m :: rest)).mismatches =
      match verdict (find? name m.name stored) m with
      | .noChange => (mergeChildren stored rest).mismatches
      | .typeMismatch => (mergeChildren stored rest).mismatches + 1
      | .assigned =>
        (mergeChildren (Ordered.insert name (merged (find? name m.name stored) m) stored) rest).mismatches := by
  unfold verdict merged
  rw [mergeChildren]
  cases hfound : find? name m.name stored with
  | none => rfl
  | some existing =>
    dsimp only
    rcases existing.assign m with ⟨existing', result⟩
    cases result <;> rfl

/-- Children change if one of them is taken over. -/
theorem changes_mergeChildren_ne_nil_iff {stored incoming : List Metric} :
    (mergeChildren stored incoming).changes ≠ [] ↔
      ∃ m ∈ incoming, verdict (find? name m.name stored) m = .assigned := by
  induction incoming with
  | nil => simp [mergeChildren]
  | cons m rest ih =>
    rw [List.exists_mem_cons_iff]
    rcases mergeChildren_cons stored m rest with ⟨hnone, -, -, hchanges⟩ | ⟨change, htold, -, hchanges⟩
    · have hkept : verdict (find? name m.name stored) m ≠ .assigned := told_eq_none_iff.1 hnone
      rw [hchanges, ih]
      simp [hkept]
    · have htaken : verdict (find? name m.name stored) m = .assigned := by
        by_contra hne
        rw [told_eq_none_iff.2 hne] at htold
        cases htold
      simp [hchanges, htaken]

theorem mismatches_mergeChildren {incoming : List Metric} (hs : Ordered.Sorted name incoming) (stored : List Metric) :
    (mergeChildren stored incoming).mismatches =
      incoming.countP fun m => verdict (find? name m.name stored) m = .typeMismatch := by
  induction incoming generalizing stored with
  | nil => rfl
  | cons m rest ih =>
    rw [mergeChildren_cons_of_verdict, List.countP_cons]
    cases hm : verdict (find? name m.name stored) m with
    | assigned =>
      have hrest : ∀ c ∈ rest,
          find? name c.name (Ordered.insert name (merged (find? name m.name stored) m) stored) =
            find? name c.name stored := fun c hc => by
        refine find?_insert_of_ne _ _ ?_ _
        rw [merged_name]
        exact hs.head_ne hc
      simp only [ih hs.tail, reduceCtorEq, decide_false, Bool.false_eq_true, if_false, Nat.add_zero]
      refine List.countP_congr fun c hc => ?_
      rw [hrest c hc]
    | noChange => simpa using ih hs.tail stored
    | typeMismatch => simpa using ih hs.tail stored

/-! ## Metrics -/

/-- What becomes of the parts of an update of a UDT, the children first. -/
def partVerdicts (stored : UdtHead) (existing : List Metric) (incoming : UdtHead) (children : List Metric) :
    List Outcome :=
  children.map (fun m => verdict (find? name m.name existing) m) ++
    incoming.parameters.map fun p => Parameter.verdict (find? Parameter.name p.name stored.parameters) p

theorem assigned_mem_partVerdicts_iff {stored incoming : UdtHead} {existing children : List Metric} :
    .assigned ∈ partVerdicts stored existing incoming children ↔
      (mergeChildren existing children).changes ≠ [] ∨
        (mergeParameters stored.parameters incoming.parameters).changed = true := by
  rw [changes_mergeChildren_ne_nil_iff, changed_mergeParameters_iff]
  simp [partVerdicts]

/-- An update changes a UDT of its definition if a part of it is taken over. -/
theorem outcome_assign_udt_eq_assigned_iff {stored incoming : UdtHead} {existing children : List Metric} :
    ((Metric.udt stored existing).assign (.udt incoming children)).2.outcome = .assigned ↔
      stored.sameDefinition incoming = true ∧ .assigned ∈ partVerdicts stored existing incoming children := by
  rw [assigned_mem_partVerdicts_iff]
  cases hsame : stored.sameDefinition incoming with
  | false => simp [assign, hsame, Assignment.outcome]
  | true =>
    simp only [assign, hsame, Bool.not_true, Bool.false_eq_true, if_false, true_and, ofMerged]
    split
    · next hchanged => simpa [List.isEmpty_iff, Assignment.outcome] using hchanged
    · next hkept =>
      refine iff_of_false ?_ (by simpa [List.isEmpty_iff] using hkept)
      split <;> simp [Assignment.outcome]

/-- An update of a UDT is judged by its parts. -/
theorem outcome_assign_udt {stored incoming : UdtHead} (existing : List Metric) {children : List Metric}
    (hi : (Metric.udt incoming children).Collated) (same : stored.sameDefinition incoming = true) :
    ((Metric.udt stored existing).assign (.udt incoming children)).2.outcome =
      .ofParts (partVerdicts stored existing incoming children) := by
  obtain ⟨hparameters, hsorted⟩ := hi.sorted
  by_cases hmem : .assigned ∈ partVerdicts stored existing incoming children
  · rw [outcome_assign_udt_eq_assigned_iff.2 ⟨same, hmem⟩, Outcome.ofParts_eq_assigned_iff.2 hmem]
  · have hkept := mt assigned_mem_partVerdicts_iff.2 hmem
    generalize hparts : partVerdicts stored existing incoming children = parts at hmem
    have hrefused : (mergeChildren existing children).mismatches +
        (mergeParameters stored.parameters incoming.parameters).mismatches = parts.countP (· = .typeMismatch) := by
      rw [← hparts, mismatches_mergeChildren hsorted, mismatches_mergeParameters hparameters, partVerdicts,
        List.countP_append, List.countP_map, List.countP_map]
      rfl
    have hcount : children.length + incoming.parameters.length = parts.length := by simp [← hparts, partVerdicts]
    have hall : (0 < parts.countP (· = .typeMismatch) && parts.countP (· = .typeMismatch) == parts.length) = true ↔
        parts ≠ [] ∧ ∀ o ∈ parts, o = .typeMismatch := by
      rw [Bool.and_eq_true, decide_eq_true_eq, beq_iff_eq, List.countP_eq_length, ← List.length_pos_iff]
      simp only [decide_eq_true_eq]
      refine and_congr_left fun hall => ?_
      rw [List.countP_eq_length.2 (by simpa using hall)]
    simp only [assign, same, Bool.not_true, Bool.false_eq_true, if_false, ofMerged, hrefused, hcount]
    rw [if_neg (by simpa [List.isEmpty_iff] using hkept), Outcome.ofParts, if_neg hmem]
    by_cases hrefuse : parts ≠ [] ∧ ∀ o ∈ parts, o = .typeMismatch
    · rw [if_pos hrefuse, if_pos (hall.2 hrefuse)]
      rfl
    · rw [if_neg hrefuse, if_neg (mt hall.1 hrefuse)]
      rfl

/-- An update of a UDT is not refused if none of its parts is. -/
theorem ofParts_partVerdicts_ne_typeMismatch {stored incoming : UdtHead} {existing children : List Metric}
    (hchildren : ∀ m ∈ children, verdict (find? name m.name existing) m ≠ .typeMismatch)
    (hparameters : ∀ p ∈ incoming.parameters,
      Parameter.verdict (find? Parameter.name p.name stored.parameters) p ≠ .typeMismatch) :
    Outcome.ofParts (partVerdicts stored existing incoming children) ≠ .typeMismatch := by
  refine Outcome.ofParts_ne_typeMismatch fun o ho => ?_
  simp only [partVerdicts, List.mem_append, List.mem_map] at ho
  rcases ho with ⟨m, hm, rfl⟩ | ⟨p, hp, rfl⟩
  · exact hchildren m hm
  · exact hparameters p hp

/-! ## The same update once more -/

/-- Parts that meet what was kept of them fare as before, but that nothing is left to be taken over. -/
theorem partVerdicts_merged {stored stored' incoming : UdtHead} {existing existing' children : List Metric}
    (hchildren : ∀ m ∈ children, find? name m.name existing' = some (merged (find? name m.name existing) m))
    (hparameters : ∀ p ∈ incoming.parameters, find? Parameter.name p.name stored'.parameters =
      some (Parameter.merged (find? Parameter.name p.name stored.parameters) p))
    (each : ∀ m ∈ children, ∀ old, verdict (some (merged old m)) m = (verdict old m).again) :
    partVerdicts stored' existing' incoming children =
      (partVerdicts stored existing incoming children).map .again := by
  simp only [partVerdicts, List.map_append, List.map_map]
  congr 1
  · refine List.map_congr_left fun m hm => ?_
    rw [hchildren m hm, each m hm, Function.comp_apply]
  · refine List.map_congr_left fun p hp => ?_
    rw [hparameters p hp, Parameter.verdict_merged, Function.comp_apply]

/-- A leaf that took over an update has its value. -/
theorem verdict_merged_leaf (stored : Option Metric) (incoming : Leaf)
    (h : verdict stored (.leaf incoming) = .assigned) :
    verdict (some (merged stored (.leaf incoming))) (.leaf incoming) = .noChange := by
  have hknown : ∀ (kept : Leaf) v, kept.declared = incoming.declared → incoming.value = some v →
      kept.value = some v → verdict (some (.leaf kept)) (.leaf incoming) = .noChange := by
    intro kept v hdeclared hv hkept
    simp [verdict, assign, Leaf.assign, hdeclared, hv, hkept, Scalar.compare, Assignment.outcome]
  cases stored with
  | none =>
    cases hv : incoming.value with
    | none => simp [verdict, merged, assign, Leaf.assign, hv, Assignment.outcome]
    | some v => exact hknown incoming v rfl hv hv
  | some existing =>
    cases existing with
    | udt head children => simp [verdict, assign, Assignment.outcome] at h
    | leaf a =>
      rcases a.assign_cases incoming with ⟨-, hnone⟩ | ⟨v, hv, hdeclared, htaken⟩
      · exact absurd h (Assignment.change?_eq_none_iff.1 hnone)
      · have hmerged : merged (some (.leaf a)) (.leaf incoming) = .leaf (a.take incoming v) := by
          show Metric.leaf (a.assign incoming).1 = _
          rw [htaken]
        rw [hmerged]
        exact hknown _ v hdeclared hv rfl

/-- What is refused or known already is so again. -/
theorem verdict_merged_of_assigned {stored : Option Metric} {incoming : Metric}
    (h : verdict stored incoming = .assigned → verdict (some (merged stored incoming)) incoming = .noChange) :
    verdict (some (merged stored incoming)) incoming = (verdict stored incoming).again := by
  by_cases htaken : verdict stored incoming = .assigned
  · rw [h htaken, htaken, Outcome.again]
  · rw [← merged_of_told_eq_none (told_eq_none_iff.2 htaken), Outcome.again_eq_self htaken]

/-- A UDT that comes once more after it was new. -/
theorem verdict_udt_self {incoming : UdtHead} {children : List Metric} (hi : (Metric.udt incoming children).Collated)
    (each : ∀ m ∈ children, ∀ old, verdict (some (merged old m)) m = (verdict old m).again) :
    verdict (some (.udt incoming children)) (.udt incoming children) = .noChange := by
  obtain ⟨hparameters, hsorted⟩ := hi.sorted
  -- as if it had been merged into a UDT without any part
  have hparts : partVerdicts incoming children incoming children =
      (partVerdicts { incoming with parameters := [] } [] incoming children).map .again := by
    refine partVerdicts_merged (fun m hm => ?_) (fun p hp => ?_) each
    · rw [hsorted.find?_of_mem hm]
      rfl
    · rw [hparameters.find?_of_mem hp]
      rfl
  have houtcome := outcome_assign_udt children hi incoming.sameDefinition_self
  rw [hparts, Outcome.ofParts_map_again] at houtcome
  refine houtcome.trans (Outcome.again_of_ne (ofParts_partVerdicts_ne_typeMismatch ?_ ?_))
  · simp [find?, verdict]
  · simp [find?, Parameter.verdict]

/-- A UDT that comes once more after it was merged. -/
theorem verdict_merged_udt {stored incoming : UdtHead} {existing children : List Metric}
    (hi : (Metric.udt incoming children).Collated)
    (each : ∀ m ∈ children, ∀ old, verdict (some (merged old m)) m = (verdict old m).again)
    (h : verdict (some (.udt stored existing)) (.udt incoming children) = .assigned) :
    verdict (some (merged (some (.udt stored existing)) (.udt incoming children))) (.udt incoming children) =
      .noChange := by
  obtain ⟨hparameters, hsorted⟩ := hi.sorted
  have hsame : stored.sameDefinition incoming = true := by
    by_contra hother
    rw [Bool.not_eq_true] at hother
    simp [verdict, assign, hother, Assignment.outcome] at h
  obtain ⟨change, hchange⟩ := Option.ne_none_iff_exists'.1 (mt told_eq_none_iff.1 (not_not.2 h))
  obtain ⟨after, hafter, hsame', hmerged⟩ : ∃ after : UdtHead,
      after.parameters = (mergeParameters stored.parameters incoming.parameters).parameters ∧
      after.sameDefinition incoming = true ∧
      merged (some (.udt stored existing)) (.udt incoming children) =
        .udt after (mergeChildren existing children).children := by
    refine ⟨_, ?_, ?_, (assign_udt_eq_assigned hchange).2.2⟩
    · rfl
    · exact hsame
  have hparts : partVerdicts after (mergeChildren existing children).children incoming children =
      (partVerdicts stored existing incoming children).map .again := by
    refine partVerdicts_merged (fun m hm => ?_) (fun p hp => ?_) each
    · rw [find?_mergeChildren hsorted, hsorted.find?_of_mem hm]
    · rw [hafter, find?_mergeParameters hparameters, hparameters.find?_of_mem hp]
  have hfirst : Outcome.ofParts (partVerdicts stored existing incoming children) = .assigned :=
    (outcome_assign_udt existing hi hsame).symm.trans h
  have hsecond := outcome_assign_udt (mergeChildren existing children).children hi hsame'
  rw [hparts, Outcome.ofParts_map_again, hfirst] at hsecond
  rw [hmerged]
  exact hsecond

/-- A metric that comes once more meets the one that was kept of it. -/
theorem verdict_merged {incoming : Metric} (hi : incoming.Collated) (stored : Option Metric) :
    verdict (some (merged stored incoming)) incoming = (verdict stored incoming).again := by
  induction hi generalizing stored with
  | leaf incoming => exact verdict_merged_of_assigned (verdict_merged_leaf stored incoming)
  | @udt incoming children hparameters hsorted heach ih =>
    have hi : (Metric.udt incoming children).Collated := .udt hparameters hsorted heach
    refine verdict_merged_of_assigned fun htaken => ?_
    cases stored with
    | none => exact verdict_udt_self hi ih
    | some existing =>
      cases existing with
      | leaf a => simp [verdict, assign, Assignment.outcome] at htaken
      | udt stored olds => exact verdict_merged_udt hi ih htaken

/-- What updates report that arrive one after the other. -/
def assignEach (stored : Metric) : List Metric → List Assignment
  | [] => []
  | m :: rest => (stored.assign m).2 :: assignEach (stored.assign m).1 rest

/-- An update that changes nothing reports the same however often it arrives. -/
theorem assignEach_replicate {stored incoming : Metric} (h : (stored.assign incoming).2.outcome ≠ .assigned)
    (times : Nat) : assignEach stored (List.replicate times incoming) =
      List.replicate times (stored.assign incoming).2 := by
  induction times with
  | zero => rfl
  | succ times ih =>
    rw [List.replicate_succ, List.replicate_succ, assignEach,
      assign_refused (Assignment.change?_eq_none_iff.2 h), ih]

/-- Merging is idempotent: the same update a second time changes nothing and reports so. It is refused again if it
was refused before. However often the same update arrives, at most one arrival is reported as a change. -/
theorem assign_idempotent {incoming : Metric} (hi : incoming.Collated) (stored : Metric) :
    let first := stored.assign incoming
    let second := first.1.assign incoming
    second.1 = first.1 ∧ second.2.change? = none ∧
      (first.2.outcome = .assigned → second.2 = .noChange) ∧
      (first.2.outcome ≠ .assigned → first.1 = stored ∧ second.2 = first.2) ∧
      ∀ times, (assignEach stored (List.replicate times incoming)).countP (·.outcome = .assigned) ≤ 1 := by
  intro first second
  have hagain : second.2.outcome = first.2.outcome.again := verdict_merged hi (some stored)
  have hsettled : second.2.outcome ≠ .assigned := by
    rw [hagain]
    exact Outcome.again_ne_assigned _
  have hnone : second.2.change? = none := Assignment.change?_eq_none_iff.2 hsettled
  refine ⟨assign_refused hnone, hnone, fun htaken => ?_, fun hkept => ?_, fun times => ?_⟩
  · rw [htaken] at hagain
    exact Assignment.outcome_eq_noChange_iff.1 hagain
  · have hsame : first.1 = stored := assign_refused (Assignment.change?_eq_none_iff.2 hkept)
    exact ⟨hsame, by simp only [second, hsame, first]⟩
  · cases times with
    | zero => simp [assignEach]
    | succ times =>
      have hrest : (assignEach first.1 (List.replicate times incoming)).countP (·.outcome = .assigned) = 0 := by
        rw [assignEach_replicate hsettled, List.countP_eq_zero]
        intro result hresult
        rw [List.eq_of_mem_replicate hresult]
        simpa using hsettled
      rw [List.replicate_succ, assignEach, List.countP_cons, hrest, Nat.zero_add]
      split <;> simp

/-- The pump takes the update over, and nothing of it when it arrives again, although the mode is refused each
time. -/
theorem pump_update_settles :
    ((runningPump 0x3fc00000 1).assign (pumpUpdate 0x40000000 2)).2.outcome = .assigned ∧
      (((runningPump 0x3fc00000 1).assign (pumpUpdate 0x40000000 2)).1.assign (pumpUpdate 0x40000000 2)).2 =
        .noChange ∧
      ∀ times, (assignEach (runningPump 0x3fc00000 1)
        (List.replicate times (pumpUpdate 0x40000000 2))).countP (·.outcome = .assigned) ≤ 1 := by
  obtain ⟨-, -, htaken, -, honce⟩ := assign_idempotent (collated_pumpUpdate 0x40000000 2) (runningPump 0x3fc00000 1)
  exact ⟨rfl, htaken rfl, honce⟩

end Metric

end ScadaBridge
