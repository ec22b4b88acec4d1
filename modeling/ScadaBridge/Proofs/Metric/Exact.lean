import ScadaBridge.Proofs.Metric.Delta

/-!
# Changes that are exact

A merge is reported exactly if it changed something (`assign_exact`): the reported change names, at every
level, the children that differ from what was stored and no others (`Metric.Exact`). The leaves in the part
of a metric that the change names are its data form; each of them is new or has another value than before
(`Exact.of_mem_leaves`).

Only the update has to be collated, that is, to have no name twice. The stored metric is looked up by names.
-/

namespace ScadaBridge

open Ordered

namespace Metric

/-- The children and the parameters stand in the order of their names, at every level. -/
inductive Collated : Metric → Prop where
  | leaf (l : Leaf) : Collated (.leaf l)
  | udt {head : UdtHead} {children : List Metric} (parameters : Ordered.Sorted Parameter.name head.parameters)
      (sorted : Ordered.Sorted name children) (each : ∀ m ∈ children, Collated m) :
      Collated (.udt head children)

/-- The metrics that the bridge builds are collated. -/
theorem WellFormed.collated {m : Metric} (h : m.WellFormed) : m.Collated := by
  induction h with
  | leaf => exact .leaf _
  | udt hhead sorted _ ih => exact .udt hhead.sorted sorted ih

theorem Collated.sorted {head : UdtHead} {children : List Metric} (h : (Metric.udt head children).Collated) :
    Ordered.Sorted Parameter.name head.parameters ∧ Ordered.Sorted name children := by
  cases h with
  | udt hparameters hsorted => exact ⟨hparameters, hsorted⟩

theorem Collated.each {head : UdtHead} {children : List Metric} (h : (Metric.udt head children).Collated) :
    ∀ m ∈ children, m.Collated := by
  cases h with
  | udt _ _ each => exact each

/-- Taking over an update keeps a metric collated. -/
theorem Collated.assign {incoming : Metric} (hi : incoming.Collated) {stored : Metric} (hs : stored.Collated) :
    (stored.assign incoming).1.Collated := by
  revert hi hs
  refine assign_induction (motive := fun stored incoming after => incoming.Collated → stored.Collated →
    after.Collated) (fun _ _ _ hs => hs) (fun _ _ _ _ _ _ _ => .leaf _) ?_ stored incoming
  intro stored incoming existing children timestamp ih hi hs
  refine .udt (mergeParameters_sorted hs.sorted.1 _) (mergeChildren_sorted hs.sorted.2 children) ?_
  exact forall_mem_mergeChildren hs.each hi.each fun m hm old hold => ih m hm old (hi.each m hm) hold

/-- The change tells exactly what an update made of a stored metric, if there was any. -/
inductive Exact : Option Metric → Metric → Metric → Change → Prop where
  /-- There was no such metric. -/
  | fresh (m : Metric) : Exact none m m .whole
  /-- A leaf took over a value that it did not have. -/
  | leaf {stored incoming : Leaf} {v : Scalar} (value : incoming.value = some v) (differs : stored.value ≠ some v) :
      Exact (some (.leaf stored)) (.leaf incoming) (.leaf (stored.take incoming v)) .whole
  /-- A UDT took over children or parameters. Told are the children that differ. -/
  | udt {stored incoming : UdtHead} {olds children news : List Metric} {parameters : List Parameter}
      {changes : ChangeSet}
      (differs : changes ≠ [] ∨ parameters ≠ stored.parameters)
      (unnamed : ∀ listed, find? Parameter.name listed incoming.parameters = none →
        find? Parameter.name listed parameters = find? Parameter.name listed stored.parameters)
      (sorted : Ordered.Sorted Prod.fst changes)
      (names : ∀ listed, (changes.change? listed).isSome ↔ find? name listed news ≠ find? name listed olds)
      (untouched : ∀ listed, find? name listed children = none → find? name listed news = find? name listed olds)
      (found : ∀ listed change, changes.change? listed = some change →
        ∃ m m', find? name listed children = some m ∧ find? name listed news = some m')
      (each : ∀ listed change m m', changes.change? listed = some change → find? name listed children = some m →
        find? name listed news = some m' → Exact (find? name listed olds) m m' change) :
      Exact (some (.udt stored olds)) (.udt incoming children)
        (.udt { stored with
            label := { stored.label with timestamp := incoming.label.timestamp }
            parameters := parameters } news)
        (.children changes)

/-- What is told of differs from what was stored. -/
theorem Exact.ne {stored : Option Metric} {incoming after : Metric} {change : Change}
    (h : Exact stored incoming after change) : stored ≠ some after := by
  cases h with
  | fresh => simp
  | @leaf stored incoming v _ differs =>
    intro heq
    have hleaf : stored = stored.take incoming v := Metric.leaf.inj (Option.some.inj heq)
    exact differs (by rw [hleaf]; rfl)
  | @udt stored incoming olds _ news parameters changes differs _ _ names =>
    intro heq
    obtain ⟨hhead, hchildren⟩ := Metric.udt.inj (Option.some.inj heq)
    rcases differs with hne | hne
    · obtain ⟨⟨listed, change⟩, rest, rfl⟩ := List.exists_cons_of_ne_nil hne
      refine (names listed).1 ?_ (by rw [hchildren])
      rw [ChangeSet.change?_cons, if_pos rfl]
      rfl
    · exact hne (congrArg UdtHead.parameters hhead).symm

/-- If what is told of an update is exact, it is told of exactly if the merge differs from what was stored. -/
theorem told_isSome_iff {stored : Option Metric} {incoming : Metric}
    (h : ∀ change, told stored incoming = some change → Exact stored incoming (merged stored incoming) change) :
    (told stored incoming).isSome ↔ some (merged stored incoming) ≠ stored := by
  cases htold : told stored incoming with
  | none => simp [← merged_of_told_eq_none htold]
  | some change => simpa using (h change htold).ne.symm

/-! ## Merges are told exactly -/

/-- A leaf that tells of an update took over a value that it did not have. -/
theorem exact_assign_leaf {stored incoming : Leaf} {change : Change}
    (h : (stored.assign incoming).2.change? = some change) :
    Exact (some (.leaf stored)) (.leaf incoming) (.leaf (stored.assign incoming).1) change := by
  unfold Leaf.assign at h ⊢
  by_cases hdeclared : stored.declared = incoming.declared
  · rw [if_neg (not_not.2 hdeclared)] at h ⊢
    cases hv : incoming.value with
    | none => simp [hv, Assignment.change?] at h
    | some v =>
      simp only [hv] at h ⊢
      cases hstored : stored.value with
      | none =>
        simp only [hstored] at h ⊢
        cases h
        exact .leaf hv (by simp [hstored])
      | some a =>
        simp only [hstored] at h ⊢
        cases hcompare : a.compare v <;> simp only [hcompare, Assignment.change?] at h ⊢ <;> cases h
        refine .leaf hv fun hsame => ?_
        rw [hstored, Option.some.injEq] at hsame
        subst hsame
        simp [Scalar.compare] at hcompare
  · rw [if_pos hdeclared] at h
    simp [Assignment.change?] at h

/-- Parameters that were changed differ from the stored ones. -/
theorem parameters_ne_of_changed {stored incoming : List Parameter} (hs : Ordered.Sorted Parameter.name incoming)
    (h : (mergeParameters stored incoming).changed = true) :
    (mergeParameters stored incoming).parameters ≠ stored := by
  have htaken : ∃ p ∈ incoming, find? Parameter.name p.name stored ≠ some p ∧
      Parameter.merged (find? Parameter.name p.name stored) p = p := by
    clear hs
    induction incoming with
    | nil => simp [mergeParameters] at h
    | cons p rest ih =>
      by_cases hstored : find? Parameter.name p.name stored = some p
      · have hsame : mergeParameters stored (p :: rest) = mergeParameters stored rest := by
          simp [mergeParameters, compareParameter?, hstored, Scalar.compare]
        rw [hsame] at h
        obtain ⟨q, hq, htaken⟩ := ih h
        exact ⟨q, List.mem_cons_of_mem _ hq, htaken⟩
      · rcases mergeParameters_cons stored p rest with ⟨-, hchanged, -⟩ | ⟨-, -, hmerged⟩
        · rw [hchanged] at h
          obtain ⟨q, hq, htaken⟩ := ih h
          exact ⟨q, List.mem_cons_of_mem _ hq, htaken⟩
        · exact ⟨p, List.mem_cons_self, hstored, hmerged⟩
  obtain ⟨p, hp, hstored, hmerged⟩ := htaken
  intro heq
  have hfound := find?_mergeParameters hs stored p.name
  rw [heq, hs.find?_of_mem hp] at hfound
  dsimp only at hfound
  rw [hmerged] at hfound
  exact hstored hfound

/-- A UDT that tells of an update has merged it, and a child or a parameter was changed. -/
theorem assign_udt_eq_assigned {stored incoming : UdtHead} {existing children : List Metric} {change : Change}
    (h : ((Metric.udt stored existing).assign (.udt incoming children)).2.change? = some change) :
    change = .children (mergeChildren existing children).changes ∧
      ((mergeChildren existing children).changes ≠ [] ∨
        (mergeParameters stored.parameters incoming.parameters).changed = true) ∧
      ((Metric.udt stored existing).assign (.udt incoming children)).1 =
        .udt { stored with
            label := { stored.label with timestamp := incoming.label.timestamp }
            parameters := (mergeParameters stored.parameters incoming.parameters).parameters }
          (mergeChildren existing children).children := by
  simp only [assign] at h ⊢
  split at h
  · simp [Assignment.change?] at h
  · next hsame =>
    rw [if_neg hsame]
    unfold ofMerged at h ⊢
    dsimp only at h ⊢
    split at h
    · next hchanged =>
      rw [if_pos hchanged]
      cases h
      refine ⟨rfl, ?_, rfl⟩
      simpa [List.isEmpty_iff] using hchanged
    · split at h <;> simp [Assignment.change?] at h

/-- What is told of an update is exact. -/
theorem exact_told {incoming : Metric} (hi : incoming.Collated) {stored : Option Metric} {change : Change}
    (h : told stored incoming = some change) : Exact stored incoming (merged stored incoming) change := by
  induction incoming using Metric.induction generalizing stored change with
  | leaf b =>
    cases stored with
    | none =>
      cases h
      exact .fresh _
    | some existing =>
      cases existing with
      | leaf a => exact exact_assign_leaf h
      | udt head olds => simp [told, assign, Assignment.change?] at h
  | udt incoming children ih =>
    cases stored with
    | none =>
      cases h
      exact .fresh _
    | some existing =>
      cases existing with
      | leaf a => simp [told, assign, Assignment.change?] at h
      | udt stored olds =>
        obtain ⟨hparameters, hsorted⟩ := hi.sorted
        obtain ⟨rfl, hchanged, hmerged⟩ := assign_udt_eq_assigned h
        have hchange := change?_mergeChildren hsorted olds
        have hfind := find?_mergeChildren hsorted olds
        have hexact : ∀ listed m change, find? name listed children = some m →
            told (find? name listed olds) m = some change →
            Exact (find? name listed olds) m (merged (find? name listed olds) m) change :=
          fun listed m change hm htold => ih m (mem_of_find?_eq_some hm) (hi.each m (mem_of_find?_eq_some hm)) htold
        show Exact _ _ ((Metric.udt stored olds).assign (.udt incoming children)).1 _
        rw [hmerged]
        refine .udt ?_ ?_ (changes_mergeChildren_sorted hsorted olds) ?_ ?_ ?_ ?_
        · exact hchanged.imp_right (parameters_ne_of_changed hparameters)
        · intro listed hnone
          rw [find?_mergeParameters hparameters, hnone]
        · intro listed
          rw [hchange, hfind]
          cases hm : find? name listed children with
          | none => simp
          | some m => exact told_isSome_iff fun change htold => hexact listed m change hm htold
        · intro listed hnone
          rw [hfind, hnone]
        · intro listed change hlisted
          rw [hchange, Option.bind_eq_some_iff] at hlisted
          obtain ⟨m, hm, -⟩ := hlisted
          exact ⟨m, merged (find? name listed olds) m, hm, by rw [hfind, hm]⟩
        · intro listed change m m' hlisted hm hm'
          rw [hchange, hm] at hlisted
          rw [hfind, hm] at hm'
          cases hm'
          exact hexact listed m change hm hlisted

/-! ## Leaves -/

mutual

/-- The leaves in a metric, each with the names of the metrics on the way to it. -/
def leaves : Metric → List (List String × Leaf)
  | .leaf l => [([], l)]
  | .udt _ children => leavesOf children

def leavesOf : List Metric → List (List String × Leaf)
  | [] => []
  | m :: rest => (leaves m).map (fun e => (m.name :: e.1, e.2)) ++ leavesOf rest

end

/-- The metric to which a list of names leads. -/
def at? (m : Metric) : List String → Option Metric
  | [] => some m
  | listed :: path => (m.child? listed).bind fun child => child.at? path

theorem mem_leavesOf {metrics : List Metric} {path : List String} {l : Leaf} :
    (path, l) ∈ leavesOf metrics ↔ ∃ m ∈ metrics, ∃ rest, (rest, l) ∈ m.leaves ∧ path = m.name :: rest := by
  induction metrics with
  | nil => simp [leavesOf]
  | cons m rest ih =>
    simp only [leavesOf, List.mem_append, List.mem_map, ih, List.exists_mem_cons_iff]
    refine or_congr ⟨?_, ?_⟩ Iff.rfl
    · rintro ⟨⟨inner, l'⟩, hmem, heq⟩
      cases heq
      exact ⟨inner, hmem, rfl⟩
    · rintro ⟨inner, hmem, rfl⟩
      exact ⟨(inner, l), hmem, rfl⟩

/-- The names of a leaf lead to it. -/
theorem at?_of_mem_leaves {m : Metric} (hm : m.Collated) {path : List String} {l : Leaf} (h : (path, l) ∈ m.leaves) :
    m.at? path = some (.leaf l) := by
  induction hm generalizing path with
  | leaf =>
    rw [leaves, List.mem_singleton] at h
    cases h
    rfl
  | @udt head children _ sorted _ ih =>
    obtain ⟨child, hchild, rest, hleaf, rfl⟩ := mem_leavesOf.1 h
    rw [at?, child?, Metric.children, sorted.find?_of_mem hchild]
    exact ih child hchild hleaf

/-- A leaf in the part that an exact change names is there now; before, there was none at its place, or one with
another value. -/
theorem Exact.of_mem_leaves {stored : Option Metric} {incoming after : Metric} {change : Change}
    (h : Exact stored incoming after change) (hi : incoming.Collated) {path : List String} {l : Leaf}
    (hl : (path, l) ∈ (after.part change).leaves) :
    after.at? path = some (.leaf l) ∧
      (stored.bind (·.at? path) = none ∨
        ∃ old, stored.bind (·.at? path) = some (.leaf old) ∧ old.value ≠ l.value) := by
  induction h generalizing path with
  | fresh m => exact ⟨at?_of_mem_leaves hi hl, .inl rfl⟩
  | @leaf stored incoming v _ differs =>
    rw [part, leaves, List.mem_singleton] at hl
    cases hl
    exact ⟨rfl, .inr ⟨stored, rfl, differs⟩⟩
  | @udt stored incoming olds children news parameters changes _ _ sorted _ _ found _ ih =>
    obtain ⟨p, hp, rest, hleaf, rfl⟩ := mem_leavesOf.1 hl
    have hfound := (partsOf_sorted sorted news).find?_of_mem hp
    rw [find?_partsOf, Option.bind_eq_some_iff] at hfound
    obtain ⟨change, hchange, hpart⟩ := hfound
    obtain ⟨m', hm', rfl⟩ := Option.map_eq_some_iff.1 hpart
    obtain ⟨m, -, hm, -⟩ := found _ change hchange
    obtain ⟨hnow, hbefore⟩ := ih _ change m m' hchange hm hm' (hi.each m (mem_of_find?_eq_some hm)) hleaf
    have hstep : ∀ (head : UdtHead) (metrics : List Metric),
        (Metric.udt head metrics).at? ((m'.part change).name :: rest) =
          (find? name (m'.part change).name metrics).bind (·.at? rest) := fun _ _ => rfl
    rw [hstep, hm', Option.bind_some, Option.bind_some, hstep]
    exact ⟨hnow, hbefore⟩

end Metric

/-! ## Leaves in payloads -/

namespace Wire

mutual

/-- The metrics in a metric that are no templates; of any other it is the only one. -/
def Metric.simples : Metric → List Metric
  | ⟨name, aliasNumber, timestamp, datatype, isNull, properties, value⟩ =>
    match value with
    | .template t => t.simples
    | other => [⟨name, aliasNumber, timestamp, datatype, isNull, properties, other⟩]

def Template.simples : Template → List Metric
  | ⟨_, metrics, _, _, _⟩ => simplesOf metrics

def simplesOf : List Metric → List Metric
  | [] => []
  | m :: rest => m.simples ++ simplesOf rest

end

end Wire

namespace Metric

theorem simples_toWire_leaf (l : Leaf) (isBirth : Bool) : (l.toWire isBirth).simples = [l.toWire isBirth] := by
  unfold Leaf.toWire
  cases l.value with
  | none => rfl
  | some v =>
    cases v with
    | integer kind value _ =>
      by_cases hwidth : kind.width = .w64
      · simp only [Scalar.fillMetric, Scalar.toWire, if_pos hwidth]
        rfl
      · simp only [Scalar.fillMetric, Scalar.toWire, if_neg hwidth]
        rfl
    | boolean | float | double | text | unknown => rfl

mutual

/-- The simple metrics in a payload are the leaves. -/
theorem simples_toWire (isBirth : Bool) : ∀ m : Metric,
    (m.toWire isBirth).simples = m.leaves.map fun e => e.2.toWire isBirth
  | .leaf l => simples_toWire_leaf l isBirth
  | .udt head children => by
    show Wire.simplesOf (toWires isBirth children) = (leavesOf children).map _
    exact simplesOf_toWires isBirth children

theorem simplesOf_toWires (isBirth : Bool) : ∀ metrics : List Metric,
    Wire.simplesOf (toWires isBirth metrics) = (leavesOf metrics).map fun e => e.2.toWire isBirth
  | [] => rfl
  | m :: rest => by
    rw [toWires, Wire.simplesOf, leavesOf, List.map_append, List.map_map, simples_toWire isBirth m,
      simplesOf_toWires isBirth rest]
    rfl

end

/-! ## Assignments -/

/-- An assignment is reported exactly if the metric was changed, and the reported change is exact. The simple
metrics of its data form are the leaves of the part that it names; each of them is now where its names lead,
and before there was none, or one with another value. -/
theorem assign_exact {incoming : Metric} (hi : incoming.Collated) (stored : Metric) :
    ((stored.assign incoming).2.outcome = .assigned ↔ (stored.assign incoming).1 ≠ stored) ∧
      ∀ change, (stored.assign incoming).2 = .assigned change →
        Exact (some stored) incoming (stored.assign incoming).1 change ∧
        ((stored.assign incoming).1.data change).simples =
          (((stored.assign incoming).1.part change).leaves.map fun e => e.2.toWire false) ∧
        ∀ path l, (path, l) ∈ ((stored.assign incoming).1.part change).leaves →
          (stored.assign incoming).1.at? path = some (.leaf l) ∧
          (stored.at? path = none ∨ ∃ old, stored.at? path = some (.leaf old) ∧ old.value ≠ l.value) := by
  have hexact : ∀ change, (stored.assign incoming).2 = .assigned change →
      Exact (some stored) incoming (stored.assign incoming).1 change := by
    intro change hchange
    have htold : told (some stored) incoming = some change := by rw [told, hchange, Assignment.change?]
    exact exact_told hi htold
  refine ⟨⟨fun houtcome hsame => ?_, fun hne => ?_⟩, fun change hchange => ⟨hexact change hchange, ?_, ?_⟩⟩
  · cases hresult : (stored.assign incoming).2 with
    | assigned change => exact (hexact change hresult).ne (by rw [hsame])
    | noChange => simp [hresult, Assignment.outcome] at houtcome
    | typeMismatch => simp [hresult, Assignment.outcome] at houtcome
  · rcases assign_cases stored incoming with ⟨hkept, -⟩ | ⟨change, hchange, -⟩
    · exact absurd hkept hne
    · rw [hchange, Assignment.outcome]
  · rw [data_eq_toWire_part, simples_toWire]
  · intro path l hl
    exact (hexact change hchange).of_mem_leaves hi hl

/-- A pump whose motor runs at a speed, in automatic mode. -/
def runningPump (speed : UInt32) (time : UInt64) : Metric :=
  .udt (.ofInstance "pump" "Pump" "1" time)
    [.leaf (.ofValue "level" (.boolean true) time),
      .udt (.ofInstance "motor" "Motor" "1" time)
        [.leaf (.ofValue "mode" (.text "auto") time), .leaf (.ofValue "speed" (.float speed) time)]]

/-- An update of the pump: its motor has another speed and a mode of another type, and there is a valve. -/
def pumpUpdate (speed : UInt32) (time : UInt64) : Metric :=
  .udt (.ofInstance "pump" "Pump" "1" time)
    [.udt (.ofInstance "motor" "Motor" "1" time)
        [.leaf (.ofValue "mode" (.boolean false) time), .leaf (.ofValue "speed" (.float speed) time)],
      .leaf (.ofValue "valve" (.boolean true) time)]

theorem collated_pumpUpdate (speed : UInt32) (time : UInt64) : (pumpUpdate speed time).Collated := by
  have hparts : "motor" < "valve" := by decide +kernel
  have hvalues : "mode" < "speed" := by decide +kernel
  refine .udt (sorted_nil _) (List.pairwise_pair.2 hparts) ?_
  simp only [List.forall_mem_cons]
  refine ⟨.udt (sorted_nil _) (List.pairwise_pair.2 hvalues) ?_, .leaf _, by simp⟩
  simp only [List.forall_mem_cons]
  exact ⟨.leaf _, .leaf _, by simp⟩

/-- Told are the speed of the motor and the valve; the level was not named and the mode was refused. -/
theorem pump_told_exactly :
    ((runningPump 0x3fc00000 1).assign (pumpUpdate 0x40000000 2)).2 =
        .assigned (.children [("motor", .children [("speed", .whole)]), ("valve", .whole)]) ∧
      ((runningPump 0x3fc00000 1).assign (pumpUpdate 0x40000000 2)).1 ≠ runningPump 0x3fc00000 1 ∧
      Exact (some (runningPump 0x3fc00000 1)) (pumpUpdate 0x40000000 2)
        ((runningPump 0x3fc00000 1).assign (pumpUpdate 0x40000000 2)).1
        (.children [("motor", .children [("speed", .whole)]), ("valve", .whole)]) := by
  have hresult : ((runningPump 0x3fc00000 1).assign (pumpUpdate 0x40000000 2)).2 =
      .assigned (.children [("motor", .children [("speed", .whole)]), ("valve", .whole)]) := by
    rfl
  obtain ⟨hiff, hexact⟩ := assign_exact (collated_pumpUpdate _ _) (runningPump 0x3fc00000 1)
  exact ⟨hresult, hiff.1 (by rw [hresult]; rfl), (hexact _ hresult).1⟩

end Metric

end ScadaBridge
