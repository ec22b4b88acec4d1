import ScadaBridge.Proofs.Device

/-!
# Ingests of several producers

Producers share one device, and each brings metrics under names of its own. The calls come in any order
that keeps the order of every producer (`Interleaves`); one call at a time holds the device. A call reads
and writes nothing but the entry under its name (`Ingest.on_eq`), so two calls under different names
commute (`Ingest.on_comm`), and the order of the producers among each other makes no difference:
`ingests_commute`.
-/

namespace ScadaBridge

open Ordered

/-- A call of `Device.ingest`: the name of a metric, what arrived under it, and when. -/
structure Ingest where
  name : String
  incoming : Metric
  timestamp : UInt64

namespace Ingest

/-- Makes the call on a device. -/
def on (call : Ingest) (d : Device) : Device × Assignment :=
  d.ingest call.name call.incoming call.timestamp

/-! ## One call -/

/-- What a call makes of the entry under its name: the entry it puts there, if any, and its result. -/
def settle (call : Ingest) (stored : Option Metric) : Option Metric × Assignment :=
  if call.incoming.name ≠ call.name then (none, .typeMismatch)
  else
    match stored with
    | none => (some (call.incoming.atTime call.timestamp), .assigned .whole)
    | some existing =>
      match existing.assign (call.incoming.atTime call.timestamp) with
      | (existing', .assigned change) => (some existing', .assigned change)
      | (_, refused) => (none, refused)

/-- Puts an entry into the metrics of a device, if there is one. -/
def put (d : Device) : Option Metric → Device
  | none => d
  | some m => d.addMetric m

theorem on_eq (call : Ingest) (d : Device) :
    call.on d = (put d (call.settle (d.metric? call.name)).1, (call.settle (d.metric? call.name)).2) := by
  unfold on Device.ingest ingestInto settle Device.metric?
  by_cases hname : call.incoming.name = call.name
  · rw [if_neg (not_not_intro hname), if_neg (not_not_intro hname)]
    cases find? Metric.name call.name d.metrics with
    | none => rfl
    | some existing =>
      rcases hassign : existing.assign (call.incoming.atTime call.timestamp) with ⟨existing', result⟩
      cases result <;> simp [hassign, put, Device.addMetric]
  · rw [if_pos hname, if_pos hname]
    rfl

theorem name_of_settle {call : Ingest} {d : Device} {m : Metric}
    (h : (call.settle (d.metric? call.name)).1 = some m) : m.name = call.name := by
  unfold settle at h
  split at h
  · cases h
  · next hname =>
    have hincoming : call.incoming.name = call.name := not_not.1 hname
    split at h
    · cases h
      rw [Metric.name_atTime, hincoming]
    · next existing hstored =>
      have hexisting : existing.name = call.name := key_of_find?_eq_some hstored
      split at h
      · next existing' change hassign =>
        cases h
        have hkept := existing.name_assign (call.incoming.atTime call.timestamp)
        rw [hassign] at hkept
        exact hkept.trans hexisting
      · cases h

/-- The entry under one name after a call. -/
theorem metric?_on (call : Ingest) (d : Device) (name : String) :
    (call.on d).1.metric? name =
      if call.name = name then (call.settle (d.metric? call.name)).1.or (d.metric? name) else d.metric? name := by
  rw [on_eq]
  cases hput : (call.settle (d.metric? call.name)).1 with
  | none => simp [put]
  | some m =>
    rw [← name_of_settle hput]
    exact d.metric?_addMetric m name

theorem metric?_on_of_ne {call : Ingest} {name : String} (h : call.name ≠ name) (d : Device) :
    (call.on d).1.metric? name = d.metric? name := by
  rw [metric?_on, if_neg h]

/-- There is an entry under the name of a call after it, unless there was none and the call brought a metric
of another name. -/
theorem isSome_metric?_on (call : Ingest) (d : Device) (name : String) :
    ((call.on d).1.metric? name).isSome ↔
      (d.metric? name).isSome ∨ (call.name = name ∧ call.incoming.name = name) := by
  rw [metric?_on]
  split
  · next hname =>
    subst hname
    cases hstored : d.metric? call.name with
    | some existing => simp
    | none => by_cases hincoming : call.incoming.name = call.name <;> simp [settle, hincoming]
  · next hname => simp [hname]

theorem addMetric_comm {m m' : Metric} (h : m.name ≠ m'.name) (d : Device) :
    (d.addMetric m).addMetric m' = (d.addMetric m').addMetric m := by
  simp only [Device.addMetric, insert_comm h]

/-- Two calls under different names can be made in either order. -/
theorem on_comm {first second : Ingest} (h : first.name ≠ second.name) (d : Device) :
    (second.on (first.on d).1).1 = (first.on (second.on d).1).1 := by
  rw [second.on_eq, metric?_on_of_ne h, first.on_eq (second.on d).1, metric?_on_of_ne h.symm, first.on_eq d,
    second.on_eq d]
  cases hfirst : (first.settle (d.metric? first.name)).1 with
  | none => rfl
  | some m =>
    cases hsecond : (second.settle (d.metric? second.name)).1 with
    | none => rfl
    | some m' =>
      have hne : m.name ≠ m'.name := by rwa [name_of_settle hfirst, name_of_settle hsecond]
      exact addMetric_comm hne d

end Ingest

/-! ## Schedules -/

section Schedules

variable {ι : Type}

/-- No name of a metric is used by two producers. -/
def SeparateNames (producers : ι → List Ingest) : Prop :=
  ∀ i j, i ≠ j → ∀ call ∈ producers i, ∀ call' ∈ producers j, call.name ≠ call'.name

/-- Makes the calls of a schedule; every producer gets the results of its calls. -/
def Device.ingestAll (d : Device) : List (ι × Ingest) → Device × List (ι × Assignment)
  | [] => (d, [])
  | (i, call) :: rest =>
    let (d', result) := call.on d
    let (final, results) := d'.ingestAll rest
    (final, (i, result) :: results)

theorem ingestAll_cons (d : Device) (i : ι) (call : Ingest) (rest : List (ι × Ingest)) :
    d.ingestAll ((i, call) :: rest) =
      (((call.on d).1.ingestAll rest).1, (i, (call.on d).2) :: ((call.on d).1.ingestAll rest).2) := rfl

/-- A call can be made before calls under other names. -/
theorem ingestAll_move {i : ι} {call : Ingest} {before : List (ι × Ingest)}
    (hne : ∀ entry ∈ before, entry.2.name ≠ call.name) (after : List (ι × Ingest)) (d : Device) :
    (d.ingestAll (before ++ (i, call) :: after)).1 = (d.ingestAll ((i, call) :: (before ++ after))).1 := by
  induction before generalizing d with
  | nil => rfl
  | cons entry before ih =>
    obtain ⟨j, first⟩ := entry
    have hfirst : first.name ≠ call.name := hne (j, first) List.mem_cons_self
    have hbefore : ∀ entry ∈ before, entry.2.name ≠ call.name :=
      fun entry hentry => hne entry (List.mem_cons_of_mem _ hentry)
    simp only [List.cons_append, ingestAll_cons, ih hbefore, Ingest.on_comm hfirst]

/-- An entry is there after a run if it was there before, or a call brought a metric of its name. -/
theorem isSome_metric?_ingestAll (d : Device) (schedule : List (ι × Ingest)) (name : String) :
    ((d.ingestAll schedule).1.metric? name).isSome ↔
      (d.metric? name).isSome ∨
        ∃ entry ∈ schedule, entry.2.name = name ∧ entry.2.incoming.name = name := by
  induction schedule generalizing d with
  | nil => simp [Device.ingestAll]
  | cons entry rest ih =>
    obtain ⟨i, call⟩ := entry
    rw [ingestAll_cons, ih, Ingest.isSome_metric?_on, or_assoc, List.exists_mem_cons_iff]

/-! ## Producers within a schedule -/

variable [DecidableEq ι]

/-- What belongs to `i` in a list of things that each belong to someone. -/
def own {α : Type} (i : ι) (tagged : List (ι × α)) : List α :=
  tagged.filterMap fun entry => if entry.1 = i then some entry.2 else none

/-- A schedule makes the calls of all producers, those of each producer in its own order. -/
def Interleaves (producers : ι → List Ingest) (schedule : List (ι × Ingest)) : Prop :=
  ∀ i, own i schedule = producers i

@[simp] theorem own_nil {α : Type} (i : ι) : own i ([] : List (ι × α)) = [] := rfl

@[simp] theorem own_cons_self {α : Type} (i : ι) (a : α) (rest : List (ι × α)) :
    own i ((i, a) :: rest) = a :: own i rest := by
  simp [own]

theorem own_cons_of_ne {α : Type} {i j : ι} (h : j ≠ i) (a : α) (rest : List (ι × α)) :
    own i ((j, a) :: rest) = own i rest := by
  simp [own, h]

theorem own_append {α : Type} (i : ι) (first second : List (ι × α)) :
    own i (first ++ second) = own i first ++ own i second :=
  List.filterMap_append

theorem mem_own {α : Type} {i : ι} {a : α} {tagged : List (ι × α)} : a ∈ own i tagged ↔ (i, a) ∈ tagged := by
  simp only [own, List.mem_filterMap, Prod.exists]
  constructor
  · rintro ⟨j, b, hmem, hown⟩
    split at hown
    · next hj =>
      cases hown
      exact hj ▸ hmem
    · cases hown
  · intro hmem
    exact ⟨i, a, hmem, if_pos rfl⟩

/-- What comes first for `i` stands behind things that belong to others. -/
theorem exists_append_of_own_eq_cons {α : Type} {i : ι} {a : α} {rest : List α} {tagged : List (ι × α)}
    (h : own i tagged = a :: rest) :
    ∃ before after, tagged = before ++ (i, a) :: after ∧ ∀ entry ∈ before, entry.1 ≠ i := by
  induction tagged with
  | nil => cases h
  | cons entry tagged ih =>
    obtain ⟨j, b⟩ := entry
    by_cases hj : j = i
    · subst hj
      rw [own_cons_self, List.cons.injEq] at h
      exact ⟨[], tagged, by rw [h.1, List.nil_append], by simp⟩
    · rw [own_cons_of_ne hj] at h
      obtain ⟨before, after, rfl, hbefore⟩ := ih h
      exact ⟨(j, b) :: before, after, rfl, by simpa [hj] using hbefore⟩

theorem own_insert_middle {α : Type} {i j : ι} {a : α} {before after : List (ι × α)}
    (hbefore : ∀ entry ∈ before, entry.1 ≠ i) :
    own j (before ++ (i, a) :: after) = own j ((i, a) :: (before ++ after)) := by
  by_cases hij : i = j
  · subst hij
    have hnone : own i before = [] := by
      rw [own, List.filterMap_eq_nil_iff]
      exact fun entry hentry => if_neg (hbefore entry hentry)
    rw [own_append, own_cons_self, own_cons_self, own_append, hnone, List.nil_append, List.nil_append]
  · rw [own_append, own_cons_of_ne hij, own_cons_of_ne hij, own_append]

/-! ## Every schedule does the same -/

variable {producers : ι → List Ingest}

theorem Interleaves.mem_iff {schedule : List (ι × Ingest)} (h : Interleaves producers schedule) {i : ι}
    {call : Ingest} : (i, call) ∈ schedule ↔ call ∈ producers i := by
  rw [← h i, mem_own]

/-- All schedules lead to the same device: the first call of one is moved to the front of the other. -/
theorem ingestAll_unique (separate : SeparateNames producers) {first second : List (ι × Ingest)}
    (h₁ : Interleaves producers first) (h₂ : Interleaves producers second) (d : Device) :
    (d.ingestAll first).1 = (d.ingestAll second).1 := by
  induction first generalizing producers second d with
  | nil =>
    cases second with
    | nil => rfl
    | cons entry second =>
      obtain ⟨i, call⟩ := entry
      have hcall : call ∈ producers i := h₂.mem_iff.1 List.mem_cons_self
      simp [← h₁ i] at hcall
  | cons entry first ih =>
    obtain ⟨i, call⟩ := entry
    have hcall : call ∈ producers i := h₁.mem_iff.1 List.mem_cons_self
    obtain ⟨before, after, rfl, hbefore⟩ :=
      exists_append_of_own_eq_cons ((h₂ i).trans ((h₁ i).symm.trans (own_cons_self i call first)))
    have hnames : ∀ entry ∈ before, entry.2.name ≠ call.name := by
      intro entry hentry
      have hmem : entry.2 ∈ producers entry.1 := h₂.mem_iff.1 (List.mem_append_left _ hentry)
      exact separate entry.1 i (hbefore entry hentry) entry.2 hmem call hcall
    -- without the call at their heads, both interleave what remains of the producers
    have hsub : ∀ j, ∀ other ∈ own j first, other ∈ producers j := fun j other hother =>
      h₁.mem_iff.1 (List.mem_cons_of_mem _ (mem_own.1 hother))
    have hseparate : SeparateNames fun j => own j first := fun j k hjk other hother other' hother' =>
      separate j k hjk other (hsub j other hother) other' (hsub k other' hother')
    have hrest : Interleaves (fun j => own j first) (before ++ after) := by
      intro j
      have hj : own j ((i, call) :: (before ++ after)) = own j ((i, call) :: first) := by
        rw [← own_insert_middle hbefore, h₂ j, h₁ j]
      by_cases hij : i = j
      · subst hij
        simpa using hj
      · simpa [own_cons_of_ne hij] using hj
    rw [ingestAll_move hnames, ingestAll_cons, ingestAll_cons]
    exact ih hseparate (fun _ => rfl) hrest _

/-- A producer gets the results that it would get alone, on any device with the same entries under its
names. -/
theorem own_ingestAll {i : ι} {schedule : List (ι × Ingest)} {d alone : Device}
    (separate : ∀ entry ∈ schedule, entry.1 ≠ i → ∀ call ∈ own i schedule, entry.2.name ≠ call.name)
    (hd : ∀ call ∈ own i schedule, d.metric? call.name = alone.metric? call.name) :
    own i (d.ingestAll schedule).2 = own i (alone.ingestAll ((own i schedule).map fun call => (i, call))).2 := by
  induction schedule generalizing d alone with
  | nil => rfl
  | cons entry rest ih =>
    obtain ⟨j, call⟩ := entry
    by_cases hij : j = i
    · subst hij
      rw [own_cons_self] at separate hd ⊢
      have hcall : d.metric? call.name = alone.metric? call.name := hd call List.mem_cons_self
      have hresult : (call.on d).2 = (call.on alone).2 := by rw [call.on_eq, call.on_eq alone, hcall]
      have htail : own j ((call.on d).1.ingestAll rest).2 =
          own j ((call.on alone).1.ingestAll ((own j rest).map fun other => (j, other))).2 := by
        apply ih
        · intro entry hentry hne other hother
          exact separate entry (List.mem_cons_of_mem _ hentry) hne other (List.mem_cons_of_mem _ hother)
        · intro other hother
          rw [call.metric?_on, call.metric?_on, hcall, hd other (List.mem_cons_of_mem _ hother)]
      rw [List.map_cons, ingestAll_cons, ingestAll_cons, own_cons_self, own_cons_self, hresult, htail]
    · rw [own_cons_of_ne hij] at separate hd ⊢
      have hcall : ∀ other ∈ own i rest, call.name ≠ other.name :=
        separate (j, call) List.mem_cons_self hij
      rw [ingestAll_cons, own_cons_of_ne hij]
      apply ih
      · intro entry hentry
        exact separate entry (List.mem_cons_of_mem _ hentry)
      · intro other hother
        rw [Ingest.metric?_on_of_ne (hcall other hother), hd other hother]

/-- Producers that use no name in common do not notice each other: every schedule leads to the same device,
each producer gets the results that it would get alone, and an entry that some call brought under its own
name is not missing in the end. -/
theorem ingests_commute (d : Device) (separate : SeparateNames producers) {first second : List (ι × Ingest)}
    (h₁ : Interleaves producers first) (h₂ : Interleaves producers second) :
    (d.ingestAll first).1 = (d.ingestAll second).1 ∧
      (∀ i, own i (d.ingestAll first).2 = own i (d.ingestAll second).2 ∧
        own i (d.ingestAll first).2 =
          own i (d.ingestAll ((producers i).map fun call => (i, call))).2) ∧
      ∀ name, ((d.ingestAll first).1.metric? name).isSome ↔
        (d.metric? name).isSome ∨
          ∃ i, ∃ call ∈ producers i, call.name = name ∧ call.incoming.name = name := by
  have halone : ∀ {schedule : List (ι × Ingest)}, Interleaves producers schedule → ∀ i,
      own i (d.ingestAll schedule).2 = own i (d.ingestAll ((producers i).map fun call => (i, call))).2 := by
    intro schedule h i
    rw [← h i]
    refine own_ingestAll (fun entry hentry hne call hcall => ?_) fun _ _ => rfl
    exact separate entry.1 i hne entry.2 (h.mem_iff.1 hentry) call (h i ▸ hcall)
  refine ⟨ingestAll_unique separate h₁ h₂ d, fun i => ⟨(halone h₁ i).trans (halone h₂ i).symm, halone h₁ i⟩,
    fun name => ?_⟩
  rw [isSome_metric?_ingestAll]
  simp only [Prod.exists, h₁.mem_iff]

end Schedules

/-- Two producers. The second call of the first one brings a metric of another name. -/
def twoProducers (first : Bool) : List Ingest :=
  if first then
    [⟨"flow", .leaf (.ofValue "flow" (.boolean true) 0), 1⟩,
      ⟨"level", .leaf (.ofValue "depth" (.boolean true) 0), 2⟩]
  else
    [⟨"mode", .leaf (.ofValue "mode" (.text "auto") 0), 1⟩, ⟨"mode", .leaf (.ofValue "mode" (.text "off") 0), 2⟩]

/-- One producer after the other, or in turns. -/
theorem twoProducers_commute :
    let d := Device.ofSite "FlowMeter" "PL0"
    let inTurns := (twoProducers true).zipWith (fun call call' => [(true, call), (false, call')])
      (twoProducers false)
    let oneByOne := [true, false].flatMap fun i => (twoProducers i).map fun call => (i, call)
    (d.ingestAll inTurns.flatten).1 = (d.ingestAll oneByOne).1 ∧
      (own true (d.ingestAll inTurns.flatten).2).map (·.outcome) = [.assigned, .typeMismatch] ∧
      ((d.ingestAll inTurns.flatten).1.metric? "flow").isSome ∧
      ¬((d.ingestAll inTurns.flatten).1.metric? "level").isSome := by
  intro d inTurns oneByOne
  have hseparate : SeparateNames twoProducers := by
    unfold SeparateNames
    decide
  have hturns : Interleaves twoProducers inTurns.flatten := by rintro (_ | _) <;> rfl
  have hone : Interleaves twoProducers oneByOne := by rintro (_ | _) <;> rfl
  obtain ⟨hsame, hresults, hthere⟩ := ingests_commute d hseparate hturns hone
  refine ⟨hsame, ?_, ?_, ?_⟩
  · rw [(hresults true).2]
    decide +kernel
  · exact (hthere "flow").2 (.inr ⟨true, _, List.mem_cons_self, rfl, rfl⟩)
  · rw [hthere "level"]
    simp [twoProducers, Device.metric?, d, Device.ofSite, Device.fresh, find?, Metric.name, Metric.label,
      Leaf.ofValue, Leaf.plain, Label.plain]

end ScadaBridge
