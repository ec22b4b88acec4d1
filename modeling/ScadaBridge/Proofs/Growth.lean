import ScadaBridge.Proofs.Definitions
import ScadaBridge.Proofs.Interleaving
import ScadaBridge.Proofs.Metric.Structure

/-!
# Devices under data

Data add to the structure of a device and never change what is there: a metric grows into its merge with whatever
update (`Metric.growsInto_assign`), so every part of it stays at its place, of its form, and parameters keep their
types. That is so of single metrics and of batches, one after the other (`Device.receiveAll_keeps_structure`). A batch adds a
metric of its own to the device only if that is a UDT whose definition is registered.
-/

namespace ScadaBridge

open Ordered

/-! ## Parameters -/

theorem Parameter.sameType_of_merged_eq {q p : Parameter} (h : Parameter.merged (some q) p = p) : q.SameType p := by
  unfold merged at h
  dsimp only at h
  split at h
  · next htype => exact htype
  · rw [h]
    rfl

/-- A stored parameter is there after a merge, with a value of its type. -/
theorem exists_mergeParameters {listed : String} {stored : List Parameter} {p : Parameter}
    (h : find? Parameter.name listed stored = some p) (incoming : List Parameter) :
    ∃ q, find? Parameter.name listed (mergeParameters stored incoming).parameters = some q ∧ p.SameType q := by
  induction incoming generalizing stored p with
  | nil => exact ⟨p, h, rfl⟩
  | cons r rest ih =>
    rcases mergeParameters_cons stored r rest with ⟨hkept, -, -⟩ | ⟨htaken, -, hmerged⟩
    · rw [hkept]
      exact ih h
    · rw [htaken]
      by_cases hname : r.name = listed
      · subst hname
        rw [h] at hmerged
        obtain ⟨q, hq, htype⟩ := ih (find?_insert_self Parameter.name r stored)
        exact ⟨q, hq, (Parameter.sameType_of_merged_eq hmerged).trans htype⟩
      · exact ih ((find?_insert_of_ne Parameter.name r hname stored).trans h)

namespace Metric

/-! ## Metrics -/

/-- What a metric is apart from its name, its values and its parts. -/
inductive Form where
  /-- A leaf that declares a type. -/
  | leaf (declared : DataType)
  /-- A UDT of a definition, or a definition itself. -/
  | udt (definition version : String) (isDefinition : Bool) (handle : Option Nat)
deriving DecidableEq

def form : Metric → Form
  | .leaf l => .leaf l.declared
  | .udt head _ => .udt head.definition head.version head.isDefinition head.handle

/-- The type of the parameter called `name`, if there is one. -/
def parameterType? (m : Metric) (name : String) : Option DataType := (m.parameter? name).map Scalar.dataType

/-- A metric is of the same form as before and still has its parameters, with values of their types. -/
structure Persists (m m' : Metric) : Prop where
  form : m'.form = m.form
  parameters : ∀ name type, m.parameterType? name = some type → m'.parameterType? name = some type

theorem Persists.refl (m : Metric) : m.Persists m := ⟨rfl, fun _ _ h => h⟩

theorem Persists.trans {a b c : Metric} (h : a.Persists b) (h' : b.Persists c) : a.Persists c :=
  ⟨h'.form.trans h.form, fun name type htype => h'.parameters name type (h.parameters name type htype)⟩

/-- Every part of a metric persists at its place. -/
def GrowsInto (old new : Metric) : Prop :=
  ∀ path m, old.at? path = some m → ∃ m', new.at? path = some m' ∧ m.Persists m'

/-- Every metric grows into the one of its name. -/
def AllGrowInto (olds news : List Metric) : Prop :=
  ∀ listed old, find? name listed olds = some old → ∃ new, find? name listed news = some new ∧ old.GrowsInto new

theorem GrowsInto.refl (m : Metric) : m.GrowsInto m := fun _ part hpart => ⟨part, hpart, .refl part⟩

theorem GrowsInto.trans {a b c : Metric} (h : a.GrowsInto b) (h' : b.GrowsInto c) : a.GrowsInto c := by
  intro path m hm
  obtain ⟨m', hm', hpersists⟩ := h path m hm
  obtain ⟨m'', hm'', hpersists'⟩ := h' path m' hm'
  exact ⟨m'', hm'', hpersists.trans hpersists'⟩

theorem GrowsInto.persists {old new : Metric} (h : old.GrowsInto new) : old.Persists new := by
  obtain ⟨m', hm', hpersists⟩ := h [] old rfl
  obtain rfl : new = m' := Option.some.inj hm'
  exact hpersists

theorem AllGrowInto.refl (metrics : List Metric) : AllGrowInto metrics metrics :=
  fun _ old hold => ⟨old, hold, .refl old⟩

theorem AllGrowInto.trans {a b c : List Metric} (h : AllGrowInto a b) (h' : AllGrowInto b c) : AllGrowInto a c := by
  intro listed old hold
  obtain ⟨mid, hmid, hgrows⟩ := h listed old hold
  obtain ⟨new, hnew, hgrows'⟩ := h' listed mid hmid
  exact ⟨new, hnew, hgrows.trans hgrows'⟩

/-- Metrics grow if one of them is put in the place of what it grew from. -/
theorem AllGrowInto.insert {metrics : List Metric} {m : Metric}
    (h : ∀ old, find? name m.name metrics = some old → old.GrowsInto m) :
    AllGrowInto metrics (Ordered.insert name m metrics) := by
  intro listed old hold
  rw [find?_insert]
  split
  · next hname =>
    subst hname
    exact ⟨m, rfl, h old hold⟩
  · exact ⟨old, hold, .refl old⟩

theorem growsInto_leaf {a b : Leaf} (declared : b.declared = a.declared) : (Metric.leaf a).GrowsInto (.leaf b) := by
  intro path m hm
  cases path with
  | nil =>
    cases hm
    exact ⟨.leaf b, rfl, congrArg Form.leaf declared, fun _ _ h => h⟩
  | cons listed path => cases hm

theorem growsInto_udt {a b : UdtHead} {as bs : List Metric} (head : (Metric.udt a as).Persists (.udt b bs))
    (children : AllGrowInto as bs) : (Metric.udt a as).GrowsInto (.udt b bs) := by
  intro path m hm
  cases path with
  | nil =>
    cases hm
    exact ⟨.udt b bs, rfl, head⟩
  | cons listed path =>
    obtain ⟨old, hold, hpart⟩ := Option.bind_eq_some_iff.1 hm
    obtain ⟨new, hnew, hgrows⟩ := children listed old hold
    obtain ⟨m', hm', hpersists⟩ := hgrows path m hpart
    exact ⟨m', Option.bind_eq_some_iff.2 ⟨new, hnew, hm'⟩, hpersists⟩

theorem allGrowInto_mergeChildren {incoming : List Metric}
    (each : ∀ m ∈ incoming, ∀ old : Metric, old.GrowsInto (old.assign m).1) (stored : List Metric) :
    AllGrowInto stored (mergeChildren stored incoming).children := by
  induction incoming generalizing stored with
  | nil => exact .refl stored
  | cons m rest ih =>
    have hrest : ∀ c ∈ rest, ∀ old : Metric, old.GrowsInto (old.assign c).1 :=
      fun c hc => each c (List.mem_cons_of_mem _ hc)
    rcases mergeChildren_cons stored m rest with ⟨-, -, hchildren, -⟩ | ⟨_, -, hchildren, -⟩
    · rw [hchildren]
      exact ih hrest stored
    · rw [hchildren]
      refine .trans (.insert fun old hold => ?_) (ih hrest _)
      rw [merged_name] at hold
      rw [hold]
      exact each m List.mem_cons_self old

/-- A metric grows into its merge with an update, whatever that is. -/
theorem growsInto_assign (stored incoming : Metric) : stored.GrowsInto (stored.assign incoming).1 := by
  refine assign_induction (motive := fun stored _ after => stored.GrowsInto after) (fun stored _ => .refl stored)
    (fun _ _ _ _ _ => growsInto_leaf rfl) ?_ stored incoming
  intro stored incoming existing children timestamp ih
  refine growsInto_udt ⟨rfl, fun name type htype => ?_⟩ (allGrowInto_mergeChildren ih existing)
  obtain ⟨v, hv, rfl⟩ := Option.map_eq_some_iff.1 htype
  obtain ⟨p, hp, rfl⟩ := Option.map_eq_some_iff.1 hv
  obtain ⟨q, hq, hsame⟩ := exists_mergeParameters hp incoming.parameters
  exact Option.map_eq_some_iff.2 ⟨q.value, Option.map_eq_some_iff.2 ⟨q, hq, rfl⟩, hsame.symm⟩

/-- A UDT whose definition is registered. -/
def HasDefinition (definitions : Definitions) (m : Metric) : Prop :=
  ∃ head children, m = .udt head children ∧ (head.definition, head.version) ∈ definitions.keys

end Metric

/-! ## Devices -/

/-- A call that brings data to a device. -/
inductive DataCall where
  /-- One metric, under its name. -/
  | single (call : Ingest)
  /-- A batch of metrics, with the definitions that are registered when it comes. -/
  | batch (incoming : List Metric) (definitions : Definitions) (timestamp : UInt64)

namespace Device

/-- The metric to which a list of names leads, the first of which is that of a metric of the device. -/
def at? (d : Device) : List String → Option Metric
  | [] => none
  | listed :: path => (d.metric? listed).bind (·.at? path)

def receive (d : Device) : DataCall → Device
  | .single call => (call.on d).1
  | .batch incoming definitions timestamp => (d.applyData incoming definitions timestamp).1

/-- The device after calls, one after the other. -/
def receiveAll (d : Device) (calls : List DataCall) : Device := calls.foldl receive d

theorem acceptsNew_eq_true_iff {definitions : Definitions} {m : Metric} :
    acceptsNew definitions m = true ↔ m.HasDefinition definitions := by
  cases m with
  | leaf l => exact iff_of_false (by simp [acceptsNew]) (by rintro ⟨head, children, hm, -⟩; cases hm)
  | udt head children =>
    rw [acceptsNew, Definitions.lookup?_eq_idxOf?, List.isSome_idxOf?]
    constructor
    · exact fun hmem => ⟨head, children, rfl, hmem⟩
    · rintro ⟨_, _, hm, hmem⟩
      cases hm
      exact hmem

theorem allGrowInto_ingestInto (metrics : List Metric) (name : String) (incoming : Metric) (timestamp : UInt64) :
    Metric.AllGrowInto metrics (ingestInto metrics name incoming timestamp).1 := by
  by_cases hname : incoming.name = name
  · subst hname
    rcases ingestInto_cases metrics incoming timestamp with ⟨-, hkept, -⟩ | ⟨change, -, htaken⟩
    · rw [hkept]
      exact .refl metrics
    · rw [htaken]
      refine .insert fun old hold => ?_
      rw [name_merged_atTime] at hold
      rw [hold]
      exact old.growsInto_assign (incoming.atTime timestamp)
  · rw [ingestInto, if_pos hname]
    exact .refl metrics

/-- What is found under one name after a metric of a batch came. -/
theorem find?_applyMetric (definitions : Definitions) (device : String) (timestamp : UInt64) (batch : DataBatch)
    (incoming : Metric) (listed : String) :
    find? Metric.name listed (applyMetric definitions device timestamp batch incoming).metrics =
      if incoming.name = listed ∧
          (contains Metric.name listed batch.metrics || acceptsNew definitions incoming) = true then
        some (Metric.merged (find? Metric.name listed batch.metrics) (incoming.atTime timestamp))
      else find? Metric.name listed batch.metrics := by
  have hbatch := congrArg Prod.fst (applyMetric_eq definitions device timestamp batch incoming)
  dsimp only at hbatch
  rw [hbatch]
  by_cases hname : incoming.name = listed
  · subst hname
    simp only [true_and]
    split
    · rw [find?_mergeAnnounced, if_pos rfl]
    · rfl
  · simp only [hname, false_and, if_false]
    split
    · rw [find?_mergeAnnounced, if_neg hname]
    · rfl

theorem allGrowInto_applyMetric (definitions : Definitions) (device : String) (timestamp : UInt64) (batch : DataBatch)
    (incoming : Metric) :
    Metric.AllGrowInto batch.metrics (applyMetric definitions device timestamp batch incoming).metrics := by
  intro listed old hold
  rw [find?_applyMetric, hold]
  split
  · exact ⟨_, rfl, old.growsInto_assign _⟩
  · exact ⟨old, rfl, .refl old⟩

theorem allGrowInto_foldl_applyMetric (definitions : Definitions) (device : String) (timestamp : UInt64)
    (incoming : List Metric) (batch : DataBatch) :
    Metric.AllGrowInto batch.metrics (incoming.foldl (applyMetric definitions device timestamp) batch).metrics := by
  induction incoming generalizing batch with
  | nil => exact .refl _
  | cons m rest ih => exact (allGrowInto_applyMetric definitions device timestamp batch m).trans (ih _)

/-- A metric that was not there before a batch came has the form of one in the batch whose definition is
registered. -/
theorem exists_of_find?_foldl_applyMetric {definitions : Definitions} {device : String} {timestamp : UInt64}
    {incoming : List Metric} (batch : DataBatch) {listed : String} {root : Metric}
    (hnone : find? Metric.name listed batch.metrics = none)
    (hroot : find? Metric.name listed (incoming.foldl (applyMetric definitions device timestamp) batch).metrics =
      some root) :
    ∃ m ∈ incoming, m.name = listed ∧ m.HasDefinition definitions ∧ root.form = m.form := by
  induction incoming generalizing batch with
  | nil =>
    rw [List.foldl_nil, hnone] at hroot
    cases hroot
  | cons m rest ih =>
    rw [List.foldl_cons] at hroot
    have hstep := find?_applyMetric definitions device timestamp batch m listed
    rw [contains, hnone] at hstep
    by_cases haccepted : m.name = listed ∧ acceptsNew definitions m = true
    · -- the metric is taken over as it came, and grows from then on
      rw [if_pos (by simpa using haccepted)] at hstep
      obtain ⟨root', hroot', hgrows⟩ :=
        allGrowInto_foldl_applyMetric definitions device timestamp rest _ listed _ hstep
      obtain rfl : root = root' := Option.some.inj (hroot.symm.trans hroot')
      have hform : (m.atTime timestamp).form = m.form := by cases m <;> rfl
      exact ⟨m, List.mem_cons_self, haccepted.1, acceptsNew_eq_true_iff.1 haccepted.2,
        hgrows.persists.form.trans hform⟩
    · rw [if_neg (by simpa using haccepted)] at hstep
      obtain ⟨m', hm', hfound⟩ := ih _ hstep hroot
      exact ⟨m', List.mem_cons_of_mem _ hm', hfound⟩

/-- A metric of a batch whose definition is registered is there after the batch. -/
theorem isSome_find?_foldl_applyMetric {definitions : Definitions} {m : Metric} (hm : m.HasDefinition definitions)
    {incoming : List Metric} (hmem : m ∈ incoming) (device : String) (timestamp : UInt64) (batch : DataBatch) :
    (find? Metric.name m.name
      (incoming.foldl (applyMetric definitions device timestamp) batch).metrics).isSome := by
  induction incoming generalizing batch with
  | nil => cases hmem
  | cons first rest ih =>
    rcases List.mem_cons.1 hmem with rfl | hmem
    · have hstep := find?_applyMetric definitions device timestamp batch m m.name
      rw [if_pos ⟨rfl, by rw [acceptsNew_eq_true_iff.2 hm, Bool.or_true]⟩] at hstep
      obtain ⟨root, hroot, -⟩ := allGrowInto_foldl_applyMetric definitions device timestamp rest _ m.name _ hstep
      rw [List.foldl_cons, hroot]
      rfl
    · exact ih hmem _

theorem allGrowInto_receive (d : Device) (call : DataCall) :
    Metric.AllGrowInto d.metrics (d.receive call).metrics := by
  cases call with
  | single call => exact allGrowInto_ingestInto d.metrics call.name call.incoming call.timestamp
  | batch incoming definitions timestamp =>
    exact allGrowInto_foldl_applyMetric definitions d.telemetryName timestamp incoming ⟨d.metrics, [], []⟩

theorem allGrowInto_receiveAll (d : Device) (calls : List DataCall) :
    Metric.AllGrowInto d.metrics (d.receiveAll calls).metrics := by
  induction calls generalizing d with
  | nil => exact .refl _
  | cons call rest ih => exact (d.allGrowInto_receive call).trans (ih _)

/-- Whatever data come, every part of a device persists at its place. A metric of its own that a batch adds then has
the form of one in the batch whose definition is registered, and every such one is there after the batch. -/
theorem receiveAll_keeps_structure (d : Device) (calls : List DataCall) :
    (∀ path m, d.at? path = some m → ∃ m', (d.receiveAll calls).at? path = some m' ∧ m.Persists m') ∧
      ∀ incoming definitions timestamp,
        let after := ((d.receiveAll calls).applyData incoming definitions timestamp).1
        (∀ name root, (d.receiveAll calls).metric? name = none → after.metric? name = some root →
          ∃ m ∈ incoming, m.name = name ∧ m.HasDefinition definitions ∧ root.form = m.form) ∧
        ∀ m ∈ incoming, m.HasDefinition definitions → (after.metric? m.name).isSome := by
  refine ⟨fun path m hm => ?_, fun incoming definitions timestamp => ⟨fun name root hnone hroot => ?_, ?_⟩⟩
  · cases path with
    | nil => cases hm
    | cons listed path =>
      obtain ⟨old, hold, hpart⟩ := Option.bind_eq_some_iff.1 hm
      obtain ⟨new, hnew, hgrows⟩ := d.allGrowInto_receiveAll calls listed old hold
      obtain ⟨m', hm', hpersists⟩ := hgrows path m hpart
      exact ⟨m', Option.bind_eq_some_iff.2 ⟨new, hnew, hm'⟩, hpersists⟩
  · exact exists_of_find?_foldl_applyMetric ⟨(d.receiveAll calls).metrics, [], []⟩ hnone hroot
  · exact fun m hmem hm => isSome_find?_foldl_applyMetric hm hmem _ timestamp _

/-- An update of another type and a leaf in the place of the pump leave its mode a text. Of three new metrics in a batch
only the valve of the registered version is added. -/
theorem pump_keeps_structure :
    let d := (ofVendor "APP1" "D1").addMetric (Metric.runningPump 0x3fc00000 1)
    let calls := [.single ⟨"pump", Metric.pumpUpdate 0x40000000 2, 2⟩,
      .single ⟨"pump", .leaf (.ofValue "pump" (.boolean true) 3), 3⟩]
    let after := ((d.receiveAll calls).applyData
      [.udt (.ofInstance "inlet" "Valve" "1" 4) [], .udt (.ofInstance "outlet" "Valve" "2" 4) [],
        .leaf (.ofValue "alarm" (.boolean true) 4)] ⟨[⟨.ofDefinition "Valve" "1" 0, []⟩]⟩ 4).1
    (∃ m, (d.receiveAll calls).at? ["pump", "motor", "mode"] = some m ∧ m.form = .leaf .string) ∧
      (after.metric? "inlet").isSome ∧ after.metric? "outlet" = none ∧ after.metric? "alarm" = none := by
  intro d calls after
  obtain ⟨hkeeps, hbatch⟩ := receiveAll_keeps_structure d calls
  obtain ⟨hnew, hadded⟩ := hbatch
    [.udt (.ofInstance "inlet" "Valve" "1" 4) [], .udt (.ofInstance "outlet" "Valve" "2" 4) [],
      .leaf (.ofValue "alarm" (.boolean true) 4)] ⟨[⟨.ofDefinition "Valve" "1" 0, []⟩]⟩ 4
  have hrefused : ∀ name, name ≠ "inlet" → (d.receiveAll calls).metric? name = none → after.metric? name = none := by
    intro name hother hnone
    refine Option.eq_none_iff_forall_ne_some.2 fun root hroot => ?_
    obtain ⟨m, hm, hname, ⟨head, children, hudt, hkey⟩, -⟩ := hnew name root hnone hroot
    simp only [List.mem_cons, List.not_mem_nil, or_false] at hm
    rcases hm with rfl | rfl | rfl
    · exact hother hname.symm
    · cases hudt
      revert hkey
      decide
    · cases hudt
  refine ⟨?_, ?_, hrefused _ (by decide) rfl, hrefused _ (by decide) rfl⟩
  · obtain ⟨m, hm, hpersists⟩ := hkeeps ["pump", "motor", "mode"] _ rfl
    exact ⟨m, hm, hpersists.form⟩
  · exact hadded _ List.mem_cons_self ⟨_, _, rfl, List.mem_cons_self⟩

end Device

end ScadaBridge
