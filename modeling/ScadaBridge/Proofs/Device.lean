import ScadaBridge.Bridge.Inbound
import ScadaBridge.Device.Message
import ScadaBridge.Proofs.Metric.Delta

/-!
# What devices hear

Whatever a source says of a device, the device hears in one of three ways (`Device.Hears`): its metrics
are born again, values changed since a birth that was published, or nothing changed. Data are merged one
after the other by `mergeAnnounced`, whether they come from an announcement, a batch or one reading.
-/

namespace ScadaBridge

open Ordered

namespace Device

theorem metric?_addMetric (d : Device) (m : Metric) (name : String) :
    (d.addMetric m).metric? name = if m.name = name then some m else d.metric? name :=
  find?_insert _ _ _ _

/-! ## Merging one metric after the other -/

/-- One incoming metric either changes nothing, or its merge takes its place and its change is
recorded. -/
theorem ingestInto_cases (metrics : List Metric) (incoming : Metric) (timestamp : UInt64) :
    (Metric.told (find? Metric.name incoming.name metrics) (incoming.atTime timestamp) = none ∧
        (ingestInto metrics incoming.name incoming timestamp).1 = metrics ∧
        (ingestInto metrics incoming.name incoming timestamp).2.change? = none) ∨
      ∃ change,
        Metric.told (find? Metric.name incoming.name metrics) (incoming.atTime timestamp) =
            some change ∧
          ingestInto metrics incoming.name incoming timestamp =
            (Ordered.insert Metric.name
              (Metric.merged (find? Metric.name incoming.name metrics) (incoming.atTime timestamp))
              metrics, .assigned change) := by
  cases hfound : find? Metric.name incoming.name metrics with
  | none =>
    right
    exact ⟨.whole, rfl, by simp [ingestInto, hfound, Metric.merged]⟩
  | some existing =>
    simp only [Metric.told, Metric.merged, ingestInto, hfound, ne_eq, not_true_eq_false, if_false]
    rcases hassign : existing.assign (incoming.atTime timestamp) with ⟨existing', result⟩
    cases result with
    | assigned change => exact .inr ⟨change, rfl, rfl⟩
    | noChange => exact .inl ⟨rfl, rfl, rfl⟩
    | typeMismatch => exact .inl ⟨rfl, rfl, rfl⟩

theorem name_merged_atTime (metrics : List Metric) (m : Metric) (timestamp : UInt64) :
    (Metric.merged (find? Metric.name m.name metrics) (m.atTime timestamp)).name = m.name := by
  rw [← m.name_atTime timestamp]
  exact Metric.merged_name

theorem mergeAnnounced_cases (timestamp : UInt64) (metrics : List Metric) (changes : ChangeSet)
    (incoming : Metric) :
    (Metric.told (find? Metric.name incoming.name metrics) (incoming.atTime timestamp) = none ∧
        mergeAnnounced timestamp (metrics, changes) incoming = (metrics, changes)) ∨
      ∃ change,
        Metric.told (find? Metric.name incoming.name metrics) (incoming.atTime timestamp) =
            some change ∧
          mergeAnnounced timestamp (metrics, changes) incoming =
            (Ordered.insert Metric.name
              (Metric.merged (find? Metric.name incoming.name metrics) (incoming.atTime timestamp))
              metrics, changes.record incoming.name change) := by
  rcases ingestInto_cases metrics incoming timestamp with ⟨hnone, hkept, hrefused⟩ | ⟨change, htold, heq⟩
  · left
    refine ⟨hnone, ?_⟩
    unfold mergeAnnounced
    rcases hinto : ingestInto metrics incoming.name incoming timestamp with ⟨metrics', result⟩
    rw [hinto] at hkept hrefused
    cases result with
    | assigned change => simp [Assignment.change?] at hrefused
    | noChange => exact Prod.ext hkept rfl
    | typeMismatch => exact Prod.ext hkept rfl
  · right
    refine ⟨change, htold, ?_⟩
    unfold mergeAnnounced
    rw [heq]

theorem mergeAnnounced_wellFormed (timestamp : UInt64) {known : List Metric × ChangeSet}
    {incoming : Metric} (hi : incoming.WellFormed) (h : Metric.WellFormedAll known.1) :
    Metric.WellFormedAll (mergeAnnounced timestamp known incoming).1 := by
  obtain ⟨metrics, changes⟩ := known
  rcases mergeAnnounced_cases timestamp metrics changes incoming with ⟨-, heq⟩ | ⟨change, -, heq⟩
  · rw [heq]
    exact h
  · rw [heq]
    have hi' := hi.atTime timestamp
    exact h.insert (h.merged (fun _ he => hi'.assign he) hi' _)

theorem foldl_mergeAnnounced_wellFormed {timestamp : UInt64} {incoming : List Metric}
    (hi : ∀ m ∈ incoming, m.WellFormed) {known : List Metric × ChangeSet}
    (h : Metric.WellFormedAll known.1) {metrics : List Metric} {changes : ChangeSet}
    (merged : incoming.foldl (mergeAnnounced timestamp) known = (metrics, changes)) :
    Metric.WellFormedAll metrics := by
  induction incoming generalizing known with
  | nil =>
    subst merged
    exact h
  | cons m rest ih =>
    exact ih (fun x hx => hi x (List.mem_cons_of_mem _ hx))
      (mergeAnnounced_wellFormed timestamp (hi m List.mem_cons_self) h) merged

/-- A metric of a batch is merged as an announced one is, if it is known or may be new. -/
theorem applyMetric_eq (definitions : Definitions) (device : String) (timestamp : UInt64) (batch : DataBatch)
    (incoming : Metric) :
    ((applyMetric definitions device timestamp batch incoming).metrics,
        (applyMetric definitions device timestamp batch incoming).changes) =
      if contains Metric.name incoming.name batch.metrics || acceptsNew definitions incoming then
        mergeAnnounced timestamp (batch.metrics, batch.changes) incoming
      else (batch.metrics, batch.changes) := by
  unfold applyMetric mergeAnnounced
  dsimp only
  split
  · rcases ingestInto batch.metrics incoming.name incoming timestamp with ⟨metrics, result⟩
    cases result <;> rfl
  · rfl

/-- A batch of data merges those of its metrics that it accepts. -/
theorem foldl_applyMetric (definitions : Definitions) (device : String) (timestamp : UInt64)
    (incoming : List Metric) (batch : DataBatch) :
    ∃ accepted : List Metric, (∀ m ∈ accepted, m ∈ incoming) ∧
      accepted.foldl (mergeAnnounced timestamp) (batch.metrics, batch.changes) =
        ((incoming.foldl (applyMetric definitions device timestamp) batch).metrics,
          (incoming.foldl (applyMetric definitions device timestamp) batch).changes) := by
  induction incoming generalizing batch with
  | nil => exact ⟨[], by simp, rfl⟩
  | cons m rest ih =>
    obtain ⟨accepted, hsub, hfold⟩ := ih (applyMetric definitions device timestamp batch m)
    have hsub' : ∀ x ∈ accepted, x ∈ m :: rest := fun x hx => List.mem_cons_of_mem _ (hsub x hx)
    rw [List.foldl_cons, ← hfold, applyMetric_eq]
    split
    · refine ⟨m :: accepted, fun x hx => ?_, rfl⟩
      rcases List.mem_cons.1 hx with rfl | hx
      · exact List.mem_cons_self
      · exact hsub' x hx
    · exact ⟨accepted, hsub', rfl⟩

/-- Metrics that are merged without any recorded change stay as they were. -/
theorem foldl_mergeAnnounced_of_changes_eq_nil {timestamp : UInt64} {incoming : List Metric}
    {known : List Metric × ChangeSet} {metrics : List Metric}
    (h : incoming.foldl (mergeAnnounced timestamp) known = (metrics, [])) : metrics = known.1 := by
  -- a recorded change never goes away again
  have hgrows : ∀ (incoming : List Metric) (known : List Metric × ChangeSet), known.2 ≠ [] →
      (incoming.foldl (mergeAnnounced timestamp) known).2 ≠ [] := by
    intro incoming
    induction incoming with
    | nil => exact fun _ h => h
    | cons m rest ih =>
      rintro ⟨metrics, changes⟩ hne
      refine ih _ ?_
      rcases mergeAnnounced_cases timestamp metrics changes m with ⟨-, heq⟩ | ⟨change, -, heq⟩
      · rw [heq]
        exact hne
      · rw [heq]
        exact List.ne_nil_of_mem (mem_insert_self _ _)
  induction incoming generalizing known with
  | nil =>
    cases h
    rfl
  | cons m rest ih =>
    obtain ⟨metrics₀, changes⟩ := known
    rw [List.foldl_cons] at h
    rcases mergeAnnounced_cases timestamp metrics₀ changes m with ⟨-, heq⟩ | ⟨change, -, heq⟩
    · rw [heq] at h
      exact ih h
    · rw [heq] at h
      refine absurd (congrArg Prod.snd h) (hgrows rest _ ?_)
      exact List.ne_nil_of_mem (mem_insert_self _ _)

/-- The recorded changes lead from the metrics before to those after a merge. -/
theorem foldl_mergeAnnounced_deltas {timestamp : UInt64} {incoming : List Metric}
    (hi : ∀ m ∈ incoming, m.WellFormed) {olds : List Metric} {known : List Metric × ChangeSet}
    (h : Metric.Deltas known.2 olds known.1) {metrics : List Metric} {changes : ChangeSet}
    (merged : incoming.foldl (mergeAnnounced timestamp) known = (metrics, changes)) :
    Metric.Deltas changes olds metrics := by
  induction incoming generalizing known with
  | nil =>
    subst merged
    exact h
  | cons m rest ih =>
    refine ih (fun x hx => hi x (List.mem_cons_of_mem _ hx)) ?_ merged
    obtain ⟨metrics₀, changes₀⟩ := known
    rcases mergeAnnounced_cases timestamp metrics₀ changes₀ m with ⟨-, heq⟩ | ⟨change, htold, heq⟩
    · rw [heq]
      exact h
    · rw [heq]
      have hname := name_merged_atTime metrics₀ m timestamp
      have hdelta := Metric.delta_told ((hi m List.mem_cons_self).atTime timestamp) htold
      dsimp only
      generalize Metric.merged (find? Metric.name m.name metrics₀) (m.atTime timestamp) = m' at hname hdelta ⊢
      rw [← hname] at hdelta ⊢
      have hsingle := Metric.Deltas.singleton hdelta
      exact h.trans hsingle

/-- The incoming metric is merged, and any other metric stays. -/
theorem find?_mergeAnnounced (timestamp : UInt64) (known : List Metric × ChangeSet) (incoming : Metric)
    (listed : String) :
    find? Metric.name listed (mergeAnnounced timestamp known incoming).1 =
      if incoming.name = listed then
        some (Metric.merged (find? Metric.name listed known.1) (incoming.atTime timestamp))
      else find? Metric.name listed known.1 := by
  obtain ⟨metrics, changes⟩ := known
  rcases mergeAnnounced_cases timestamp metrics changes incoming with ⟨hnone, heq⟩ | ⟨change, -, heq⟩
  · rw [heq]
    split
    · next hname =>
      subst hname
      exact Metric.merged_of_told_eq_none hnone
    · rfl
  · rw [heq, find?_insert, name_merged_atTime]
    split
    · next hname => rw [hname]
    · rfl

theorem mem_names_foldl_mergeAnnounced {timestamp : UInt64} {incoming : List Metric}
    {known : List Metric × ChangeSet} {listed : String} :
    listed ∈ (incoming.foldl (mergeAnnounced timestamp) known).1.map Metric.name ↔
      listed ∈ incoming.map Metric.name ∨ listed ∈ known.1.map Metric.name := by
  refine mem_names_foldl (fun known : List Metric × ChangeSet => known.1.map Metric.name) fun known m name => ?_
  rw [mem_map_key_iff, mem_map_key_iff, find?_mergeAnnounced]
  by_cases hm : m.name = name
  · simp [hm]
  · simp [hm, Ne.symm hm]

/-- Merging metrics whose names are known adds no name. -/
theorem foldl_mergeAnnounced_names {timestamp : UInt64} {incoming : List Metric}
    {known : List Metric × ChangeSet} {metrics : List Metric} {changes : ChangeSet}
    (hknown : ∀ m ∈ incoming, (find? Metric.name m.name known.1).isSome)
    (merged : incoming.foldl (mergeAnnounced timestamp) known = (metrics, changes)) {listed : String}
    (h : find? Metric.name listed known.1 = none) : find? Metric.name listed metrics = none := by
  by_contra hne
  have hmem : listed ∈ (incoming.foldl (mergeAnnounced timestamp) known).1.map Metric.name := by
    rw [merged]
    exact mem_map_key_iff.2 hne
  rcases mem_names_foldl_mergeAnnounced.1 hmem with hincoming | hlisted
  · obtain ⟨m, hm, rfl⟩ := List.mem_map.1 hincoming
    have hsome := hknown m hm
    rw [h] at hsome
    simp at hsome
  · exact mem_map_key_iff.1 hlisted h

/-! ## What is heard -/

theorem needsBirth_eq_false_iff {d : Device} :
    d.needsBirth = false ↔ d.published = .up ∧ d.known ≠ .down := by
  simp [needsBirth]

/-- Names of metrics are those of the device, or the device belongs to a vendor application, which may
add others. -/
def Familiar (d : Device) (incoming : List Metric) : Prop :=
  ∀ m ∈ incoming, (d.metric? m.name).isSome ∨ d.isExternal

/-- What a device hears from its source: the device after it, and what it calls for. -/
inductive Hears (d : Device) : Device → List Action → Prop where
  /-- Its metrics are born again, whatever they are now. -/
  | birth {metrics : List Metric}
      (wellFormed : Metric.WellFormedAll d.metrics → Metric.WellFormedAll metrics) :
      Hears d { d with known := .up, metrics := metrics } [.birth d.telemetryName]
  /-- Data change a device that does not owe its birth. -/
  | data {timestamp : UInt64} {incoming metrics : List Metric} {changes : ChangeSet}
      (born : d.needsBirth = false) (wellFormed : ∀ m ∈ incoming, m.WellFormed)
      (familiar : d.Familiar incoming)
      (merged : incoming.foldl (mergeAnnounced timestamp) (d.metrics, []) = (metrics, changes))
      (changed : changes ≠ []) :
      Hears d { d with known := .up, metrics := metrics } [.data d.telemetryName changes]
  /-- Nothing new was said. -/
  | quiet (born : d.needsBirth = false) : Hears d { d with known := .up } []

namespace Hears

variable {d d' : Device} {actions : List Action}

theorem telemetryName_eq (h : d.Hears d' actions) : d'.telemetryName = d.telemetryName := by
  cases h <;> rfl

theorem origin_eq (h : d.Hears d' actions) : d'.origin = d.origin := by
  cases h <;> rfl

theorem localName_eq (h : d.Hears d' actions) : d'.localName = d.localName := by
  cases h <;> rfl

theorem wellFormed (h : d.Hears d' actions) (hd : Metric.WellFormedAll d.metrics) :
    Metric.WellFormedAll d'.metrics := by
  cases h with
  | birth keeps => exact keeps hd
  | data _ hi _ hmerged _ => exact foldl_mergeAnnounced_wellFormed hi hd hmerged
  | quiet => exact hd

/-- Merged data call for the birth that is owed, or for a data message if anything changed. -/
theorem ofMerged {timestamp : UInt64} {incoming metrics : List Metric} {changes : ChangeSet}
    (wellFormed : ∀ m ∈ incoming, m.WellFormed) (familiar : d.Familiar incoming)
    (merged : incoming.foldl (mergeAnnounced timestamp) (d.metrics, []) = (metrics, changes)) :
    d.Hears { d with known := .up, metrics := metrics }
      (Bridge.birthOrData d.needsBirth d.telemetryName changes) := by
  unfold Bridge.birthOrData
  split
  · exact .birth fun hd => foldl_mergeAnnounced_wellFormed wellFormed hd merged
  · next howes =>
    have hborn : d.needsBirth = false := by simpa using howes
    split
    · next hempty =>
      have hnil : changes = [] := by simpa using hempty
      subst hnil
      rw [foldl_mergeAnnounced_of_changes_eq_nil merged]
      exact .quiet hborn
    · next hchanged => exact .data hborn wellFormed familiar merged (by simpa using hchanged)

/-- Changes that a device heard make a data message. -/
theorem exists_data {changes : ChangeSet} (h : d.Hears d' [.data d.telemetryName changes]) (now : UInt64) :
    ∃ payload, d'.data changes now = ({ d' with published := .up }, some payload) := by
  cases h with
  | @data _ _ metrics _ _ hi _ hmerged hchanged =>
    have hdeltas := foldl_mergeAnnounced_deltas hi (.nil d.metrics) hmerged
    have hsome := hdeltas.dataOf_ne_nil hchanged
    refine ⟨{ Wire.Payload.empty (millis now) with metrics := Metric.dataOf metrics changes }, ?_⟩
    unfold Device.data
    dsimp only
    rw [if_neg (by simpa using hsome)]

end Hears

theorem announcesSame_eq_true_iff {d : Device} {announced : List Metric} :
    d.announcesSame announced = true ↔ announced.length = d.metrics.length ∧
      ∀ m ∈ announced, ∃ old, find? Metric.name m.name d.metrics = some old ∧ old.sameStructure m = true := by
  rw [announcesSame, Bool.and_eq_true, beq_iff_eq, List.all_eq_true, eq_comm]
  refine and_congr_right fun _ => forall₂_congr fun m _ => ?_
  unfold metric?
  cases find? Metric.name m.name d.metrics <;> simp

/-- An announcement with the structure of a device names nothing that the device does not have. -/
theorem familiar_of_announcesSame {d : Device} {announced : List Metric}
    (h : d.announcesSame announced = true) : d.Familiar announced := by
  intro m hm
  obtain ⟨old, hold, -⟩ := (announcesSame_eq_true_iff.1 h).2 m hm
  left
  rw [metric?, hold]
  rfl

theorem ingestBirth_hears (d : Device) {announced : List Metric} (timestamp : UInt64)
    (wellFormed : ∀ m ∈ announced, m.WellFormed) :
    d.Hears (d.ingestBirth announced timestamp).1
      (match (d.ingestBirth announced timestamp).2 with
        | .rebirth => [.birth d.telemetryName]
        | .dataOnly changes => Bridge.birthOrData false d.telemetryName changes) := by
  unfold ingestBirth
  split
  · next hsame =>
    simp only [Bool.and_eq_true, Bool.not_eq_true'] at hsame
    rcases hmerged : announced.foldl (mergeAnnounced timestamp) (d.metrics, []) with ⟨metrics, changes⟩
    have hears := Hears.ofMerged wellFormed (familiar_of_announcesSame hsame.1) hmerged
    rw [hsame.2] at hears
    exact hears
  · refine .birth fun _ => .ofList fun m hm => ?_
    obtain ⟨x, hx, rfl⟩ := List.mem_map.1 hm
    exact (wellFormed x hx).atTime timestamp

theorem applyData_hears {d : Device} (external : d.isExternal = true) {incoming : List Metric}
    (definitions : Definitions) (timestamp : UInt64) (wellFormed : ∀ m ∈ incoming, m.WellFormed) :
    d.Hears (d.applyData incoming definitions timestamp).1.markAlive
      (Bridge.birthOrData d.needsBirth d.telemetryName
        (d.applyData incoming definitions timestamp).2.changes) := by
  obtain ⟨accepted, hsub, hfold⟩ :=
    foldl_applyMetric definitions d.telemetryName timestamp incoming ⟨d.metrics, [], []⟩
  exact .ofMerged (fun m hm => wellFormed m (hsub m hm)) (fun _ _ => .inr external) hfold

/-- The changes that the assignment of one metric records. -/
def changesOf (result : Assignment) (name : String) : ChangeSet :=
  match result with
  | .assigned change => [(name, change)]
  | .noChange | .typeMismatch => []

theorem ingest_hears {d : Device} {point : String} {v : Scalar} (timestamp : UInt64)
    (found : (d.metric? point).isSome) (hv : v ≠ .unknown) :
    d.Hears (d.ingest point (.leaf (.ofValue point v timestamp)) timestamp).1.markAlive
      (Bridge.birthOrData d.needsBirth d.telemetryName
        (changesOf (d.ingest point (.leaf (.ofValue point v timestamp)) timestamp).2 point)) := by
  have hwell : (Metric.leaf (.ofValue point v timestamp)).WellFormed := .leaf (.ofValue point hv timestamp)
  have hname : (Metric.leaf (.ofValue point v timestamp)).name = point := rfl
  have hfamiliar : d.Familiar [.leaf (.ofValue point v timestamp)] := by
    intro m hm
    rw [List.mem_singleton] at hm
    subst hm
    exact .inl found
  have hwells : ∀ m ∈ [Metric.leaf (.ofValue point v timestamp)], m.WellFormed := by simpa using hwell
  generalize Metric.leaf (.ofValue point v timestamp) = incoming at hname hwells hfamiliar ⊢
  rcases hinto : ingestInto d.metrics point incoming timestamp with ⟨metrics, result⟩
  have hmerged : [incoming].foldl (mergeAnnounced timestamp) (d.metrics, []) =
      (metrics, changesOf result point) := by
    show mergeAnnounced timestamp (d.metrics, []) incoming = _
    unfold mergeAnnounced
    rw [hname, hinto]
    cases result with
    | assigned change => simp [changesOf, ChangeSet.record, ChangeSet.extend, find?, Ordered.insert]
    | noChange => rfl
    | typeMismatch => rfl
  unfold ingest
  rw [hinto]
  exact .ofMerged hwells hfamiliar hmerged

end Device

/-! ## Devices of the catalog -/

theorem CatalogDevice.toDevice_induction {P : Device → Prop} {c : CatalogDevice} {timestamp : UInt64}
    (bare : P (.ofSite c.device c.site))
    (add : ∀ d m, P d → m.WellFormed → P (d.addMetric m)) : P (c.toDevice timestamp) := by
  unfold CatalogDevice.toDevice
  refine List.foldlRecOn c.points _ bare fun d hd p _ => ?_
  split
  · next m hm => exact add d m hd (CatalogPoint.toMetric_wellFormed hm)
  · exact hd

/-- A device of the catalog has metrics, and nothing else is known of it. -/
theorem CatalogDevice.toDevice_frame (c : CatalogDevice) (timestamp : UInt64) :
    c.toDevice timestamp =
      { Device.ofSite c.device c.site with metrics := (c.toDevice timestamp).metrics } := by
  refine toDevice_induction
    (P := fun d => d = { Device.ofSite c.device c.site with metrics := d.metrics }) rfl ?_
  intro d m hd _
  unfold Device.addMetric
  rw [hd]

theorem CatalogDevice.toDevice_wellFormed (c : CatalogDevice) (timestamp : UInt64) :
    Metric.WellFormedAll (c.toDevice timestamp).metrics :=
  toDevice_induction (P := fun d => Metric.WellFormedAll d.metrics) .nil
    fun _ _ hd hm => hd.insert hm

end ScadaBridge
