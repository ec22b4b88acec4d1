import ScadaBridge.Bridge.Inbound
import ScadaBridge.Proofs.Metric.Prune

/-!
# Messages with unusable records

A record of a message that cannot be used does not count: a message of a vendor application does what the message
does from which its unusable records were deleted, and so does one that announces definitions. With the law of the
parts of a record (`Metric.ofRecord_pruned`), nothing that cannot be used affects what stands beside it
(`unusable_does_not_count`).
-/

namespace ScadaBridge

/-! ## Unusable records -/

/-- A record is of no use in a message of a vendor application: it cannot be read, a definition that it needs is
missing, or it does not fit its definitions. -/
inductive Definitions.Unusable (definitions : Definitions) (now : UInt64) (record : Json) : Prop where
  | unreadable {fault : Fault} (failed : Metric.ofRecord now record = .error fault)
  | unbound {m m' : Metric} {fault : Fault} (read : Metric.ofRecord now record = .ok m)
      (missing : m.bind definitions = (m', some fault))
  | invalid {m m' : Metric} {fault : Fault} (read : Metric.ofRecord now record = .ok m)
      (bound : m.bind definitions = (m', none)) (failed : m'.validate definitions = .error fault)

/-- A record is of no use among announced definitions: it cannot be read, or it is not one of a definition. -/
inductive NoDefinition (now : UInt64) (record : Json) : Prop where
  | unreadable {fault : Fault} (failed : Metric.ofRecord now record = .error fault)
  | leaf {l : Leaf} (read : Metric.ofRecord now record = .ok (.leaf l))
  | udt {head : UdtHead} {children : List Metric} (read : Metric.ofRecord now record = .ok (.udt head children))
      (other : head.isDefinition = false)

theorem Definitions.usable?_eq_none_iff {definitions : Definitions} {now : UInt64} {record : Json} :
    definitions.usable? now record = none ↔ definitions.Unusable now record := by
  unfold usable?
  constructor
  · intro h
    split at h
    · next hread => exact .unreadable hread
    · next m hread =>
      split at h
      · next hbind => exact .unbound hread hbind
      · next m' hbind =>
        split at h
        · next hinvalid => exact .invalid hread hbind hinvalid
        · cases h
  · rintro (failed | ⟨read, missing⟩ | ⟨read, bound, failed⟩)
    · simp [failed]
    · simp [read, missing]
    · simp [read, bound, failed]

theorem Bridge.definitionOf?_eq_none_iff {now : UInt64} {record : Json} :
    definitionOf? now record = none ↔ NoDefinition now record := by
  unfold definitionOf?
  constructor
  · intro h
    split at h
    · next head children hread =>
      split at h
      · cases h
      · next hother => exact .udt hread (by simpa using hother)
    · next hread => exact .leaf hread
    · next hread => exact .unreadable hread
  · rintro (failed | read | ⟨read, other⟩)
    · simp [failed]
    · simp [read]
    · simp [read, other]

instance (definitions : Definitions) (now : UInt64) : DecidablePred (definitions.Unusable now) := fun _ =>
  decidable_of_iff _ Definitions.usable?_eq_none_iff

instance (now : UInt64) : DecidablePred (NoDefinition now) := fun _ =>
  decidable_of_iff _ Bridge.definitionOf?_eq_none_iff

/-- A payload is a message with a list of metrics, and another is the message without the bad ones. -/
inductive Omits (bad : Json → Prop) [DecidablePred bad] (payload less : List UInt8) : Prop where
  | intro {message : Json} {records : List Json} (read : Json.read payload = some message)
      (listed : message.get? "metrics" = some (.arr records))
      (rest : Json.read less = some (message.setMember "metrics" (.arr (records.filter fun record => ¬bad record))))

/-- What a reader passes over may as well be deleted before. -/
theorem filterMap_filter_not {α β : Type} {f : α → Option β} {bad : α → Prop} [DecidablePred bad]
    (h : ∀ a, f a = none ↔ bad a) (items : List α) :
    (items.filter fun a => ¬bad a).filterMap f = items.filterMap f := by
  rw [List.filterMap_filter]
  congr 1
  funext a
  by_cases hbad : bad a
  · simp [hbad, (h a).2 hbad]
  · simp [hbad]

/-- The records of a message are those of the other that are not bad. -/
theorem Omits.exists_records {bad : Json → Prop} [DecidablePred bad] {payload less : List UInt8}
    (h : Omits bad payload less) (missing : RecordFault) :
    ∃ records, Bridge.recordsOf payload missing = .ok records ∧
      Bridge.recordsOf less missing = .ok (records.filter fun record => ¬bad record) := by
  obtain @⟨message, records, read, listed, rest⟩ := h
  refine ⟨records, ?_, ?_⟩
  · simp [Bridge.recordsOf, read, listed, Json.items?]
  · simp [Bridge.recordsOf, rest, Json.get?_setMember, listed, Json.items?]

namespace Bridge

/-- Unusable records do not count among the metrics of a message. -/
theorem metricsOf_omits {b : Bridge} {now : UInt64} {payload less : List UInt8}
    (h : Omits (b.definitions.Unusable now) payload less) : b.metricsOf less now = b.metricsOf payload now := by
  obtain ⟨records, hpayload, hless⟩ := h.exists_records .noMetrics
  unfold metricsOf
  rw [hpayload, hless]
  dsimp only
  rw [filterMap_filter_not fun _ => Definitions.usable?_eq_none_iff]

theorem announceDefinitions_omits {now : UInt64} {payload less : List UInt8} (h : Omits (NoDefinition now) payload less)
    (b : Bridge) : b.announceDefinitions less now = b.announceDefinitions payload now := by
  obtain ⟨records, hpayload, hless⟩ := h.exists_records .noDefinitions
  unfold announceDefinitions
  rw [hpayload, hless]
  dsimp only
  rw [filterMap_filter_not fun _ => definitionOf?_eq_none_iff]

/-- What cannot be used affects nothing beside it: not in a message of a vendor application, not in one that
announces definitions, and not in the record of a UDT, where it may be a child at any depth or a parameter. -/
theorem unusable_does_not_count (b : Bridge) (now : UInt64) :
    (∀ topic app device payload less,
      BusTopic.parse topic = .ok (.birth app device) ∨ BusTopic.parse topic = .ok (.data app device) →
      Omits (b.definitions.Unusable now) payload less →
        b.process now topic less = b.process now topic payload) ∧
    (∀ topic payload less, BusTopic.parse topic = .ok .definitions → Omits (NoDefinition now) payload less →
      b.process now topic less = b.process now topic payload) ∧
    ∀ record, Metric.saysUdt record = true →
      Metric.Prunes record (Metric.pruned record) ∧
        ∀ otherwise, Metric.ofRecord otherwise (Metric.pruned record) = Metric.ofRecord otherwise record := by
  refine ⟨?_, ?_, fun record hudt => ⟨Metric.prunes_pruned hudt, fun t => Metric.ofRecord_pruned t record⟩⟩
  · intro topic app device payload less parsed omitted
    have hmetrics := metricsOf_omits omitted
    rcases parsed with parsed | parsed
    · simp only [process, parsed, vendorBirth, hmetrics]
    · simp only [process, parsed, vendorData, hmetrics]
  · intro topic payload less parsed omitted
    simp only [process, parsed, announceDefinitions_omits omitted]

/-- The record of a speed. -/
def speedRecord : Json := .obj [("dataType", .str "Int32"), ("name", .str "rpm"), ("value", .num (.int 5))]

/-- A message with the metric of a speed, and more. -/
def speedMessage (more : String) : List UInt8 :=
  Utf8.encode
    ("\x7b\"metrics\":[\x7b\"name\":\"rpm\",\"dataType\":\"Int32\",\"value\":5\x7d" ++ more ++ "]\x7d")

/-- The record of a definition with these children and parameters. -/
def pumpRecord (children parameters : List Json) : Json :=
  .obj [("dataType", .str "UDT"), ("name", .str "pump"),
    ("value", .obj [("metrics", .arr children), ("parameters", .arr parameters), ("version", .str "1")])]

/-- A device is announced with a speed and a number that is no record, and a definition has a child and a parameter
that are null. -/
theorem unusable_does_not_count_rpm :
    let b := start {} 0
    (Omits (b.definitions.Unusable 0) (speedMessage ",7") (speedMessage "") ∧
      b.process 0 "BIRTH/APP1/D1" (speedMessage "") = b.process 0 "BIRTH/APP1/D1" (speedMessage ",7")) ∧
    Metric.pruned (pumpRecord [speedRecord, .null] [.null]) = pumpRecord [speedRecord] [] ∧
      Metric.ofRecord 0 (pumpRecord [speedRecord] []) =
        Metric.ofRecord 0 (pumpRecord [speedRecord, .null] [.null]) := by
  intro b
  have hread : Json.read (speedMessage ",7") = some (.obj [("metrics", .arr [speedRecord, .num (.int 7)])]) := by
    have hparsed : Json.parse (speedMessage ",7") = some (.obj [("metrics", .arr
        [.obj [("name", .str "rpm"), ("dataType", .str "Int32"), ("value", .num (.int 5))], .num (.int 7)])]) := by
      with_unfolding_all rfl
    rw [Json.read, hparsed]
    rfl
  have hless : Json.read (speedMessage "") = some (.obj [("metrics", .arr [speedRecord])]) := by
    have hparsed : Json.parse (speedMessage "") = some (.obj [("metrics", .arr
        [.obj [("name", .str "rpm"), ("dataType", .str "Int32"), ("value", .num (.int 5))]])]) := by
      with_unfolding_all rfl
    rw [Json.read, hparsed]
    rfl
  have hgood : ¬b.definitions.Unusable 0 speedRecord := by decide +kernel
  have hbad : b.definitions.Unusable 0 (.num (.int 7)) := by decide +kernel
  have hkept : [speedRecord, .num (.int 7)].filter (fun record => ¬b.definitions.Unusable 0 record) =
      [speedRecord] := by
    simp [hgood, hbad]
  have homits : Omits (b.definitions.Unusable 0) (speedMessage ",7") (speedMessage "") :=
    .intro hread rfl (by rw [hkept]; exact hless)
  have hparsed : BusTopic.parse "BIRTH/APP1/D1" = .ok (.birth "APP1" "D1") := by rfl
  obtain ⟨hprocess, -, hrecord⟩ := unusable_does_not_count b 0
  have hpruned : Metric.pruned (pumpRecord [speedRecord, .null] [.null]) = pumpRecord [speedRecord] [] := by rfl
  obtain ⟨-, hsame⟩ := hrecord (pumpRecord [speedRecord, .null] [.null]) (by decide +kernel)
  rw [hpruned] at hsame
  exact ⟨⟨homits, hprocess _ "APP1" "D1" _ _ (.inl hparsed) homits⟩, hpruned, hsame 0⟩

end Bridge

end ScadaBridge
