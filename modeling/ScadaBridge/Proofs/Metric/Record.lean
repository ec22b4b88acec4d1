import ScadaBridge.Proofs.Json
import ScadaBridge.Proofs.Metric.Content
import ScadaBridge.Proofs.Scalar.Json

/-!
# Records carry whole metrics

A well-formed metric is read back from its record at every level with its times to the microsecond
(`ofRecord_toRecord`). A record has no room for properties and for the handles of resolved definitions, and
none for numbers that are not finite: such a value is read back as no value, and such a parameter is left
out. A metric without any of them is read back exactly (`ofRecord_toRecord_eq_self`).
-/

namespace ScadaBridge

open Ordered

/-! ## Types and parameters -/

theorem DataType.ofName?_name {t : DataType} (h : t ≠ .unknown) : ofName? t.name = some t := by
  match t with
  | .integer ⟨signed, width⟩ => cases signed <;> cases width <;> decide +kernel
  | .float | .double | .boolean | .string | .template => decide +kernel
  | .unknown => exact absurd rfl h

theorem DataType.ofName_name {t : DataType} (h : t ≠ .unknown) : ofName t.name = .ok t := by
  unfold ofName
  rw [ofName?_name h]

theorem Parameter.ofRecord?_toRecord {p : Parameter} (h : p.value ≠ .unknown) :
    ofRecord? p.toRecord = if p.value.isFinite then some p else none := by
  have htype : DataType.ofName? p.value.dataType.name = some p.value.dataType :=
    DataType.ofName?_name (Scalar.isScalar_dataType h).2
  have hread : ofRecord? p.toRecord =
      (Scalar.ofJson p.value.dataType p.value.toJson).toOption.bind fun v => some ⟨p.name, v⟩ := by
    simp [ofRecord?, toRecord, Json.get?, Json.member?, Json.text?, htype]
  rw [hread]
  split
  · next finite =>
    rw [Scalar.ofJson_toJson h finite]
    rfl
  · next infinite =>
    rw [(Scalar.toJson_eq_null_iff h).2 (by simpa using infinite), Scalar.toOption_ofJson_null]
    rfl

/-! ## What a record carries -/

def Leaf.recorded (l : Leaf) : Leaf := { l with value := l.value.filter Scalar.isFinite, properties := [] }

def UdtHead.recorded (head : UdtHead) : UdtHead :=
  { head with handle := none, parameters := head.parameters.filter fun p => p.value.isFinite }

/-- The metric as it is read back from a record. -/
def Metric.recorded (m : Metric) : Metric := m.map Leaf.recorded UdtHead.recorded

/-- A metric in which a record has room for everything. -/
inductive Metric.FitsRecord : Metric → Prop where
  | leaf {l : Leaf} (properties : l.properties = []) (finite : ∀ v, l.value = some v → v.isFinite = true) :
      FitsRecord (.leaf l)
  | udt {head : UdtHead} {children : List Metric} (handle : head.handle = none)
      (finite : ∀ p ∈ head.parameters, p.value.isFinite = true) (each : ∀ m ∈ children, FitsRecord m) :
      FitsRecord (.udt head children)

theorem Leaf.recorded_eq_self_iff {l : Leaf} :
    l.recorded = l ↔ l.properties = [] ∧ ∀ v, l.value = some v → v.isFinite = true := by
  obtain ⟨label, declared, value, properties⟩ := l
  cases value with
  | none => simp [recorded, @eq_comm _ []]
  | some v => simp [recorded, @eq_comm _ [], and_comm]

theorem UdtHead.recorded_eq_self_iff {head : UdtHead} :
    head.recorded = head ↔ head.handle = none ∧ ∀ p ∈ head.parameters, p.value.isFinite = true := by
  obtain ⟨label, definition, version, isDefinition, handle, parameters⟩ := head
  simp [recorded, @eq_comm _ none]

namespace Metric

@[simp] theorem recorded_leaf (l : Leaf) : (Metric.leaf l).recorded = .leaf l.recorded := rfl

@[simp] theorem recorded_udt (head : UdtHead) (children : List Metric) :
    (Metric.udt head children).recorded = .udt head.recorded (children.map recorded) := map_udt _ _ _ _

@[simp] theorem name_recorded (m : Metric) : m.recorded.name = m.name := by
  cases m <;> rfl

/-- Reading loses nothing exactly if the record had room for everything. -/
theorem recorded_eq_self_iff {m : Metric} : m.recorded = m ↔ m.FitsRecord := by
  induction m using Metric.induction with
  | leaf l =>
    rw [recorded_leaf, leaf.injEq, Leaf.recorded_eq_self_iff]
    exact ⟨fun ⟨properties, finite⟩ => .leaf properties finite, fun h => by
      cases h with
      | leaf properties finite => exact ⟨properties, finite⟩⟩
  | udt head children ih =>
    have hchildren : children.map recorded = children ↔ ∀ m ∈ children, m.FitsRecord := by
      conv_lhs => rhs; rw [← List.map_id children]
      rw [List.map_inj_left]
      exact forall₂_congr ih
    rw [recorded_udt, udt.injEq, UdtHead.recorded_eq_self_iff, hchildren]
    exact ⟨fun ⟨⟨handle, finite⟩, each⟩ => .udt handle finite each, fun h => by
      cases h with
      | udt handle finite each => exact ⟨⟨handle, finite⟩, each⟩⟩

/-! ## Reading what was written -/

theorem recordTime_record (label : Label) (type value : Json) (otherwise : UInt64) :
    recordTime [("dataType", type), ("name", .str label.name), ("timestamp", .ofNat label.timestamp.toNat),
      ("value", value)] otherwise = label.timestamp := by
  have hmember : ∀ time, Json.member? "timestamp" [("dataType", type), ("name", .str label.name),
      ("timestamp", time), ("value", value)] = some time := by
    simp [Json.member?]
  unfold recordTime
  rw [hmember, Option.bind_some, Json.uint64?_ofNat, Option.getD_some]

/-- A record that was written is read by the type in it. -/
theorem ofRecord_recordOf (otherwise : UInt64) (label : Label) {type : DataType} (htype : type ≠ .unknown)
    (value : Json) :
    ofRecord otherwise (recordOf label type value) =
      if type = .template then ofUdtValue label.name label.timestamp value
      else recordLeaf label.name label.timestamp type value := by
  simp only [recordOf, ofRecord]
  rw [recordTime_record]
  simp [recordName, recordType, ofValueMember, Json.member?, Json.text?, DataType.ofName_name htype]

theorem recordLeaf_of_read {name : String} {timestamp : UInt64} {type : DataType} {value : Json} {v : Scalar}
    (hvalue : value ≠ .null) (hread : Scalar.ofJson type value = .ok v) :
    recordLeaf name timestamp type value = .ok (.leaf (.plain name type (some v) timestamp)) := by
  cases value with
  | null => exact absurd rfl hvalue
  | _ => simp [recordLeaf, hread]

theorem ofRecord_toRecord_leaf {l : Leaf} (h : l.WellFormed) (otherwise : UInt64) :
    ofRecord otherwise (toRecord (.leaf l)) = .ok (.leaf l.recorded) := by
  have hdeclared := h.declared
  rw [toRecord, ofRecord_recordOf otherwise l.label hdeclared.2, if_neg hdeclared.1]
  obtain ⟨⟨name, published, timestamp⟩, declared, value, properties⟩ := l
  obtain rfl : published = name := h.published
  have hnull : recordLeaf published timestamp declared .null =
      .ok (.leaf (.plain published declared none timestamp)) := rfl
  cases value with
  | none => exact hnull
  | some v =>
    obtain rfl : v.dataType = declared := h.value v rfl
    have hknown : v ≠ .unknown := mt Scalar.dataType_eq_unknown_iff.2 hdeclared.2
    cases finite : v.isFinite with
    | false =>
      simp [(Scalar.toJson_eq_null_iff hknown).2 finite, hnull, Leaf.recorded, Leaf.plain, Label.plain, finite,
        Option.filter]
    | true =>
      have hvalue : v.toJson ≠ .null := by simp [Scalar.toJson_eq_null_iff hknown, finite]
      simp [recordLeaf_of_read hvalue (Scalar.ofJson_toJson hknown finite), Leaf.recorded, Leaf.plain, Label.plain,
        finite, Option.filter]

theorem recordParameters_recorded {head : UdtHead} (h : head.WellFormed) (children : List Json) :
    recordParameters ([("metrics", .arr children),
      ("parameters", .arr (head.parameters.map Parameter.toRecord))] ++ head.reference) =
      head.recorded.parameters := by
  have hread : (head.parameters.map Parameter.toRecord).filterMap Parameter.ofRecord? =
      head.recorded.parameters := by
    have hone : ∀ p ∈ head.parameters, (Parameter.ofRecord? ∘ Parameter.toRecord) p =
        Option.guard (fun p => p.value.isFinite) p := fun p hp =>
      Parameter.ofRecord?_toRecord (h.parameters p hp)
    rw [List.filterMap_map, List.filterMap_congr hone]
    exact congrFun List.filterMap_eq_filter _
  have hsorted : Ordered.Sorted Parameter.name head.recorded.parameters :=
    h.sorted.of_sublist (List.filter_sublist.map _)
  have hmember : ∀ parameters, Json.member? "parameters" ([("metrics", .arr children),
      ("parameters", parameters)] ++ head.reference) = some parameters := by
    simp [Json.member?]
  unfold recordParameters
  rw [hmember]
  simp [Json.items?, hread, hsorted.ofList_eq_self]

/-- The head is read back from the value of a UDT, but for its parameters. -/
theorem recordHead_reference {head : UdtHead} (h : head.WellFormed) (metrics parameters : Json) :
    recordHead head.label.name head.label.timestamp
      ([("metrics", metrics), ("parameters", parameters)] ++ head.reference) =
      .ok { head.recorded with parameters := [] } := by
  obtain ⟨⟨name, published, timestamp⟩, definition, version, isDefinition, handle, parameters⟩ := head
  obtain rfl : published = name := h.published
  cases isDefinition with
  | false =>
    simp [recordHead, UdtHead.reference, Json.member?, Json.get?, Json.text?, UdtHead.ofInstance, UdtHead.recorded,
      Label.plain]
  | true =>
    obtain rfl : definition = published := h.definition rfl
    simp [recordHead, UdtHead.reference, Json.member?, Json.text?, UdtHead.ofDefinition, UdtHead.recorded,
      Label.plain]

mutual

/-- A well-formed metric is read back from its record. -/
theorem ofRecord_toRecord (otherwise : UInt64) : ∀ m : Metric, m.WellFormed →
    ofRecord otherwise m.toRecord = .ok m.recorded
  | .leaf l, h => ofRecord_toRecord_leaf (WellFormed.leaf_iff.1 h) otherwise
  | .udt head children, h => by
    have hchildren := ofRecords_toRecords head.label.timestamp children h.children.each
    have hsorted : Ordered.Sorted name (children.map recorded) := h.children.sorted.map name_recorded
    rw [toRecord, ofRecord_recordOf otherwise head.label (by decide), if_pos rfl, ofUdtValue]
    have hmember : childrenOfMembers head.label.timestamp ([("metrics", .arr (toRecords children)),
        ("parameters", .arr (head.parameters.map Parameter.toRecord))] ++ head.reference) =
        some (children.map recorded) := by
      simp [childrenOfMembers, childrenOfList, hchildren]
    -- children and parameters are sorted already, so that collecting them by name changes nothing
    unfold recordUdt
    rw [hmember]
    dsimp only
    rw [recordHead_reference h.head]
    dsimp only
    rw [recordParameters_recorded h.head, hsorted.ofList_eq_self, recorded_udt]

theorem ofRecords_toRecords (otherwise : UInt64) : ∀ metrics : List Metric,
    (∀ m ∈ metrics, m.WellFormed) → ofRecords otherwise (toRecords metrics) = metrics.map recorded
  | [], _ => rfl
  | m :: rest, h => by
    have hm := ofRecord_toRecord otherwise m (h m List.mem_cons_self)
    have hrest := ofRecords_toRecords otherwise rest fun x hx => h x (List.mem_cons_of_mem _ hx)
    simp only [toRecords, ofRecords, hm, hrest, List.map_cons]

end

/-- A well-formed metric of any depth that fits into a record is read back exactly, whatever time a record
without one would get. -/
theorem ofRecord_toRecord_eq_self {m : Metric} (h : m.WellFormed) (fits : m.FitsRecord) (otherwise : UInt64) :
    ofRecord otherwise m.toRecord = .ok m := by
  rw [ofRecord_toRecord otherwise m h, recorded_eq_self_iff.2 fits]

/-- A pump is an instance with a single-precision parameter. Among its children are a definition, a speed that
was never read, and the least integer of 64 bits. -/
theorem ofRecord_toRecord_pump :
    let running : Metric := .leaf (.ofValue "running" (.boolean true) 3)
    let motor : Metric := .udt ⟨.plain "motor" 2, "motor", "2", true, none, []⟩ [running]
    let speed : Metric := .leaf (.plain "speed" .float none 0)
    let total : Metric := .leaf (.ofValue "total" (.integer ⟨true, .w64⟩ (-9223372036854775808) (by decide)) 4)
    let pump : Metric := .udt ⟨.plain "pump" 1, "Pump", "", false, none, [⟨"gain", .float 0x3dcccccd⟩]⟩
      [motor, speed, total]
    pump.WellFormed ∧ pump.FitsRecord ∧ ofRecord 1700000000000000 pump.toRecord = .ok pump := by
  intro running motor speed total pump
  have hrunning : running.WellFormed := .leaf (.ofValue _ (by simp) _)
  have hmotor : motor.WellFormed :=
    .udt ⟨rfl, fun _ => rfl, sorted_nil _, by simp⟩ (List.pairwise_singleton _ _)
      fun m hm => List.mem_singleton.1 hm ▸ hrunning
  have hspeed : speed.WellFormed := .leaf ⟨rfl, ⟨by decide, by decide⟩, fun v hv => by cases hv⟩
  have htotal : total.WellFormed := .leaf (.ofValue _ (by simp) _)
  have hpump : pump.WellFormed := by
    refine .udt ⟨rfl, by simp, List.pairwise_singleton _ _, by simp⟩ ?_ ?_
    · refine List.pairwise_cons.2 ⟨?_, List.pairwise_pair.2 (by decide +kernel)⟩
      simp only [List.mem_pair, forall_eq_or_imp, forall_eq]
      decide +kernel
    · simp only [List.mem_cons, List.not_mem_nil, or_false, forall_eq_or_imp, forall_eq]
      exact ⟨hmotor, hspeed, htotal⟩
  have fits : pump.FitsRecord := by
    refine recorded_eq_self_iff.1 ?_
    rfl
  exact ⟨hpump, fits, ofRecord_toRecord_eq_self hpump fits _⟩

end Metric

end ScadaBridge
