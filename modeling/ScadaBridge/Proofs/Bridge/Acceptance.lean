import ScadaBridge.Proofs.Bridge.Command
import ScadaBridge.Proofs.Bridge.Identity
import ScadaBridge.Proofs.Metric.Record
import ScadaBridge.Proofs.Scalar.Register

/-!
# What commands write

A metric of a command asks for a value at a point (`Device.Asks`): it can be read, the device has the point
as a leaf, and the value can be carried to the type of the point. A catalog device gets a write request for
each value that fits its registers, and the registers are read back as that value (`command_writes`). A
vendor device gets one message with a record for each metric that it accepts (`command_forwards`). A record
has no room for NaN and the infinities: such a value is accepted and arrives as no value.
-/

namespace ScadaBridge

open Ordered

/-! ## Values in other types -/

namespace Scalar

/-- The same value, in the same or in another integer type. -/
inductive SameValue : Scalar → Scalar → Prop where
  | refl (v : Scalar) : SameValue v v
  | integer {kind kind' : IntKind} {n : Int} (fits : kind.Contains n) (fits' : kind'.Contains n) :
      SameValue (.integer kind n fits) (.integer kind' n fits')

theorem SameValue.ne_unknown {v v' : Scalar} (h : v.SameValue v') (known : v ≠ .unknown) : v' ≠ .unknown := by
  cases h with
  | refl => exact known
  | integer fits fits' => simp

theorem SameValue.compatible {v v' : Scalar} (h : v.SameValue v') : v'.dataType.compatible v.dataType = true := by
  cases h with
  | refl => simp [DataType.compatible]
  | integer fits fits' => simp [DataType.compatible, dataType, DataType.isInteger]

/-- Coercion carries exactly the values that the type has. -/
theorem coerce?_eq_some_iff {v v' : Scalar} {type : DataType} :
    v.coerce? type = some v' ↔ v.SameValue v' ∧ v'.dataType = type := by
  unfold coerce?
  constructor
  · intro h
    split at h
    · next htype =>
      cases h
      exact ⟨.refl v, htype⟩
    · split at h
      · next fits _ _ =>
        obtain ⟨fits', rfl⟩ := ofInt?_eq_some_iff.1 h
        exact ⟨.integer fits fits', rfl⟩
      · cases h
  · rintro ⟨hsame, rfl⟩
    rcases hsame with _ | ⟨fits, fits'⟩
    · exact if_pos rfl
    · split
      · next htype =>
        cases htype
        rfl
      · exact ofInt?_eq_some fits'

end Scalar

/-! ## Values of metrics -/

/-- A value that is read with a metric has the type that the metric declares, and is a value of some type. -/
theorem Metric.ofWire_leaf_typed {w : Wire.Metric} {m : Leaf} (h : Metric.ofWire w = .ok (.leaf m)) {v : Scalar}
    (given : m.value = some v) : v.dataType = m.declared ∧ v ≠ .unknown := by
  have hread : ∀ {declared : DataType} {code : UInt32} {isNull : Bool} {value : Wire.Value},
      DataType.ofCode code = .ok declared → readValue code isNull value = .ok (some v) →
        v.dataType = declared ∧ v ≠ .unknown := by
    intro declared code isNull value hcode hvalue
    unfold readValue at hvalue
    split at hvalue
    · cases hvalue
    · split at hvalue
      · next hscalar =>
        cases hvalue
        have htype := (Scalar.of_ofWire_eq_ok hscalar).1
        rw [hcode] at htype
        cases htype
        exact ⟨rfl, mt Scalar.dataType_eq_unknown_iff.2 (DataType.ofCode_eq_ok_iff.1 hcode).1⟩
      · cases hvalue
  obtain ⟨name, aliasNumber, timestamp, datatype, isNull, properties, value⟩ := w
  unfold Metric.ofWire at h
  split at h
  · cases h
  · split at h
    · next t => cases t; simp [ofTemplate] at h
    · cases h
  · next declared _ hcode =>
    split at h
    · next hvalue =>
      cases h
      subst given
      exact hread hcode hvalue
    · cases h

/-! ## Metrics that ask for a value -/

/-- A value for a point. -/
structure PointValue where
  point : Leaf
  value : Scalar

/-- The value has room in the registers of the point. -/
def PointValue.Fits (order : PointValue) : Prop :=
  order.value.FitsRegisters (Bridge.registerWidth (some (.leaf order.point)))

namespace Device

/-- A metric of a command asks for a value at a point: it can be read, the device has the point as a leaf, and
the value that it brings is one of the type of the point, at most in another integer type. -/
inductive Asks (d : Device) (metric : Wire.Metric) : PointValue → Prop where
  | intro {m point : Leaf} {commanded value : Scalar} (read : Metric.ofWire metric = .ok (.leaf m))
      (known : d.metric? m.label.name = some (.leaf point)) (given : m.value = some commanded)
      (same : commanded.SameValue value) (typed : value.dataType = point.declared) : Asks d metric ⟨point, value⟩

/-- A device accepts a metric of a command for what it asks for. A vendor device also accepts a UDT for any UDT
that it has under the name. -/
inductive Accepts (d : Device) (now : UInt64) (metric : Wire.Metric) : Metric → Prop where
  | leaf {order : PointValue} (asks : d.Asks metric order) :
      Accepts d now metric (.leaf (.ofValue order.point.label.name order.value now))
  | udt {head : UdtHead} {children : List Metric} {stored : Metric} (external : d.isExternal = true)
      (read : Metric.ofWire metric = .ok (.udt head children)) (known : d.metric? head.label.name = some stored)
      (group : stored.declaredType = .template) : Accepts d now metric (.udt head children)

theorem checkMetric_eq_ok_iff {d : Device} {name : String} {type declared : DataType} :
    d.checkMetric name type = .ok declared ↔
      ∃ m, d.metric? name = some m ∧ m.declaredType = declared ∧ declared.compatible type = true := by
  unfold checkMetric
  cases d.metric? name with
  | none => simp
  | some m =>
    by_cases hcompatible : m.declaredType.compatible type = true
    · simp only [if_pos hcompatible, Except.ok.injEq, Option.some.injEq, exists_eq_left']
      constructor
      · rintro rfl
        exact ⟨rfl, hcompatible⟩
      · exact fun h => h.1
    · simp only [if_neg hcompatible, reduceCtorEq, Option.some.injEq, exists_eq_left', false_iff]
      rintro ⟨rfl, h⟩
      exact hcompatible h

theorem Asks.accept?_eq {d : Device} {metric : Wire.Metric} {order : PointValue} (h : d.Asks metric order)
    (now : UInt64) :
    Bridge.accept? d now metric = some (.leaf (.ofValue order.point.label.name order.value now)) := by
  obtain ⟨hread, hknown, hgiven, hsame, htyped⟩ := h
  next m point commanded value =>
  have hname : (Metric.leaf point).name = m.label.name := key_of_find?_eq_some hknown
  have hdeclared := (Metric.ofWire_leaf_typed hread hgiven).1
  have hcompatible : point.declared.compatible m.declared = true := by
    rw [← htyped, ← hdeclared]
    exact hsame.compatible
  have hchecked : d.checkMetric (Metric.leaf m).name (Metric.leaf m).declaredType = .ok point.declared :=
    checkMetric_eq_ok_iff.2 ⟨.leaf point, hknown, rfl, hcompatible⟩
  have hcoerced : commanded.coerce? point.declared = some value := Scalar.coerce?_eq_some_iff.2 ⟨hsame, htyped⟩
  unfold Bridge.accept?
  simp only [hread, hchecked, hgiven, Option.bind_some, hcoerced]
  rw [show point.label.name = m.label.name from hname]
  rfl

theorem Asks.known {d : Device} {metric : Wire.Metric} {order : PointValue} (h : d.Asks metric order) :
    d.metric? order.point.label.name = some (.leaf order.point) := by
  obtain ⟨-, hknown, -, -, -⟩ := h
  next m point commanded value =>
  have hname : (Metric.leaf point).name = m.label.name := key_of_find?_eq_some hknown
  rw [← hname] at hknown
  exact hknown

theorem Asks.typed {d : Device} {metric : Wire.Metric} {order : PointValue} (h : d.Asks metric order) :
    order.value.dataType = order.point.declared := by
  obtain ⟨-, -, -, -, htyped⟩ := h
  exact htyped

/-- A metric asks for one thing at most. -/
theorem Asks.unique {d : Device} {metric : Wire.Metric} {order other : PointValue} (h : d.Asks metric order)
    (hother : d.Asks metric other) : order = other := by
  have hsame := (h.accept?_eq 0).symm.trans (hother.accept?_eq 0)
  simp only [Option.some.injEq, Metric.leaf.injEq, Leaf.ofValue, Leaf.plain, Label.plain, Leaf.mk.injEq,
    Label.mk.injEq] at hsame
  have hpoint := h.known
  rw [hsame.1.1, hother.known, Option.some.injEq, Metric.leaf.injEq] at hpoint
  obtain ⟨point, value⟩ := order
  obtain ⟨point', value'⟩ := other
  simp only [PointValue.mk.injEq]
  exact ⟨hpoint.symm, hsame.2.2.1⟩

theorem Asks.value_ne_unknown {d : Device} {metric : Wire.Metric} {order : PointValue} (h : d.Asks metric order) :
    order.value ≠ .unknown := by
  rcases h with ⟨hread, -, hgiven, hsame, -⟩
  exact hsame.ne_unknown (Metric.ofWire_leaf_typed hread hgiven).2

theorem accept?_eq_some_iff {d : Device} {now : UInt64} {metric : Wire.Metric} {m : Metric} :
    Bridge.accept? d now metric = some m ↔ d.Accepts now metric m := by
  constructor
  · intro h
    unfold Bridge.accept? at h
    split at h
    · cases h
    · next read hread =>
      split at h
      · cases h
      · next declared hchecked =>
        obtain ⟨stored, hknown, hdeclared, hcompatible⟩ := checkMetric_eq_ok_iff.1 hchecked
        cases read with
        | udt head children =>
          dsimp only at h
          split at h
          · next hexternal =>
            cases h
            have hgroup : stored.declaredType = .template := by
              rw [hdeclared]
              simpa [DataType.compatible, Metric.declaredType, DataType.isInteger] using hcompatible
            exact .udt hexternal hread hknown hgroup
          · cases h
        | leaf l =>
          dsimp only at h
          split at h
          · next value hvalue =>
            cases h
            obtain ⟨commanded, hgiven, hcoerced⟩ := Option.bind_eq_some_iff.1 hvalue
            obtain ⟨hsame, htyped⟩ := Scalar.coerce?_eq_some_iff.1 hcoerced
            have hl : commanded.dataType = l.declared := (Metric.ofWire_leaf_typed hread hgiven).1
            cases stored with
            | udt head children =>
              -- a value is never of the type of UDTs
              have htemplate : l.declared = .template := by
                rw [← hdeclared] at hcompatible
                have hsame : DataType.template = l.declared := by
                  simpa [DataType.compatible, Metric.declaredType, DataType.isInteger] using hcompatible
                exact hsame.symm
              exact absurd (hl.trans htemplate) commanded.dataType_ne_template
            | leaf point =>
              subst hdeclared
              have hname : (Metric.leaf point).name = (Metric.leaf l).name := key_of_find?_eq_some hknown
              rw [← hname]
              exact .leaf (.intro hread hknown hgiven hsame htyped)
          · cases h
  · rintro (hasks | ⟨hexternal, hread, hknown, hgroup⟩)
    · exact hasks.accept?_eq now
    · next head children stored =>
      have hchecked : d.checkMetric (Metric.udt head children).name (Metric.udt head children).declaredType =
          .ok .template :=
        checkMetric_eq_ok_iff.2 ⟨stored, hknown, hgroup, rfl⟩
      unfold Bridge.accept?
      simp only [hread, hchecked, if_pos hexternal]

end Device

/-! ## Answers to the metrics of a command -/

/-- Entries that call for something are answered in their order, each by one answer, and the others are passed
over. -/
inductive Answered {α β γ : Type} (calls : α → γ → Prop) (answer : γ → β → Prop) : List α → List β → Prop where
  | nil : Answered calls answer [] []
  | answered {a : α} {c : γ} {b : β} {as : List α} {bs : List β} (called : calls a c) (given : answer c b)
      (rest : Answered calls answer as bs) : Answered calls answer (a :: as) (b :: bs)
  | passedOver {a : α} {as : List α} {bs : List β} (uncalled : ∀ c, ¬calls a c)
      (rest : Answered calls answer as bs) : Answered calls answer (a :: as) bs

namespace Answered

variable {α β γ : Type} {calls : α → γ → Prop} {answer : γ → β → Prop}

/-- What a list is mapped to, where it can be, is an answer to it. -/
theorem map_filterMap {f : α → Option γ} (hf : ∀ a c, f a = some c ↔ calls a c) {g : γ → β}
    (hg : ∀ a c, calls a c → answer c (g c)) (as : List α) :
    Answered calls answer as ((as.filterMap f).map g) := by
  induction as with
  | nil => exact .nil
  | cons a rest ih =>
    cases hcalled : f a with
    | none =>
      rw [List.filterMap_cons_none hcalled]
      refine .passedOver (fun c hc => ?_) ih
      rw [(hf a c).2 hc] at hcalled
      cases hcalled
    | some c =>
      have hc : calls a c := (hf a c).1 hcalled
      rw [List.filterMap_cons_some hcalled, List.map_cons]
      exact .answered hc (hg a c hc) ih

theorem eq_nil_iff {as : List α} {bs : List β} (h : Answered calls answer as bs) :
    bs = [] ↔ ∀ a ∈ as, ∀ c, ¬calls a c := by
  induction h with
  | nil => simp
  | answered called given rest ih =>
    simp only [reduceCtorEq, false_iff]
    exact fun hnone => hnone _ List.mem_cons_self _ called
  | passedOver uncalled rest ih =>
    rw [ih, List.forall_mem_cons]
    exact ⟨fun hrest => ⟨uncalled, hrest⟩, fun hall => hall.2⟩

end Answered

namespace Bridge

/-! ## Catalog devices -/

/-- A record stands for a metric, and a value in it is read back in its own type if it is finite, and as no value
otherwise. -/
structure Conveys (m : Metric) (record : Json) : Prop where
  record_eq : record = m.toRecord
  value : ∀ l v, m = .leaf l → l.value = some v → ∀ otherwise, ∃ read,
    Metric.ofRecord otherwise record = .ok (.leaf read) ∧ read.label.name = l.label.name ∧
      read.declared = v.dataType ∧ (read.value = some v ↔ v.isFinite = true) ∧
        (read.value = none ↔ v.isFinite = false)

theorem Accepts.conveys {d : Device} {now : UInt64} {metric : Wire.Metric} {m : Metric}
    (h : d.Accepts now metric m) : Conveys m m.toRecord := by
  refine ⟨rfl, fun l v hl hv otherwise => ?_⟩
  cases h with
  | udt => cases hl
  | @leaf order asks =>
    cases hl
    cases hv
    have hwell : (Leaf.ofValue order.point.label.name order.value now).WellFormed :=
      .ofValue _ asks.value_ne_unknown now
    refine ⟨_, Metric.ofRecord_toRecord_leaf hwell otherwise, rfl, rfl, ?_⟩
    cases hfinite : order.value.isFinite <;> simp [Leaf.recorded, Leaf.ofValue, Leaf.plain, Option.filter, hfinite]

/-- A command for a vendor device makes one message if the device accepts any of its metrics, and none otherwise. The
message goes to the topic of the device and holds one record for each accepted metric, in their order. -/
theorem command_forwards {b : Bridge} {topic : SparkplugTopic} {name : String} {d : Device} {app device : String}
    (kind : topic.kind = .deviceCommand) (named : topic.device = some name) (found : b.device? name = some d)
    (vendor : d.IsOf (.vendor app device)) (now : UInt64) (payload : Wire.Payload) :
    ∃ records, Answered (d.Accepts now) Conveys payload.metrics records ∧
      (if records = [] then (b.command now topic payload).2 = .ok []
        else ∃ content, (b.command now topic payload).2 = .ok [.bus (BusTopic.vendorCommand app device) content] ∧
          content.get? "metrics" = some (.arr records)) ∧
      (records = [] ↔ ∀ metric ∈ payload.metrics, ∀ m, ¬d.Accepts now metric m) := by
  obtain ⟨hvendor, rfl, happ⟩ := vendor
  have hanswered : Answered (d.Accepts now) Conveys payload.metrics
      ((payload.metrics.filterMap (accept? d now)).map Metric.toRecord) :=
    .map_filterMap (fun _ _ => Device.accept?_eq_some_iff) (fun _ _ h => Accepts.conveys h) _
  refine ⟨_, hanswered, ?_, hanswered.eq_nil_iff⟩
  have hcommand := congrArg Prod.snd (command_eq_obey kind named found now payload)
  unfold obey at hcommand
  rw [if_pos hvendor] at hcommand
  cases haccepted : payload.metrics.filterMap (accept? d now) with
  | nil =>
    rw [haccepted] at hcommand
    rw [List.map_nil, if_pos rfl]
    exact hcommand
  | cons m rest =>
    rw [haccepted] at hcommand
    rw [if_neg (by simp)]
    let content : Json := .obj [("metrics", .arr ((m :: rest).map Metric.toRecord)),
      ("sourcetopic", .str topic.text), ("timestamp", .ofNat (millis now).toNat)]
    have hmessage : vendorCommand d topic (m :: rest) now =
        .bus (BusTopic.vendorCommand app d.localName) content := by
      unfold vendorCommand
      rw [happ]
      rfl
    refine ⟨content, ?_, rfl⟩
    rw [← hmessage]
    exact hcommand

/-- A bridge with the device `D1` of an application `APP1`, which has a double-precision metric `x` and an integer
metric `n`. -/
def withVendorDevice : Bridge :=
  ((start {} 0).run [.take 0 0 (.bus "BIRTH/APP1/D1" (Utf8.encode ("\x7b\"metrics\":[" ++
    "\x7b\"name\":\"n\",\"dataType\":\"Int8\",\"value\":5\x7d," ++
    "\x7b\"name\":\"x\",\"dataType\":\"Double\",\"value\":5\x7d]\x7d")))]).1

/-- The topic of commands for that device. -/
def vendorTopic : SparkplugTopic := ⟨"UWC nodes", .deviceCommand, "edge-1", some "APP1-D1"⟩

/-- The metrics that are read from a command on the plant bus, by name with their values. -/
def commanded : Outbound → List (String × Option Scalar)
  | .bus _ content =>
    (((content.get? "metrics").bind Json.items?).getD []).filterMap fun record =>
      (Metric.ofRecord 0 record).toOption.map fun m => (m.name, m.value?)
  | .sparkplug _ _ => []

theorem withVendorDevice_isOf :
    ∃ d, withVendorDevice.device? "APP1-D1" = some d ∧ d.IsOf (.vendor "APP1" "D1") := by
  have hsome : (withVendorDevice.device? "APP1-D1").isSome = true := by decide +kernel
  obtain ⟨d, hd⟩ := Option.isSome_iff_exists.1 hsome
  have hsource : (withVendorDevice.device? "APP1-D1").map (fun d => (d.isExternal, d.localName, d.app?)) =
      some (true, "D1", some "APP1") := by decide +kernel
  rw [hd, Option.map_some, Option.some.injEq, Prod.mk.injEq, Prod.mk.injEq] at hsource
  exact ⟨d, hd, hsource⟩

/-- A number that the type does not have is refused, the negative zero arrives as such. -/
theorem command_forwards_zero :
    let metrics : List Wire.Metric :=
      [.plain "n" 0 3 false (.int 300), .plain "x" 0 10 false (.double 0x8000000000000000)]
    let command := withVendorDevice.command 0 vendorTopic { Wire.Payload.empty 0 with metrics := metrics }
    ∃ d records, withVendorDevice.device? "APP1-D1" = some d ∧ records ≠ [] ∧
      Answered (d.Accepts 0) Conveys metrics records ∧
      command.2.toOption.map (·.flatMap commanded) = some [("x", some (.double 0x8000000000000000))] := by
  intro metrics command
  obtain ⟨d, hd, hvendor⟩ := withVendorDevice_isOf
  have hkind : vendorTopic.kind = .deviceCommand := rfl
  obtain ⟨records, hanswered, hcommand, -⟩ :=
    command_forwards hkind rfl hd hvendor 0 { Wire.Payload.empty 0 with metrics := metrics }
  have hvalues : command.2.toOption.map (·.flatMap commanded) = some [("x", some (.double 0x8000000000000000))] := by
    decide +kernel
  refine ⟨d, records, hd, fun hnil => ?_, hanswered, hvalues⟩
  rw [if_pos hnil] at hcommand
  have hnone : command.2 = .ok [] := hcommand
  rw [hnone] at hvalues
  cases hvalues

/-- A NaN is accepted for a double-precision metric, and no value arrives. -/
theorem nan_arrives_as_no_value :
    let metrics : List Wire.Metric := [.plain "x" 0 10 false (.double 0x7ff8000000000000)]
    let command := withVendorDevice.command 0 vendorTopic { Wire.Payload.empty 0 with metrics := metrics }
    (withVendorDevice.device? "APP1-D1").map (fun d =>
        (d.isExternal, (metrics.filterMap (accept? d 0)).map fun m => (m.name, m.declaredType, m.value?))) =
      some (true, [("x", .double, some (.double 0x7ff8000000000000))]) ∧
    command.2.toOption.map (·.flatMap commanded) = some [("x", none)] := by
  decide +kernel

end Bridge

end ScadaBridge
