import ScadaBridge.Metric.Wire
import ScadaBridge.Proofs.Metric.WellFormed
import ScadaBridge.Proofs.Scalar.Wire

/-!
# What a payload preserves

The content of a metric is all of it but times, the properties that births carry, and the handles of
resolved definitions. A well-formed metric is read back from a payload with its content (`ofWire_toWire`).
-/

namespace ScadaBridge

open Ordered

/-! ## Changing every part of a metric -/

namespace Metric

mutual

/-- The metric with every leaf and every head in it changed. -/
def map (f : Leaf → Leaf) (g : UdtHead → UdtHead) : Metric → Metric
  | .leaf l => .leaf (f l)
  | .udt head children => .udt (g head) (mapAll f g children)

/-- The metrics with every leaf and every head in them changed. -/
def mapAll (f : Leaf → Leaf) (g : UdtHead → UdtHead) : List Metric → List Metric
  | [] => []
  | m :: rest => map f g m :: mapAll f g rest

end

theorem mapAll_eq_map (f : Leaf → Leaf) (g : UdtHead → UdtHead) (metrics : List Metric) :
    mapAll f g metrics = metrics.map (map f g) := by
  induction metrics with
  | nil => rfl
  | cons m rest ih => rw [mapAll, ih, List.map_cons]

@[simp] theorem map_leaf (f : Leaf → Leaf) (g : UdtHead → UdtHead) (l : Leaf) :
    map f g (.leaf l) = .leaf (f l) := rfl

@[simp] theorem map_udt (f : Leaf → Leaf) (g : UdtHead → UdtHead) (head : UdtHead)
    (children : List Metric) :
    map f g (.udt head children) = .udt (g head) (children.map (map f g)) := by
  rw [map, mapAll_eq_map]

/-- Changes of parts that do the same to well-formed parts do the same to well-formed metrics. -/
theorem map_congr {f f' : Leaf → Leaf} {g g' : UdtHead → UdtHead} {m : Metric} (h : m.WellFormed)
    (hleaf : ∀ l : Leaf, l.WellFormed → f l = f' l)
    (hhead : ∀ head : UdtHead, head.WellFormed → g head = g' head) : map f g m = map f' g' m := by
  induction m using Metric.induction with
  | leaf l => simp [hleaf l (WellFormed.leaf_iff.1 h)]
  | udt head children ih =>
    simp only [map_udt, hhead head h.head]
    congr 1
    refine List.map_congr_left fun c hc => ?_
    exact ih c hc (h.children.each c hc)

/-- Two changes of parts, one after the other. -/
theorem map_map (f f' : Leaf → Leaf) (g g' : UdtHead → UdtHead) (m : Metric) :
    map f' g' (map f g m) = map (f' ∘ f) (g' ∘ g) m := by
  induction m using Metric.induction with
  | leaf l => rfl
  | udt head children ih =>
    simp only [map_udt, List.map_map, Function.comp_apply]
    congr 1
    exact List.map_congr_left ih

end Metric

/-! ## Contents -/

def Leaf.content (l : Leaf) : Leaf :=
  { l with label := { l.label with timestamp := 0 }, properties := [] }

def UdtHead.content (head : UdtHead) : UdtHead :=
  { head with label := { head.label with timestamp := 0 }, handle := none }

/-- The content of a metric: all but times, properties and handles, at every level. -/
def Metric.content (m : Metric) : Metric := m.map Leaf.content UdtHead.content

/-- The leaf as it is read back from a payload. -/
def Leaf.received (isBirth : Bool) (l : Leaf) : Leaf :=
  ⟨.plain l.label.name (micros (millis l.label.timestamp)), l.declared, l.value,
    if isBirth then l.properties else []⟩

/-- The head as it is read back from a payload. -/
def UdtHead.received (head : UdtHead) : UdtHead :=
  { head with label := .plain head.label.name (micros (millis head.label.timestamp)), handle := none }

/-- The metric as it is read back from a payload. -/
def Metric.received (isBirth : Bool) (m : Metric) : Metric := m.map (.received isBirth) .received

namespace Metric

@[simp] theorem name_content (m : Metric) : m.content.name = m.name := by
  cases m <;> rfl

@[simp] theorem name_received (isBirth : Bool) (m : Metric) : (m.received isBirth).name = m.name := by
  cases m <;> rfl

/-- What is read back has the content of what was sent. -/
theorem WellFormed.content_received {m : Metric} (h : m.WellFormed) (isBirth : Bool) :
    (m.received isBirth).content = m.content := by
  unfold content received
  rw [map_map]
  refine map_congr h (fun l hl => ?_) fun head hhead => ?_
  · simp [Leaf.content, Leaf.received, Label.plain, hl.published]
  · simp [UdtHead.content, UdtHead.received, Label.plain, hhead.published]

/-! ## Reading what was sent -/

/-- A metric whose code is not that of a template is read as a leaf. -/
theorem ofWire_scalar {w : Wire.Metric} {declared : DataType} {v : Option Scalar}
    (hcode : DataType.ofCode w.datatype = .ok declared) (hdeclared : declared ≠ .template)
    (hvalue : readValue w.datatype w.isNull w.value = .ok v) :
    ofWire w = .ok (.leaf ⟨.plain w.name (micros w.timestamp), declared, v, w.properties⟩) := by
  obtain ⟨name, _, timestamp, datatype, isNull, properties, value⟩ := w
  dsimp only at hcode hvalue ⊢
  cases declared with
  | template => exact absurd rfl hdeclared
  | _ => cases value <;> simp [ofWire, hcode, hvalue]

theorem ofWire_toWire_leaf {l : Leaf} (h : l.WellFormed) (isBirth : Bool) :
    ofWire (l.toWire isBirth) = .ok (.leaf (l.received isBirth)) := by
  unfold Leaf.toWire Leaf.received
  cases hvalue : l.value with
  | none =>
    rw [h.published]
    exact ofWire_scalar (DataType.ofCode_code h.declared.2) h.declared.1 rfl
  | some v =>
    have htype := h.value v hvalue
    have hknown : v ≠ .unknown := by
      rintro rfl
      exact h.declared.2 htype.symm
    have hread : readValue v.dataType.code (v = .unknown : Bool) v.toWire = .ok (some v) := by
      have hnull : v.toWire.isNull = false := Scalar.isNull_toWire hknown
      unfold readValue
      rw [hnull, Scalar.ofWire_toWire hknown]
      simp [hknown]
    rw [h.published, ← htype]
    have hcode := DataType.ofCode_code (Scalar.isScalar_dataType hknown).2
    exact ofWire_scalar hcode v.dataType_ne_template hread

/-- A template is read as a UDT. -/
theorem ofWire_template (name : String) (timestamp : UInt64) (t : Wire.Template) :
    ofWire (.plain name timestamp DataType.template.code false (.template t)) =
      .ok (ofTemplate name (micros timestamp) t) := by
  simp only [Wire.Metric.plain, ofWire]
  rfl

theorem readParameters_wireParameters {head : UdtHead} (h : head.WellFormed) :
    readParameters head.wireParameters = head.parameters := by
  unfold readParameters UdtHead.wireParameters
  rw [List.filterMap_map]
  refine (List.filterMap_congr fun p hp => ?_).trans List.filterMap_some
  simp only [Function.comp_apply, Scalar.toEntry, Scalar.ofWire_toWire (h.parameters p hp)]

theorem readHead_toWire {head : UdtHead} (h : head.WellFormed) :
    readHead head.label.published (micros (millis head.label.timestamp))
        (if head.version = "" then none else some head.version)
        (if head.isDefinition then none else some head.definition) head.isDefinition
        head.wireParameters = head.received := by
  have hversion : (if head.version = "" then none else some head.version).getD "" = head.version := by
    split
    · next hempty => exact hempty.symm
    · rfl
  unfold readHead
  rw [hversion, readParameters_wireParameters h, h.sorted.ofList_eq_self, h.published]
  cases hdefinition : head.isDefinition with
  | true => simp [UdtHead.ofDefinition, UdtHead.received, hdefinition, h.definition hdefinition]
  | false => simp [UdtHead.ofInstance, UdtHead.received, hdefinition]

mutual

/-- A well-formed metric is read back from a payload. -/
theorem ofWire_toWire (isBirth : Bool) : ∀ m : Metric, m.WellFormed →
    ofWire (toWire isBirth m) = .ok (m.received isBirth)
  | .leaf l, h => ofWire_toWire_leaf (WellFormed.leaf_iff.1 h) isBirth
  | .udt head children, h => by
    have hchildren := ofWires_toWires isBirth children h.children.each
    have hsorted : Ordered.Sorted name (children.map (received isBirth)) :=
      h.children.sorted.map (name_received isBirth)
    simp only [toWire, UdtHead.toWire, ofWire_template, ofTemplate]
    rw [readHead_toWire h.head, hchildren, hsorted.ofList_eq_self]
    show _ = Except.ok (map _ _ (.udt head children))
    rw [map_udt]
    rfl

/-- Well-formed metrics are read back from a payload. -/
theorem ofWires_toWires (isBirth : Bool) : ∀ metrics : List Metric, (∀ m ∈ metrics, m.WellFormed) →
    ofWires (toWires isBirth metrics) = metrics.map (received isBirth)
  | [], _ => rfl
  | m :: rest, h => by
    have hm := ofWire_toWire isBirth m (h m List.mem_cons_self)
    have hrest := ofWires_toWires isBirth rest fun x hx => h x (List.mem_cons_of_mem _ hx)
    simp only [toWires, ofWires, hm, hrest, List.map_cons]

end

end Metric

end ScadaBridge
