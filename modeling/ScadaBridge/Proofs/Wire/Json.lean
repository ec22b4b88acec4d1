import ScadaBridge.Wire.Json
import ScadaBridge.Proofs.Json

/-!
# Payloads are read back from JSON

A payload whose numbers are finite is read back from the value of its document
(`Payload.ofJson?_canonical_toJson`): whatever was left out of it is put back by the reader, and no template
is nested deeper than the document is. A number that is not finite has no place in JSON.
-/

namespace ScadaBridge.Wire

open Json

/-! ## Finite numbers -/

mutual

/-- Whether every number in the value is finite. -/
def Value.isFinite : Value → Bool
  | .float bits => BinaryFormat.single.isFinite bits.toNat
  | .double bits => BinaryFormat.double.isFinite bits.toNat
  | .template t => t.isFinite
  | _ => true

def Template.isFinite : Template → Bool
  | ⟨_, metrics, parameters, _, _⟩ => metricsFinite metrics && entriesFinite parameters

def metricsFinite : List Metric → Bool
  | [] => true
  | ⟨_, _, _, _, _, properties, value⟩ :: rest =>
    entriesFinite properties && value.isFinite && metricsFinite rest

def entriesFinite : List Entry → Bool
  | [] => true
  | ⟨_, _, value⟩ :: rest => value.isFinite && entriesFinite rest

end

/-- Whether every number in the payload is finite. -/
def Payload.isFinite (p : Payload) : Bool := metricsFinite p.metrics

/-! ## Documents of records -/

/-- The members of an entry, of which `label` names the first. -/
def Entry.members (label : String) (e : Entry) : List (String × Json) :=
  [(label, .str e.label), ("datatype", .ofNat e.datatype.toNat), ("value", e.value.toJson)]

theorem entriesToJson_eq_map (label : String) (entries : List Entry) :
    entriesToJson label entries = entries.map fun e => .obj (e.members label) := by
  induction entries with
  | nil => rfl
  | cons e rest ih =>
    obtain ⟨name, datatype, value⟩ := e
    rw [entriesToJson, List.map_cons, ih, Entry.members]

/-- The members of a metric. -/
def Metric.members (m : Metric) : List (String × Json) :=
  [("name", .str m.name)] ++ optionalMember "alias" (m.aliasNumber.map fun a => .ofNat a.toNat) ++
    [("timestamp", .ofNat m.timestamp.toNat), ("datatype", .ofNat m.datatype.toNat),
      ("is_null", .bool m.isNull)] ++
    optionalMember "properties"
      (if m.properties.isEmpty then none else some (.arr (entriesToJson "key" m.properties))) ++
    [("value", m.value.toJson)]

theorem metricsToJson_eq_map (metrics : List Metric) :
    metricsToJson metrics = metrics.map fun m => .obj m.members := by
  induction metrics with
  | nil => rfl
  | cons m rest ih =>
    obtain ⟨name, aliasNumber, timestamp, datatype, isNull, properties, value⟩ := m
    rw [metricsToJson, List.map_cons, ih, Metric.members]
    cases properties <;> rfl

/-- The members of a template body. -/
def Template.members (t : Template) : List (String × Json) :=
  optionalMember "version" (t.version.map .str) ++
    [("metrics", .arr (metricsToJson t.metrics)), ("parameters", .arr (entriesToJson "name" t.parameters))] ++
    optionalMember "template_ref" (t.definition.map .str) ++ [("is_definition", .bool t.isDefinition)]

theorem Template.toJson_eq (t : Template) : t.toJson = .obj t.members := by
  cases t
  rfl

/-- The members of a payload. -/
def Payload.members (p : Payload) : List (String × Json) :=
  [("timestamp", .ofNat p.timestamp.toNat)] ++ optionalMember "seq" (p.seq.map fun s => .ofNat s.toNat) ++
    optionalMember "uuid" (p.uuid.map .str) ++ [("metrics", .arr (metricsToJson p.metrics))]

theorem forall_mem_optionalMember {name : String} {j : Option Json} {P : String × Json → Prop} :
    (∀ m ∈ optionalMember name j, P m) ↔ ∀ v, j = some v → P (name, v) := by
  cases j with
  | none => simp [optionalMember]
  | some v => simp [optionalMember]

@[simp] theorem member?_optionalMember (name other : String) (j : Option Json) :
    member? other (optionalMember name j) = if name = other then j else none := by
  cases j with
  | none => simp [optionalMember, member?]
  | some v => simp [optionalMember, member?]

/-! ## One record, given what it holds -/

theorem Entry.carries {label : String} (hlabel : label ∉ ["datatype", "value"]) {e : Entry}
    (hvalue : Carries Value.read? e.value.toJson e.value) :
    Carries (fun levels => Entry.readWith (Value.read? levels) label) (.obj (e.members label)) e := by
  have hvalues : ∀ m ∈ e.members label, ∃ j, m.2.canonical = some j := by
    simp [members, hvalue.exists_canonical]
  have hknown : ((e.members label).map Prod.fst).Sublist [label, "datatype", "value"] := List.Sublist.refl _
  refine Carries.record hvalues hknown (List.nodup_cons.2 ⟨hlabel, by decide⟩) fun fields levels h => ?_
  have hother : label ≠ "datatype" ∧ label ≠ "value" := by simpa using hlabel
  have hname := h.required label (by simp [members, member?]) (carries_str e.label)
  have hdatatype := h.required "datatype" (by simp [members, member?, hother]) (carries_uint32 e.datatype)
  have hvalue := h.required "value" (by simp [members, member?, hother]) hvalue
  cases e
  simp [hname, hdatatype, hvalue]

theorem Entry.carries_list {label : String} (hlabel : label ∉ ["datatype", "value"]) {entries : List Entry}
    (hvalues : ∀ e ∈ entries, Carries Value.read? e.value.toJson e.value) :
    Carries (fun levels => listOf? (Entry.readWith (Value.read? levels) label))
      (.arr (entriesToJson label entries)) entries := by
  rw [entriesToJson_eq_map]
  exact Carries.list fun e he => Entry.carries hlabel (hvalues e he)

theorem Metric.carries {m : Metric} (hproperties : ∀ e ∈ m.properties, Carries Value.read? e.value.toJson e.value)
    (hvalue : Carries Value.read? m.value.toJson m.value) :
    Carries (fun levels => Metric.readWith (Value.read? levels)) (.obj m.members) m := by
  have hlist := Entry.carries_list (show "key" ∉ ["datatype", "value"] by decide) hproperties
  have hvalues : ∀ member ∈ m.members, ∃ j, member.2.canonical = some j := by
    simp only [members, List.forall_mem_append, forall_mem_optionalMember]
    simp [hvalue.exists_canonical, hlist.exists_canonical]
  have hknown : (m.members.map Prod.fst).Sublist
      ["name", "alias", "timestamp", "datatype", "is_null", "properties", "value"] := by
    unfold members
    cases m.aliasNumber <;> cases m.properties.isEmpty <;> simp [optionalMember]
  refine Carries.record hvalues hknown (by decide) fun fields levels h => ?_
  have hname := h.required "name" (by simp [members, member?]) (carries_str m.name)
  have halias := h.optional "alias" m.aliasNumber (by simp [members, member?]) carries_uint64 rfl
  have htimestamp := h.required "timestamp" (by simp [members, member?]) (carries_uint64 m.timestamp)
  have hdatatype := h.required "datatype" (by simp [members, member?]) (carries_uint32 m.datatype)
  have hnull := h.defaulted "is_null" (by simp [members, member?]) (carries_bool m.isNull) false
  have hvalue := h.required "value" (by simp [members, member?]) hvalue
  have hproperties : fields.defaulted "properties" (listOf? (Entry.readWith (Value.read? levels) "key")) [] =
      some m.properties := by
    cases hempty : m.properties.isEmpty with
    | true =>
      rw [List.isEmpty_iff.1 hempty]
      exact h.defaulted_absent "properties" (by simp [members, member?, hempty]) _ _
    | false => exact h.defaulted "properties" (by simp [members, member?, hempty]) hlist _
  cases m
  simp [hname, halias, htimestamp, hdatatype, hnull, hproperties, hvalue]

theorem Template.carries {t : Template}
    (hmetrics : Carries (fun levels => listOf? (Metric.readWith (Value.read? levels)))
      (.arr (metricsToJson t.metrics)) t.metrics)
    (hparameters : Carries (fun levels => listOf? (Entry.readWith (Value.read? levels) "name"))
      (.arr (entriesToJson "name" t.parameters)) t.parameters) :
    Carries (fun levels => Template.readWith (Value.read? levels)) t.toJson t := by
  rw [toJson_eq]
  have hvalues : ∀ member ∈ t.members, ∃ j, member.2.canonical = some j := by
    simp only [members, List.forall_mem_append, forall_mem_optionalMember]
    simp [hmetrics.exists_canonical, hparameters.exists_canonical]
  have hknown : (t.members.map Prod.fst).Sublist
      ["version", "metrics", "parameters", "template_ref", "is_definition"] := by
    unfold members
    cases t.version <;> cases t.definition <;> simp [optionalMember]
  refine Carries.record hvalues hknown (by decide) fun fields levels h => ?_
  have hversion := h.optional "version" t.version (by simp [members, member?]) carries_str rfl
  have hmetrics := h.defaulted "metrics" (by simp [members, member?]) hmetrics []
  have hparameters := h.defaulted "parameters" (by simp [members, member?]) hparameters []
  have hdefinition := h.optional "template_ref" t.definition (by simp [members, member?]) carries_str rfl
  have hisDefinition := h.defaulted "is_definition" (by simp [members, member?])
    (carries_bool t.isDefinition) false
  cases t
  simp [hversion, hmetrics, hparameters, hdefinition, hisDefinition]

theorem Payload.carries {p : Payload} (hmetrics : ∀ m ∈ p.metrics,
      Carries (fun levels => Metric.readWith (Value.read? levels)) (.obj m.members) m) :
    Carries (fun _ => Payload.ofJson?) p.toJson p := by
  have hlist : Carries (fun _ => listOf? Metric.ofJson?) (.arr (metricsToJson p.metrics)) p.metrics := by
    rw [metricsToJson_eq_map]
    exact Carries.list fun m hm => (hmetrics m hm).ofDepth
  have hvalues : ∀ member ∈ p.members, ∃ j, member.2.canonical = some j := by
    simp only [members, List.forall_mem_append, forall_mem_optionalMember]
    simp [hlist.exists_canonical]
  have hknown : (p.members.map Prod.fst).Sublist ["timestamp", "seq", "uuid", "metrics"] := by
    unfold members
    cases p.seq <;> cases p.uuid <;> simp [optionalMember]
  change Carries _ (.obj p.members) p
  refine Carries.record hvalues hknown (by decide) fun fields levels h => ?_
  have htimestamp := h.required "timestamp" (by simp [members, member?]) (carries_uint64 p.timestamp)
  have hseq := h.optional "seq" p.seq (by simp [members, member?]) carries_uint64 rfl
  have huuid := h.optional "uuid" p.uuid (by simp [members, member?]) carries_str rfl
  have hmetrics := h.defaulted "metrics" (by simp [members, member?]) hlist []
  simp [htimestamp, hseq, huuid, hmetrics]

/-! ## One value, given what it holds -/

/-- A value that holds no other value is read without regard to the depth. -/
theorem Value.carries_plain {α : Type} {reader : Json → Option α} {make : α → Value} {name : String}
    {written : Json} {a : α} (hcontent : Carries (fun _ => reader) written a)
    (hread : ∀ template j, readWith template (.obj [(name, j)]) = (reader j).map make) :
    Carries read? (.obj [(name, written)]) (make a) := by
  obtain ⟨tree, htree, hreader⟩ := hcontent
  refine ⟨.obj [(name, tree)], canonical_alternative htree, fun levels _ => ?_⟩
  have ha : reader tree = some a := hreader tree.depth (Nat.le_refl _)
  have hvalue : ∀ template, readWith template (.obj [(name, tree)]) = some (make a) := fun template => by
    rw [hread, ha, Option.map_some]
  cases levels with
  | zero => exact hvalue _
  | succ levels => exact hvalue _

theorem Value.carries_null : Carries read? (toJson .null) .null := by
  refine ⟨.str "null", rfl, fun levels _ => ?_⟩
  cases levels with
  | zero => rfl
  | succ levels => rfl

theorem Value.carries_template {t : Template}
    (h : Carries (fun levels => Template.readWith (read? levels)) t.toJson t) :
    Carries read? (toJson (.template t)) (.template t) := by
  obtain ⟨tree, htree, hread⟩ := h
  refine ⟨.obj [("template_value", tree)], canonical_alternative htree, fun levels hlevels => ?_⟩
  have hdepth : (Json.obj [("template_value", tree)]).depth = tree.depth + 1 := by
    simp [Json.depth, Json.depthMembers]
  rw [hdepth] at hlevels
  cases levels with
  | zero => omega
  | succ levels =>
    simp [read?, readWith, Json.alternative?, hread levels (by omega)]

/-! ## Everything in a payload -/

mutual

theorem Value.carries : ∀ v : Value, v.isFinite = true → Carries Value.read? v.toJson v
  | .int pattern, _ => Value.carries_plain (carries_uint32 pattern) fun _ _ => rfl
  | .long pattern, _ => Value.carries_plain (carries_uint64 pattern) fun _ _ => rfl
  | .float bits, finite => by
    rw [Value.isFinite] at finite
    exact Value.carries_plain (carries_single finite) fun _ _ => rfl
  | .double bits, finite => by
    rw [Value.isFinite] at finite
    exact Value.carries_plain (carries_double finite) fun _ _ => rfl
  | .boolean b, _ => Value.carries_plain (carries_bool b) fun _ _ => rfl
  | .string s, _ => Value.carries_plain (carries_str s) fun _ _ => rfl
  | .template t, finite => Value.carries_template (Template.carries_of_finite t (by rwa [Value.isFinite] at finite))
  | .null, _ => Value.carries_null

theorem Template.carries_of_finite : ∀ t : Template, t.isFinite = true →
    Carries (fun levels => Template.readWith (Value.read? levels)) t.toJson t
  | ⟨version, metrics, parameters, definition, isDefinition⟩, finite => by
    obtain ⟨hmetrics, hparameters⟩ : metricsFinite metrics = true ∧ entriesFinite parameters = true := by
      simpa [Template.isFinite] using finite
    refine Template.carries ?_ (Entry.carries_list (by decide) (entries_carry parameters hparameters))
    rw [metricsToJson_eq_map]
    exact Carries.list (metrics_carry metrics hmetrics)

theorem metrics_carry : ∀ metrics : List Metric, metricsFinite metrics = true → ∀ m ∈ metrics,
    Carries (fun levels => Metric.readWith (Value.read? levels)) (.obj m.members) m
  | [], _ => by simp
  | ⟨name, aliasNumber, timestamp, datatype, isNull, properties, value⟩ :: rest, finite => by
    obtain ⟨⟨hproperties, hvalue⟩, hrest⟩ :
        (entriesFinite properties = true ∧ value.isFinite = true) ∧ metricsFinite rest = true := by
      simpa [metricsFinite] using finite
    exact List.forall_mem_cons.2 ⟨Metric.carries (entries_carry properties hproperties) (Value.carries value hvalue),
      metrics_carry rest hrest⟩

theorem entries_carry : ∀ entries : List Entry, entriesFinite entries = true →
    ∀ e ∈ entries, Carries Value.read? e.value.toJson e.value
  | [], _ => by simp
  | ⟨name, datatype, value⟩ :: rest, finite => by
    obtain ⟨hvalue, hrest⟩ : value.isFinite = true ∧ entriesFinite rest = true := by
      simpa [entriesFinite] using finite
    exact List.forall_mem_cons.2 ⟨Value.carries value hvalue, entries_carry rest hrest⟩

end

/-- A payload whose numbers are finite is read back from the value of its document. -/
theorem Payload.ofJson?_canonical_toJson (p : Payload) (finite : p.isFinite = true) :
    ∃ tree, p.toJson.canonical = some tree ∧ ofJson? tree = some p := by
  obtain ⟨tree, htree, hread⟩ := Payload.carries (metrics_carry p.metrics finite)
  exact ⟨tree, htree, hread tree.depth (Nat.le_refl _)⟩

/-- A template in a template, with a property, a parameter, numbers of both precisions and a metric without value. -/
theorem Payload.ofJson?_pumpStation :
    let flow : Metric := ⟨"Flow", some 7, 5, 9, false, [⟨"unit", 12, .string "m3/h"⟩], .float 0x3F8CCCCD⟩
    let pump : Template := ⟨some "1.0", [flow, ⟨"Head", none, 5, 10, true, [], .null⟩],
      [⟨"limit", 10, .double 0x3FF199999999999A⟩], some "Pump", false⟩
    let station : Template := ⟨none, [⟨"P1", none, 5, 19, false, [], .template pump⟩], [], some "Station", false⟩
    let p : Payload := ⟨5, some 0, none, [⟨"Station", none, 5, 19, false, [], .template station⟩]⟩
    p.isFinite = true ∧ ∃ tree, p.toJson.canonical = some tree ∧ ofJson? tree = some p := by
  intro flow pump station p
  have hfinite : p.isFinite = true := by decide +kernel
  exact ⟨hfinite, p.ofJson?_canonical_toJson hfinite⟩

end ScadaBridge.Wire
