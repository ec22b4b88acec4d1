import ScadaBridge.Bridge.Inbound
import ScadaBridge.Proofs.Ordered

/-!
# Well-formed metrics

A metric is well-formed when it can be sent and read back: it is published under its own name, a leaf
declares a type that has values and holds none of another type, and the children and parameters of a
UDT stand in the order of their names. Records, definitions and readings give nothing else
(`ofRecord_wellFormed`, `usable?_wellFormed`, `evaluate_ne_unknown`), and taking over an update
keeps it (`WellFormed.assign`).
-/

namespace ScadaBridge

open Ordered

/-! ## Types and values -/

/-- The type has values of its own. -/
def DataType.IsScalar (t : DataType) : Prop := t ≠ .template ∧ t ≠ .unknown

theorem Scalar.dataType_ne_template (v : Scalar) : v.dataType ≠ .template := by
  cases v <;> simp [Scalar.dataType]

theorem Scalar.dataType_eq_unknown_iff {v : Scalar} : v.dataType = .unknown ↔ v = .unknown := by
  cases v <;> simp [Scalar.dataType]

theorem Scalar.isScalar_dataType {v : Scalar} (h : v ≠ .unknown) : v.dataType.IsScalar :=
  ⟨v.dataType_ne_template, mt dataType_eq_unknown_iff.1 h⟩

theorem Scalar.ofJson?_dataType {type : DataType} {j : Json} {v : Scalar}
    (h : Scalar.ofJson? type j = some v) : v.dataType = type := by
  cases type with
  | integer kind =>
    simp only [Scalar.ofJson?, Option.bind_eq_some_iff] at h
    obtain ⟨n, -, hn⟩ := h
    obtain ⟨fits, rfl⟩ := ofInt?_eq_some_iff.1 hn
    rfl
  | boolean | float | double | string =>
    simp only [Scalar.ofJson?, Option.map_eq_some_iff] at h
    obtain ⟨_, -, rfl⟩ := h
    rfl
  | template | unknown => simp [Scalar.ofJson?] at h

theorem Scalar.ofJson_dataType {type : DataType} {j : Json} {v : Scalar}
    (h : Scalar.ofJson type j = .ok v) : v.dataType = type :=
  ofJson?_dataType (ofJson_eq_ok_iff.1 h)

theorem Scalar.ofJson_ne_unknown {type : DataType} {j : Json} {v : Scalar}
    (h : Scalar.ofJson type j = .ok v) : v ≠ .unknown := by
  rintro rfl
  have htype : DataType.unknown = type := ofJson_dataType h
  subst htype
  simp [Scalar.ofJson] at h

theorem Scalar.ofRegisters_dataType {raw : String} {type : DataType} {v : Scalar}
    (h : Scalar.ofRegisters raw type = .ok v) : v.dataType = type := by
  simp only [Scalar.ofRegisters, bind, Except.bind] at h
  split at h
  · simp at h
  · cases type with
    | boolean =>
      cases h
      rfl
    | integer kind =>
      dsimp only at h
      split at h
      · simp at h
      · cases h
        rfl
    | float | double =>
      dsimp only at h
      split at h
      · simp at h
      · cases h
        rfl
    | string =>
      dsimp only at h
      split at h
      · cases h
        rfl
      · simp at h
    | template | unknown => simp at h

theorem Scalar.ofRegisters_ne_unknown {raw : String} {type : DataType} {v : Scalar}
    (h : Scalar.ofRegisters raw type = .ok v) : v ≠ .unknown := by
  rintro rfl
  have htype : DataType.unknown = type := ofRegisters_dataType h
  subst htype
  simp only [Scalar.ofRegisters, bind, Except.bind] at h
  split at h <;> simp at h

/-- A good reading means a value, which comes from its JSON or from its registers. -/
theorem Reading.goodValue_cases {r : Reading} {declared : DataType} {meaning : Evaluation}
    (h : r.goodValue declared = .ok meaning) :
    ∃ v, meaning = .value v ∧
      ((∃ j, Scalar.ofJson declared j = .ok v) ∨ ∃ raw, Scalar.ofRegisters raw declared = .ok v) := by
  have hraw : r.rawValue declared = .ok meaning →
      ∃ v, meaning = .value v ∧ ∃ raw, Scalar.ofRegisters raw declared = .ok v := by
    intro h
    unfold rawValue at h
    split at h
    · simp at h
    · next raw _ =>
      split at h
      · next v hv =>
        cases h
        exact ⟨v, rfl, raw, hv⟩
      · simp at h
  unfold goodValue at h
  split at h
  · obtain ⟨v, hmeaning, hregisters⟩ := hraw h
    exact ⟨v, hmeaning, .inr hregisters⟩
  · next j _ =>
    split at h
    · next v hv =>
      cases h
      exact ⟨v, rfl, .inl ⟨j, hv⟩⟩
    · split at h
      · simp at h
      · obtain ⟨v, hmeaning, hregisters⟩ := hraw h
        exact ⟨v, hmeaning, .inr hregisters⟩

/-- A reading never means a value without a type. -/
theorem Reading.evaluate_ne_unknown {r : Reading} {declared : DataType} {deathCodes : List UInt64}
    {v : Scalar} (h : r.evaluate declared deathCodes = .ok (.value v)) : v ≠ .unknown := by
  unfold evaluate at h
  split at h
  · obtain ⟨v', hv, ⟨j, hjson⟩ | ⟨raw, hregisters⟩⟩ := goodValue_cases h
    · cases hv
      exact Scalar.ofJson_ne_unknown hjson
    · cases hv
      exact Scalar.ofRegisters_ne_unknown hregisters
  · split at h <;> simp at h

/-! ## Well-formedness -/

/-- A leaf that can be sent and read back. -/
structure Leaf.WellFormed (l : Leaf) : Prop where
  /-- It is published under its own name. -/
  published : l.label.published = l.label.name
  /-- It declares a type that has values. -/
  declared : l.declared.IsScalar
  /-- Its value is of that type. -/
  value : ∀ v, l.value = some v → v.dataType = l.declared

theorem Leaf.WellFormed.ofValue (name : String) {v : Scalar} (hv : v ≠ .unknown) (timestamp : UInt64) :
    (Leaf.ofValue name v timestamp).WellFormed := by
  refine ⟨rfl, Scalar.isScalar_dataType hv, fun v' hv' => ?_⟩
  cases hv'
  rfl

/-- The head of a UDT that can be sent and read back. -/
structure UdtHead.WellFormed (head : UdtHead) : Prop where
  /-- It is published under its own name. -/
  published : head.label.published = head.label.name
  definition : head.isDefinition = true → head.definition = head.label.name
  /-- The parameters stand in the order of their names. -/
  sorted : Ordered.Sorted Parameter.name head.parameters
  /-- Every parameter has a type. -/
  parameters : ∀ p ∈ head.parameters, p.value ≠ .unknown

namespace Metric

/-- A metric that can be sent and read back. -/
inductive WellFormed : Metric → Prop where
  | leaf {l : Leaf} (h : l.WellFormed) : WellFormed (.leaf l)
  /-- A UDT, with its children in the order of their names. -/
  | udt {head : UdtHead} {children : List Metric} (h : head.WellFormed)
      (sorted : Ordered.Sorted name children) (each : ∀ m ∈ children, WellFormed m) :
      WellFormed (.udt head children)

structure WellFormedAll (metrics : List Metric) : Prop where
  /-- They stand in the order of their names. -/
  sorted : Ordered.Sorted name metrics
  each : ∀ m ∈ metrics, m.WellFormed

/-- What holds of leaves, and of a UDT if it holds of its children, holds of every metric. -/
@[elab_as_elim]
theorem induction {motive : Metric → Prop} (leaf : ∀ l, motive (.leaf l))
    (udt : ∀ head children, (∀ m ∈ children, motive m) → motive (.udt head children)) (m : Metric) :
    motive m :=
  Metric.rec (motive_1 := motive) (motive_2 := fun ms => ∀ m ∈ ms, motive m) leaf udt
    (by simp) (fun _ _ hm hrest => List.forall_mem_cons.2 ⟨hm, hrest⟩) m

namespace WellFormed

theorem leaf_iff {l : Leaf} : (Metric.leaf l).WellFormed ↔ l.WellFormed :=
  ⟨fun h => by cases h with | leaf h => exact h, .leaf⟩

theorem head {head : UdtHead} {children : List Metric} (h : (Metric.udt head children).WellFormed) :
    head.WellFormed := by
  cases h with
  | udt h => exact h

theorem children {head : UdtHead} {children : List Metric}
    (h : (Metric.udt head children).WellFormed) : WellFormedAll children := by
  cases h with
  | udt _ sorted each => exact ⟨sorted, each⟩

/-- The metric is published under its own name. -/
theorem published {m : Metric} (h : m.WellFormed) : m.label.published = m.name := by
  cases h with
  | leaf h => exact h.published
  | udt h => exact h.published

theorem atTime {m : Metric} (h : m.WellFormed) (timestamp : UInt64) :
    (m.atTime timestamp).WellFormed := by
  cases h with
  | leaf h => exact .leaf ⟨h.published, h.declared, h.value⟩
  | udt h sorted each => exact .udt ⟨h.published, h.definition, h.sorted, h.parameters⟩ sorted each

end WellFormed

@[simp] theorem name_atTime (m : Metric) (timestamp : UInt64) : (m.atTime timestamp).name = m.name := by
  cases m <;> rfl

namespace WellFormedAll

theorem nil : WellFormedAll [] := ⟨sorted_nil name, by simp⟩

theorem insert {metrics : List Metric} (h : WellFormedAll metrics) {m : Metric} (hm : m.WellFormed) :
    WellFormedAll (Ordered.insert name m metrics) := by
  refine ⟨h.sorted.insert m, fun x hx => ?_⟩
  rcases mem_insert hx with rfl | hx
  · exact hm
  · exact h.each x hx

theorem ofList {metrics : List Metric} (h : ∀ m ∈ metrics, m.WellFormed) :
    WellFormedAll (Ordered.ofList name metrics) :=
  ⟨.ofList name metrics, fun x hx => h x (mem_ofList hx)⟩

theorem find? {metrics : List Metric} (h : WellFormedAll metrics) {listed : String} {m : Metric}
    (hm : Ordered.find? name listed metrics = some m) : m.WellFormed :=
  h.each m (mem_of_find?_eq_some hm)

end WellFormedAll

end Metric

/-! ## What is read -/

theorem DataType.ofName?_ne_unknown {s : String} {t : DataType} (h : DataType.ofName? s = some t) :
    t ≠ .unknown := by
  unfold DataType.ofName? at h
  dsimp only at h
  split at h
  · cases h
    simp
  · split at h
    · cases h
      simp
    · have hmem : t ∈ DataType.known := List.mem_of_find?_eq_some h
      simpa using (List.mem_filter.1 hmem).2

theorem DataType.ofName_ne_unknown {s : String} {t : DataType} (h : DataType.ofName s = .ok t) :
    t ≠ .unknown := by
  unfold DataType.ofName at h
  split at h
  · next found =>
    cases h
    exact ofName?_ne_unknown found
  · simp at h

theorem DataType.ofCatalog_isScalar {kind : String} {width : UInt32} {t : DataType}
    (h : DataType.ofCatalog kind width = .ok t) : t.IsScalar := by
  have hwidth : ∀ {signed}, DataType.ofRegisterWidth kind signed width = .ok t → t.IsScalar := by
    intro signed h
    unfold DataType.ofRegisterWidth at h
    split at h
    · cases h; simp [IsScalar]
    · split at h
      · cases h; simp [IsScalar]
      · split at h
        · cases h; simp [IsScalar]
        · simp at h
  unfold DataType.ofCatalog at h
  dsimp only at h
  split at h
  · cases h; simp [IsScalar]
  · split at h
    · exact hwidth h
    · split at h
      · exact hwidth h
      · split at h
        · cases h; simp [IsScalar]
        · split at h
          · cases h; simp [IsScalar]
          · split at h
            · cases h; simp [IsScalar]
            · simp at h

theorem Parameter.ofRecord?_ne_unknown {j : Json} {p : Parameter} (h : Parameter.ofRecord? j = some p) :
    p.value ≠ .unknown := by
  simp only [Parameter.ofRecord?, Option.bind_eq_bind, Option.bind_eq_some_iff, pure,
    Option.some.injEq] at h
  obtain ⟨_, -, _, -, _, -, _, -, _, -, _, -, v, hv, rfl⟩ := h
  cases hread : Scalar.ofJson _ _ with
  | error fault =>
    rw [hread] at hv
    simp [Except.toOption] at hv
  | ok v' =>
    rw [hread] at hv
    cases hv
    exact Scalar.ofJson_ne_unknown hread

namespace Metric

theorem recordParameters_sorted (members : List (String × Json)) :
    Ordered.Sorted Parameter.name (recordParameters members) := by
  unfold recordParameters
  split
  · exact .ofList _ _
  · exact sorted_nil _

theorem recordParameters_ne_unknown {members : List (String × Json)} {p : Parameter}
    (h : p ∈ recordParameters members) : p.value ≠ .unknown := by
  unfold recordParameters at h
  split at h
  · obtain ⟨j, -, hj⟩ := List.mem_filterMap.1 (mem_ofList h)
    exact Parameter.ofRecord?_ne_unknown hj
  · simp at h

/-- The head of a record is published under its own name, and a definition is named for it. -/
theorem recordHead_eq_ok {name : String} {timestamp : UInt64} {members : List (String × Json)}
    {head : UdtHead} (h : recordHead name timestamp members = .ok head) :
    head.label = .plain name timestamp ∧ (head.isDefinition = true → head.definition = name) := by
  unfold recordHead at h
  split at h
  · split at h
    · cases h
      exact ⟨rfl, fun hd => by simp [UdtHead.ofInstance] at hd⟩
    · simp at h
  · split at h
    · cases h
      exact ⟨rfl, fun _ => rfl⟩
    · simp at h

theorem recordUdt_wellFormed {name : String} {timestamp : UInt64} {members : List (String × Json)}
    {children : Option (List Metric)} {m : Metric}
    (h : recordUdt name timestamp members children = .ok m)
    (hc : ∀ list, children = some list → ∀ c ∈ list, c.WellFormed) : m.WellFormed := by
  unfold recordUdt at h
  split at h
  · simp at h
  · next list =>
    split at h
    · simp at h
    · next head hhead =>
      cases h
      obtain ⟨hlabel, hdefinition⟩ := recordHead_eq_ok hhead
      have hchildren : WellFormedAll (Ordered.ofList Metric.name list) := .ofList (hc list rfl)
      refine .udt ⟨?_, ?_, recordParameters_sorted members, fun p => recordParameters_ne_unknown⟩
        hchildren.sorted hchildren.each
      · show head.label.published = head.label.name
        rw [hlabel]
        rfl
      · intro hd
        show head.definition = head.label.name
        rw [hdefinition hd, hlabel]
        rfl

theorem recordLeaf_wellFormed {name : String} {timestamp : UInt64} {type : DataType} {value : Json}
    {m : Metric} (ht : type.IsScalar) (h : recordLeaf name timestamp type value = .ok m) :
    m.WellFormed := by
  unfold recordLeaf at h
  split at h
  · cases h
    exact .leaf ⟨rfl, ht, by simp [Leaf.plain]⟩
  · split at h
    · next v hv =>
      cases h
      refine .leaf ⟨rfl, ht, fun v' hv' => ?_⟩
      cases hv'
      exact Scalar.ofJson_dataType hv
    · simp at h

mutual

theorem ofRecord_wellFormed (otherwise : UInt64) : ∀ (j : Json) {m : Metric},
    ofRecord otherwise j = .ok m → m.WellFormed
  | .obj members, m, h => by
    unfold ofRecord at h
    split at h
    · simp at h
    · split at h
      · simp at h
      · next type htype =>
        have hknown : type ≠ .unknown := by
          unfold recordType at htype
          split at htype
          · exact DataType.ofName_ne_unknown htype
          · simp at htype
        split at h
        · next result hresult =>
          subst h
          exact ofValueMember_wellFormed _ hknown _ members hresult
        · simp at h
  | .null, _, h | .bool _, _, h | .num _, _, h | .str _, _, h | .arr _, _, h | .unreadable, _, h => by
    simp [ofRecord] at h

theorem ofValueMember_wellFormed (name : String) {type : DataType} (ht : type ≠ .unknown)
    (timestamp : UInt64) : ∀ (members : List (String × Json)) {m : Metric},
    ofValueMember name type timestamp members = some (.ok m) → m.WellFormed
  | [], _, h => by simp [ofValueMember] at h
  | (key, value) :: rest, m, h => by
    unfold ofValueMember at h
    split at h
    · split at h
      · exact ofUdtValue_wellFormed name timestamp value (Option.some.inj h)
      · next htemplate => exact recordLeaf_wellFormed ⟨htemplate, ht⟩ (Option.some.inj h)
    · exact ofValueMember_wellFormed name ht timestamp rest h

theorem ofUdtValue_wellFormed (name : String) (timestamp : UInt64) : ∀ (value : Json) {m : Metric},
    ofUdtValue name timestamp value = .ok m → m.WellFormed
  | .obj members, m, h => by
    unfold ofUdtValue at h
    exact recordUdt_wellFormed h fun list hlist => childrenOfMembers_wellFormed timestamp members hlist
  | .null, _, h | .bool _, _, h | .num _, _, h | .str _, _, h | .arr _, _, h | .unreadable, _, h => by
    simp [ofUdtValue] at h

theorem childrenOfMembers_wellFormed (otherwise : UInt64) : ∀ (members : List (String × Json))
    {list : List Metric}, childrenOfMembers otherwise members = some list → ∀ c ∈ list, c.WellFormed
  | [], _, h => by simp [childrenOfMembers] at h
  | (key, value) :: rest, list, h => by
    unfold childrenOfMembers at h
    split at h
    · exact childrenOfList_wellFormed otherwise value h
    · exact childrenOfMembers_wellFormed otherwise rest h

theorem childrenOfList_wellFormed (otherwise : UInt64) : ∀ (value : Json) {list : List Metric},
    childrenOfList otherwise value = some list → ∀ c ∈ list, c.WellFormed
  | .arr items, list, h => by
    unfold childrenOfList at h
    cases h
    exact ofRecords_wellFormed otherwise items
  | .null, _, h | .bool _, _, h | .num _, _, h | .str _, _, h | .obj _, _, h | .unreadable, _, h => by
    simp [childrenOfList] at h

theorem ofRecords_wellFormed (otherwise : UInt64) : ∀ (records : List Json),
    ∀ c ∈ ofRecords otherwise records, c.WellFormed
  | [] => by simp [ofRecords]
  | j :: rest => by
    intro c hc
    unfold ofRecords at hc
    split at hc
    · next m hm =>
      rcases List.mem_cons.1 hc with rfl | hc
      · exact ofRecord_wellFormed otherwise j hm
      · exact ofRecords_wellFormed otherwise rest c hc
    · exact ofRecords_wellFormed otherwise rest c hc

end

/-- Resolving the handle of a head changes nothing else. -/
theorem head_bind_eq_ok {definitions : Definitions} {head head' : UdtHead}
    (h : head.bind definitions = .ok head') : ∃ handle, head' = { head with handle := handle } := by
  unfold UdtHead.bind at h
  split at h
  · cases h
    exact ⟨_, rfl⟩
  · split at h
    · cases h
      exact ⟨_, rfl⟩
    · simp at h

theorem name_bind (definitions : Definitions) (m : Metric) : (m.bind definitions).1.name = m.name := by
  cases m with
  | leaf l => rfl
  | udt head children =>
    unfold bind
    split
    · rfl
    · next hhead =>
      obtain ⟨handle, rfl⟩ := head_bind_eq_ok hhead
      rfl

theorem names_bindAll (definitions : Definitions) (metrics : List Metric) :
    (bindAll definitions metrics).1.map name = metrics.map name := by
  induction metrics with
  | nil => rfl
  | cons m rest ih =>
    have hm := name_bind definitions m
    unfold bindAll
    split
    · next heq =>
      rw [heq] at hm
      simpa using hm
    · next heq =>
      rw [heq] at hm
      simpa using ⟨hm, ih⟩

/-- Resolving handles changes nothing but handles. -/
theorem WellFormed.bind {m : Metric} (h : m.WellFormed) (definitions : Definitions) :
    (m.bind definitions).1.WellFormed := by
  induction m using Metric.induction with
  | leaf l => exact h
  | udt head children ih =>
    have hall : ∀ metrics : List Metric, (∀ m ∈ metrics, m ∈ children) →
        ∀ m ∈ (bindAll definitions metrics).1, m.WellFormed := by
      intro metrics hsub
      induction metrics with
      | nil => simp [bindAll]
      | cons c rest ihrest =>
        have hc := ih c (hsub c List.mem_cons_self) (h.children.each c (hsub c List.mem_cons_self))
        have hrest : ∀ m ∈ rest, m ∈ children := fun m hm => hsub m (List.mem_cons_of_mem _ hm)
        intro m hm
        unfold bindAll at hm
        split at hm
        · next heq =>
          rw [heq] at hc
          rcases List.mem_cons.1 hm with rfl | hm
          · exact hc
          · exact h.children.each m (hrest m hm)
        · next heq =>
          rw [heq] at hc
          rcases List.mem_cons.1 hm with rfl | hm
          · exact hc
          · exact ihrest hrest m hm
    unfold Metric.bind
    split
    · exact h
    · next hhead =>
      obtain ⟨handle, rfl⟩ := head_bind_eq_ok hhead
      have hh := h.head
      have hsorted : Ordered.Sorted name (bindAll definitions children).1 :=
        h.children.sorted.of_sublist (by rw [names_bindAll])
      exact .udt ⟨hh.published, hh.definition, hh.sorted, hh.parameters⟩ hsorted
        (hall children fun _ hm => hm)

end Metric

/-- A record that can be used gives a well-formed metric. -/
theorem Definitions.usable?_wellFormed {definitions : Definitions} {now : UInt64} {record : Json}
    {m : Metric} (h : definitions.usable? now record = some m) : m.WellFormed := by
  unfold usable? at h
  split at h
  · simp at h
  · next read hread =>
    have hbound := (Metric.ofRecord_wellFormed now record hread).bind definitions
    split at h
    · simp at h
    · next heq =>
      rw [heq] at hbound
      split at h
      · simp at h
      · cases h
        exact hbound

/-- A point of the catalog gives a well-formed metric. -/
theorem CatalogPoint.toMetric_wellFormed {p : CatalogPoint} {timestamp : UInt64} {m : Metric}
    (h : p.toMetric timestamp = .ok m) : m.WellFormed := by
  unfold toMetric at h
  split at h
  · next type htype =>
    cases h
    exact .leaf ⟨rfl, DataType.ofCatalog_isScalar htype, by simp [Leaf.plain]⟩
  · simp at h

end ScadaBridge
