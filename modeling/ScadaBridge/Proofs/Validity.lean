import Mathlib.Data.List.Induction
import ScadaBridge.Proofs.Device

/-!
# Which data keep instances valid

A UDT that is bound to a definition may only have children that the definition declares. What comes in is checked
against its own definition, and its children then go into the UDT that is stored. The two need not be bound to the
same definition: merging compares the names of definitions only, and a UDT without a definition name is merged into
any other. So an update may bring a child that the definition of the stored UDT does not declare
(`Metric.Strays`, `Pump.not_applyData_validate`). Nothing else makes a valid tree invalid
(`Device.conforms_applyData_iff`).
-/

namespace ScadaBridge

open Ordered

/-! ## Validity -/

/-- The definition to which the children of a UDT are held: that of its handle, unless it is a definition
itself. -/
def UdtHead.bound? (head : UdtHead) : Option Nat := if head.isDefinition then none else head.handle

/-- The definition declares a child of this name, with a type compatible with that of the child. -/
def Udt.Declares (definition : Udt) (child : Metric) : Prop :=
  ∃ declared, find? Metric.name child.name definition.children = some declared ∧
    declared.declaredType.compatible child.declaredType = true

namespace Metric

/-- Every instance in a metric that is bound to a definition has only children that the definition declares. -/
inductive Conforms (definitions : Definitions) : Metric → Prop where
  | leaf (l : Leaf) : Conforms definitions (.leaf l)
  | udt {head : UdtHead} {children : List Metric}
      (bound : ∀ index, head.bound? = some index →
        ∃ definition, definitions.get? index = some definition ∧ ∀ c ∈ children, definition.Declares c)
      (each : ∀ c ∈ children, Conforms definitions c) : Conforms definitions (.udt head children)

variable {definitions : Definitions}

theorem conforms_udt_iff {head : UdtHead} {children : List Metric} :
    (Metric.udt head children).Conforms definitions ↔
      (∀ index, head.bound? = some index →
        ∃ definition, definitions.get? index = some definition ∧ ∀ c ∈ children, definition.Declares c) ∧
      ∀ c ∈ children, c.Conforms definitions := by
  constructor
  · intro h
    cases h with
    | udt bound each => exact ⟨bound, each⟩
  · rintro ⟨bound, each⟩
    exact .udt bound each

theorem validateChild_eq_ok_iff (head : UdtHead) {definition : Udt} {child : Metric} :
    validateChild head definition child = .ok () ↔ definition.Declares child := by
  unfold validateChild Udt.Declares
  cases find? name child.name definition.children with
  | none => simp
  | some declared =>
    by_cases hcompatible : declared.declaredType.compatible child.declaredType = true
    · simp [hcompatible]
    · simp [hcompatible]

theorem forM_validateChild_eq_ok_iff {head : UdtHead} {definition : Udt} {children : List Metric} :
    forM children (validateChild head definition) = .ok () ↔ ∀ c ∈ children, definition.Declares c := by
  induction children with
  | nil => simp [pure, Except.pure]
  | cons c rest ih =>
    rw [List.forM_cons, List.forall_mem_cons, ← ih, ← validateChild_eq_ok_iff head]
    cases validateChild head definition c with
    | error fault => simp [Bind.bind, Except.bind]
    | ok _ => simp [Bind.bind, Except.bind]

theorem validateMembers_eq_ok_iff {head : UdtHead} {children : List Metric} :
    validateMembers definitions head children = .ok () ↔
      ∀ index, head.bound? = some index →
        ∃ definition, definitions.get? index = some definition ∧ ∀ c ∈ children, definition.Declares c := by
  unfold validateMembers UdtHead.bound?
  cases head.isDefinition with
  | true => simp
  | false =>
    cases head.handle with
    | none => simp
    | some index =>
      cases hget : definitions.get? index with
      | none => simp [hget]
      | some definition => simp [hget, forM_validateChild_eq_ok_iff]

theorem validateAll_eq_ok_iff {metrics : List Metric} :
    validateAll definitions metrics = .ok () ↔ ∀ m ∈ metrics, m.validate definitions = .ok () := by
  induction metrics with
  | nil => simp [validateAll]
  | cons m rest ih =>
    rw [List.forall_mem_cons, ← ih, validateAll]
    cases m.validate definitions with
    | error fault => simp
    | ok _ => simp

/-- The check of a metric is passed by those that conform to the definitions. -/
theorem validate_eq_ok_iff {m : Metric} : m.validate definitions = .ok () ↔ m.Conforms definitions := by
  induction m using Metric.induction with
  | leaf l => exact ⟨fun _ => .leaf l, fun _ => rfl⟩
  | udt head children ih =>
    rw [conforms_udt_iff, ← validateMembers_eq_ok_iff, ← forall₂_congr ih, ← validateAll_eq_ok_iff, validate]
    cases validateMembers definitions head children with
    | error fault => simp
    | ok _ => simp

theorem Conforms.atTime {m : Metric} (h : m.Conforms definitions) (timestamp : UInt64) :
    (m.atTime timestamp).Conforms definitions := by
  cases h with
  | leaf l => exact .leaf _
  | udt bound each => exact .udt bound each

/-! ## Order -/

/-- The children of every UDT in a metric stand in the order of their names. -/
inductive InOrder : Metric → Prop where
  | leaf (l : Leaf) : InOrder (.leaf l)
  | udt {head : UdtHead} {children : List Metric} (sorted : Ordered.Sorted name children)
      (each : ∀ c ∈ children, InOrder c) : InOrder (.udt head children)

theorem inOrder_udt_iff {head : UdtHead} {children : List Metric} :
    (Metric.udt head children).InOrder ↔ Ordered.Sorted name children ∧ ∀ c ∈ children, c.InOrder := by
  constructor
  · intro h
    cases h with
    | udt sorted each => exact ⟨sorted, each⟩
  · rintro ⟨sorted, each⟩
    exact .udt sorted each

/-- Metrics in the order of their names, whose UDTs have their children in that order too. -/
structure InOrderAll (metrics : List Metric) : Prop where
  sorted : Ordered.Sorted name metrics
  each : ∀ m ∈ metrics, m.InOrder

theorem InOrderAll.insert {metrics : List Metric} (h : InOrderAll metrics) {m : Metric} (hm : m.InOrder) :
    InOrderAll (Ordered.insert name m metrics) :=
  ⟨h.sorted.insert m, h.sorted.forall_mem_insert.2 ⟨hm, fun x hx _ => h.each x hx⟩⟩

theorem InOrder.atTime {m : Metric} (h : m.InOrder) (timestamp : UInt64) : (m.atTime timestamp).InOrder := by
  cases h with
  | leaf l => exact .leaf _
  | udt sorted each => exact .udt sorted each

/-! ## Merging -/

/-- An update leaves a UDT its binding, and its children merged with those of the update, or as they were if the
update belongs to another definition. -/
theorem assign_udt (head incoming : UdtHead) (existing children : List Metric) :
    ∃ head' : UdtHead, head'.bound? = head.bound? ∧
      ((Metric.udt head existing).assign (.udt incoming children)).1 =
        .udt head' (if head.sameDefinition incoming then (mergeChildren existing children).children
          else existing) := by
  by_cases hsame : head.sameDefinition incoming = true
  · simp only [assign, hsame, Bool.not_true, Bool.false_eq_true, if_false, if_true, ofMerged]
    split
    · exact ⟨{ head with
        label := { head.label with timestamp := incoming.label.timestamp }
        parameters := (mergeParameters head.parameters incoming.parameters).parameters }, rfl, rfl⟩
    · next hunchanged =>
      have hchanges : (mergeChildren existing children).changes = [] := by simp_all
      rw [children_eq_of_changes_eq_nil hchanges]
      exact ⟨head, rfl, rfl⟩
  · exact ⟨head, rfl, by simp [assign, hsame]⟩

@[simp] theorem declaredType_assign (stored incoming : Metric) :
    (stored.assign incoming).1.declaredType = stored.declaredType := by
  rcases assign_cases stored incoming with ⟨hkept, -⟩ | ⟨_, -, htaken⟩
  · rw [hkept]
  · generalize (stored.assign incoming).1 = m at htaken
    cases htaken <;> rfl

/-- What holds of every merged child, for a property that stored children keep when `Q` holds. -/
theorem forall_mergeChildren_iff {existing children : List Metric} (hexisting : Ordered.Sorted name existing)
    (hchildren : Ordered.Sorted name children) {P : Metric → Prop} {Q : Metric → Metric → Prop}
    (hassign : ∀ c ∈ children, ∀ e ∈ existing, P (e.assign c).1 ↔ P e ∧ Q e c) :
    (∀ x ∈ (mergeChildren existing children).children, P x) ↔
      (∀ e ∈ existing, P e) ∧ (∀ c ∈ children, find? name c.name existing = none → P c) ∧
        ∀ c ∈ children, ∀ e, find? name c.name existing = some e → Q e c := by
  have hmem {x : Metric} := mem_mergeChildren_iff hexisting hchildren (x := x)
  constructor
  · intro h
    have hnew : ∀ c ∈ children, find? name c.name existing = none → P c :=
      fun c hc hnone => h c (hmem.2 (.inr ⟨c, hc, by rw [hnone]; rfl⟩))
    have hboth : ∀ c ∈ children, ∀ e, find? name c.name existing = some e → P e ∧ Q e c := by
      intro c hc e he
      have hmerged := h _ (hmem.2 (.inr ⟨c, hc, rfl⟩))
      rw [he] at hmerged
      exact (hassign c hc e (mem_of_find?_eq_some he)).1 hmerged
    refine ⟨fun e he => ?_, hnew, fun c hc e he => (hboth c hc e he).2⟩
    cases hc : find? name e.name children with
    | none => exact h e (hmem.2 (.inl ⟨he, hc⟩))
    | some c =>
      have hname : c.name = e.name := key_of_find?_eq_some hc
      exact (hboth c (mem_of_find?_eq_some hc) e (hname ▸ hexisting.find?_of_mem he)).1
  · rintro ⟨hkept, hnew, hmerge⟩ x hx
    rcases hmem.1 hx with ⟨hx, -⟩ | ⟨c, hc, rfl⟩
    · exact hkept x hx
    · cases he : find? name c.name existing with
      | none => exact hnew c hc he
      | some e =>
        have he' := mem_of_find?_eq_some he
        exact (hassign c hc e he').2 ⟨hkept e he', hmerge c hc e he⟩

theorem InOrder.assign {incoming : Metric} (hi : incoming.InOrder) {stored : Metric} (hs : stored.InOrder) :
    (stored.assign incoming).1.InOrder := by
  revert hi hs
  refine assign_induction (motive := fun stored incoming after => incoming.InOrder → stored.InOrder → after.InOrder)
    (fun _ _ _ hs => hs) (fun _ _ _ _ _ _ _ => .leaf _) ?_ stored incoming
  intro stored incoming existing children timestamp ih hi hs
  obtain ⟨-, hall⟩ := inOrder_udt_iff.1 hi
  obtain ⟨sorted, each⟩ := inOrder_udt_iff.1 hs
  refine .udt (mergeChildren_sorted sorted children) ?_
  exact forall_mem_mergeChildren each hall fun m hm old hold => ih m hm old (hall m hm) hold

theorem declares_assign_iff {definition : Udt} {stored incoming : Metric} :
    definition.Declares (stored.assign incoming).1 ↔ definition.Declares stored := by
  unfold Udt.Declares
  rw [name_assign, declaredType_assign]

/-! ## Strays -/

/-- Merging the second metric into the first brings a child to an instance whose definition does not declare it.
The update that has the child is bound to another definition, or to none. -/
inductive Strays (definitions : Definitions) : Metric → Metric → Prop where
  | here {head incoming : UdtHead} {existing children : List Metric} {index : Nat} {definition : Udt}
      {child : Metric} (same : head.sameDefinition incoming = true) (bound : head.bound? = some index)
      (foreign : incoming.bound? ≠ some index) (registered : definitions.get? index = some definition)
      (mem : child ∈ children) (new : find? name child.name existing = none)
      (undeclared : ¬definition.Declares child) :
      Strays definitions (.udt head existing) (.udt incoming children)
  | within {head incoming : UdtHead} {existing children : List Metric} {child stored : Metric}
      (same : head.sameDefinition incoming = true) (mem : child ∈ children)
      (found : find? name child.name existing = some stored) (strays : Strays definitions stored child) :
      Strays definitions (.udt head existing) (.udt incoming children)

theorem not_strays_udt_iff {head incoming : UdtHead} {existing children : List Metric}
    (hsame : head.sameDefinition incoming = true) :
    ¬Strays definitions (.udt head existing) (.udt incoming children) ↔
      (∀ index definition, head.bound? = some index → incoming.bound? ≠ some index →
        definitions.get? index = some definition →
          ∀ c ∈ children, find? name c.name existing = none → definition.Declares c) ∧
      ∀ c ∈ children, ∀ stored, find? name c.name existing = some stored → ¬Strays definitions stored c := by
  constructor
  · intro h
    refine ⟨fun index definition hbound hforeign hget c hc hnew => ?_, fun c hc stored hfound hstrays => ?_⟩
    · by_contra hundeclared
      exact h (.here hsame hbound hforeign hget hc hnew hundeclared)
    · exact h (.within hsame hc hfound hstrays)
  · rintro ⟨hhere, hwithin⟩ hstrays
    cases hstrays with
    | here _ bound foreign registered mem new undeclared =>
      exact undeclared (hhere _ _ bound foreign registered _ mem new)
    | within _ mem found strays => exact hwithin _ mem _ found strays

theorem strays_atTime_iff {stored m : Metric} {timestamp : UInt64} :
    Strays definitions stored (m.atTime timestamp) ↔ Strays definitions stored m := by
  cases m with
  | leaf l => constructor <;> rintro ⟨⟩
  | udt incoming children =>
    constructor
    · intro h
      cases h with
      | here same bound foreign registered mem new undeclared =>
        exact .here same bound foreign registered mem new undeclared
      | within same mem found strays => exact .within same mem found strays
    · intro h
      cases h with
      | here same bound foreign registered mem new undeclared =>
        exact .here same bound foreign registered mem new undeclared
      | within same mem found strays => exact .within same mem found strays

/-- A UDT that took over a valid update is valid if and only if it was, and the update brought no stray, provided
that this is so of its children. -/
theorem conforms_mergeChildren_iff {head head' incoming : UdtHead} {existing children : List Metric}
    (hhead : head'.bound? = head.bound?) (hsame : head.sameDefinition incoming = true)
    (hexisting : Ordered.Sorted name existing) (hchildren : Ordered.Sorted name children)
    (hvalid : (Metric.udt incoming children).Conforms definitions)
    (ih : ∀ c ∈ children, ∀ e ∈ existing,
      (e.assign c).1.Conforms definitions ↔ e.Conforms definitions ∧ ¬Strays definitions e c) :
    (Metric.udt head' (mergeChildren existing children).children).Conforms definitions ↔
      (Metric.udt head existing).Conforms definitions ∧
        ¬Strays definitions (.udt head existing) (.udt incoming children) := by
  obtain ⟨hbound, hconform⟩ := conforms_udt_iff.1 hvalid
  have hconforms := forall_mergeChildren_iff hexisting hchildren ih
  have hdeclares : ∀ definition : Udt,
      (∀ x ∈ (mergeChildren existing children).children, definition.Declares x) ↔
        (∀ e ∈ existing, definition.Declares e) ∧
          (∀ c ∈ children, find? name c.name existing = none → definition.Declares c) ∧
            ∀ c ∈ children, ∀ e, find? name c.name existing = some e → True :=
    fun definition => forall_mergeChildren_iff hexisting hchildren fun c _ e _ =>
      declares_assign_iff.trans (and_iff_left trivial).symm
  rw [conforms_udt_iff, conforms_udt_iff, not_strays_udt_iff hsame, hhead]
  constructor
  · rintro ⟨hafter, heach⟩
    obtain ⟨hold, -, hwithin⟩ := hconforms.1 heach
    refine ⟨⟨fun index hindex => ?_, hold⟩, fun index definition hindex _ hget => ?_, hwithin⟩
    · obtain ⟨definition, hget, hall⟩ := hafter index hindex
      exact ⟨definition, hget, ((hdeclares definition).1 hall).1⟩
    · obtain ⟨definition', hget', hall⟩ := hafter index hindex
      cases hget.symm.trans hget'
      exact ((hdeclares definition).1 hall).2.1
  · rintro ⟨⟨hbefore, hold⟩, hhere, hwithin⟩
    refine ⟨fun index hindex => ?_, hconforms.2 ⟨hold, fun c hc _ => hconform c hc, hwithin⟩⟩
    obtain ⟨definition, hget, hall⟩ := hbefore index hindex
    refine ⟨definition, hget, (hdeclares definition).2 ⟨hall, ?_, fun _ _ _ _ => trivial⟩⟩
    by_cases hforeign : incoming.bound? = some index
    · -- bound to the same definition, the update was checked against it
      obtain ⟨definition', hget', hall'⟩ := hbound index hforeign
      cases hget.symm.trans hget'
      exact fun c hc _ => hall' c hc
    · exact hhere index definition hindex hforeign hget

/-- A metric that took over a valid update is valid if and only if it was, and the update brought no stray. -/
theorem conforms_assign_iff {incoming : Metric} (horder : incoming.InOrder)
    (hvalid : incoming.Conforms definitions) {stored : Metric} (hstored : stored.InOrder) :
    (stored.assign incoming).1.Conforms definitions ↔
      stored.Conforms definitions ∧ ¬Strays definitions stored incoming := by
  induction incoming using Metric.induction generalizing stored with
  | leaf b =>
    have hnone : ¬Strays definitions stored (.leaf b) := fun h => by cases h
    cases stored with
    | leaf a => exact ⟨fun _ => ⟨.leaf a, hnone⟩, fun _ => .leaf _⟩
    | udt head existing => exact ⟨fun h => ⟨h, hnone⟩, And.left⟩
  | udt incoming children ih =>
    cases stored with
    | leaf a => exact ⟨fun h => ⟨h, fun hstrays => by cases hstrays⟩, And.left⟩
    | udt head existing =>
      obtain ⟨hsorted, heach⟩ := inOrder_udt_iff.1 hstored
      obtain ⟨hchildren, hall⟩ := inOrder_udt_iff.1 horder
      obtain ⟨head', hhead, hassign⟩ := assign_udt head incoming existing children
      rw [hassign]
      by_cases hsame : head.sameDefinition incoming = true
      · rw [if_pos hsame]
        refine conforms_mergeChildren_iff hhead hsame hsorted hchildren hvalid fun c hc e he => ?_
        exact ih c hc (hall c hc) ((conforms_udt_iff.1 hvalid).2 c hc) (heach e he)
      · have hnone : ¬Strays definitions (.udt head existing) (.udt incoming children) := by
          intro hstrays
          cases hstrays with
          | here same => exact hsame same
          | within same => exact hsame same
        rw [if_neg hsame, conforms_udt_iff, hhead, ← conforms_udt_iff, and_iff_left hnone]

end Metric

/-! ## Batches -/

namespace Device

variable (definitions : Definitions) (device : String) (timestamp : UInt64)

/-- A metric that arrives in a batch is merged into the one of its name; one that is new is taken over or
refused. -/
theorem applyMetric_metrics {batch : DataBatch} (hsorted : Ordered.Sorted Metric.name batch.metrics)
    (incoming : Metric) :
    (applyMetric definitions device timestamp batch incoming).metrics =
      match find? Metric.name incoming.name batch.metrics with
      | some stored => Ordered.insert Metric.name (stored.assign (incoming.atTime timestamp)).1 batch.metrics
      | none =>
        if acceptsNew definitions incoming then
          Ordered.insert Metric.name (incoming.atTime timestamp) batch.metrics
        else batch.metrics := by
  have hbatch := congrArg Prod.fst (applyMetric_eq definitions device timestamp batch incoming)
  have hinto := mergeAnnounced_cases timestamp batch.metrics batch.changes incoming
  cases hfound : find? Metric.name incoming.name batch.metrics with
  | none =>
    rw [hfound] at hinto
    simp only [contains, hfound, Option.isSome_none, Bool.false_or] at hbatch
    rcases hinto with ⟨htold, -⟩ | ⟨change, -, heq⟩
    · cases htold
    · rw [heq] at hbatch
      rw [hbatch]
      split <;> rfl
  | some stored =>
    rw [hfound] at hinto
    simp only [contains, hfound, Option.isSome_some, Bool.true_or, if_true] at hbatch
    rcases hinto with ⟨htold, heq⟩ | ⟨change, -, heq⟩
    · have hname : stored.name = incoming.name := key_of_find?_eq_some hfound
      dsimp only
      rw [hbatch, heq, Metric.assign_refused htold, hsorted.insert_eq_self (hname ▸ hfound)]
    · rw [hbatch, heq]
      rfl

theorem applyMetric_inOrder {batch : DataBatch} (h : Metric.InOrderAll batch.metrics) {incoming : Metric}
    (hi : incoming.InOrder) :
    Metric.InOrderAll (applyMetric definitions device timestamp batch incoming).metrics := by
  rw [applyMetric_metrics definitions device timestamp h.sorted]
  split
  · next stored hfound =>
    exact h.insert ((hi.atTime timestamp).assign (h.each stored (mem_of_find?_eq_some hfound)))
  · split
    · exact h.insert (hi.atTime timestamp)
    · exact h

theorem conforms_applyMetric_iff {batch : DataBatch} (h : Metric.InOrderAll batch.metrics) {incoming : Metric}
    (horder : incoming.InOrder) (hvalid : incoming.Conforms definitions) :
    (∀ m ∈ (applyMetric definitions device timestamp batch incoming).metrics, m.Conforms definitions) ↔
      (∀ m ∈ batch.metrics, m.Conforms definitions) ∧
        ∀ stored, find? Metric.name incoming.name batch.metrics = some stored →
          ¬Metric.Strays definitions stored incoming := by
  rw [applyMetric_metrics definitions device timestamp h.sorted]
  cases hfound : find? Metric.name incoming.name batch.metrics with
  | none =>
    have hnew := find?_eq_none_iff.1 hfound
    dsimp only
    split
    · rw [h.sorted.forall_mem_insert, Metric.name_atTime]
      constructor
      · exact fun ⟨_, hall⟩ => ⟨fun m hm => hall m hm (hnew m hm), fun stored hstored => by cases hstored⟩
      · exact fun ⟨hall, _⟩ => ⟨hvalid.atTime timestamp, fun m hm _ => hall m hm⟩
    · exact ⟨fun hall => ⟨hall, fun stored hstored => by cases hstored⟩, And.left⟩
  | some stored =>
    have hname : stored.name = incoming.name := key_of_find?_eq_some hfound
    have hstored := h.each stored (mem_of_find?_eq_some hfound)
    have hbefore : (∀ m ∈ batch.metrics, m.Conforms definitions) ↔
        stored.Conforms definitions ∧ ∀ m ∈ batch.metrics, m.name ≠ stored.name → m.Conforms definitions := by
      rw [← h.sorted.forall_mem_insert, h.sorted.insert_eq_self (hname ▸ hfound)]
    dsimp only
    rw [h.sorted.forall_mem_insert, hbefore, Metric.name_assign,
      Metric.conforms_assign_iff (horder.atTime timestamp) (hvalid.atTime timestamp) hstored,
      Metric.strays_atTime_iff]
    simp only [Option.some.injEq, forall_eq']
    exact and_right_comm

theorem applyData_snoc (d : Device) (incoming : List Metric) (m : Metric) :
    (d.applyData (incoming ++ [m]) definitions timestamp).2 =
      applyMetric definitions d.telemetryName timestamp (d.applyData incoming definitions timestamp).2 m := by
  unfold applyData
  rw [List.foldl_append]
  rfl

theorem applyData_inOrder {d : Device} (tree : Metric.InOrderAll d.metrics) {incoming : List Metric}
    (ordered : ∀ m ∈ incoming, m.InOrder) :
    Metric.InOrderAll (d.applyData incoming definitions timestamp).1.metrics := by
  induction incoming using List.reverseRecOn with
  | nil => exact tree
  | append_singleton incoming m ih =>
    have hbatch := ih fun x hx => ordered x (List.mem_append_left _ hx)
    show Metric.InOrderAll (d.applyData (incoming ++ [m]) definitions timestamp).2.metrics
    rw [applyData_snoc]
    exact applyMetric_inOrder definitions d.telemetryName timestamp hbatch (ordered m (by simp))

/-- After a batch of conforming data a conforming tree conforms if and only if none of the metrics, at its turn,
brought a stray. -/
theorem conforms_applyData_iff {d : Device} (tree : Metric.InOrderAll d.metrics)
    (conforms : ∀ m ∈ d.metrics, m.Conforms definitions) {incoming : List Metric}
    (ordered : ∀ m ∈ incoming, m.InOrder) (checked : ∀ m ∈ incoming, m.Conforms definitions) :
    (∀ m ∈ (d.applyData incoming definitions timestamp).1.metrics, m.Conforms definitions) ↔
      ∀ earlier m later, incoming = earlier ++ m :: later →
        ∀ stored, (d.applyData earlier definitions timestamp).1.metric? m.name = some stored →
          ¬Metric.Strays definitions stored m := by
  induction incoming using List.reverseRecOn with
  | nil => exact iff_of_true conforms (by simp)
  | append_singleton incoming last ih =>
    have hordered : ∀ m ∈ incoming, m.InOrder := fun m hm => ordered m (List.mem_append_left _ hm)
    have hbefore := ih hordered fun m hm => checked m (List.mem_append_left _ hm)
    have hbatch : Metric.InOrderAll (d.applyData incoming definitions timestamp).2.metrics :=
      applyData_inOrder definitions timestamp tree hordered
    have hstep := conforms_applyMetric_iff definitions d.telemetryName timestamp hbatch
      (ordered last (by simp)) (checked last (by simp))
    rw [← applyData_snoc] at hstep
    constructor
    · intro hafter earlier m later heq
      obtain ⟨hconform, hlast⟩ := hstep.1 hafter
      rcases later.eq_nil_or_concat' with rfl | ⟨later, last', rfl⟩
      · obtain ⟨rfl, hm⟩ := List.append_inj' heq rfl
        cases hm
        exact hlast
      · have hsplit : incoming ++ [last] = (earlier ++ m :: later) ++ [last'] := by simpa using heq
        obtain ⟨rfl, -⟩ := List.append_inj' hsplit rfl
        exact hbefore.1 hconform earlier m later rfl
    · intro hnone
      refine hstep.2 ⟨hbefore.2 fun earlier m later heq => ?_, hnone incoming last [] rfl⟩
      exact hnone earlier m (later ++ [last]) (by rw [heq]; simp)

/-- A batch of checked data keeps every instance of the tree valid, provided that none of its metrics, at its
turn, brings a stray: an update that is bound to the definition of the instance never does. -/
theorem applyData_validate {d : Device} (tree : Metric.InOrderAll d.metrics)
    (valid : ∀ m ∈ d.metrics, m.validate definitions = .ok ()) {incoming : List Metric}
    (ordered : ∀ m ∈ incoming, m.InOrder) (checked : ∀ m ∈ incoming, m.validate definitions = .ok ())
    (fits : ∀ earlier m later, incoming = earlier ++ m :: later →
      ∀ stored, (d.applyData earlier definitions timestamp).1.metric? m.name = some stored →
        ¬Metric.Strays definitions stored m) :
    ∀ m ∈ (d.applyData incoming definitions timestamp).1.metrics, m.validate definitions = .ok () := by
  simp only [Metric.validate_eq_ok_iff] at valid checked ⊢
  exact (conforms_applyData_iff definitions timestamp tree valid ordered checked).2 fits

end Device

/-! ## Pumps -/

namespace Pump

def reading (name : String) : Metric := .leaf (.ofValue name (.boolean true) 5)

def definitions : Definitions :=
  (Definitions.empty.register ⟨.ofDefinition "Pump" "1.0" 5, [reading "flow", reading "speed"]⟩).1

/-- A device with one pump, of which the flow is known. -/
def station : Device :=
  { Device.ofVendor "APP1" "D1" with
    metrics := [.udt { UdtHead.ofInstance "pump" "Pump" "1.0" 5 with handle := some 0 } [reading "flow"]] }

/-- News of the pump that do not name its definition. -/
def unnamed (child : String) : Metric := .udt (.ofInstance "pump" "" "" 6) [reading child]

theorem inOrder_station : Metric.InOrderAll station.metrics :=
  ⟨List.pairwise_singleton _ _, by
    intro m hm
    cases List.mem_singleton.1 hm
    refine .udt (List.pairwise_singleton _ _) fun c hc => ?_
    cases List.mem_singleton.1 hc
    exact .leaf _⟩

theorem inOrder_unnamed (child : String) : (unnamed child).InOrder := by
  refine .udt (List.pairwise_singleton _ _) fun c hc => ?_
  cases List.mem_singleton.1 hc
  exact .leaf _

theorem validate_station : ∀ m ∈ station.metrics, m.validate definitions = .ok () := by
  intro m hm
  cases List.mem_singleton.1 hm
  rfl

/-- The speed is new, and declared. -/
theorem applyData_validate_speed :
    ((station.applyData [unnamed "speed"] definitions 7).1.metrics.map fun m => m.children.map Metric.name) =
        [["flow", "speed"]] ∧
      ∀ m ∈ (station.applyData [unnamed "speed"] definitions 7).1.metrics, m.validate definitions = .ok () := by
  refine ⟨by decide +kernel, ?_⟩
  refine Device.applyData_validate definitions 7 inOrder_station validate_station ?_ ?_ ?_
  · intro m hm
    cases List.mem_singleton.1 hm
    exact inOrder_unnamed "speed"
  · intro m hm
    cases List.mem_singleton.1 hm
    rfl
  · intro earlier m later heq stored hstored hstrays
    obtain ⟨rfl, rfl, rfl⟩ : earlier = [] ∧ m = unnamed "speed" ∧ later = [] := by
      cases earlier with
      | nil =>
        cases heq
        exact ⟨rfl, rfl, rfl⟩
      | cons first rest => simp at heq
    cases hstored
    cases hstrays with
    | here _ bound _ registered mem _ undeclared =>
      cases bound
      cases registered
      cases List.mem_singleton.1 mem
      exact undeclared ⟨reading "speed", rfl, rfl⟩
    | within _ mem found _ =>
      cases List.mem_singleton.1 mem
      cases found

/-- The batch is bound and checked as required, and the pump has a child afterwards that pumps do not have. -/
theorem not_applyData_validate :
    Metric.InOrderAll station.metrics ∧ (∀ m ∈ station.metrics, m.validate definitions = .ok ()) ∧
      (unnamed "extra").InOrder ∧ (unnamed "extra").bind definitions = (unnamed "extra", none) ∧
      (unnamed "extra").validate definitions = .ok () ∧
      ∃ m ∈ (station.applyData [unnamed "extra"] definitions 7).1.metrics,
        m.validate definitions = .error (.unknownMetric "UDT Pump" "extra") :=
  ⟨inOrder_station, validate_station, inOrder_unnamed "extra", rfl, rfl, _, List.mem_singleton_self _, rfl⟩

end Pump

end ScadaBridge
