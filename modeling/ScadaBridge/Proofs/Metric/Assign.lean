import ScadaBridge.Proofs.Metric.WellFormed

/-!
# What an update does

`Metric.Taken` says what a metric becomes when an update changes it, and by which change that is told;
an update that changes nothing leaves the metric as it was (`assign_refused`). A UDT merges an update
name by name: `find?_mergeChildren` and `find?_mergeParameters` say what is found under each name after
it, and `find?_changes_mergeChildren` which changes are told.
-/

namespace ScadaBridge

open Ordered

/-! ## Leaves -/

/-- A leaf either stays as it was or takes over the value of an update of its type. -/
theorem Leaf.assign_cases (stored incoming : Leaf) :
    ((stored.assign incoming).1 = stored ∧ (stored.assign incoming).2.change? = none) ∨
      ∃ v, incoming.value = some v ∧ stored.declared = incoming.declared ∧
        stored.assign incoming = (stored.take incoming v, .assigned .whole) := by
  unfold assign
  split
  · exact .inl ⟨rfl, rfl⟩
  · next hdeclared =>
    have hdeclared : stored.declared = incoming.declared := not_not.1 hdeclared
    split
    · exact .inl ⟨rfl, rfl⟩
    · next v hv =>
      split
      · exact .inr ⟨v, hv, hdeclared, rfl⟩
      · split
        · exact .inl ⟨rfl, rfl⟩
        · exact .inl ⟨rfl, rfl⟩
        · exact .inr ⟨v, hv, hdeclared, rfl⟩

/-- A leaf that takes over a value of its type stays well-formed. -/
theorem Leaf.WellFormed.take {l : Leaf} (h : l.WellFormed) {v : Scalar} (typed : v.dataType = l.declared)
    (incoming : Leaf) : (l.take incoming v).WellFormed := by
  refine ⟨h.published, h.declared, fun held hheld => ?_⟩
  cases hheld
  exact typed

/-- A well-formed leaf takes over every value of its type that it does not hold. -/
theorem Leaf.WellFormed.assign_value {l : Leaf} (h : l.WellFormed) {v : Scalar} (typed : v.dataType = l.declared)
    (name : String) (timestamp : UInt64) :
    l.assign (.ofValue name v timestamp) =
      if l.value = some v then (l, .noChange) else (l.take (.ofValue name v timestamp) v, .assigned .whole) := by
  have hdeclared : l.declared = (Leaf.ofValue name v timestamp).declared := typed.symm
  have hvalue : (Leaf.ofValue name v timestamp).value = some v := rfl
  unfold Leaf.assign
  rw [if_neg (not_not.2 hdeclared), hvalue]
  cases hold : l.value with
  | none => simp
  | some old =>
    have htype : old.dataType = v.dataType := (h.value old hold).trans typed.symm
    by_cases hsame : old = v
    · simp [Scalar.compare, hsame]
    · simp [Scalar.compare, htype, hsame]

/-! ## Parameters -/

/-- The parameter that is kept of a stored and an incoming one: the newer if it is of the same type. -/
def Parameter.merged (stored : Option Parameter) (p : Parameter) : Parameter :=
  match stored with
  | some q => if q.value.dataType = p.value.dataType then p else q
  | none => p

theorem mergeParameters_cons (stored : List Parameter) (p : Parameter) (rest : List Parameter) :
    ((mergeParameters stored (p :: rest)).parameters = (mergeParameters stored rest).parameters ∧
        (mergeParameters stored (p :: rest)).changed = (mergeParameters stored rest).changed ∧
        find? Parameter.name p.name stored =
          some (Parameter.merged (find? Parameter.name p.name stored) p)) ∨
      ((mergeParameters stored (p :: rest)).parameters =
          (mergeParameters (Ordered.insert Parameter.name p stored) rest).parameters ∧
        (mergeParameters stored (p :: rest)).changed = true ∧
        Parameter.merged (find? Parameter.name p.name stored) p = p) := by
  cases hq : find? Parameter.name p.name stored with
  | none =>
    right
    simp [mergeParameters, compareParameter?, hq, Parameter.merged]
  | some q =>
    have hname : q.name = p.name := key_of_find?_eq_some hq
    by_cases htype : q.value.dataType = p.value.dataType
    · by_cases hvalue : q.value = p.value
      · left
        have hqp : q = p := by
          cases q
          cases p
          simp_all
        simp [mergeParameters, compareParameter?, hq, Scalar.compare, Parameter.merged, hqp]
      · right
        simp [mergeParameters, compareParameter?, hq, Scalar.compare, htype, hvalue, Parameter.merged]
    · left
      simp [mergeParameters, compareParameter?, hq, Scalar.compare, htype, Parameter.merged]

theorem find?_mergeParameters {incoming : List Parameter}
    (hs : Ordered.Sorted Parameter.name incoming) (stored : List Parameter) (listed : String) :
    find? Parameter.name listed (mergeParameters stored incoming).parameters =
      match find? Parameter.name listed incoming with
      | some p => some (Parameter.merged (find? Parameter.name listed stored) p)
      | none => find? Parameter.name listed stored := by
  induction incoming generalizing stored with
  | nil => rfl
  | cons p rest ih =>
    rcases mergeParameters_cons stored p rest with ⟨hpar, -, hkept⟩ | ⟨hpar, -, hmerged⟩
    · rw [hpar, ih hs.tail]
      by_cases hp : p.name = listed
      · subst hp
        rw [hs.find?_head]
        simpa [find?] using hkept
      · simp [find?, hp]
    · rw [hpar, ih hs.tail, find?_insert]
      by_cases hp : p.name = listed
      · subst hp
        rw [hs.find?_head]
        simp [find?, hmerged]
      · simp [find?, hp]

theorem mergeParameters_sorted {stored : List Parameter} (h : Ordered.Sorted Parameter.name stored)
    (incoming : List Parameter) :
    Ordered.Sorted Parameter.name (mergeParameters stored incoming).parameters := by
  induction incoming generalizing stored with
  | nil => exact h
  | cons p rest ih =>
    rcases mergeParameters_cons stored p rest with ⟨hpar, -⟩ | ⟨hpar, -⟩
    · rw [hpar]
      exact ih h
    · rw [hpar]
      exact ih (h.insert p)

theorem mem_mergeParameters {stored incoming : List Parameter} {x : Parameter}
    (h : x ∈ (mergeParameters stored incoming).parameters) : x ∈ stored ∨ x ∈ incoming := by
  induction incoming generalizing stored with
  | nil => exact .inl h
  | cons p rest ih =>
    rcases mergeParameters_cons stored p rest with ⟨hpar, -⟩ | ⟨hpar, -⟩
    · rw [hpar] at h
      exact (ih h).imp_right (List.mem_cons_of_mem _)
    · rw [hpar] at h
      rcases ih h with h | h
      · rcases mem_insert h with rfl | h
        · exact .inr List.mem_cons_self
        · exact .inl h
      · exact .inr (List.mem_cons_of_mem _ h)

theorem parameters_eq_of_changed_eq_false {stored incoming : List Parameter}
    (h : (mergeParameters stored incoming).changed = false) :
    (mergeParameters stored incoming).parameters = stored := by
  induction incoming with
  | nil => rfl
  | cons p rest ih =>
    rcases mergeParameters_cons stored p rest with ⟨hpar, hchanged, -⟩ | ⟨-, hchanged, -⟩
    · rw [hpar]
      exact ih (hchanged ▸ h)
    · rw [hchanged] at h
      simp at h

/-! ## Metrics -/

namespace Metric

/-- The metric that is kept of a stored and an incoming one. -/
def merged (stored : Option Metric) (incoming : Metric) : Metric :=
  match stored with
  | some existing => (existing.assign incoming).1
  | none => incoming

/-- The change by which the merge of a stored and an incoming metric is told, if there is any. -/
def told (stored : Option Metric) (incoming : Metric) : Option Change :=
  match stored with
  | some existing => (existing.assign incoming).2.change?
  | none => some .whole

/-- What a metric becomes when an update changes it, and the change that tells so. -/
inductive Taken : Metric → Metric → Metric → Change → Prop where
  /-- A leaf takes over the value. -/
  | leaf {stored incoming : Leaf} {v : Scalar} (declared : stored.declared = incoming.declared)
      (value : incoming.value = some v) :
      Taken (.leaf stored) (.leaf incoming) (.leaf (stored.take incoming v)) .whole
  /-- A UDT merges the children and the parameters. -/
  | udt {stored incoming : UdtHead} {existing children : List Metric} {timestamp : UInt64} :
      Taken (.udt stored existing) (.udt incoming children)
        (.udt { stored with
            label := { stored.label with timestamp := timestamp }
            parameters := (mergeParameters stored.parameters incoming.parameters).parameters }
          (mergeChildren existing children).children)
        (.children (mergeChildren existing children).changes)

theorem assign_cases (stored incoming : Metric) :
    ((stored.assign incoming).1 = stored ∧ (stored.assign incoming).2.change? = none) ∨
      ∃ change, (stored.assign incoming).2 = .assigned change ∧
        Taken stored incoming (stored.assign incoming).1 change := by
  cases incoming with
  | leaf b =>
    cases stored with
    | leaf a =>
      rcases a.assign_cases b with ⟨hkept, hrefused⟩ | ⟨v, hv, hdeclared, htaken⟩
      · left
        exact ⟨congrArg Metric.leaf hkept, hrefused⟩
      · right
        refine ⟨.whole, ?_, ?_⟩
        · show (a.assign b).2 = _
          rw [htaken]
        · show Taken _ _ (.leaf (a.assign b).1) _
          rw [htaken]
          exact .leaf hdeclared hv
    | udt head existing =>
      left
      simp [assign, Assignment.change?]
  | udt incoming children =>
    cases stored with
    | leaf a =>
      left
      simp [assign, Assignment.change?]
    | udt head existing =>
      simp only [assign]
      split
      · exact .inl ⟨rfl, rfl⟩
      · unfold ofMerged
        dsimp only
        split
        · exact .inr ⟨_, rfl, .udt⟩
        · left
          refine ⟨rfl, ?_⟩
          split <;> rfl

/-- An update that changes nothing leaves the metric as it was. -/
theorem assign_refused {stored incoming : Metric} (h : (stored.assign incoming).2.change? = none) :
    (stored.assign incoming).1 = stored := by
  rcases assign_cases stored incoming with ⟨hkept, -⟩ | ⟨change, hchange, -⟩
  · exact hkept
  · rw [hchange] at h
    simp [Assignment.change?] at h

theorem Taken.name_eq {stored incoming m : Metric} {change : Change}
    (h : Taken stored incoming m change) : m.name = stored.name := by
  cases h <;> rfl

@[simp] theorem name_assign (stored incoming : Metric) : (stored.assign incoming).1.name = stored.name := by
  rcases assign_cases stored incoming with ⟨hkept, -⟩ | ⟨_, -, htaken⟩
  · rw [hkept]
  · exact htaken.name_eq

theorem merged_name {stored : List Metric} {m : Metric} :
    (merged (find? name m.name stored) m).name = m.name := by
  unfold merged
  split
  · next existing hfound =>
    rw [name_assign]
    exact key_of_find?_eq_some hfound
  · rfl

/-- What holds of metrics that stay as they were, of leaves that take over a value, and of UDTs that merge an update
if it holds of the merges of their children, holds of every merge. -/
@[elab_as_elim]
theorem assign_induction {motive : Metric → Metric → Metric → Prop}
    (kept : ∀ stored incoming, motive stored incoming stored)
    (leaf : ∀ (stored incoming : Leaf) (v : Scalar), stored.declared = incoming.declared → incoming.value = some v →
      motive (.leaf stored) (.leaf incoming) (.leaf (stored.take incoming v)))
    (udt : ∀ (stored incoming : UdtHead) (existing children : List Metric) (timestamp : UInt64),
      (∀ m ∈ children, ∀ old : Metric, motive old m (old.assign m).1) →
        motive (.udt stored existing) (.udt incoming children)
          (.udt { stored with
              label := { stored.label with timestamp := timestamp }
              parameters := (mergeParameters stored.parameters incoming.parameters).parameters }
            (mergeChildren existing children).children))
    (stored incoming : Metric) : motive stored incoming (stored.assign incoming).1 := by
  induction incoming using Metric.induction generalizing stored with
  | leaf incoming =>
    rcases assign_cases stored (.leaf incoming) with ⟨hkept, -⟩ | ⟨change, -, htaken⟩
    · rw [hkept]
      exact kept _ _
    · generalize (stored.assign (.leaf incoming)).1 = after at htaken
      cases htaken with
      | leaf declared value => exact leaf _ _ _ declared value
  | udt incoming children ih =>
    rcases assign_cases stored (.udt incoming children) with ⟨hkept, -⟩ | ⟨change, -, htaken⟩
    · rw [hkept]
      exact kept _ _
    · generalize (stored.assign (.udt incoming children)).1 = after at htaken
      cases htaken with
      | udt => exact udt _ _ _ _ _ fun m hm old => ih m hm old

/-! ## Children -/

/-- Merging one child first: either it changes nothing and the stored children stay, or the merged child
is put in its place and its change is told. -/
theorem mergeChildren_cons (stored : List Metric) (m : Metric) (rest : List Metric) :
    (told (find? name m.name stored) m = none ∧
        find? name m.name stored = some (merged (find? name m.name stored) m) ∧
        (mergeChildren stored (m :: rest)).children = (mergeChildren stored rest).children ∧
        (mergeChildren stored (m :: rest)).changes = (mergeChildren stored rest).changes) ∨
      ∃ change, told (find? name m.name stored) m = some change ∧
        (mergeChildren stored (m :: rest)).children =
          (mergeChildren (Ordered.insert name (merged (find? name m.name stored) m) stored)
            rest).children ∧
        (mergeChildren stored (m :: rest)).changes =
          (m.name, change) ::
            (mergeChildren (Ordered.insert name (merged (find? name m.name stored) m) stored)
              rest).changes := by
  cases hfound : find? name m.name stored with
  | none =>
    right
    exact ⟨.whole, rfl, by simp [mergeChildren, hfound, merged], by simp [mergeChildren, hfound, merged]⟩
  | some existing =>
    simp only [merged, told, mergeChildren, hfound]
    rcases hassign : existing.assign m with ⟨existing', result⟩
    cases result with
    | assigned change => exact .inr ⟨change, rfl, rfl, rfl⟩
    | noChange =>
      have hnone : (existing.assign m).2.change? = none := by rw [hassign]; rfl
      have hkept := assign_refused hnone
      rw [hassign] at hkept
      exact .inl ⟨rfl, congrArg some hkept.symm, rfl, rfl⟩
    | typeMismatch =>
      have hnone : (existing.assign m).2.change? = none := by rw [hassign]; rfl
      have hkept := assign_refused hnone
      rw [hassign] at hkept
      exact .inl ⟨rfl, congrArg some hkept.symm, rfl, rfl⟩

theorem find?_mergeChildren {incoming : List Metric} (hs : Ordered.Sorted name incoming)
    (stored : List Metric) (listed : String) :
    find? name listed (mergeChildren stored incoming).children =
      match find? name listed incoming with
      | some m => some (merged (find? name listed stored) m)
      | none => find? name listed stored := by
  induction incoming generalizing stored with
  | nil => rfl
  | cons m rest ih =>
    rcases mergeChildren_cons stored m rest with ⟨-, hkept, hchildren, -⟩ | ⟨_, -, hchildren, -⟩
    · rw [hchildren, ih hs.tail]
      by_cases hm : m.name = listed
      · subst hm
        rw [hs.find?_head]
        simpa [find?] using hkept
      · simp [find?, hm]
    · rw [hchildren, ih hs.tail, find?_insert, merged_name]
      by_cases hm : m.name = listed
      · subst hm
        rw [hs.find?_head]
        simp [find?]
      · simp [find?, hm]

theorem find?_changes_mergeChildren {incoming : List Metric} (hs : Ordered.Sorted name incoming)
    (stored : List Metric) (listed : String) :
    find? Prod.fst listed (mergeChildren stored incoming).changes =
      (find? name listed incoming).bind fun m =>
        (told (find? name listed stored) m).map fun change => (listed, change) := by
  induction incoming generalizing stored with
  | nil => rfl
  | cons m rest ih =>
    rcases mergeChildren_cons stored m rest with ⟨hnone, -, -, hchanges⟩ | ⟨change, htold, -, hchanges⟩
    · rw [hchanges, ih hs.tail]
      by_cases hm : m.name = listed
      · subst hm
        rw [hs.find?_head]
        simp [find?, hnone]
      · simp [find?, hm]
    · rw [hchanges]
      by_cases hm : m.name = listed
      · subst hm
        simp [find?, htold]
      · simp only [find?, hm, if_false]
        rw [ih hs.tail, find?_insert, merged_name, if_neg hm]

/-- The told changes stand in the order of the names of the update. -/
theorem changes_mergeChildren_sublist (stored incoming : List Metric) :
    ((mergeChildren stored incoming).changes.map Prod.fst).Sublist (incoming.map name) := by
  induction incoming generalizing stored with
  | nil => exact List.Sublist.refl _
  | cons m rest ih =>
    rcases mergeChildren_cons stored m rest with ⟨-, -, -, hchanges⟩ | ⟨_, -, -, hchanges⟩
    · rw [hchanges]
      exact (ih stored).cons _
    · rw [hchanges]
      exact (ih _).cons_cons _

theorem changes_mergeChildren_sorted {incoming : List Metric} (hs : Ordered.Sorted name incoming)
    (stored : List Metric) : Ordered.Sorted Prod.fst (mergeChildren stored incoming).changes :=
  hs.of_sublist (changes_mergeChildren_sublist stored incoming)

theorem mergeChildren_sorted {stored : List Metric} (h : Ordered.Sorted name stored)
    (incoming : List Metric) : Ordered.Sorted name (mergeChildren stored incoming).children := by
  induction incoming generalizing stored with
  | nil => exact h
  | cons m rest ih =>
    rcases mergeChildren_cons stored m rest with ⟨-, -, hchildren, -⟩ | ⟨_, -, hchildren, -⟩
    · rw [hchildren]
      exact ih h
    · rw [hchildren]
      exact ih (h.insert _)

/-- A merged child is a stored one that the update does not name, or the merge of one of the update. -/
theorem mem_mergeChildren_iff {stored incoming : List Metric} (hstored : Ordered.Sorted name stored)
    (hs : Ordered.Sorted name incoming) {x : Metric} :
    x ∈ (mergeChildren stored incoming).children ↔
      (x ∈ stored ∧ find? name x.name incoming = none) ∨
        ∃ m ∈ incoming, merged (find? name m.name stored) m = x := by
  constructor
  · intro hx
    have hfound := (mergeChildren_sorted hstored incoming).find?_of_mem hx
    rw [find?_mergeChildren hs] at hfound
    cases hm : find? name x.name incoming with
    | none =>
      rw [hm] at hfound
      exact .inl ⟨mem_of_find?_eq_some hfound, rfl⟩
    | some m =>
      rw [hm, ← key_of_find?_eq_some hm] at hfound
      exact .inr ⟨m, mem_of_find?_eq_some hm, Option.some.inj hfound⟩
  · rintro (⟨hx, hnone⟩ | ⟨m, hm, rfl⟩)
    · have hfound := find?_mergeChildren hs stored x.name
      rw [hnone, hstored.find?_of_mem hx] at hfound
      exact mem_of_find?_eq_some hfound
    · have hfound := find?_mergeChildren hs stored m.name
      rw [hs.find?_of_mem hm] at hfound
      exact mem_of_find?_eq_some hfound

/-- What holds of the stored and of the incoming children, and of the merges of the ones with the others, holds of the
children after the merge. -/
theorem forall_mem_mergeChildren {P : Metric → Prop} {stored incoming : List Metric} (hstored : ∀ m ∈ stored, P m)
    (hincoming : ∀ m ∈ incoming, P m) (hassign : ∀ m ∈ incoming, ∀ old, P old → P (old.assign m).1) :
    ∀ m ∈ (mergeChildren stored incoming).children, P m := by
  induction incoming generalizing stored with
  | nil => exact hstored
  | cons m rest ih =>
    obtain ⟨hm, hrest⟩ := List.forall_mem_cons.1 hincoming
    obtain ⟨hassignm, hassignrest⟩ := List.forall_mem_cons.1 hassign
    rcases mergeChildren_cons stored m rest with ⟨-, -, hchildren, -⟩ | ⟨_, -, hchildren, -⟩
    · rw [hchildren]
      exact ih hstored hrest hassignrest
    · rw [hchildren]
      refine ih (fun x hx => ?_) hrest hassignrest
      rcases mem_insert hx with rfl | hx
      · unfold merged
        split
        · next old hfound => exact hassignm old (hstored old (mem_of_find?_eq_some hfound))
        · exact hm
      · exact hstored x hx

/-- An update without told changes leaves the children as they were. -/
theorem children_eq_of_changes_eq_nil {stored incoming : List Metric}
    (h : (mergeChildren stored incoming).changes = []) :
    (mergeChildren stored incoming).children = stored := by
  induction incoming with
  | nil => rfl
  | cons m rest ih =>
    rcases mergeChildren_cons stored m rest with ⟨-, -, hchildren, hchanges⟩ | ⟨_, -, -, hchanges⟩
    · rw [hchildren]
      exact ih (hchanges ▸ h)
    · rw [hchanges] at h
      simp at h

/-! ## Well-formedness -/

theorem WellFormedAll.merged {stored : List Metric} (h : WellFormedAll stored) {incoming : Metric}
    (keeps : ∀ existing : Metric, existing.WellFormed → (existing.assign incoming).1.WellFormed)
    (hi : incoming.WellFormed) (listed : String) :
    (merged (Ordered.find? name listed stored) incoming).WellFormed := by
  unfold Metric.merged
  split
  · next existing hfound => exact keeps existing (h.find? hfound)
  · exact hi

/-- Taking over an update keeps a metric well-formed. -/
theorem WellFormed.assign {incoming : Metric} (hi : incoming.WellFormed) {stored : Metric}
    (hs : stored.WellFormed) : (stored.assign incoming).1.WellFormed := by
  revert hi hs
  refine assign_induction (motive := fun stored incoming after => incoming.WellFormed → stored.WellFormed →
    after.WellFormed) (fun _ _ _ hs => hs) ?_ ?_ stored incoming
  · intro stored incoming v declared value hi hs
    have htyped := ((WellFormed.leaf_iff.1 hi).value v value).trans declared.symm
    exact .leaf ((WellFormed.leaf_iff.1 hs).take htyped incoming)
  · intro stored incoming existing children timestamp ih hi hs
    have hhead := hs.head
    refine .udt ⟨hhead.published, hhead.definition, mergeParameters_sorted hhead.sorted _, fun p hp => ?_⟩
      (mergeChildren_sorted hs.children.sorted children) ?_
    · rcases mem_mergeParameters hp with hp | hp
      · exact hhead.parameters p hp
      · exact hi.head.parameters p hp
    · exact forall_mem_mergeChildren hs.children.each hi.children.each
        fun m hm old hold => ih m hm old (hi.children.each m hm) hold

end Metric

end ScadaBridge
