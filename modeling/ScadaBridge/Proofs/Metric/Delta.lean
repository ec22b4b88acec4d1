import ScadaBridge.Proofs.Metric.Assign
import ScadaBridge.Proofs.Metric.Content

/-!
# Changes and the data that tell them

`Metric.Delta` ties a change to the metric before and after it: what the change does not name stayed as
it was, and what it names is a delta in turn. Taken updates are told by deltas (`delta_told`), and two
deltas one after the other are told by the union of their changes (`Delta.trans`).

Of a changed metric a data message holds the part that the change names (`Metric.part`). Whoever has the
content of the metric before the delta and takes the part over has the content after it (`Delta.apply`).
-/

namespace ScadaBridge

open Ordered

/-! ## Recorded changes -/

def ChangeSet.change? (changes : ChangeSet) (name : String) : Option Change :=
  (find? Prod.fst name changes).map Prod.snd

namespace ChangeSet

@[simp] theorem change?_nil (name : String) : change? [] name = none := rfl

theorem change?_cons (listed : String) (change : Change) (rest : ChangeSet) (name : String) :
    change? ((listed, change) :: rest) name = if listed = name then some change else change? rest name := by
  simp only [change?, find?]
  split <;> rfl

theorem change?_insert (listed : String) (change : Change) (changes : ChangeSet) (name : String) :
    change? (Ordered.insert Prod.fst (listed, change) changes) name =
      if listed = name then some change else change? changes name := by
  unfold change?
  rw [find?_insert]
  split <;> rfl

theorem change?_eq_none_of_sorted {listed : String} {change : Change} {rest : ChangeSet}
    (h : Ordered.Sorted Prod.fst ((listed, change) :: rest)) : change? rest listed = none := by
  unfold change?
  rw [h.find?_head]
  rfl

/-- Where two sets both record a change, their union does. -/
theorem change?_extend {more : ChangeSet} (hs : Ordered.Sorted Prod.fst more) (current : ChangeSet)
    (name : String) :
    change? (extend current more) name =
      match change? more name with
      | some change =>
        some (match change? current name with
          | some known => known.union change
          | none => change)
      | none => change? current name := by
  induction more generalizing current with
  | nil => rfl
  | cons entry rest ih =>
    obtain ⟨listed, change⟩ := entry
    rw [extend, ih hs.tail, change?_insert, change?_cons]
    by_cases hname : listed = name
    · subst hname
      rw [change?_eq_none_of_sorted hs, if_pos rfl, if_pos rfl]
      unfold change?
      rcases find? Prod.fst listed current with _ | ⟨_, known⟩ <;> rfl
    · rw [if_neg hname, if_neg hname]

theorem extend_sorted {current : ChangeSet} (h : Ordered.Sorted Prod.fst current) (more : ChangeSet) :
    Ordered.Sorted Prod.fst (extend current more) := by
  induction more generalizing current with
  | nil => exact h
  | cons entry rest ih => exact ih (h.insert _)

end ChangeSet

namespace Metric

/-! ## Parts -/

mutual

/-- The part of a metric that a change names. -/
def part (m : Metric) : Change → Metric
  | .whole => m
  | .children changes =>
    match m with
    | .leaf l => .leaf l
    | .udt head children => .udt head (partsOf children changes)

def partsOf (metrics : List Metric) : List (String × Change) → List Metric
  | [] => []
  | (listed, change) :: rest =>
    match find? name listed metrics with
    | some m => part m change :: partsOf metrics rest
    | none => partsOf metrics rest

end

@[simp] theorem name_part (m : Metric) (change : Change) : (m.part change).name = m.name := by
  cases change with
  | whole => rfl
  | children changes => cases m <;> rfl

mutual

/-- The data form of a metric is the part that the change names. -/
theorem data_eq_toWire_part (m : Metric) : ∀ change : Change, data m change = toWire false (part m change)
  | .whole => rfl
  | .children changes => by
    cases m with
    | leaf l => rfl
    | udt head children =>
      show head.toWire (dataOf children changes) = head.toWire (toWires false (partsOf children changes))
      rw [dataOf_eq_toWires_partsOf children changes]

theorem dataOf_eq_toWires_partsOf (metrics : List Metric) : ∀ changes : List (String × Change),
    dataOf metrics changes = toWires false (partsOf metrics changes)
  | [] => rfl
  | (listed, change) :: rest => by
    rw [dataOf, partsOf, dataOf_eq_toWires_partsOf metrics rest]
    cases find? name listed metrics with
    | none => rfl
    | some m =>
      show data m change :: _ = toWire false (part m change) :: _
      rw [data_eq_toWire_part m change]

end

theorem find?_partsOf (metrics : List Metric) (changes : ChangeSet) (listed : String) :
    find? name listed (partsOf metrics changes) =
      (changes.change? listed).bind fun change => (find? name listed metrics).map fun m => m.part change := by
  induction changes with
  | nil => rfl
  | cons entry rest ih =>
    obtain ⟨first, change⟩ := entry
    rw [partsOf, ChangeSet.change?_cons]
    by_cases hname : first = listed
    · subst hname
      cases hfound : find? name first metrics with
      | none =>
        rw [ih, hfound]
        cases ChangeSet.change? rest first <;> simp
      | some m =>
        have hm : (m.part change).name = first := by
          rw [name_part]
          exact key_of_find?_eq_some hfound
        simp [find?, hm]
    · rw [if_neg hname]
      cases hfound : find? name first metrics with
      | none => exact ih
      | some m =>
        have hm : ¬(m.part change).name = listed := by
          rw [name_part, key_of_find?_eq_some hfound]
          exact hname
        dsimp only
        rw [find?, if_neg hm, ih]

theorem partsOf_sublist (metrics : List Metric) (changes : ChangeSet) :
    ((partsOf metrics changes).map name).Sublist (changes.map Prod.fst) := by
  induction changes with
  | nil => exact List.Sublist.refl _
  | cons entry rest ih =>
    obtain ⟨listed, change⟩ := entry
    rw [partsOf]
    cases hfound : find? name listed metrics with
    | none => exact ih.cons _
    | some m =>
      dsimp only
      rw [List.map_cons, List.map_cons, name_part, key_of_find?_eq_some hfound]
      exact ih.cons_cons _

theorem partsOf_sorted {changes : ChangeSet} (h : Ordered.Sorted Prod.fst changes)
    (metrics : List Metric) : Ordered.Sorted name (partsOf metrics changes) :=
  h.of_sublist (partsOf_sublist metrics changes)

/-! ## Deltas -/

end Metric

/-- A head that an update of the same UDT may leave: it has all the parameters of the old one, with values
of the same types. -/
structure UdtHead.Succeeds (old new : UdtHead) : Prop where
  same : new.content = { old.content with parameters := new.parameters }
  kept : ∀ name q, find? Parameter.name name old.parameters = some q →
    ∃ p, find? Parameter.name name new.parameters = some p ∧ p.value.dataType = q.value.dataType

theorem UdtHead.Succeeds.trans {old mid new : UdtHead} (h₁ : old.Succeeds mid) (h₂ : mid.Succeeds new) :
    old.Succeeds new := by
  refine ⟨?_, fun name q hq => ?_⟩
  · rw [h₂.same, h₁.same]
  · obtain ⟨p, hp, hpq⟩ := h₁.kept name q hq
    obtain ⟨r, hr, hrp⟩ := h₂.kept name p hp
    exact ⟨r, hr, hrp.trans hpq⟩

namespace Metric

/-- A change leads from a metric, if there was any, to another. -/
inductive Delta : Change → Option Metric → Metric → Prop where
  /-- The metric is new. -/
  | fresh (m : Metric) : Delta .whole none m
  /-- The leaf has another value. -/
  | leaf {old new : Leaf} {v : Scalar} (same : new.content = { old.content with value := new.value })
      (value : new.value = some v) : Delta .whole (some (.leaf old)) (.leaf new)
  /-- The listed children and the parameters may differ. -/
  | udt {old new : UdtHead} {olds news : List Metric} {changes : ChangeSet} (head : old.Succeeds new)
      (sorted : Ordered.Sorted Prod.fst changes)
      (found : ∀ listed change, changes.change? listed = some change →
        ∃ m, find? name listed news = some m)
      (each : ∀ listed change m, changes.change? listed = some change →
        find? name listed news = some m → Delta change (find? name listed olds) m)
      (kept : ∀ listed, changes.change? listed = none →
        find? name listed news = find? name listed olds) :
      Delta (.children changes) (some (.udt old olds)) (.udt new news)

/-- Changes lead from metrics to others, name by name. -/
structure Deltas (changes : ChangeSet) (olds news : List Metric) : Prop where
  sorted : Ordered.Sorted Prod.fst changes
  found : ∀ listed change, changes.change? listed = some change → ∃ m, find? name listed news = some m
  each : ∀ listed change m, changes.change? listed = some change → find? name listed news = some m →
    Delta change (find? name listed olds) m
  kept : ∀ listed, changes.change? listed = none → find? name listed news = find? name listed olds

/-- Changes name metrics that there are, so they make a data message. -/
theorem Deltas.dataOf_ne_nil {changes : ChangeSet} {olds news : List Metric} (h : Deltas changes olds news)
    (hne : changes ≠ []) : dataOf news changes ≠ [] := by
  obtain ⟨⟨listed, change⟩, rest, rfl⟩ := List.exists_cons_of_ne_nil hne
  obtain ⟨m, hm⟩ := h.found listed change (by rw [ChangeSet.change?_cons, if_pos rfl])
  simp [dataOf, hm]

theorem Deltas.nil (metrics : List Metric) : Deltas [] metrics metrics :=
  ⟨sorted_nil _, by simp, by simp, fun _ _ => rfl⟩

theorem Deltas.singleton {change : Change} {m : Metric} {metrics : List Metric}
    (h : Delta change (find? name m.name metrics) m) :
    Deltas [(m.name, change)] metrics (Ordered.insert name m metrics) := by
  have hchange : ∀ listed, ChangeSet.change? [(m.name, change)] listed =
      if m.name = listed then some change else none := fun listed => ChangeSet.change?_cons _ _ _ _
  refine ⟨List.pairwise_singleton _ _, ?_, ?_, ?_⟩
  · intro listed _ hlisted
    rw [hchange] at hlisted
    split at hlisted
    · next hname =>
      subst hname
      exact ⟨m, find?_insert_self _ _ _⟩
    · simp at hlisted
  · intro listed _ m' hlisted hm
    rw [hchange] at hlisted
    split at hlisted
    · next hname =>
      subst hname
      cases hlisted
      rw [find?_insert_self] at hm
      cases hm
      exact h
    · simp at hlisted
  · intro listed hlisted
    rw [hchange] at hlisted
    split at hlisted
    · simp at hlisted
    · next hname => exact find?_insert_of_ne _ _ hname _

/-! ## One delta after the other -/

/-- Changes of single metrics are united name by name. -/
theorem Deltas.union {first second : ChangeSet} {olds mids news : List Metric}
    (h₁ : Deltas first olds mids) (h₂ : Deltas second mids news)
    (trans : ∀ listed c₁ c₂ mid new, second.change? listed = some c₂ → find? name listed news = some new →
      find? name listed mids = some mid → Delta c₁ (find? name listed olds) mid →
        Delta (c₁.union c₂) (find? name listed olds) new) :
    Deltas (ChangeSet.extend first second) olds news := by
  have hchange := ChangeSet.change?_extend h₂.sorted first
  refine ⟨ChangeSet.extend_sorted h₁.sorted second, ?_, ?_, ?_⟩
  · intro listed change hlisted
    rw [hchange] at hlisted
    cases hsecond : second.change? listed with
    | some c₂ => exact h₂.found listed c₂ hsecond
    | none =>
      rw [hsecond] at hlisted
      rw [h₂.kept listed hsecond]
      exact h₁.found listed change hlisted
  · intro listed change new hlisted hnew
    rw [hchange] at hlisted
    cases hsecond : second.change? listed with
    | some c₂ =>
      rw [hsecond] at hlisted
      cases hfirst : first.change? listed with
      | some c₁ =>
        rw [hfirst] at hlisted
        cases hlisted
        obtain ⟨mid, hmid⟩ := h₁.found listed c₁ hfirst
        exact trans listed c₁ c₂ mid new hsecond hnew hmid (h₁.each listed c₁ mid hfirst hmid)
      | none =>
        rw [hfirst] at hlisted
        cases hlisted
        rw [← h₁.kept listed hfirst]
        exact h₂.each listed c₂ new hsecond hnew
    | none =>
      rw [hsecond] at hlisted
      rw [h₂.kept listed hsecond] at hnew
      exact h₁.each listed change new hlisted hnew
  · intro listed hlisted
    rw [hchange] at hlisted
    cases hsecond : second.change? listed with
    | some c₂ =>
      rw [hsecond] at hlisted
      simp at hlisted
    | none =>
      rw [hsecond] at hlisted
      rw [h₂.kept listed hsecond]
      exact h₁.kept listed hlisted

/-- Two deltas, one after the other, are told by the union of their changes. -/
theorem Delta.trans {c₁ c₂ : Change} {old mid : Option Metric} {new : Metric} (h₂ : Delta c₂ mid new) :
    ∀ {m : Metric}, mid = some m → Delta c₁ old m → Delta (c₁.union c₂) old new := by
  -- on the second delta: its change decides how deep the union goes
  induction h₂ generalizing c₁ old with
  | fresh => simp
  | @leaf b c v same value =>
    intro m hm h₁
    cases hm
    have hunion : c₁.union .whole = .whole := by cases c₁ <;> rfl
    rw [hunion]
    cases h₁ with
    | fresh => exact .fresh _
    | @leaf a _ _ same' _ =>
      refine .leaf ?_ value
      rw [same, same']
  | @udt b c mids news second head sorted found each kept ih =>
    intro m hm h₁
    cases hm
    cases h₁ with
    | fresh => exact .fresh _
    | @udt a _ olds _ first head' sorted' found' each' kept' =>
      have hall : Deltas (ChangeSet.extend first second) olds news :=
        Deltas.union ⟨sorted', found', each', kept'⟩ ⟨sorted, found, each, kept⟩
          fun listed c₁ c₂ mid new hc₂ hnew hmid hdelta => ih listed c₂ new hc₂ hnew hmid hdelta
      exact .udt (head'.trans head) hall.sorted hall.found hall.each hall.kept

theorem Deltas.trans {first second : ChangeSet} {olds mids news : List Metric}
    (h₁ : Deltas first olds mids) (h₂ : Deltas second mids news) :
    Deltas (ChangeSet.extend first second) olds news :=
  h₁.union h₂ fun listed _ c₂ _ new hc₂ hnew hmid hdelta => (h₂.each listed c₂ new hc₂ hnew).trans hmid hdelta

/-! ## Updates are told by deltas -/

theorem succeeds_mergeParameters (stored : UdtHead) {incoming : List Parameter}
    (hs : Ordered.Sorted Parameter.name incoming) (timestamp : UInt64) :
    stored.Succeeds { stored with
      label := { stored.label with timestamp := timestamp }
      parameters := (mergeParameters stored.parameters incoming).parameters } := by
  refine ⟨rfl, fun name q hq => ?_⟩
  dsimp only
  rw [find?_mergeParameters hs, hq]
  cases find? Parameter.name name incoming with
  | none => exact ⟨q, rfl, rfl⟩
  | some p =>
    refine ⟨_, rfl, ?_⟩
    unfold Parameter.merged
    dsimp only
    split
    · next htype => exact htype.symm
    · rfl

/-- An update of which nothing is told leaves the stored metric. -/
theorem merged_of_told_eq_none {stored : Option Metric} {incoming : Metric}
    (h : told stored incoming = none) : stored = some (merged stored incoming) := by
  cases stored with
  | none => simp [told] at h
  | some existing => exact congrArg some (assign_refused h).symm

theorem taken_of_told {existing incoming : Metric} {change : Change}
    (h : told (some existing) incoming = some change) :
    Taken existing incoming (merged (some existing) incoming) change := by
  rcases assign_cases existing incoming with ⟨-, hnone⟩ | ⟨change', hchange, htaken⟩
  · rw [told, hnone] at h
    simp at h
  · rw [told, hchange] at h
    cases h
    exact htaken

/-- A child is told of exactly if the update names it and it was taken. -/
theorem change?_mergeChildren {children : List Metric} (hsorted : Ordered.Sorted name children)
    (existing : List Metric) (listed : String) :
    (mergeChildren existing children).changes.change? listed =
      (find? name listed children).bind fun m => told (find? name listed existing) m := by
  rw [ChangeSet.change?, find?_changes_mergeChildren hsorted]
  cases find? name listed children with
  | none => rfl
  | some m => simp [Function.comp_def]

/-- What is told of the children of an update leads from the stored children to the merged ones, if that is so
of each of them. -/
theorem deltas_mergeChildren (existing : List Metric) {children : List Metric} (hsorted : Ordered.Sorted name children)
    (each : ∀ m ∈ children, ∀ change, told (find? name m.name existing) m = some change →
      Delta change (find? name m.name existing) (merged (find? name m.name existing) m)) :
    Deltas (mergeChildren existing children).changes existing (mergeChildren existing children).children := by
  have hchange := change?_mergeChildren hsorted existing
  refine ⟨changes_mergeChildren_sorted hsorted existing, ?_, ?_, ?_⟩
  · intro listed change hlisted
    rw [hchange, Option.bind_eq_some_iff] at hlisted
    obtain ⟨m, hm, -⟩ := hlisted
    rw [find?_mergeChildren hsorted, hm]
    exact ⟨_, rfl⟩
  · intro listed change m hlisted hm
    rw [hchange, Option.bind_eq_some_iff] at hlisted
    obtain ⟨c, hc, htold⟩ := hlisted
    rw [find?_mergeChildren hsorted, hc] at hm
    cases hm
    obtain rfl : c.name = listed := key_of_find?_eq_some hc
    exact each c (mem_of_find?_eq_some hc) change htold
  · intro listed hlisted
    rw [hchange] at hlisted
    rw [find?_mergeChildren hsorted]
    cases hc : find? name listed children with
    | none => rfl
    | some c =>
      rw [hc, Option.bind_some] at hlisted
      exact (merged_of_told_eq_none hlisted).symm

/-- What is told of an update leads from the stored metric to the merged one. -/
theorem delta_told {incoming : Metric} (hi : incoming.WellFormed) {stored : Option Metric}
    {change : Change} (h : told stored incoming = some change) :
    Delta change stored (merged stored incoming) := by
  induction incoming using Metric.induction generalizing stored change with
  | leaf b =>
    cases stored with
    | none =>
      cases h
      exact .fresh _
    | some existing =>
      have htaken := taken_of_told h
      generalize merged (some existing) (.leaf b) = m at htaken ⊢
      cases htaken with
      | leaf _ _ => exact .leaf rfl rfl
  | udt incoming children ih =>
    cases stored with
    | none =>
      cases h
      exact .fresh _
    | some existing =>
      have htaken := taken_of_told h
      generalize merged (some existing) (.udt incoming children) = m at htaken ⊢
      cases htaken with
      | @udt stored _ existing _ timestamp =>
        obtain ⟨sorted, found, each, kept⟩ := deltas_mergeChildren existing hi.children.sorted
          fun m hm change htold => ih m hm (hi.children.each m hm) htold
        exact .udt (succeeds_mergeParameters stored hi.head.sorted timestamp) sorted found each kept

/-! ## Taking a delta over -/

/-- The part that a delta names can be sent. -/
theorem Delta.part_wellFormed {change : Change} {old : Option Metric} {new : Metric}
    (h : Delta change old new) (hnew : new.WellFormed) : (new.part change).WellFormed := by
  induction h with
  | fresh => exact hnew
  | leaf => exact hnew
  | @udt _ new _ news changes _ sorted found each _ ih =>
    have hsorted := partsOf_sorted sorted news
    refine .udt hnew.head hsorted fun m hm => ?_
    have hfound := hsorted.find?_of_mem hm
    rw [find?_partsOf, Option.bind_eq_some_iff] at hfound
    obtain ⟨change, hchange, hpart⟩ := hfound
    obtain ⟨m', hm', rfl⟩ := Option.map_eq_some_iff.1 hpart
    exact ih _ change m' hchange hm' (hnew.children.find? hm')

/-- The parts that changes name can be sent. -/
theorem Deltas.partsOf_wellFormed {changes : ChangeSet} {olds news : List Metric}
    (h : Deltas changes olds news) (hnews : WellFormedAll news) :
    WellFormedAll (partsOf news changes) := by
  have hsorted := partsOf_sorted h.sorted news
  refine ⟨hsorted, fun m hm => ?_⟩
  have hfound := hsorted.find?_of_mem hm
  rw [find?_partsOf, Option.bind_eq_some_iff] at hfound
  obtain ⟨change, hchange, hpart⟩ := hfound
  obtain ⟨m', hm', rfl⟩ := Option.map_eq_some_iff.1 hpart
  exact (h.each _ change m' hchange hm').part_wellFormed (hnews.find? hm')

/-- An update that names every parameter, with a value of its type, sets them all. -/
theorem mergeParameters_eq_incoming {stored incoming : List Parameter} (hs : Ordered.Sorted Parameter.name stored)
    (hi : Ordered.Sorted Parameter.name incoming)
    (kept : ∀ name q, find? Parameter.name name stored = some q →
      ∃ p, find? Parameter.name name incoming = some p ∧ p.value.dataType = q.value.dataType) :
    (mergeParameters stored incoming).parameters = incoming := by
  refine (mergeParameters_sorted hs _).ext hi fun name => ?_
  rw [find?_mergeParameters hi]
  cases hp : find? Parameter.name name incoming with
  | some p =>
    dsimp only
    cases hq : find? Parameter.name name stored with
    | none => rfl
    | some q =>
      obtain ⟨p', hp', htype⟩ := kept name q hq
      rw [hp] at hp'
      cases hp'
      simp [Parameter.merged, htype]
  | none =>
    dsimp only
    cases hq : find? Parameter.name name stored with
    | none => rfl
    | some q =>
      obtain ⟨p', hp', -⟩ := kept name q hq
      rw [hp] at hp'
      simp at hp'

/-- A leaf takes over a value of its type. -/
theorem content_assign_leaf {stored incoming : Leaf} {v : Scalar}
    (hdeclared : stored.declared = incoming.declared) (hvalue : incoming.value = some v)
    (htype : ∀ a, stored.value = some a → a.dataType = v.dataType) :
    (stored.assign incoming).1.content = { stored.content with value := some v } := by
  unfold Leaf.assign
  rw [if_neg (not_not.2 hdeclared), hvalue]
  dsimp only
  cases hstored : stored.value with
  | none => rfl
  | some a =>
    dsimp only
    by_cases heq : a = v
    · subst heq
      simp [Scalar.compare, Leaf.content, hstored]
    · simp [Scalar.compare, htype a hstored, heq, Leaf.content, Leaf.take]

/-- A UDT merges an update of the same definition. -/
theorem content_assign_udt {stored incoming : UdtHead} (existing children : List Metric)
    (h : stored.sameDefinition incoming = true) :
    ((Metric.udt stored existing).assign (.udt incoming children)).1.content =
      .udt { stored.content with
          parameters := (mergeParameters stored.parameters incoming.parameters).parameters }
        ((mergeChildren existing children).children.map content) := by
  simp only [assign, h, Bool.not_true, Bool.false_eq_true, if_false]
  unfold ofMerged
  dsimp only
  split
  · rw [content, map_udt]
    rfl
  · next hsame =>
    simp only [Bool.or_eq_true, Bool.not_eq_true', not_or, Bool.not_eq_false, List.isEmpty_iff,
      Bool.not_eq_true] at hsame
    rw [children_eq_of_changes_eq_nil hsame.1, parameters_eq_of_changed_eq_false hsame.2, content, map_udt]
    rfl

theorem content_udt (head : UdtHead) (children : List Metric) :
    (Metric.udt head children).content = .udt head.content (children.map content) := map_udt _ _ _ _

theorem eq_leaf_of_content {m : Metric} {l : Leaf} (h : m.content = (Metric.leaf l).content) :
    ∃ l', m = .leaf l' ∧ l'.content = l.content := by
  cases m with
  | leaf l' => exact ⟨l', rfl, Metric.leaf.inj h⟩
  | udt head children =>
    rw [content_udt] at h
    cases h

theorem eq_udt_of_content {m : Metric} {head : UdtHead} {children : List Metric}
    (h : m.content = (Metric.udt head children).content) :
    ∃ head' children', m = .udt head' children' ∧ head'.content = head.content ∧
      children'.map content = children.map content := by
  cases m with
  | leaf l =>
    rw [content_udt] at h
    cases h
  | udt head' children' =>
    rw [content_udt, content_udt] at h
    exact ⟨head', children', rfl, (Metric.udt.inj h).1, (Metric.udt.inj h).2⟩

/-- Metrics of the same contents hold the same contents under each name. -/
theorem find?_map_content {first second : List Metric} (h : first.map content = second.map content)
    (listed : String) : (find? name listed first).map content = (find? name listed second).map content := by
  rw [← find?_map name_content, ← find?_map name_content, h]

theorem sorted_of_content {first second : List Metric} (h : first.map content = second.map content)
    (hs : Ordered.Sorted name second) : Ordered.Sorted name first := by
  have hnames : ∀ metrics : List Metric, metrics.map name = (metrics.map content).map name := by
    intro metrics
    rw [List.map_map]
    exact List.map_congr_left fun m _ => (name_content m).symm
  refine hs.of_sublist ?_
  rw [hnames first, h, ← hnames second]

/-- A leaf with the content of the old one that takes over the new value has the content of the new one. -/
theorem content_assign_of_same {a b a' b' : Leaf} {v : Scalar}
    (same : b.content = { a.content with value := b.value }) (value : b.value = some v) (hold : a.WellFormed)
    (hnew : b.WellFormed) (ha : a'.content = a.content) (hb : b'.content = b.content) :
    (a'.assign b').1.content = b.content := by
  have hdeclared : b.declared = a.declared := by simpa [Leaf.content] using congrArg Leaf.declared same
  have ha' : a'.declared = a.declared := by simpa [Leaf.content] using congrArg Leaf.declared ha
  have hb' : b'.declared = b.declared := by simpa [Leaf.content] using congrArg Leaf.declared hb
  have hvalue : b'.value = some v := by simpa [Leaf.content, value] using congrArg Leaf.value hb
  have hstored : a'.value = a.value := by simpa [Leaf.content] using congrArg Leaf.value ha
  have htaken : (a'.assign b').1.content = { a'.content with value := some v } := by
    refine content_assign_leaf ?_ hvalue fun x hx => ?_
    · rw [ha', hb', hdeclared]
    · rw [hstored] at hx
      rw [hold.value x hx, hnew.value v value, hdeclared]
  rw [htaken, ha, same, value]

/-- Children with the content of the old ones that take over the parts that the changes name have the content of
the new ones, if that is so of each child. -/
theorem content_mergeChildren {changes : ChangeSet} {olds news olds' parts : List Metric}
    (h : Deltas changes olds news) (hnews : Ordered.Sorted name news) (holds' : Ordered.Sorted name olds')
    (holds : olds'.map content = olds.map content) (hparts : parts.map content = (partsOf news changes).map content)
    (each : ∀ listed change m, changes.change? listed = some change → find? name listed news = some m →
      ∀ p, (find? name listed olds').map content = (find? name listed olds).map content →
        p.content = (m.part change).content → (merged (find? name listed olds') p).content = m.content) :
    (mergeChildren olds' parts).children.map content = news.map content := by
  have hsorted := sorted_of_content hparts (partsOf_sorted h.sorted news)
  have hsorted' := mergeChildren_sorted holds' parts
  refine (hsorted'.map name_content).ext (hnews.map name_content) fun listed => ?_
  have hpart := find?_map_content hparts listed
  have hstored := find?_map_content holds listed
  rw [find?_map name_content, find?_map name_content, find?_mergeChildren hsorted]
  rw [find?_partsOf] at hpart
  -- every child is either taken over by its own delta, or stayed as it was
  cases hchange : changes.change? listed with
  | none =>
    rw [hchange, Option.bind_none, Option.map_none, Option.map_eq_none_iff] at hpart
    rw [hpart, h.kept listed hchange]
    exact hstored
  | some change =>
    obtain ⟨m, hm⟩ := h.found listed change hchange
    rw [hchange, Option.bind_some, hm, Option.map_some, Option.map_some, Option.map_eq_some_iff] at hpart
    obtain ⟨p, hp, hcontent⟩ := hpart
    rw [hp, hm]
    exact congrArg some (each listed change m hchange hm p hstored hcontent)

/-- Whoever has the content of the old metric and takes over the part that the delta names has the content
of the new one. -/
theorem Delta.apply {change : Change} {old : Option Metric} {new : Metric} (h : Delta change old new)
    (hold : ∀ m, old = some m → m.WellFormed) (hnew : new.WellFormed) {mirror : Option Metric}
    {incoming : Metric} (hm : mirror.map content = old.map content)
    (hi : incoming.content = (new.part change).content) :
    (merged mirror incoming).content = new.content := by
  induction h generalizing mirror incoming with
  | fresh m =>
    rw [Option.map_none, Option.map_eq_none_iff] at hm
    subst hm
    exact hi
  | @leaf a b v same value =>
    rw [Option.map_some, Option.map_eq_some_iff] at hm
    obtain ⟨m, rfl, hm⟩ := hm
    obtain ⟨a', rfl, ha⟩ := eq_leaf_of_content hm
    obtain ⟨b', rfl, hb⟩ := eq_leaf_of_content hi
    have hwold := WellFormed.leaf_iff.1 (hold _ rfl)
    have hwnew := WellFormed.leaf_iff.1 hnew
    exact congrArg Metric.leaf (content_assign_of_same same value hwold hwnew ha hb)
  | @udt old new olds news changes head sorted found each kept ih =>
    rw [Option.map_some, Option.map_eq_some_iff] at hm
    obtain ⟨m, rfl, hm⟩ := hm
    obtain ⟨old', olds', rfl, hhead, holds⟩ := eq_udt_of_content hm
    obtain ⟨new', parts, rfl, hhead', hparts⟩ := eq_udt_of_content hi
    have hparameters : old'.parameters = old.parameters := by
      simpa [UdtHead.content] using congrArg UdtHead.parameters hhead
    have hparameters' : new'.parameters = new.parameters := by
      simpa [UdtHead.content] using congrArg UdtHead.parameters hhead'
    have hsame : old'.sameDefinition new' = true := by
      have hdefinition : old'.definition = old.definition := by
        simpa [UdtHead.content] using congrArg UdtHead.definition hhead
      have hdefinition' : new'.definition = new.definition := by
        simpa [UdtHead.content] using congrArg UdtHead.definition hhead'
      have hkept : new.definition = old.definition := by
        simpa [UdtHead.content] using congrArg UdtHead.definition head.same
      simp [UdtHead.sameDefinition, hdefinition, hdefinition', hkept]
    have hwold := hold _ rfl
    have hmerged := mergeParameters_eq_incoming hwold.head.sorted hnew.head.sorted head.kept
    have hchildren : (mergeChildren olds' parts).children.map content = news.map content := by
      refine content_mergeChildren ⟨sorted, found, each, kept⟩ hnew.children.sorted
        (sorted_of_content holds hwold.children.sorted) holds hparts ?_
      intro listed change m hchange hm p hstored hcontent
      exact ih listed change m hchange hm (fun o ho => hwold.children.find? ho) (hnew.children.find? hm) hstored
        hcontent
    show (Metric.assign (.udt old' olds') (.udt new' parts)).1.content = _
    rw [content_assign_udt olds' parts hsame, hchildren, hparameters, hparameters', hmerged, hhead,
      content_udt, head.same]

end Metric

end ScadaBridge
