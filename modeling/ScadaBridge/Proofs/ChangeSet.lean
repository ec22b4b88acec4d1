import Mathlib.Data.Fintype.EquivFin
import ScadaBridge.Device.Message
import ScadaBridge.Proofs.Device

/-!
# Change sets as a semilattice

A change set covers paths of metric names: those that it lists, and all below a metric that changed as a whole
(`ChangeSet.Covers`). Two facts carry everything. Extending a set unites what is covered (`covers_extend`), and a
set is determined by what it covers (`eq_of_covers`): all paths below a metric are covered only if it is listed as
a whole, because a list of children leaves some name out. So extending is commutative, associative and idempotent,
and what is recorded depends neither on the order nor on repetitions (`extend_semilattice`).

The sets must be in the order of the names at every level (`ChangeSet.Collated`), as those are that updates record
(`Metric.Deltas.collated`, `Device.applyData_collated`).
-/

namespace ScadaBridge

open Ordered

/-- At every level the changes stand in the order of the names, none of them twice, as in a map by name. -/
inductive Change.Collated : Change → Prop where
  | whole : Collated .whole
  | children {changes : List (String × Change)} (sorted : Ordered.Sorted Prod.fst changes)
      (each : ∀ entry ∈ changes, Collated entry.2) : Collated (.children changes)

structure ChangeSet.Collated (changes : ChangeSet) : Prop where
  sorted : Ordered.Sorted Prod.fst changes
  each : ∀ entry ∈ changes, entry.2.Collated

/-- The path leads from the changed metric to one that the change concerns. -/
inductive Change.Covers : Change → List String → Prop where
  /-- The metric itself. -/
  | self (change : Change) : Covers change []
  /-- Whatever is below a metric that changed as a whole. -/
  | whole (path : List String) : Covers .whole path
  /-- What a listed child covers. -/
  | child {changes : List (String × Change)} {name : String} {change : Change} {path : List String}
      (listed : ChangeSet.change? changes name = some change) (below : Covers change path) :
      Covers (.children changes) (name :: path)

/-- The path leads to a metric that the changes concern. -/
def ChangeSet.Covers (changes : ChangeSet) : List String → Prop
  | [] => False
  | name :: path => ∃ change, changes.change? name = some change ∧ change.Covers path

namespace Change

@[simp] theorem covers_nil (change : Change) : change.Covers [] := .self change

@[simp] theorem covers_whole (path : List String) : whole.Covers path := .whole path

theorem covers_children_cons_iff {changes : ChangeSet} {name : String} {path : List String} :
    (children changes).Covers (name :: path) ↔ changes.Covers (name :: path) := by
  constructor
  · intro h
    cases h with
    | child listed below => exact ⟨_, listed, below⟩
  · rintro ⟨change, listed, below⟩
    exact .child listed below

end Change

namespace ChangeSet

theorem Collated.change? {changes : ChangeSet} (h : Collated changes) {name : String} {change : Change}
    (listed : ChangeSet.change? changes name = some change) : change.Collated := by
  obtain ⟨entry, hentry, rfl⟩ := Option.map_eq_some_iff.1 listed
  exact h.each entry (mem_of_find?_eq_some hentry)

theorem collated_iff {changes : ChangeSet} :
    Collated changes ↔ Ordered.Sorted Prod.fst changes ∧
      ∀ name change, change? changes name = some change → change.Collated := by
  constructor
  · intro h
    exact ⟨h.sorted, fun _ _ listed => h.change? listed⟩
  · rintro ⟨sorted, each⟩
    refine ⟨sorted, fun entry hentry => each entry.1 entry.2 ?_⟩
    unfold change?
    rw [sorted.find?_of_mem hentry]
    rfl

theorem collated_singleton {name : String} {change : Change} (h : change.Collated) : Collated [(name, change)] :=
  ⟨List.pairwise_singleton _ _, by simpa using h⟩

end ChangeSet

namespace Change

theorem collated_children_iff {changes : ChangeSet} : (children changes).Collated ↔ changes.Collated := by
  constructor
  · intro h
    cases h with
    | children sorted each => exact ⟨sorted, each⟩
  · intro h
    exact .children h.sorted h.each

@[simp] theorem union_whole (a : Change) : a.union .whole = .whole := by cases a <;> rfl

@[simp] theorem whole_union (b : Change) : whole.union b = .whole := by cases b <;> rfl

theorem Collated.union {a b : Change} (ha : a.Collated) (hb : b.Collated) : (a.union b).Collated := by
  -- on the second change, which decides how deep the union goes
  induction hb generalizing a with
  | whole =>
    rw [union_whole]
    exact .whole
  | @children more sorted each ih =>
    cases a with
    | whole =>
      rw [whole_union]
      exact .whole
    | children current =>
      have hcurrent := collated_children_iff.1 ha
      refine collated_children_iff.2 (ChangeSet.collated_iff.2 ⟨ChangeSet.extend_sorted hcurrent.sorted more, ?_⟩)
      intro name change listed
      rw [ChangeSet.change?_extend sorted] at listed
      cases hmore : ChangeSet.change? more name with
      | none =>
        rw [hmore] at listed
        exact hcurrent.change? listed
      | some later =>
        obtain ⟨entry, hentry, rfl⟩ := Option.map_eq_some_iff.1 hmore
        have hmem := mem_of_find?_eq_some hentry
        rw [hmore] at listed
        cases hknown : ChangeSet.change? current name with
        | none =>
          rw [hknown] at listed
          cases listed
          exact each entry hmem
        | some known =>
          rw [hknown] at listed
          cases listed
          exact ih entry hmem (hcurrent.change? hknown)

/-- The union of two changes covers what one of them covers. -/
theorem covers_union {a b : Change} (hb : b.Collated) {path : List String} :
    (a.union b).Covers path ↔ a.Covers path ∨ b.Covers path := by
  induction path generalizing a b with
  | nil => simp
  | cons name path ih =>
    cases b with
    | whole => simp
    | children more =>
      cases a with
      | whole => simp
      | children current =>
        have hmore := collated_children_iff.1 hb
        show (children (ChangeSet.extend current more)).Covers (name :: path) ↔ _
        simp only [covers_children_cons_iff, ChangeSet.Covers, ChangeSet.change?_extend hmore.sorted]
        cases hlater : ChangeSet.change? more name with
        | none => simp
        | some later =>
          cases ChangeSet.change? current name with
          | none => simp
          | some known => simpa using ih (hmore.change? hlater)

end Change

namespace ChangeSet

theorem Collated.extend {a b : ChangeSet} (ha : Collated a) (hb : Collated b) : Collated (extend a b) :=
  Change.collated_children_iff.1
    (Change.Collated.union (Change.collated_children_iff.2 ha) (Change.collated_children_iff.2 hb))

/-- Extending a set unites what is covered. -/
theorem covers_extend (a : ChangeSet) {b : ChangeSet} (hb : Collated b) (path : List String) :
    Covers (extend a b) path ↔ Covers a path ∨ Covers b path := by
  cases path with
  | nil => simp [Covers]
  | cons name path =>
    simp only [← Change.covers_children_cons_iff]
    exact Change.covers_union (a := .children a) (Change.collated_children_iff.2 hb)

/-! ## What is covered determines the set -/

/-- A set leaves some name out. -/
theorem exists_change?_eq_none (changes : ChangeSet) : ∃ name, change? changes name = none := by
  obtain ⟨name, hname⟩ := Infinite.exists_notMem_finset (changes.map Prod.fst).toFinset
  refine ⟨name, ?_⟩
  rw [List.mem_toFinset, mem_map_key_iff] at hname
  rw [change?, Decidable.not_not.1 hname, Option.map_none]

theorem find?_eq_map_change? (changes : ChangeSet) (name : String) :
    find? Prod.fst name changes = (change? changes name).map fun change => (name, change) := by
  unfold change?
  cases hfound : find? Prod.fst name changes with
  | none => rfl
  | some entry =>
    obtain rfl := key_of_find?_eq_some hfound
    rfl

end ChangeSet

/-- A list of children does not cover all that is below their metric. -/
theorem Change.exists_not_covers (changes : ChangeSet) : ∃ path, ¬(children changes).Covers path := by
  obtain ⟨name, hname⟩ := changes.exists_change?_eq_none
  refine ⟨[name], fun h => ?_⟩
  rw [covers_children_cons_iff] at h
  obtain ⟨change, listed, -⟩ := h
  rw [hname] at listed
  cases listed

/-- A change is determined by what it covers. -/
theorem Change.eq_of_covers {a b : Change} (ha : a.Collated) (hb : b.Collated)
    (h : ∀ path, a.Covers path ↔ b.Covers path) : a = b := by
  -- a whole and a list of children are told apart by a name that the list leaves out
  induction ha generalizing b with
  | whole =>
    cases b with
    | whole => rfl
    | children changes =>
      obtain ⟨path, hpath⟩ := exists_not_covers changes
      exact absurd ((h path).1 (.whole path)) hpath
  | @children first sorted each ih =>
    cases b with
    | whole =>
      obtain ⟨path, hpath⟩ := exists_not_covers first
      exact absurd ((h path).2 (.whole path)) hpath
    | children second =>
      have hsecond := collated_children_iff.1 hb
      refine congrArg children (sorted.ext hsecond.sorted fun name => ?_)
      have hname : ∀ path, ChangeSet.Covers first (name :: path) ↔ ChangeSet.Covers second (name :: path) := by
        intro path
        rw [← covers_children_cons_iff, ← covers_children_cons_iff, h]
      simp only [ChangeSet.Covers] at hname
      rw [ChangeSet.find?_eq_map_change?, ChangeSet.find?_eq_map_change?]
      cases hone : ChangeSet.change? first name with
      | none =>
        cases htwo : ChangeSet.change? second name with
        | none => rfl
        | some change => simpa [hone, htwo] using hname []
      | some one =>
        cases htwo : ChangeSet.change? second name with
        | none => simpa [hone, htwo] using hname []
        | some two =>
          obtain ⟨entry, hentry, rfl⟩ := Option.map_eq_some_iff.1 hone
          have hsame : entry.2 = two :=
            ih entry (mem_of_find?_eq_some hentry) (hsecond.change? htwo) fun path => by
              simpa [hone, htwo] using hname path
          rw [hsame]

namespace ChangeSet

/-- A set is determined by what it covers. -/
theorem eq_of_covers {a b : ChangeSet} (ha : Collated a) (hb : Collated b)
    (h : ∀ path, Covers a path ↔ Covers b path) : a = b := by
  refine Change.children.inj (Change.eq_of_covers (Change.collated_children_iff.2 ha)
    (Change.collated_children_iff.2 hb) fun path => ?_)
  cases path with
  | nil => simp
  | cons name path => rw [Change.covers_children_cons_iff, Change.covers_children_cons_iff, h]

/-! ## Recorded changes -/

/-- The set after changes were recorded one after the other. -/
def recordAll (set : ChangeSet) (changes : List (String × Change)) : ChangeSet :=
  changes.foldl (fun known entry => known.record entry.1 entry.2) set

theorem Collated.recordAll {set : ChangeSet} (h : Collated set) {changes : List (String × Change)}
    (each : ∀ entry ∈ changes, entry.2.Collated) : Collated (set.recordAll changes) := by
  induction changes generalizing set with
  | nil => exact h
  | cons entry rest ih =>
    obtain ⟨hentry, hrest⟩ := List.forall_mem_cons.1 each
    exact ih (h.extend (collated_singleton hentry)) hrest

/-- Covered is what was covered before and what the recorded changes cover. -/
theorem covers_recordAll (set : ChangeSet) {changes : List (String × Change)}
    (each : ∀ entry ∈ changes, entry.2.Collated) (path : List String) :
    Covers (set.recordAll changes) path ↔ Covers set path ∨ ∃ entry ∈ changes, Covers [entry] path := by
  induction changes generalizing set with
  | nil => simp [recordAll]
  | cons entry rest ih =>
    obtain ⟨hentry, hrest⟩ := List.forall_mem_cons.1 each
    show Covers ((set.record entry.1 entry.2).recordAll rest) path ↔ _
    rw [ih (set.record entry.1 entry.2) hrest, record, covers_extend set (collated_singleton hentry), or_assoc,
      List.exists_mem_cons_iff]

/-- Neither the order nor repetitions matter. -/
theorem recordAll_congr {set : ChangeSet} (h : Collated set) {first second : List (String × Change)}
    (each : ∀ entry ∈ first, entry.2.Collated) (same : ∀ entry, entry ∈ first ↔ entry ∈ second) :
    set.recordAll first = set.recordAll second := by
  have each' : ∀ entry ∈ second, entry.2.Collated := fun entry hentry => each entry ((same entry).2 hentry)
  refine eq_of_covers (h.recordAll each) (h.recordAll each') fun path => ?_
  rw [covers_recordAll set each, covers_recordAll set each']
  simp only [same]

/-- Extending is commutative, associative and idempotent and unites what is covered; the data message of recorded
changes is the same in whatever order and however often they were recorded. -/
theorem extend_semilattice {a b c : ChangeSet} (ha : Collated a) (hb : Collated b) (hc : Collated c) :
    extend a b = extend b a ∧
    extend (extend a b) c = extend a (extend b c) ∧
    extend a a = a ∧
    (∀ path, Covers (extend a b) path ↔ Covers a path ∨ Covers b path) ∧
    ∀ first second : List (String × Change), (∀ entry ∈ first, entry.2.Collated) →
      (∀ entry, entry ∈ first ↔ entry ∈ second) →
      ∀ (d : Device) (now : UInt64), d.data (recordAll a first) now = d.data (recordAll a second) now := by
  refine ⟨?comm, ?assoc, ?idem, covers_extend a hb, ?recorded⟩
  case comm =>
    refine eq_of_covers (ha.extend hb) (hb.extend ha) fun path => ?_
    rw [covers_extend a hb, covers_extend b ha, or_comm]
  case assoc =>
    refine eq_of_covers ((ha.extend hb).extend hc) (ha.extend (hb.extend hc)) fun path => ?_
    rw [covers_extend _ hc, covers_extend a hb, covers_extend a (hb.extend hc), covers_extend b hc, or_assoc]
  case idem =>
    refine eq_of_covers (ha.extend ha) ha fun path => ?_
    rw [covers_extend a ha, or_self]
  case recorded =>
    intro first second each same d now
    rw [recordAll_congr ha each same]

/-- One child of a pump changed. -/
def pumpSpeed : ChangeSet := [("P1", .children [("speed", .whole)])]

/-- Another child changed, and a metric beside the pump. -/
def pumpTemp : ChangeSet := [("Flow", .whole), ("P1", .children [("temp", .whole)])]

/-- The pump changed as a whole. -/
def pumpWhole : ChangeSet := [("P1", .whole)]

/-- The whole pump takes both children in, whichever was recorded first. -/
theorem extend_semilattice_pump :
    (Collated pumpSpeed ∧ Collated pumpTemp ∧ Collated pumpWhole) ∧
    (extend pumpSpeed pumpTemp = extend pumpTemp pumpSpeed ∧
      extend (extend pumpSpeed pumpTemp) pumpWhole = extend pumpSpeed (extend pumpTemp pumpWhole) ∧
      extend pumpTemp pumpTemp = pumpTemp) ∧
    (Covers (extend pumpSpeed pumpWhole) ["P1", "temp"] ↔
      Covers pumpSpeed ["P1", "temp"] ∨ Covers pumpWhole ["P1", "temp"]) ∧
    ∀ (d : Device) (now : UInt64),
      d.data (recordAll pumpSpeed [("P1", .whole), ("Flow", .whole)]) now =
        d.data (recordAll pumpSpeed [("Flow", .whole), ("P1", .whole), ("Flow", .whole)]) now := by
  have hchild : ∀ name, (Change.children [(name, .whole)]).Collated := fun name =>
    Change.collated_children_iff.2 (collated_singleton .whole)
  have hspeed : Collated pumpSpeed := collated_singleton (hchild _)
  have hsorted : Ordered.Sorted Prod.fst pumpTemp := List.pairwise_pair.2 (by decide)
  have htemp : Collated pumpTemp := ⟨hsorted, by simp [pumpTemp, Change.Collated.whole, hchild]⟩
  have hwhole : Collated pumpWhole := collated_singleton .whole
  obtain ⟨hcomm, hassoc, -, -, -⟩ := extend_semilattice hspeed htemp hwhole
  obtain ⟨-, -, hidem, -, -⟩ := extend_semilattice htemp htemp htemp
  obtain ⟨-, -, -, hcovers, hrecorded⟩ := extend_semilattice hspeed hwhole hwhole
  refine ⟨⟨hspeed, htemp, hwhole⟩, ⟨hcomm, hassoc, hidem⟩, hcovers _, hrecorded _ _ ?_ fun entry => ?_⟩
  · simp [Change.Collated.whole]
  · simp only [List.mem_cons, List.not_mem_nil, or_false]
    tauto

end ChangeSet

/-! ## The sets that updates record -/

theorem Metric.Delta.collated {change : Change} {old : Option Metric} {new : Metric} (h : Metric.Delta change old new) :
    change.Collated := by
  induction h with
  | fresh | leaf => exact .whole
  | udt _ sorted found each _ ih =>
    refine Change.collated_children_iff.2 (ChangeSet.collated_iff.2 ⟨sorted, fun listed change hlisted => ?_⟩)
    obtain ⟨m, hm⟩ := found listed change hlisted
    exact ih listed change m hlisted hm

/-- Changes that lead from metrics to others are collated. -/
theorem Metric.Deltas.collated {changes : ChangeSet} {olds news : List Metric} (h : Metric.Deltas changes olds news) :
    changes.Collated := by
  refine ChangeSet.collated_iff.2 ⟨h.sorted, fun listed change hlisted => ?_⟩
  obtain ⟨m, hm⟩ := h.found listed change hlisted
  exact (h.each listed change m hlisted hm).collated

/-- What a batch of data records is collated. -/
theorem Device.applyData_collated (d : Device) {incoming : List Metric} (wellFormed : ∀ m ∈ incoming, m.WellFormed)
    (definitions : Definitions) (timestamp : UInt64) :
    (d.applyData incoming definitions timestamp).2.changes.Collated := by
  obtain ⟨accepted, hsub, hfold⟩ :=
    Device.foldl_applyMetric definitions d.telemetryName timestamp incoming ⟨d.metrics, [], []⟩
  exact (Device.foldl_mergeAnnounced_deltas (fun m hm => wellFormed m (hsub m hm)) (.nil d.metrics) hfold).collated

end ScadaBridge
