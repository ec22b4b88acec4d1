import ScadaBridge.Proofs.Bridge.Mirror

/-!
# What a data message carries

A batch of data changes the metrics of a device at any depth, and the data message carries only what the
recorded changes name. `applyData_suffices` says that this is enough: whoever holds the metrics as they were
and takes the message over holds the contents of the metrics as they are, and without a message nothing
changed.
-/

namespace ScadaBridge

open Ordered

namespace Mirror

/-- A data message is enough to follow metrics from `before` to `after`: without one nothing changed, and the
metrics of one can all be read and give the content of `after` when they are taken over in turn. -/
def Suffices (before after : List Metric) : Option Wire.Payload → Prop
  | none => after = before
  | some payload => ∃ read : List Metric, payload.metrics.map Metric.ofWire = read.map .ok ∧
      (read.foldl takeOver before).map Metric.content = after.map Metric.content

theorem foldl_takeOver_sorted {metrics : List Metric} (hs : Ordered.Sorted Metric.name metrics)
    (incoming : List Metric) : Ordered.Sorted Metric.name (incoming.foldl takeOver metrics) := by
  induction incoming generalizing metrics with
  | nil => exact hs
  | cons m rest ih => exact ih (hs.insert _)

end Mirror

/-- Recorded changes are enough, whatever recorded them. -/
theorem Metric.Deltas.suffices {d : Device} {before : List Metric} {changes : ChangeSet}
    (h : Metric.Deltas changes before d.metrics) (hbefore : Metric.WellFormedAll before)
    (hafter : Metric.WellFormedAll d.metrics) (now : UInt64) :
    Mirror.Suffices before d.metrics (d.data changes now).2 := by
  unfold Device.data
  dsimp only
  split
  · next hempty =>
    have hchanges : changes = [] := by
      by_contra hne
      exact h.dataOf_ne_nil hne (List.isEmpty_iff.1 hempty)
    subst hchanges
    show d.metrics = before
    exact hafter.sorted.ext hbefore.sorted fun name => h.kept name rfl
  · have hread := h.ofWires_dataOf hafter
    refine ⟨Metric.ofWires (Metric.dataOf d.metrics changes), ?_, ?_⟩
    · have hparts := (h.partsOf_wellFormed hafter).each
      rw [hread, Metric.dataOf_eq_toWires_partsOf, Metric.toWires_eq_map, List.map_map, List.map_map]
      exact List.map_congr_left fun m hm => Metric.ofWire_toWire false m (hparts m hm)
    · -- both sides stand in the order of their names, so it is enough to compare what is found
      have hsorted := (Mirror.foldl_takeOver_sorted hbefore.sorted
        (Metric.ofWires (Metric.dataOf d.metrics changes))).map Metric.name_content
      refine hsorted.ext (hafter.sorted.map Metric.name_content) fun name => ?_
      rw [find?_map Metric.name_content, find?_map Metric.name_content]
      exact h.find?_takeOver hbefore hafter rfl

namespace Device

/-- The data message after a batch of data is enough to follow the device, for every tree and every batch of
well-formed metrics, also if a metric occurs in the batch more than once. -/
theorem applyData_suffices {d : Device} (tree : Metric.WellFormedAll d.metrics) {incoming : List Metric}
    (wellFormed : ∀ m ∈ incoming, m.WellFormed) (definitions : Definitions) (timestamp now : UInt64) :
    Mirror.Suffices d.metrics (d.applyData incoming definitions timestamp).1.metrics
      ((d.applyData incoming definitions timestamp).1.data
        (d.applyData incoming definitions timestamp).2.changes now).2 := by
  obtain ⟨accepted, hsub, hmerged⟩ :=
    foldl_applyMetric definitions d.telemetryName timestamp incoming ⟨d.metrics, [], []⟩
  have hi : ∀ m ∈ accepted, m.WellFormed := fun m hm => wellFormed m (hsub m hm)
  have hdeltas := foldl_mergeAnnounced_deltas hi (.nil d.metrics) hmerged
  have hafter := foldl_mergeAnnounced_wellFormed hi tree hmerged
  exact Metric.Deltas.suffices (d := (d.applyData incoming definitions timestamp).1) hdeltas tree hafter now

/-- A tank is reported twice in one batch, once with its pump running and once with its valve open. -/
theorem applyData_suffices_repeated :
    let tank (children : List Metric) : Metric := .udt ⟨.plain "tank" 5, "Tank", "1", false, none, []⟩ children
    let on (name : String) (v : Bool) : Metric := .leaf (.ofValue name (.boolean v) 5)
    let d : Device := { ofVendor "APP1" "D1" with metrics := [tank [on "pump" false, on "valve" false]] }
    let incoming := [tank [on "pump" true], tank [on "valve" true]]
    let applied := d.applyData incoming .empty 7
    (applied.1.data applied.2.changes 9).2.isSome ∧
      Mirror.Suffices d.metrics applied.1.metrics (applied.1.data applied.2.changes 9).2 := by
  intro tank on d incoming applied
  have hon : ∀ name v, (on name v).WellFormed := fun _ _ => .leaf (.ofValue _ (by simp) _)
  have htank : ∀ children, Metric.WellFormedAll children → (tank children).WellFormed := fun _ hc =>
    .udt ⟨rfl, by simp, Ordered.sorted_nil _, by simp⟩ hc.sorted hc.each
  have hsingle : ∀ m : Metric, m.WellFormed → Metric.WellFormedAll [m] := fun m hm =>
    ⟨List.pairwise_singleton _ _, fun _ hx => List.mem_singleton.1 hx ▸ hm⟩
  have hboth : Metric.WellFormedAll [on "pump" false, on "valve" false] := by
    refine ⟨List.pairwise_pair.2 (by decide +kernel), fun m hm => ?_⟩
    rcases List.mem_pair.1 hm with rfl | rfl
    · exact hon _ _
    · exact hon _ _
  have tree : Metric.WellFormedAll d.metrics := hsingle _ (htank _ hboth)
  have wellFormed : ∀ m ∈ incoming, m.WellFormed := by
    intro m hm
    rcases List.mem_pair.1 hm with rfl | rfl
    · exact htank _ (hsingle _ (hon _ _))
    · exact htank _ (hsingle _ (hon _ _))
  exact ⟨by decide +kernel, applyData_suffices tree wellFormed .empty 7 9⟩

end Device

end ScadaBridge
