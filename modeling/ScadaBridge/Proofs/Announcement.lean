import ScadaBridge.Proofs.Device
import ScadaBridge.Proofs.Metric.Structure

/-!
# Announcements

An announcement replaces the metrics of a device, unless it has the structure of those that are published: then
it is merged like data (`ingestBirth_cases`). It passes for that if it is as long as the list of the known metrics
and each of its metrics has the structure of the known one of its name.

An announcement with a name in it twice may pass although it leaves a known metric out, which then stays
(`sameNames_ingestBirth_iff`). If all names differ, the merge refuses nothing, and the device has what a
replacement would have stored (`ingestBirth_of_alike`, `essence_ingestBirth`).
-/

namespace ScadaBridge

open Ordered

namespace Metric

theorem names_map_atTime (metrics : List Metric) (timestamp : UInt64) :
    (metrics.map fun m => m.atTime timestamp).map name = metrics.map name := by
  rw [List.map_map]
  exact List.map_congr_left fun m _ => m.name_atTime timestamp

theorem find?_ofList_atTime {metrics : List Metric} (h : (metrics.map name).Nodup) (timestamp : UInt64)
    (listed : String) :
    find? name listed (Ordered.ofList name (metrics.map fun m => m.atTime timestamp)) =
      (find? name listed metrics).map fun m => m.atTime timestamp := by
  have hnodup : ((metrics.map fun m => m.atTime timestamp).map name).Nodup := by rwa [names_map_atTime]
  rw [find?_ofList hnodup, find?_map fun m => m.name_atTime timestamp]

theorem AlikeAll.ofList_atTime {olds announced : List Metric} (h : AlikeAll olds announced)
    (hnodup : (announced.map name).Nodup) (timestamp : UInt64) :
    AlikeAll olds (Ordered.ofList name (announced.map fun m => m.atTime timestamp)) := by
  intro listed
  have hrel := h listed
  rw [find?_ofList_atTime hnodup]
  generalize find? name listed olds = x, find? name listed announced = y at hrel ⊢
  cases hrel with
  | none => exact .none
  | some hsame => exact .some (hsame.atTime timestamp)

end Metric

namespace Device

/-- What is announced is merged, or it replaces what there was. -/
theorem ingestBirth_cases (d : Device) (announced : List Metric) (timestamp : UInt64) :
    (d.announcesSame announced = true ∧ d.needsBirth = false ∧
        (d.ingestBirth announced timestamp).1.metrics =
          (announced.foldl (mergeAnnounced timestamp) (d.metrics, [])).1 ∧
        (d.ingestBirth announced timestamp).2 =
          .dataOnly (announced.foldl (mergeAnnounced timestamp) (d.metrics, [])).2) ∨
      ((d.announcesSame announced = true → d.needsBirth = true) ∧
        (d.ingestBirth announced timestamp).1.metrics =
          Ordered.ofList Metric.name (announced.map fun m => m.atTime timestamp) ∧
        (d.ingestBirth announced timestamp).2 = .rebirth) := by
  unfold ingestBirth
  split
  · next hsame =>
    simp only [Bool.and_eq_true, Bool.not_eq_true'] at hsame
    exact .inl ⟨hsame.1, hsame.2, rfl, rfl⟩
  · next hother =>
    refine .inr ⟨fun hsame => ?_, rfl, rfl⟩
    simpa [hsame] using hother

/-! ## The names of an announcement -/

/-- The same names occur in both lists. -/
def SameNames (first second : List Metric) : Prop :=
  ∀ listed, listed ∈ first.map Metric.name ↔ listed ∈ second.map Metric.name

/-- Announced metrics are there, and those that were there before if they were not replaced. -/
theorem mem_names_ingestBirth (d : Device) (announced : List Metric) (timestamp : UInt64) (listed : String) :
    listed ∈ (d.ingestBirth announced timestamp).1.metrics.map Metric.name ↔
      listed ∈ announced.map Metric.name ∨
        (d.ingestBirth announced timestamp).2 ≠ .rebirth ∧ listed ∈ d.metrics.map Metric.name := by
  rcases d.ingestBirth_cases announced timestamp with ⟨-, -, hmetrics, houtcome⟩ | ⟨-, hmetrics, houtcome⟩
  · rw [hmetrics, houtcome, mem_names_foldl_mergeAnnounced]
    simp
  · rw [hmetrics, houtcome, mem_names_ofList, Metric.names_map_atTime]
    simp

/-- After an announcement a device has the metrics that were announced and no others, exactly if they replaced
what there was or none of them was announced twice. -/
theorem sameNames_ingestBirth_iff {d : Device} (hd : Ordered.Sorted Metric.name d.metrics) (announced : List Metric)
    (timestamp : UInt64) :
    SameNames (d.ingestBirth announced timestamp).1.metrics announced ↔
      (d.ingestBirth announced timestamp).2 = .rebirth ∨ (announced.map Metric.name).Nodup := by
  have hnames := d.mem_names_ingestBirth announced timestamp
  rcases d.ingestBirth_cases announced timestamp with ⟨hsame, -, -, houtcome⟩ | ⟨-, -, houtcome⟩
  · obtain ⟨hlength, hfound⟩ := announcesSame_eq_true_iff.1 hsame
    have hknown : ∀ m ∈ announced, m.name ∈ d.metrics.map Metric.name := by
      intro m hm
      obtain ⟨old, hold, -⟩ := hfound m hm
      rw [mem_map_key_iff, hold]
      simp
    simp only [houtcome, ne_eq, reduceCtorEq, not_false_iff, true_and, false_or] at hnames ⊢
    constructor
    · intro h
      -- no known name is left over, so the announced names are the known ones in another order
      have hannounced : ∀ m ∈ d.metrics, m.name ∈ announced.map Metric.name := fun m hm =>
        (h m.name).1 ((hnames m.name).2 (.inr (List.mem_map_of_mem hm)))
      have hperm := perm_names hd.nodup hannounced (Nat.le_of_eq hlength)
      exact hperm.nodup_iff.1 hd.nodup
    · intro hnodup listed
      have hperm := perm_names hnodup hknown (Nat.le_of_eq hlength.symm)
      rw [hnames, ← hperm.mem_iff, or_self_iff]
  · simp only [houtcome, true_or, iff_true]
    intro listed
    rw [hnames, houtcome]
    simp

/-- A device of an application that was born with two metrics. -/
def twoSwitches : Device :=
  let announced := [.leaf (.ofValue "x" (.boolean true) 1), .leaf (.ofValue "y" (.boolean true) 1)]
  (((ofVendor "APP1" "D1").ingestBirth announced 1).1.birth 1).1

/-- Both metrics, announced in another order. -/
theorem sameNames_twoSwitches :
    let announced := [.leaf (.ofValue "y" (.boolean false) 2), .leaf (.ofValue "x" (.boolean false) 2)]
    (twoSwitches.ingestBirth announced 2).2 ≠ .rebirth ∧
      SameNames (twoSwitches.ingestBirth announced 2).1.metrics announced := by
  intro announced
  have hsorted : Ordered.Sorted Metric.name twoSwitches.metrics := .ofList _ _
  have hnodup : (announced.map Metric.name).Nodup := by decide +kernel
  exact ⟨nofun, (sameNames_ingestBirth_iff hsorted announced 2).2 (.inr hnodup)⟩

/-- One of them announced twice: the other one stays, although it was not announced. -/
theorem not_sameNames_twoSwitches :
    let announced := [.leaf (.ofValue "x" (.boolean false) 2), .leaf (.ofValue "x" (.boolean false) 2)]
    ¬SameNames (twoSwitches.ingestBirth announced 2).1.metrics announced := by
  intro announced hsame
  have hstays : "y" ∈ (twoSwitches.ingestBirth announced 2).1.metrics.map Metric.name := by decide +kernel
  have hannounced : "y" ∉ announced.map Metric.name := by decide +kernel
  exact hannounced ((hsame "y").1 hstays)

/-! ## Merging what has the same structure -/

/-- Metrics and changes stay in the order of their names. -/
theorem foldl_mergeAnnounced_sorted (timestamp : UInt64) (incoming : List Metric) {known : List Metric × ChangeSet}
    (h : Ordered.Sorted Metric.name known.1 ∧ Ordered.Sorted Prod.fst known.2) :
    Ordered.Sorted Metric.name (incoming.foldl (mergeAnnounced timestamp) known).1 ∧
      Ordered.Sorted Prod.fst (incoming.foldl (mergeAnnounced timestamp) known).2 := by
  induction incoming generalizing known with
  | nil => exact h
  | cons m rest ih =>
    refine ih ?_
    obtain ⟨metrics, changes⟩ := known
    rcases mergeAnnounced_cases timestamp metrics changes m with ⟨-, heq⟩ | ⟨change, -, heq⟩
    · rwa [heq]
    · rw [heq]
      exact ⟨h.1.insert _, ChangeSet.extend_sorted h.2 _⟩

/-- Of metrics without repeated names each meets the metric that was known before. -/
theorem find?_foldl_mergeAnnounced (timestamp : UInt64) {incoming : List Metric}
    (h : (incoming.map Metric.name).Nodup) (known : List Metric × ChangeSet) (listed : String) :
    find? Metric.name listed (incoming.foldl (mergeAnnounced timestamp) known).1 =
      match find? Metric.name listed incoming with
      | some m => some (Metric.merged (find? Metric.name listed known.1) (m.atTime timestamp))
      | none => find? Metric.name listed known.1 := by
  induction incoming generalizing known with
  | nil => rfl
  | cons m rest ih =>
    obtain ⟨hnew, hrest⟩ := List.nodup_cons.1 h
    rw [List.foldl_cons, ih hrest, find?_mergeAnnounced, find?]
    by_cases hm : m.name = listed
    · subst hm
      rw [not_not.1 (mt mem_map_key_iff.2 hnew), if_pos rfl, if_pos rfl]
    · rw [if_neg hm, if_neg hm]

theorem change?_mergeAnnounced (timestamp : UInt64) {known : List Metric × ChangeSet} {incoming : Metric}
    (hnew : known.2.change? incoming.name = none) (listed : String) :
    (mergeAnnounced timestamp known incoming).2.change? listed =
      if incoming.name = listed then Metric.told (find? Metric.name listed known.1) (incoming.atTime timestamp)
      else known.2.change? listed := by
  obtain ⟨metrics, changes⟩ := known
  rcases mergeAnnounced_cases timestamp metrics changes incoming with ⟨hnone, heq⟩ | ⟨change, htold, heq⟩
  · rw [heq]
    split
    · next hname =>
      subst hname
      rw [hnone]
      exact hnew
    · rfl
  · have hone : Ordered.Sorted Prod.fst [(incoming.name, change)] := List.pairwise_singleton _ _
    rw [heq, ChangeSet.record, ChangeSet.change?_extend hone, ChangeSet.change?_cons]
    by_cases hname : incoming.name = listed
    · subst hname
      dsimp only at hnew ⊢
      rw [if_pos rfl, if_pos rfl, hnew, htold]
    · rw [if_neg hname, if_neg hname]
      rfl

/-- Each of them is told of by itself. -/
theorem change?_foldl_mergeAnnounced (timestamp : UInt64) {incoming : List Metric}
    (h : (incoming.map Metric.name).Nodup) {known : List Metric × ChangeSet}
    (hnew : ∀ m ∈ incoming, known.2.change? m.name = none) (listed : String) :
    (incoming.foldl (mergeAnnounced timestamp) known).2.change? listed =
      match find? Metric.name listed incoming with
      | some m => Metric.told (find? Metric.name listed known.1) (m.atTime timestamp)
      | none => known.2.change? listed := by
  induction incoming generalizing known with
  | nil => rfl
  | cons m rest ih =>
    obtain ⟨hother, hrest⟩ := List.nodup_cons.1 h
    have hstep := change?_mergeAnnounced timestamp (hnew m List.mem_cons_self)
    have hnew' : ∀ x ∈ rest, (mergeAnnounced timestamp known m).2.change? x.name = none := by
      intro x hx
      have hne : m.name ≠ x.name := fun heq => hother (heq ▸ List.mem_map_of_mem hx)
      rw [hstep, if_neg hne]
      exact hnew x (List.mem_cons_of_mem _ hx)
    rw [List.foldl_cons, ih hrest hnew', hstep, find?_mergeAnnounced, find?]
    by_cases hm : m.name = listed
    · subst hm
      rw [not_not.1 (mt mem_map_key_iff.2 hother), if_pos rfl, if_pos rfl, if_pos rfl]
    · rw [if_neg hm, if_neg hm, if_neg hm]

/-- The check finds out whether metrics of different names have the structure of those of the device. -/
theorem announcesSame_eq_true_iff_alike {d : Device} (hd : Metric.WellTypedAll d.metrics) {announced : List Metric}
    (hannounced : ∀ m ∈ announced, m.WellTyped) (hnodup : (announced.map Metric.name).Nodup) :
    d.announcesSame announced = true ↔ Metric.AlikeAll d.metrics announced := by
  have hswap : Metric.AlikeAll d.metrics announced ↔ ∀ listed,
      Option.Rel (fun m old => Metric.Alike old m) (find? Metric.name listed announced)
        (find? Metric.name listed d.metrics) :=
    forall_congr' fun _ => rel_swap.symm
  rw [announcesSame_eq_true_iff, hswap, forall_rel_iff hnodup hd.sorted.nodup]
  refine and_congr_right fun _ => forall₂_congr fun m hm => exists_congr fun old => ?_
  exact and_congr_right fun hold =>
    Metric.sameStructure_eq_true_iff (hd.find? hold).collated (hannounced m hm).collated

/-- Told are exactly the metrics that the merge made differ. -/
theorem contains_foldl_mergeAnnounced_iff (timestamp : UInt64) {incoming : List Metric}
    (hcollated : ∀ m ∈ incoming, (m.atTime timestamp).Collated) (hnodup : (incoming.map Metric.name).Nodup)
    (metrics : List Metric) (listed : String) :
    (incoming.foldl (mergeAnnounced timestamp) (metrics, [])).2.contains listed = true ↔
      find? Metric.name listed (incoming.foldl (mergeAnnounced timestamp) (metrics, [])).1 ≠
        find? Metric.name listed metrics := by
  have hfresh : ∀ m ∈ incoming, ChangeSet.change? (metrics, ([] : ChangeSet)).2 m.name = none := fun _ _ => rfl
  have hcontains : ∀ changes : ChangeSet, changes.contains listed = (changes.change? listed).isSome :=
    fun _ => Option.isSome_map.symm
  rw [hcontains, change?_foldl_mergeAnnounced timestamp hnodup hfresh, find?_foldl_mergeAnnounced timestamp hnodup]
  cases hm : find? Metric.name listed incoming with
  | none => simp
  | some m =>
    have hm' := hcollated m (mem_of_find?_eq_some hm)
    exact Metric.told_isSome_iff fun change htold => Metric.exact_told hm' htold

/-- Merging metrics of the same structure leaves the essence of what a replacement would have stored. -/
theorem essence_foldl_mergeAnnounced {olds announced : List Metric} (holds : Metric.WellTypedAll olds)
    (hannounced : ∀ m ∈ announced, m.WellTyped) (hnodup : (announced.map Metric.name).Nodup)
    (halike : Metric.AlikeAll olds announced) (timestamp : UInt64) :
    (announced.foldl (mergeAnnounced timestamp) (olds, [])).1.map Metric.essence =
      (Metric.announcedOverAll olds
        (Ordered.ofList Metric.name (announced.map fun m => m.atTime timestamp))).map Metric.essence := by
  have hsorted : Ordered.Sorted Metric.name (announced.foldl (mergeAnnounced timestamp) (olds, [])).1 :=
    (foldl_mergeAnnounced_sorted timestamp announced ⟨holds.sorted, sorted_nil _⟩).1
  refine Metric.essence_announcedOverAll (.ofList _ _) hsorted (halike.ofList_atTime hnodup timestamp)
    (fun listed => ?_) ?_
  · rw [find?_foldl_mergeAnnounced timestamp hnodup, Metric.find?_ofList_atTime hnodup]
    cases find? Metric.name listed announced <;> rfl
  · intro m hm old hold hsame
    obtain ⟨x, hx, rfl⟩ := List.mem_map.1 (mem_ofList hm)
    exact Metric.essence_assign hsame (holds.find? hold) ((hannounced x hx).atTime timestamp)

/-- After an announcement with all values and without repeated names a device has what was announced, whether it was
merged or replaced what there was. -/
theorem essence_ingestBirth {d : Device} (hd : Metric.WellFormedAll d.metrics) {announced : List Metric}
    (hannounced : ∀ m ∈ announced, m.WellFormed) (hnodup : (announced.map Metric.name).Nodup)
    (hvalues : ∀ m ∈ announced, ∀ e ∈ m.leaves, e.2.value ≠ none) (timestamp : UInt64) :
    (d.ingestBirth announced timestamp).1.metrics.map Metric.essence =
      (Ordered.ofList Metric.name (announced.map fun m => m.atTime timestamp)).map Metric.essence := by
  rcases d.ingestBirth_cases announced timestamp with ⟨hsame, -, hmetrics, -⟩ | ⟨-, hmetrics, -⟩
  · have hold : Metric.WellTypedAll d.metrics := ⟨hd.sorted, fun m hm => (hd.each m hm).wellTyped⟩
    have hnew : ∀ m ∈ announced, m.WellTyped := fun m hm => (hannounced m hm).wellTyped
    have halike := (announcesSame_eq_true_iff_alike hold hnew hnodup).1 hsame
    have hstored := halike.ofList_atTime hnodup timestamp
    -- in the place of a known metric of the same structure, an announced one is as it was announced
    rw [hmetrics, essence_foldl_mergeAnnounced hold hnew hnodup halike timestamp]
    refine congrArg (List.map Metric.essence) (Metric.announcedOverAll_eq_self fun m hm old hfound => ?_)
    obtain ⟨old', hfound', hsame'⟩ := hstored.exists_of_mem (Sorted.ofList _ _).nodup hm
    obtain rfl : old = old' := Option.some.inj (hfound.symm.trans hfound')
    obtain ⟨x, hx, rfl⟩ := List.mem_map.1 (mem_ofList hm)
    exact Metric.announcedOver_eq_self hsame' (hd.find? hfound) ((hannounced x hx).atTime timestamp)
      (Metric.values_atTime (hvalues x hx) timestamp)
  · rw [hmetrics]

/-- An announcement of the published structure is merged, and nothing in it is refused. The device then has what a
replacement would have stored in the place of what it had (`Metric.announcedOver`), but for times, properties,
definition flags and handles. Told are exactly the metrics that differ from before. -/
theorem ingestBirth_of_alike {d : Device} (hborn : d.needsBirth = false) (hd : Metric.WellTypedAll d.metrics)
    {announced : List Metric} (hannounced : ∀ m ∈ announced, m.WellTyped)
    (hnodup : (announced.map Metric.name).Nodup) (halike : Metric.AlikeAll d.metrics announced)
    (timestamp : UInt64) :
    ∃ changes, (d.ingestBirth announced timestamp).2 = .dataOnly changes ∧
      (∀ m ∈ announced, ∃ old, d.metric? m.name = some old ∧ ¬old.Refuses (m.atTime timestamp) ∧
        (d.ingestBirth announced timestamp).1.metric? m.name = some (old.assign (m.atTime timestamp)).1) ∧
      (∀ owing : Device, owing.needsBirth = true →
        (d.ingestBirth announced timestamp).1.metrics.map Metric.essence =
          (Metric.announcedOverAll d.metrics (owing.ingestBirth announced timestamp).1.metrics).map
            Metric.essence) ∧
      Ordered.Sorted Prod.fst changes ∧
      ∀ listed, changes.contains listed = true ↔
        (d.ingestBirth announced timestamp).1.metric? listed ≠ d.metric? listed := by
  have hsame := (announcesSame_eq_true_iff_alike hd hannounced hnodup).2 halike
  rcases d.ingestBirth_cases announced timestamp with ⟨-, -, hmetrics, houtcome⟩ | ⟨howes, -, -⟩
  · refine ⟨_, houtcome, fun m hm => ?_, fun owing howes => ?_, ?_, fun listed => ?_⟩
    · obtain ⟨old, hold, hsame⟩ := halike.exists_of_mem hnodup hm
      have hrefuses := (hsame.atTime timestamp).not_refuses (hd.find? hold) ((hannounced m hm).atTime timestamp)
      refine ⟨old, hold, hrefuses, ?_⟩
      rw [metric?, hmetrics, find?_foldl_mergeAnnounced timestamp hnodup, find?_of_mem_of_nodup hnodup hm]
      dsimp only
      rw [hold]
      rfl
    · rcases owing.ingestBirth_cases announced timestamp with ⟨-, hnot, -, -⟩ | ⟨-, hreplaced, -⟩
      · rw [howes] at hnot
        cases hnot
      · rw [hmetrics, hreplaced]
        exact essence_foldl_mergeAnnounced hd hannounced hnodup halike timestamp
    · exact (foldl_mergeAnnounced_sorted timestamp announced ⟨hd.sorted, sorted_nil _⟩).2
    · have hcollated : ∀ m ∈ announced, (m.atTime timestamp).Collated :=
        fun m hm => ((hannounced m hm).atTime timestamp).collated
      rw [metric?, metric?, hmetrics]
      exact contains_foldl_mergeAnnounced_iff timestamp hcollated hnodup d.metrics listed
  · rw [howes hsame] at hborn
    cases hborn

/-- A device of an application that was born with a pump and an alarm. -/
def pumpStation : Device :=
  let announced := [Metric.runningPump 0x3fc00000 1, .leaf (.ofValue "alarm" (.boolean true) 1)]
  (((ofVendor "APP1" "D1").ingestBirth announced 1).1.birth 1).1

/-- The pump is announced at another speed and the alarm without a value. The alarm keeps its own. -/
theorem pumpStation_announced_again :
    let announced := [Metric.runningPump 0x40000000 2, .leaf (.plain "alarm" .boolean none 2)]
    ∃ changes, (pumpStation.ingestBirth announced 2).2 = .dataOnly changes ∧
      changes.contains "pump" = true ∧ changes.contains "alarm" = false ∧
      (pumpStation.ingestBirth announced 2).1.metrics.map Metric.essence =
        [.leaf (.ofValue "alarm" (.boolean true) 0), (Metric.runningPump 0x40000000 2).essence] := by
  intro announced
  have hbefore : ∀ m ∈ [Metric.runningPump 0x3fc00000 1, .leaf (.ofValue "alarm" (.boolean true) 1)],
      m.WellTyped := by
    simp only [List.forall_mem_cons]
    exact ⟨Metric.wellTyped_runningPump _ _, .ofValue _ _ _, by simp⟩
  have htyped : Metric.WellTypedAll pumpStation.metrics := by
    refine ⟨.ofList _ _, fun m hm => ?_⟩
    obtain ⟨x, hx, rfl⟩ := List.mem_map.1 (mem_ofList hm)
    exact (hbefore x hx).atTime 1
  have hannounced : ∀ m ∈ announced, m.WellTyped := by
    have halarm : (Metric.leaf (.plain "alarm" .boolean none 2)).WellTyped := .leaf fun v hv => by cases hv
    simp only [announced, List.forall_mem_cons]
    exact ⟨Metric.wellTyped_runningPump _ _, halarm, by simp⟩
  have hnodup : (announced.map Metric.name).Nodup := by decide +kernel
  have hsame : pumpStation.announcesSame announced = true := by decide +kernel
  have halike := (announcesSame_eq_true_iff_alike htyped hannounced hnodup).1 hsame
  obtain ⟨changes, houtcome, -, hessence, -, htold⟩ := ingestBirth_of_alike rfl htyped hannounced hnodup halike 2
  refine ⟨changes, houtcome, ?_, ?_, ?_⟩
  · have hlater : ((pumpStation.ingestBirth announced 2).1.metric? "pump").map (·.label.timestamp) ≠
        (pumpStation.metric? "pump").map (·.label.timestamp) := by decide +kernel
    exact (htold "pump").2 fun hkept => hlater (by rw [hkept])
  · exact Bool.eq_false_iff.2 fun hlisted => (htold "alarm").1 hlisted rfl
  · exact (hessence (ofVendor "APP1" "D2") rfl).trans rfl

end Device

end ScadaBridge
