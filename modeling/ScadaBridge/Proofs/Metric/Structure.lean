import ScadaBridge.Proofs.Metric.Outcome

/-!
# Metrics of the same structure

Two metrics are alike when they agree in names, declared types, definitions and types of parameters, level by
level (`Metric.Alike`). The check looks for each part of one metric in the other and compares the numbers of
parts; that is enough for metrics without repeated names (`sameStructure_eq_true_iff`). So it is an equivalence of
them, which merges keep (`sameStructure_equivalence`).

An update that is alike, and whose values are of their declared types, is refused nowhere (`Alike.not_refuses`).
It leaves what would have been stored without a merge, but for what an announcement does not replace
(`Metric.announcedOver`, `essence_assign`).
-/

namespace ScadaBridge

open Ordered

theorem Scalar.compare_ne_typeMismatch {stored incoming : Scalar} (h : stored.dataType = incoming.dataType) :
    stored.compare incoming ≠ .typeMismatch := by
  unfold compare
  rw [if_neg (not_not.2 h)]
  split <;> simp

/-- Two parameters have values of one type. -/
def Parameter.SameType (p q : Parameter) : Prop := p.value.dataType = q.value.dataType

theorem Parameter.SameType.merged {q p : Parameter} (h : q.SameType p) :
    (Parameter.merged (some q) p).SameType p := by
  have htype : q.value.dataType = p.value.dataType := h
  rw [Parameter.merged, if_pos htype]
  rfl

namespace Metric

/-! ## Alike metrics -/

/-- Two metrics agree in names, declared types, definitions and the types of parameters at every level. -/
inductive Alike : Metric → Metric → Prop where
  | leaf {a b : Leaf} (name : a.label.name = b.label.name) (declared : a.declared = b.declared) :
      Alike (.leaf a) (.leaf b)
  | udt {a b : UdtHead} {as bs : List Metric} (name : a.label.name = b.label.name)
      (definition : a.definition = b.definition) (version : a.version = b.version)
      (parameters : ∀ listed, Option.Rel Parameter.SameType (find? Parameter.name listed a.parameters)
        (find? Parameter.name listed b.parameters))
      (children : ∀ listed, Option.Rel Alike (find? Metric.name listed as) (find? Metric.name listed bs)) :
      Alike (.udt a as) (.udt b bs)

def AlikeAll (as bs : List Metric) : Prop := ∀ listed, Option.Rel Alike (find? name listed as) (find? name listed bs)

theorem structuresWithin_eq_true_iff {as bs : List Metric} :
    structuresWithin as bs = true ↔
      ∀ a ∈ as, ∃ b, find? name a.name bs = some b ∧ a.sameStructure b = true := by
  induction as with
  | nil => simp [structuresWithin]
  | cons a rest ih =>
    rw [structuresWithin, Bool.and_eq_true, ih, List.forall_mem_cons]
    refine and_congr_left fun _ => ?_
    cases find? name a.name bs <;> simp

theorem parametersWithin_eq_true_iff {as bs : List Parameter} :
    parametersWithin as bs = true ↔
      ∀ p ∈ as, ∃ q, find? Parameter.name p.name bs = some q ∧ Parameter.SameType p q := by
  rw [parametersWithin, List.all_eq_true]
  refine forall₂_congr fun p _ => ?_
  cases find? Parameter.name p.name bs with
  | none => simp
  | some q =>
    simp only [beq_iff_eq, Option.some.injEq, exists_eq_left', Parameter.SameType]
    exact eq_comm

theorem sameHead_eq_true_iff {a b : UdtHead} (ha : Ordered.Sorted Parameter.name a.parameters)
    (hb : Ordered.Sorted Parameter.name b.parameters) :
    sameHead a b = true ↔ a.label.name = b.label.name ∧ a.definition = b.definition ∧ a.version = b.version ∧
      ∀ listed, Option.Rel Parameter.SameType (find? Parameter.name listed a.parameters)
        (find? Parameter.name listed b.parameters) := by
  rw [forall_rel_iff ha.nodup hb.nodup, ← parametersWithin_eq_true_iff]
  simp [sameHead, and_assoc]

/-- The check finds out whether metrics without repeated names are alike. -/
theorem sameStructure_eq_true_iff {a b : Metric} (ha : a.Collated) (hb : b.Collated) :
    a.sameStructure b = true ↔ a.Alike b := by
  -- by induction on the first metric; the second one has to be of its kind
  induction ha generalizing b with
  | leaf a =>
    cases b with
    | leaf b =>
      rw [sameStructure, Bool.and_eq_true, beq_iff_eq, beq_iff_eq]
      refine ⟨fun ⟨hname, hdeclared⟩ => .leaf hname hdeclared, fun h => ?_⟩
      cases h with
      | leaf hname hdeclared => exact ⟨hname, hdeclared⟩
    | udt b bs => exact iff_of_false (by simp [sameStructure]) (by rintro ⟨⟩)
  | @udt a as hparameters hsorted _ ih =>
    cases b with
    | leaf b => exact iff_of_false (by simp [sameStructure]) (by rintro ⟨⟩)
    | udt b bs =>
      have hbs := hb.sorted
      have hchildren : (as.length = bs.length ∧ structuresWithin as bs = true) ↔ AlikeAll as bs := by
        rw [AlikeAll, forall_rel_iff hsorted.nodup hbs.2.nodup, structuresWithin_eq_true_iff]
        refine and_congr_right fun _ => forall₂_congr fun m hm => exists_congr fun m' => ?_
        exact and_congr_right fun hfound => ih m hm (hb.each m' (mem_of_find?_eq_some hfound))
      rw [sameStructure, Bool.and_eq_true, Bool.and_eq_true, beq_iff_eq, and_assoc, hchildren,
        sameHead_eq_true_iff hparameters hbs.1]
      refine ⟨fun ⟨⟨hname, hdefinition, hversion, hall⟩, halike⟩ => .udt hname hdefinition hversion hall halike,
        fun h => ?_⟩
      cases h with
      | udt hname hdefinition hversion hall halike => exact ⟨⟨hname, hdefinition, hversion, hall⟩, halike⟩

theorem Alike.refl (m : Metric) : m.Alike m := by
  induction m using Metric.induction with
  | leaf l => exact .leaf rfl rfl
  | udt head children ih =>
    refine .udt rfl rfl rfl (fun listed => ?_) fun listed => ?_
    · cases find? Parameter.name listed head.parameters with
      | none => exact .none
      | some p => exact .some rfl
    · cases hfound : find? name listed children with
      | none => exact .none
      | some child => exact .some (ih child (mem_of_find?_eq_some hfound))

theorem Alike.symm {a b : Metric} (h : a.Alike b) : b.Alike a := by
  induction a using Metric.induction generalizing b with
  | leaf a =>
    cases h with
    | leaf hname hdeclared => exact .leaf hname.symm hdeclared.symm
  | udt head children ih =>
    cases h with
    | udt hname hdefinition hversion hparameters hchildren =>
      refine .udt hname.symm hdefinition.symm hversion.symm (fun listed => ?_) fun listed => ?_
      · exact rel_symm (fun _ _ _ hsame => hsame.symm) (hparameters listed)
      · exact rel_symm (fun child hfound _ halike => ih child (mem_of_find?_eq_some hfound) halike) (hchildren listed)

theorem Alike.trans {a b c : Metric} (hab : a.Alike b) (hbc : b.Alike c) : a.Alike c := by
  induction a using Metric.induction generalizing b c with
  | leaf a =>
    cases hab with
    | leaf hname hdeclared =>
      cases hbc with
      | leaf hname' hdeclared' => exact .leaf (hname.trans hname') (hdeclared.trans hdeclared')
  | udt head children ih =>
    cases hab with
    | udt hname hdefinition hversion hparameters hchildren =>
      cases hbc with
      | udt hname' hdefinition' hversion' hparameters' hchildren' =>
        refine .udt (hname.trans hname') (hdefinition.trans hdefinition') (hversion.trans hversion')
          (fun listed => ?_) fun listed => ?_
        · exact rel_trans (fun _ _ _ _ h h' => h.trans h') (hparameters listed) (hparameters' listed)
        · exact rel_trans (fun child hfound _ _ h h' => ih child (mem_of_find?_eq_some hfound) h h') (hchildren listed)
            (hchildren' listed)

theorem Alike.name_eq {a b : Metric} (h : a.Alike b) : a.name = b.name := by
  cases h with
  | leaf hname => exact hname
  | udt hname => exact hname

theorem Alike.atTime {a b : Metric} (h : a.Alike b) (timestamp : UInt64) : a.Alike (b.atTime timestamp) := by
  cases h with
  | leaf hname hdeclared => exact .leaf hname hdeclared
  | udt hname hdefinition hversion hparameters hchildren =>
    exact .udt hname hdefinition hversion hparameters hchildren

/-! ## Values of their types -/

/-- Collated, and every value is of the type that its leaf declares. (The type of a parameter is that of its
value.) -/
inductive WellTyped : Metric → Prop where
  | leaf {l : Leaf} (value : ∀ v, l.value = some v → v.dataType = l.declared) : WellTyped (.leaf l)
  | udt {head : UdtHead} {children : List Metric} (parameters : Ordered.Sorted Parameter.name head.parameters)
      (sorted : Ordered.Sorted name children) (each : ∀ m ∈ children, WellTyped m) :
      WellTyped (.udt head children)

structure WellTypedAll (metrics : List Metric) : Prop where
  sorted : Ordered.Sorted name metrics
  each : ∀ m ∈ metrics, m.WellTyped

theorem WellFormed.wellTyped {m : Metric} (h : m.WellFormed) : m.WellTyped := by
  induction h with
  | leaf h => exact .leaf h.value
  | udt hhead sorted _ ih => exact .udt hhead.sorted sorted ih

namespace WellTyped

theorem collated {m : Metric} (h : m.WellTyped) : m.Collated := by
  induction h with
  | leaf => exact .leaf _
  | udt parameters sorted _ ih => exact .udt parameters sorted ih

theorem ofValue (name : String) (v : Scalar) (timestamp : UInt64) :
    (Metric.leaf (.ofValue name v timestamp)).WellTyped := by
  refine .leaf fun u hu => ?_
  obtain rfl : v = u := Option.some.inj hu
  rfl

theorem children {head : UdtHead} {children : List Metric} (h : (Metric.udt head children).WellTyped) :
    WellTypedAll children := by
  cases h with
  | udt _ sorted each => exact ⟨sorted, each⟩

theorem atTime {m : Metric} (h : m.WellTyped) (timestamp : UInt64) : (m.atTime timestamp).WellTyped := by
  cases h with
  | leaf value => exact .leaf value
  | udt parameters sorted each => exact .udt parameters sorted each

end WellTyped

theorem WellTypedAll.find? {metrics : List Metric} (h : WellTypedAll metrics) {listed : String} {m : Metric}
    (hm : Ordered.find? name listed metrics = some m) : m.WellTyped :=
  h.each m (mem_of_find?_eq_some hm)

/-! ## Nothing is refused -/

/-- At some level the merge refuses a part of an update for its type. -/
inductive Refuses : Metric → Metric → Prop where
  | whole {stored incoming : Metric} (refused : (stored.assign incoming).2 = .typeMismatch) : Refuses stored incoming
  | child {stored incoming : UdtHead} {existing children : List Metric} {old m : Metric} (listed : m ∈ children)
      (found : find? name m.name existing = some old) (child : Refuses old m) :
      Refuses (.udt stored existing) (.udt incoming children)
  | parameter {stored incoming : UdtHead} {existing children : List Metric} {p : Parameter}
      (listed : p ∈ incoming.parameters)
      (refused : Parameter.verdict (find? Parameter.name p.name stored.parameters) p = .typeMismatch) :
      Refuses (.udt stored existing) (.udt incoming children)

theorem AlikeAll.exists_of_mem {olds news : List Metric} (h : AlikeAll olds news) (hs : (news.map name).Nodup)
    {m : Metric} (hm : m ∈ news) : ∃ old, find? name m.name olds = some old ∧ old.Alike m := by
  have hrel := h m.name
  rwa [find?_of_mem_of_nodup hs hm, rel_some_right_iff] at hrel

/-- A leaf refuses no value of the type that it declares. -/
theorem assign_leaf_ne_typeMismatch {a b : Leaf} (declared : a.declared = b.declared)
    (ha : (Metric.leaf a).WellTyped) (hb : (Metric.leaf b).WellTyped) : (a.assign b).2 ≠ .typeMismatch := by
  cases ha with
  | leaf ha =>
    cases hb with
    | leaf hb =>
      unfold Leaf.assign
      rw [if_neg (not_not.2 declared)]
      cases hv : b.value with
      | none => simp
      | some v =>
        cases hu : a.value with
        | none => simp
        | some u =>
          have htype : u.dataType = v.dataType := by rw [ha u hu, hb v hv, declared]
          cases hcompare : u.compare v with
          | typeMismatch => exact absurd hcompare (Scalar.compare_ne_typeMismatch htype)
          | equal => simp [hcompare]
          | different => simp [hcompare]

theorem verdict_ne_typeMismatch_of_sameType {p q : Parameter} (h : q.SameType p) :
    Parameter.verdict (some q) p ≠ .typeMismatch := by
  unfold Parameter.verdict Scalar.assign
  cases hcompare : q.value.compare p.value with
  | typeMismatch => exact absurd hcompare (Scalar.compare_ne_typeMismatch h)
  | equal => simp [hcompare]
  | different => simp [hcompare]

theorem sameDefinition_of_eq {a b : UdtHead} (h : a.definition = b.definition) : a.sameDefinition b = true := by
  simp [UdtHead.sameDefinition, h]

/-- An update of the same structure, with values of their declared types, is refused at no level. -/
theorem Alike.not_refuses {old new : Metric} (h : old.Alike new) (ho : old.WellTyped) (hn : new.WellTyped) :
    ¬old.Refuses new := by
  -- by induction on the update, each part of which meets one of its structure
  induction new using Metric.induction generalizing old with
  | leaf b =>
    cases h with
    | @leaf a _ _ declared =>
      intro hrefuses
      cases hrefuses with
      | whole refused => exact assign_leaf_ne_typeMismatch declared ho hn refused
  | udt new news ih =>
    cases h with
    | @udt old _ olds _ _ hdefinition _ hparameters hchildren =>
      have hall : AlikeAll olds news := hchildren
      have hsorted := hn.collated.sorted
      have hchild : ∀ m ∈ news, ∃ o, find? name m.name olds = some o ∧ ¬o.Refuses m := by
        intro m hm
        obtain ⟨o, ho', halike⟩ := hall.exists_of_mem hsorted.2.nodup hm
        exact ⟨o, ho', ih m hm halike (ho.children.find? ho') (hn.children.each m hm)⟩
      have hparameter : ∀ p ∈ new.parameters,
          Parameter.verdict (find? Parameter.name p.name old.parameters) p ≠ .typeMismatch := by
        intro p hp
        have hrel := hparameters p.name
        rw [hsorted.1.find?_of_mem hp, rel_some_right_iff] at hrel
        obtain ⟨q, hq, hsame⟩ := hrel
        rw [hq]
        exact verdict_ne_typeMismatch_of_sameType hsame
      intro hrefuses
      cases hrefuses with
      | child listed found refuses =>
        obtain ⟨o, ho', hnot⟩ := hchild _ listed
        rw [found] at ho'
        cases ho'
        exact hnot refuses
      | parameter listed refused => exact hparameter _ listed refused
      | whole refused =>
        have houtcome := outcome_assign_udt olds hn.collated (sameDefinition_of_eq hdefinition)
        rw [refused] at houtcome
        refine ofParts_partVerdicts_ne_typeMismatch (fun m hm => ?_) hparameter houtcome.symm
        obtain ⟨o, ho', hnot⟩ := hchild m hm
        rw [ho']
        exact fun htype => hnot (.whole (Assignment.outcome_eq_typeMismatch_iff.1 htype))

/-! ## An equivalence that merges keep -/

/-- Merging a metric of the same structure keeps the structure. -/
theorem Alike.assign {old new : Metric} (h : old.Alike new) (hn : new.Collated) : (old.assign new).1.Alike new := by
  revert h hn
  refine assign_induction (motive := fun old new after => old.Alike new → new.Collated → after.Alike new)
    (fun _ _ h _ => h) ?_ ?_ old new
  · intro old new v _ _ h _
    cases h with
    | leaf hname hdeclared => exact .leaf hname hdeclared
  · intro old new olds news timestamp ih h hn
    obtain ⟨hsortedParameters, hsorted⟩ := hn.sorted
    cases h with
    | udt hname hdefinition hversion hparameters hchildren =>
      refine .udt hname hdefinition hversion (fun listed => ?_) fun listed => ?_
      · have hrel := hparameters listed
        rw [find?_mergeParameters hsortedParameters]
        generalize find? Parameter.name listed old.parameters = stored at hrel ⊢
        generalize find? Parameter.name listed new.parameters = incoming at hrel ⊢
        cases hrel with
        | none => exact .none
        | some hsame => exact .some hsame.merged
      · have hrel := hchildren listed
        rw [find?_mergeChildren hsorted]
        cases hm : find? name listed news with
        | none => rwa [hm] at hrel
        | some m =>
          rw [hm, rel_some_right_iff] at hrel
          obtain ⟨child, hchild, halike⟩ := hrel
          have hmem := mem_of_find?_eq_some hm
          rw [hchild]
          exact .some (ih m hmem child halike (hn.each m hmem))

/-- To have the same structure is an equivalence of metrics without repeated names, although the check looks in one
direction only. If the values are of their declared types, a metric of the same structure can be merged: it is not
refused, and the structure stays. -/
theorem sameStructure_equivalence :
    (Equivalence fun a b : { m : Metric // m.Collated } => a.1.sameStructure b.1 = true) ∧
      ∀ a b : Metric, a.WellTyped → b.WellTyped → a.sameStructure b = true →
        (a.assign b).1.sameStructure b = true ∧ (a.assign b).2.outcome ≠ .typeMismatch := by
  refine ⟨⟨?_, ?_, ?_⟩, ?_⟩
  · rintro ⟨a, ha⟩
    exact (sameStructure_eq_true_iff ha ha).2 (.refl a)
  · rintro ⟨a, ha⟩ ⟨b, hb⟩ hab
    exact (sameStructure_eq_true_iff hb ha).2 ((sameStructure_eq_true_iff ha hb).1 hab).symm
  · rintro ⟨a, ha⟩ ⟨b, hb⟩ ⟨c, hc⟩ hab hbc
    have hab := (sameStructure_eq_true_iff ha hb).1 hab
    have hbc := (sameStructure_eq_true_iff hb hc).1 hbc
    exact (sameStructure_eq_true_iff ha hc).2 (hab.trans hbc)
  · intro a b ha hb hab
    have halike := (sameStructure_eq_true_iff ha.collated hb.collated).1 hab
    refine ⟨?_, fun hrefused => ?_⟩
    · have hafter : (a.assign b).1.Collated := hb.collated.assign ha.collated
      exact (sameStructure_eq_true_iff hafter hb.collated).2 (halike.assign hb.collated)
    · exact halike.not_refuses ha hb (.whole (Assignment.outcome_eq_typeMismatch_iff.1 hrefused))

theorem wellTyped_runningPump (speed : UInt32) (time : UInt64) : (runningPump speed time).WellTyped := by
  have hparts : "level" < "motor" := by decide +kernel
  have hvalues : "mode" < "speed" := by decide +kernel
  refine .udt (sorted_nil _) (List.pairwise_pair.2 hparts) ?_
  simp only [List.forall_mem_cons]
  refine ⟨.ofValue _ _ _, .udt (sorted_nil _) (List.pairwise_pair.2 hvalues) ?_, by simp⟩
  simp only [List.forall_mem_cons]
  exact ⟨.ofValue _ _ _, .ofValue _ _ _, by simp⟩

/-- A pump at another speed has the same structure and takes the speed over. -/
theorem runningPump_sameStructure :
    let slow := runningPump 0x3fc00000 1
    let fast := runningPump 0x40000000 2
    fast.sameStructure slow = true ∧ (slow.assign fast).1.sameStructure fast = true ∧
      (slow.assign fast).2.outcome ≠ .typeMismatch ∧ (slow.assign fast).1 ≠ slow := by
  intro slow fast
  have hslow : slow.WellTyped := wellTyped_runningPump _ _
  have hfast : fast.WellTyped := wellTyped_runningPump _ _
  have hsame : slow.sameStructure fast = true := by decide +kernel
  obtain ⟨hequivalence, hmerge⟩ := sameStructure_equivalence
  have hback := @hequivalence.symm ⟨slow, hslow.collated⟩ ⟨fast, hfast.collated⟩ hsame
  obtain ⟨hkept, htaken⟩ := hmerge slow fast hslow hfast hsame
  refine ⟨hback, hkept, htaken, fun heq => ?_⟩
  have hlater : (slow.assign fast).1.label.timestamp ≠ slow.label.timestamp := by decide +kernel
  exact hlater (by rw [heq])

end Metric

/-! ## What an announcement leaves -/

/-- What is announced of a UDT: all of its content but whether it is a definition. -/
def UdtHead.essence (head : UdtHead) : UdtHead := { head.content with isDefinition := false }

namespace Metric

/-- All of a metric but times, properties, definition flags and handles, at every level. -/
def essence (m : Metric) : Metric := m.map Leaf.content UdtHead.essence

@[simp] theorem essence_leaf (l : Leaf) : (Metric.leaf l).essence = .leaf l.content := rfl

@[simp] theorem essence_udt (head : UdtHead) (children : List Metric) :
    (Metric.udt head children).essence = .udt head.essence (children.map essence) := map_udt _ _ _ _

theorem essence_content (m : Metric) : m.content.essence = m.essence := by
  rw [essence, content, map_map, essence]
  rfl

@[simp] theorem name_essence (m : Metric) : m.essence.name = m.name := by
  cases m <;> rfl

mutual

/-- The announced metric in the place of a known one. It stays published under the name that it had, and a leaf
that is announced without a value keeps the one that it had. -/
def announcedOver (old : Metric) : Metric → Metric
  | .leaf l =>
    .leaf { l with
      label := { l.label with published := old.label.published }
      value := l.value.or old.value? }
  | .udt head children =>
    .udt { head with label := { head.label with published := old.label.published } }
      (announcedOverAll old.children children)

/-- The announced metrics, each in the place of the known one of its name. -/
def announcedOverAll (olds : List Metric) : List Metric → List Metric
  | [] => []
  | m :: rest =>
    (match find? name m.name olds with
      | some old => announcedOver old m
      | none => m) :: announcedOverAll olds rest

end

@[simp] theorem name_announcedOver (old m : Metric) : (announcedOver old m).name = m.name := by
  cases m <;> rfl

/-- The announced metric in the place of the known one of its name, if there is any. -/
def announcedIn (olds : List Metric) (m : Metric) : Metric :=
  match find? name m.name olds with
  | some old => announcedOver old m
  | none => m

@[simp] theorem name_announcedIn (olds : List Metric) (m : Metric) : (announcedIn olds m).name = m.name := by
  unfold announcedIn
  split
  · exact name_announcedOver _ m
  · rfl

theorem announcedOverAll_eq_map (olds news : List Metric) :
    announcedOverAll olds news = news.map (announcedIn olds) := by
  induction news with
  | nil => rfl
  | cons m rest ih => rw [announcedOverAll, ih, List.map_cons, announcedIn]

/-- Merged metrics have the essence of the announced ones in the place of the known ones, if that is so of each. -/
theorem essence_announcedOverAll {olds news after : List Metric} (hnews : Ordered.Sorted name news)
    (hafter : Ordered.Sorted name after) (halike : AlikeAll olds news)
    (hfind : ∀ listed, find? name listed after =
      match find? name listed news with
      | some m => some (merged (find? name listed olds) m)
      | none => find? name listed olds)
    (each : ∀ m ∈ news, ∀ old, find? name m.name olds = some old → old.Alike m →
      (old.assign m).1.essence = (announcedOver old m).essence) :
    after.map essence = (announcedOverAll olds news).map essence := by
  have hover : Ordered.Sorted name (news.map (announcedIn olds)) := hnews.map (name_announcedIn olds)
  rw [announcedOverAll_eq_map]
  refine (hafter.map name_essence).ext (hover.map name_essence) fun listed => ?_
  rw [find?_map name_essence, find?_map name_essence, hfind, find?_map (name_announcedIn olds)]
  have hrel := halike listed
  cases hm : find? name listed news with
  | none =>
    rw [hm] at hrel
    generalize find? name listed olds = x at hrel ⊢
    cases hrel
    rfl
  | some m =>
    rw [hm, rel_some_right_iff] at hrel
    obtain ⟨old, hold, hsame⟩ := hrel
    obtain rfl : m.name = listed := key_of_find?_eq_some hm
    have hin : announcedIn olds m = announcedOver old m := by rw [announcedIn, hold]
    rw [hold, Option.map_some, Option.map_some, Option.map_some, hin]
    exact congrArg some (each m (mem_of_find?_eq_some hm) old hold hsame)

theorem essence_assign_leaf {a b : Leaf} (hname : a.label.name = b.label.name) (hdeclared : a.declared = b.declared)
    (ha : (Metric.leaf a).WellTyped) (hb : (Metric.leaf b).WellTyped) :
    (Metric.leaf (a.assign b).1).essence = (announcedOver (.leaf a) (.leaf b)).essence := by
  cases ha with
  | leaf ha =>
    cases hb with
    | leaf hb =>
      cases hv : b.value with
      | none =>
        have hkept : (a.assign b).1 = a := by simp [Leaf.assign, hdeclared, hv]
        simp [hkept, announcedOver, Leaf.content, hv, hname, hdeclared, label, value?]
      | some v =>
        have htaken := content_assign_leaf hdeclared hv fun u hu => by rw [ha u hu, hb v hv, hdeclared]
        rw [essence_leaf, htaken]
        simp [announcedOver, Leaf.content, hv, hname, hdeclared, label]

/-- Merging a metric of the same structure, with values of their declared types, leaves the announced one in the
place of the known one. -/
theorem essence_assign {old new : Metric} (h : old.Alike new) (ho : old.WellTyped) (hn : new.WellTyped) :
    (old.assign new).1.essence = (announcedOver old new).essence := by
  induction new using Metric.induction generalizing old with
  | leaf b =>
    cases h with
    | leaf hname hdeclared => exact essence_assign_leaf hname hdeclared ho hn
  | udt new news ih =>
    cases h with
    | @udt old _ olds _ hname hdefinition hversion hparameters hchildren =>
      have hmerged : (mergeParameters old.parameters new.parameters).parameters = new.parameters := by
        refine mergeParameters_eq_incoming ho.collated.sorted.1 hn.collated.sorted.1 fun listed q hq => ?_
        have hrel := hparameters listed
        rw [hq, rel_some_left_iff] at hrel
        obtain ⟨p, hp, hsame⟩ := hrel
        exact ⟨p, hp, hsame.symm⟩
      have hnews : (mergeChildren olds news).children.map essence = (announcedOverAll olds news).map essence :=
        essence_announcedOverAll hn.children.sorted (mergeChildren_sorted ho.children.sorted news) hchildren
          (find?_mergeChildren hn.children.sorted olds)
          fun m hm o ho' halike => ih m hm halike (ho.children.find? ho') (hn.children.each m hm)
      -- the head keeps its label and takes the parameters, which all were announced
      have hhead : ({ old.content with parameters := new.parameters } : UdtHead).essence =
          ({ new with label := { new.label with published := old.label.published } } : UdtHead).essence := by
        simp [UdtHead.essence, UdtHead.content, hname, hdefinition, hversion]
      have hchildren : ((mergeChildren olds news).children.map content).map essence =
          (announcedOverAll olds news).map essence := by
        rw [List.map_map, ← hnews]
        exact List.map_congr_left fun m _ => essence_content m
      rw [← essence_content, content_assign_udt olds news (sameDefinition_of_eq hdefinition), hmerged, essence_udt,
        hhead, hchildren]
      exact (essence_udt _ _).symm

theorem values_atTime {m : Metric} (h : ∀ e ∈ m.leaves, e.2.value ≠ none) (timestamp : UInt64) :
    ∀ e ∈ (m.atTime timestamp).leaves, e.2.value ≠ none := by
  cases m with
  | leaf l =>
    intro e he
    obtain rfl := List.mem_singleton.1 he
    exact h ([], l) (List.mem_singleton_self _)
  | udt head children => exact h

theorem announcedOverAll_eq_self {olds news : List Metric}
    (h : ∀ m ∈ news, ∀ old, find? name m.name olds = some old → announcedOver old m = m) :
    announcedOverAll olds news = news := by
  have hin : ∀ m ∈ news, announcedIn olds m = m := by
    intro m hm
    unfold announcedIn
    split
    · next old hold => exact h m hm old hold
    · rfl
  rw [announcedOverAll_eq_map, List.map_congr_left hin, List.map_id']

/-- If metrics are published under their own names and all values are announced, nothing of the known one is left. -/
theorem announcedOver_eq_self {old new : Metric} (h : old.Alike new) (ho : old.WellFormed) (hn : new.WellFormed)
    (hvalues : ∀ e ∈ new.leaves, e.2.value ≠ none) : announcedOver old new = new := by
  induction new using Metric.induction generalizing old with
  | leaf l =>
    have hpublished : old.label.published = l.label.published := by
      rw [ho.published, h.name_eq]
      exact hn.published.symm
    obtain ⟨v, hv⟩ := Option.ne_none_iff_exists'.1 (hvalues ([], l) (List.mem_singleton_self _))
    rw [announcedOver, hpublished, hv, Option.some_or, ← hv]
  | udt head children ih =>
    have hpublished : old.label.published = head.label.published := by
      rw [ho.published, h.name_eq]
      exact hn.published.symm
    cases h with
    | @udt stored _ olds _ _ _ _ _ hchildren =>
      have hall : announcedOverAll olds children = children := by
        refine announcedOverAll_eq_self fun m hm o ho' => ?_
        obtain ⟨o', ho'', halike⟩ := AlikeAll.exists_of_mem hchildren hn.children.sorted.nodup hm
        obtain rfl : o = o' := Option.some.inj (ho'.symm.trans ho'')
        refine ih m hm halike (ho.children.find? ho') (hn.children.each m hm) fun e he => ?_
        exact hvalues (m.name :: e.1, e.2) (mem_leavesOf.2 ⟨m, hm, e.1, he, rfl⟩)
      rw [announcedOver, hpublished, Metric.children, hall]

end Metric

end ScadaBridge
