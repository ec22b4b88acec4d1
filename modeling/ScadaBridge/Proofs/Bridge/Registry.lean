import Mathlib.Logic.Relation
import ScadaBridge.Proofs.Bridge.Trace
import ScadaBridge.Proofs.Bridge.Enrollment

/-!
# The registry of devices

Devices come into the registry from catalogs, from announcements and from lookups that create what they do
not find, and the lists of the vendor applications refer to them by their telemetry names. `Bridge.Operation`
is any of these ways, or a call.

`performAll_coherent` says that registry and lists agree whatever is done, and that the state which stands under a
name comes from then on of methods of a device (`Device.Becomes`). Names alone do not tell a device from another one
that is put in its place; that there is none is a matter of `SharedBridge`, which refers to its devices.
-/

namespace ScadaBridge

open Ordered

/-- One method of a device is called. -/
inductive Device.Acts (d : Device) : Device → Prop where
  | announced (metrics : List Metric) (timestamp : UInt64) : Acts d (d.ingestBirth metrics timestamp).1
  | data (metrics : List Metric) (definitions : Definitions) (timestamp : UInt64) :
      Acts d (d.applyData metrics definitions timestamp).1
  | value (name : String) (m : Metric) (timestamp : UInt64) : Acts d (d.ingest name m timestamp).1
  | alive : Acts d d.markAlive
  | dead (timestamp : UInt64) : Acts d (d.markDead timestamp)
  | birthMessage (now : UInt64) : Acts d (d.birth now).1
  | dataMessage (changes : ChangeSet) (now : UInt64) : Acts d (d.data changes now).1
  | deathMessage : Acts d d.death.1

/-- Methods of a device lead from the first state to the second. -/
def Device.Becomes : Device → Device → Prop := Relation.ReflTransGen Device.Acts

namespace Device

theorem Becomes.refl (d : Device) : d.Becomes d := Relation.ReflTransGen.refl

theorem Acts.becomes {d d' : Device} (h : d.Acts d') : d.Becomes d' := Relation.ReflTransGen.single h

theorem Becomes.tail {d d' d'' : Device} (h : d.Becomes d') (h' : d'.Acts d'') : d.Becomes d'' :=
  Relation.ReflTransGen.tail h h'

theorem Acts.telemetryName {d d' : Device} (h : d.Acts d') : d'.telemetryName = d.telemetryName := by
  cases h with
  | announced metrics timestamp =>
    unfold ingestBirth
    split <;> rfl
  | dataMessage changes now =>
    unfold Device.data
    dsimp only
    split <;> rfl
  | _ => rfl

theorem Becomes.telemetryName {d d' : Device} (h : d.Becomes d') : d'.telemetryName = d.telemetryName := by
  induction h with
  | refl => rfl
  | tail _ hacts ih => rw [hacts.telemetryName, ih]

end Device

namespace Bridge

/-! ## Devices keep their places -/

/-- Under every name that is registered stands later a state to which methods of a device lead. -/
def Evolves (b b' : Bridge) : Prop :=
  ∀ (name : String) (d : Device), b.device? name = some d → ∃ d', b'.device? name = some d' ∧ d.Becomes d'

namespace Evolves

variable {b b' b'' : Bridge}

theorem of_device?_eq (h : ∀ name, b'.device? name = b.device? name) : Evolves b b' := by
  intro name d hd
  exact ⟨d, (h name).trans hd, .refl d⟩

theorem trans (h : Evolves b b') (h' : Evolves b' b'') : Evolves b b'' := by
  intro name d hd
  obtain ⟨d', hd', hbecomes⟩ := h name d hd
  obtain ⟨d'', hd'', hbecomes'⟩ := h' name d' hd'
  exact ⟨d'', hd'', Relation.ReflTransGen.trans hbecomes hbecomes'⟩

theorem of_map {f : String → Device → Device} (h : ∀ name, b'.device? name = (b.device? name).map (f name))
    (hf : ∀ (name : String) (d : Device), d.Becomes (f name d)) : Evolves b b' := by
  intro name d hd
  have hafter := h name
  rw [hd, Option.map_some] at hafter
  exact ⟨f name d, hafter, hf name d⟩

/-- A device may be put where there is none of its name, and where what it was stands. -/
theorem putDevice {d' : Device} (h : ∀ d, b.device? d'.telemetryName = some d → d.Becomes d') :
    Evolves b (b.putDevice d') := by
  intro name d hd
  rw [device?_putDevice]
  by_cases hname : d'.telemetryName = name
  · subst hname
    exact ⟨d', if_pos rfl, h d hd⟩
  · exact ⟨d, (if_neg hname).trans hd, .refl d⟩

end Evolves

theorem putDevice_evolves {b : Bridge} {d d' : Device} (found : b.device? d.telemetryName = some d)
    (becomes : d.Becomes d') : Evolves b (b.putDevice d') := by
  refine .putDevice fun e he => ?_
  rw [becomes.telemetryName, found] at he
  obtain rfl := Option.some.inj he
  exact becomes

theorem claimVendorDevice_evolves (b : Bridge) (app device : String) :
    Evolves b (b.claimVendorDevice app device).1 := by
  refine Evolves.putDevice fun d hd => ?_
  have hname : ((b.device? (Device.joinedName app device)).getD (.ofVendor app device)).telemetryName =
      Device.joinedName app device := (claimed_cases rfl).1
  have hfound : b.device? (Device.joinedName app device) = some d := by
    rw [← hname]
    exact hd
  show d.Becomes ((b.device? (Device.joinedName app device)).getD _)
  rw [hfound]
  exact .refl d

theorem addNew_evolves (b : Bridge) (d : Device) : Evolves b (b.addNew d) := by
  unfold addNew
  split
  · exact .of_device?_eq fun _ => rfl
  · next hnew =>
    refine .putDevice fun e he => ?_
    rw [hnew] at he
    simp at he

theorem addCatalog_evolves (b : Bridge) (catalog : Catalog) (now : UInt64) :
    Evolves b (b.addCatalog catalog now) :=
  List.foldlRecOn catalog.devices _ (.of_device?_eq fun _ => rfl)
    fun _ hb c _ => hb.trans (addNew_evolves _ (c.toDevice now))

/-! ## Calls -/

theorem declareAllDead_evolves (b : Bridge) (timestamp : UInt64) (names : List String) :
    Evolves b (b.declareAllDead timestamp names).1 := by
  refine .of_map (b.device?_declareAllDead timestamp names) fun name d => ?_
  split
  · exact (Device.Acts.dead timestamp).becomes
  · exact .refl d

theorem reviveAll_evolves (b : Bridge) (names : List String) : Evolves b (b.reviveAll names).1 := by
  refine .of_map (b.device?_reviveAll names) fun name d => ?_
  split
  · exact Device.Acts.alive.becomes
  · exact .refl d

theorem vendorBirth_evolves (b : Bridge) (app device : String) (payload : List UInt8) (now : UInt64) :
    Evolves b (b.vendorBirth app device payload now).1 := by
  unfold vendorBirth
  cases b.metricsOf payload now with
  | error _ => exact .of_device?_eq fun _ => rfl
  | ok metrics =>
    have hclaim := b.claimVendorDevice_evolves app device
    have hfound : (b.claimVendorDevice app device).1.device?
        (b.claimVendorDevice app device).2.telemetryName = some (b.claimVendorDevice app device).2 := by
      show (b.putDevice _).device? _ = _
      rw [device?_putDevice]
      exact if_pos rfl
    have hborn := (Device.Acts.announced (d := (b.claimVendorDevice app device).2) metrics now).becomes
    exact hclaim.trans (putDevice_evolves hfound hborn)

theorem vendorData_evolves (b : Bridge) (app device : String) (payload : List UInt8) (now : UInt64) :
    Evolves b (b.vendorData app device payload now).1 := by
  unfold vendorData
  cases hfound : b.vendorDevice? app device with
  | none => exact .of_device?_eq fun _ => rfl
  | some d =>
    cases b.metricsOf payload now with
    | error _ => exact .of_device?_eq fun _ => rfl
    | ok metrics =>
      have hd := device?_self (device?_of_vendorDevice? hfound)
      have hdata := (Device.Acts.data (d := d) metrics b.definitions now).becomes
      exact putDevice_evolves hd (hdata.tail .alive)

theorem vendorDeath_evolves (b : Bridge) (app : String) (device : Option String) (now : UInt64) :
    Evolves b (b.vendorDeath app device now).1 := by
  unfold vendorDeath
  cases b.apps.get? app with
  | none => exact .of_device?_eq fun _ => rfl
  | some known =>
    cases device with
    | none => exact declareAllDead_evolves { b with apps := b.apps.put known.markDead } now known.devices
    | some device =>
      dsimp only
      cases b.vendorDevice? app device with
      | none => exact .of_device?_eq fun _ => rfl
      | some d =>
        dsimp only
        rw [declareDead_eq_declareAllDead]
        exact b.declareAllDead_evolves now _

theorem takeValue_evolves {b : Bridge} {d : Device} (found : b.device? d.telemetryName = some d) (point : String)
    (v : Scalar) (timestamp : UInt64) : Evolves b (b.takeValue d point v timestamp).1 := by
  have hvalue := (Device.Acts.value (d := d) point (.leaf (.ofValue point v timestamp)) timestamp).becomes
  exact putDevice_evolves found (hvalue.tail .alive)

theorem deviceUpdate_evolves (b : Bridge) (device site point : String) (payload : List UInt8) (now : UInt64) :
    Evolves b (b.deviceUpdate device site point payload now).1 := by
  have hsame : Evolves b b := .of_device?_eq fun _ => rfl
  unfold deviceUpdate
  cases hfound : b.catalogDevice? device site with
  | none => exact hsame
  | some d =>
    dsimp only
    split
    · exact hsame
    · split
      · exact hsame
      · split
        · exact hsame
        · rw [declareDead_eq_declareAllDead]
          exact b.declareAllDead_evolves _ _
        · exact hsame
        · exact takeValue_evolves (device?_self (device?_of_catalogDevice? hfound)) _ _ _

theorem process_evolves (b : Bridge) (now : UInt64) (topic : String) (payload : List UInt8) :
    Evolves b (b.process now topic payload).1 := by
  unfold process
  cases BusTopic.parse topic with
  | error _ => exact .of_device?_eq fun _ => rfl
  | ok t =>
    cases t with
    | birth app device => exact b.vendorBirth_evolves app device payload now
    | data app device => exact b.vendorData_evolves app device payload now
    | death app device => exact b.vendorDeath_evolves app device now
    | update device site point => exact b.deviceUpdate_evolves device site point payload now
    | definitions =>
      dsimp only
      unfold announceDefinitions
      split
      · exact .of_device?_eq fun _ => rfl
      · exact .of_device?_eq fun _ => rfl

theorem Saying.acts {now : UInt64} {d d' : Device} {kind : MessageKind} {payload : Wire.Payload}
    (h : Saying now d kind d' payload) : d.Acts d' := by
  cases h with
  | birth => exact .birthMessage now
  | @data changes _ _ hdata =>
    have hacts := Device.Acts.dataMessage (d := d) changes now
    rw [hdata] at hacts
    exact hacts
  | death => exact .deathMessage

theorem Emits.evolves {now : UInt64} {b b' : Bridge} {messages : List Outbound} (h : Emits now b messages b') :
    Evolves b b' := by
  induction h with
  | done => exact .of_device?_eq fun _ => rfl
  | node _ ih => exact ih
  | device found said _ ih => exact (putDevice_evolves found said.acts.becomes).trans ih

theorem plan_evolves (b : Bridge) (s : Step) : Evolves b (b.plan s).1 := by
  have hsame : Evolves b b := .of_device?_eq fun _ => rfl
  cases s with
  | prepare now => exact hsame
  | check now instant =>
    unfold plan
    dsimp only
    split
    · next outage _ => exact declareAllDead_evolves { b with outage := outage } now _
    · exact hsame
  | take now instant message =>
    cases message with
    | bus topic payload =>
      have hprocessed := b.process_evolves now topic payload
      unfold plan
      dsimp only
      split
      · next heq =>
        rw [heq] at hprocessed
        exact hprocessed
      · next heq =>
        rw [heq] at hprocessed
        exact hprocessed
    | command topic payload =>
      unfold plan
      dsimp only
      split
      · exact hsame
      · rw [command_frame]
        exact hsame
    | connection event =>
      cases event with
      | busConnected =>
        unfold plan planConnection
        dsimp only
        split
        · next outage _ => exact reviveAll_evolves { b with outage := outage, timedOut := [] } b.timedOut
        · exact hsame
      | _ => exact hsame

/-- A call leaves every device in its place. -/
theorem step_evolves {b : Bridge} (hs : b.Sorted) (s : Step) : Evolves b (b.step s).1 := by
  rw [(step_rendered hs s).1]
  exact (b.plan_evolves s).trans (renderAll_emits (plan_sorted hs s) s.now (b.plan s).2).evolves

/-- So does a run. -/
theorem run_evolves {b : Bridge} (hs : b.Sorted) (steps : List Step) : Evolves b (b.run steps).1 := by
  have hrun : (b.run steps).1.Sorted ∧ Evolves b (b.run steps).1 :=
    run_induction (P := fun _ after _ => after.Sorted ∧ Evolves b after) ⟨hs, .of_device?_eq fun _ => rfl⟩
      (fun _ before _ s h => ⟨(before.step_calls s).sorted h.1, h.2.trans (step_evolves h.1 s)⟩) steps
  exact hrun.2

/-! ## Everything that is done to a bridge -/

/-- A call, or one of the ways to add devices outside of calls. -/
inductive Operation where
  | call (s : Step)
  | addCatalog (catalog : Catalog) (now : UInt64)
  /-- A vendor device is looked up, and created if it is missing. -/
  | claim (app device : String)

def perform (b : Bridge) : Operation → Bridge
  | .call s => (b.step s).1
  | .addCatalog catalog now => b.addCatalog catalog now
  | .claim app device => (b.claimVendorDevice app device).1

def performAll (b : Bridge) (operations : List Operation) : Bridge := operations.foldl perform b

/-- The registry and the lists of the vendor applications agree. -/
structure Coherent (b : Bridge) : Prop where
  /-- Under each name stands the one device of this telemetry name. -/
  keyed : ∀ name d, b.device? name = some d ↔ d ∈ b.devices ∧ d.telemetryName = name
  /-- Whatever an application lists is registered. -/
  listed : ∀ app known, b.apps.get? app = some known → ∀ name ∈ known.devices, ∃ d, b.device? name = some d
  /-- No application lists a name twice. -/
  nodup : ∀ app known, b.apps.get? app = some known → known.devices.Nodup
  /-- Every external device is in the list of its own application. -/
  external : ∀ d ∈ b.devices, d.isExternal = true →
    ∃ app known, d.app? = some app ∧ b.apps.get? app = some known ∧ d.telemetryName ∈ known.devices

/-- What the registry and the lists come from. -/
def Rooted (b : Bridge) : Prop := (∃ history, Registered history b) ∧ Enrolled b

theorem coherent_of_rooted {b : Bridge} (h : Rooted b) : Coherent b := by
  obtain ⟨⟨history, hregistered⟩, henrolled⟩ := h
  refine ⟨fun name d => ⟨fun hd => ?_, ?_⟩, fun app known hknown name hname => ?_, fun app known hknown => ?_,
    fun d hd hexternal => ?_⟩
  · exact ⟨mem_of_device? hd, telemetryName_of_device? hd⟩
  · rintro ⟨hd, rfl⟩
    exact hregistered.sorted.device?_of_mem hd
  · obtain ⟨device, hmem, hjoined⟩ := hregistered.apps app known hknown name hname
    cases hfirst : Source.first? history name with
    | none =>
      have hnot := List.find?_eq_none.1 hfirst _ hmem
      simp [hjoined] at hnot
    | some s =>
      obtain ⟨d, hd, -⟩ := hregistered.exists_device hfirst
      exact ⟨d, hd⟩
  · exact henrolled.nodup hknown
  · have hfound := hregistered.sorted.device?_of_mem hd
    obtain ⟨s, -, hof⟩ := hregistered.isOf hfound
    cases s with
    | site device site => exact absurd (hof.1.symm.trans hexternal) Bool.false_ne_true
    | vendor app device =>
      obtain ⟨known, hknown, hlisted⟩ := henrolled.exists_listed hfound hof.2.2
      exact ⟨app, known, hof.2.2, hknown, hlisted⟩

theorem claimVendorDevice_rooted {b : Bridge} (h : Rooted b) (app device : String) :
    Rooted (b.claimVendorDevice app device).1 := by
  obtain ⟨⟨history, hregistered⟩, henrolled⟩ := h
  have hclaimed : (b.device? (Device.joinedName app device)).getD (.ofVendor app device) =
      (b.claimVendorDevice app device).2 := rfl
  refine ⟨⟨_, hregistered.enlist hclaimed rfl rfl fun asked found hfound => mem_register hfound⟩, ?_⟩
  show Enrolled (putDevice { b with apps := (b.apps.register app (b.claimVendorDevice app device).2.telemetryName).1 }
    (b.claimVendorDevice app device).2)
  refine henrolled.enlist hclaimed rfl rfl fun asked => ?_
  show (Option.map VendorApp.devices ((b.apps.register app _).1.get? asked)).getD [] = _
  rw [get?_register]
  split <;> rfl

theorem perform_rooted {b : Bridge} (h : Rooted b) (operation : Operation) : Rooted (b.perform operation) := by
  obtain ⟨⟨history, hregistered⟩, henrolled⟩ := h
  cases operation with
  | call s =>
    have hcalls := b.step_calls s
    exact ⟨⟨_, hregistered.calls hcalls⟩, henrolled.calls hregistered.sorted hcalls⟩
  | addCatalog catalog now => exact ⟨⟨_, hregistered.addCatalog catalog now⟩, henrolled.addCatalog catalog now⟩
  | claim app device => exact claimVendorDevice_rooted ⟨⟨history, hregistered⟩, henrolled⟩ app device

theorem perform_evolves {b : Bridge} (hs : b.Sorted) (operation : Operation) :
    Evolves b (b.perform operation) := by
  cases operation with
  | call s => exact step_evolves hs s
  | addCatalog catalog now => exact b.addCatalog_evolves catalog now
  | claim app device => exact b.claimVendorDevice_evolves app device

theorem performAll_rooted {b : Bridge} (h : Rooted b) (operations : List Operation) :
    Rooted (b.performAll operations) :=
  List.foldlRecOn operations perform h fun _ hb operation _ => perform_rooted hb operation

theorem performAll_evolves {b : Bridge} (h : Rooted b) (operations : List Operation) :
    Evolves b (b.performAll operations) := by
  induction operations generalizing b with
  | nil => exact .of_device?_eq fun _ => rfl
  | cons operation rest ih =>
    obtain ⟨history, hregistered⟩ := h.1
    have hfirst := perform_evolves hregistered.sorted operation
    exact hfirst.trans (ih (perform_rooted h operation))

/-- Whatever is done to a bridge from its start, the registry and the lists of the vendor applications agree,
and whatever else is done, methods of a device lead from the state under a name that is registered to the state that
stands there afterwards. -/
theorem performAll_coherent (settings : Settings) (now : UInt64) (operations : List Operation) :
    Coherent ((start settings now).performAll operations) ∧
      ∀ more, Evolves ((start settings now).performAll operations)
        ((start settings now).performAll (operations ++ more)) := by
  have hstart : Rooted (start settings now) :=
    ⟨⟨_, registered_start settings now⟩, enrolled_start settings now⟩
  have hrooted := performAll_rooted hstart operations
  refine ⟨coherent_of_rooted hrooted, fun more => ?_⟩
  unfold performAll
  rw [List.foldl_append]
  exact performAll_evolves hrooted more

end Bridge

end ScadaBridge
