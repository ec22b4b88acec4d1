import ScadaBridge.Proofs.Bridge.Identity

/-!
# The devices that vendor applications list

A vendor application lists its devices by their telemetry names. In every run no list names a device twice,
and every vendor device is in the list of its own application (`enrolled_run`). So the death of an
application reaches each of its devices, and each of them once.
-/

namespace ScadaBridge.Bridge

open Ordered

/-- The devices that a vendor application lists, by telemetry name. -/
def enrolled (b : Bridge) (app : String) : List String := ((b.apps.get? app).map VendorApp.devices).getD []

/-- The lists of the vendor applications are in order, and no vendor device is missing. -/
structure Enrolled (b : Bridge) : Prop where
  sorted : ∀ app, Ordered.Sorted id (b.enrolled app)
  /-- Every vendor device is in the list of its application. -/
  listed : ∀ name d app, b.device? name = some d → d.app? = some app → name ∈ b.enrolled app

theorem enrolled_of_get? {b : Bridge} {app : String} {known : VendorApp} (h : b.apps.get? app = some known) :
    b.enrolled app = known.devices := by
  unfold enrolled
  rw [h]
  rfl

namespace Enrolled

variable {b : Bridge} {app : String}

theorem nodup (h : Enrolled b) {known : VendorApp} (found : b.apps.get? app = some known) :
    known.devices.Nodup := by
  have hnodup := (h.sorted app).nodup
  rw [List.map_id, enrolled_of_get? found] at hnodup
  exact hnodup

theorem exists_listed (h : Enrolled b) {name : String} {d : Device} (hd : b.device? name = some d)
    (owner : d.app? = some app) : ∃ known, b.apps.get? app = some known ∧ name ∈ known.devices := by
  have hlisted := h.listed name d app hd owner
  cases hknown : b.apps.get? app with
  | none => simp [enrolled, hknown] at hlisted
  | some known =>
    rw [enrolled_of_get? hknown] at hlisted
    exact ⟨known, rfl, hlisted⟩

end Enrolled

theorem enrolled_announced (b : Bridge) (app name asked : String) :
    ({ b with apps := (b.apps.register app name).1.update app .markAlive } : Bridge).enrolled asked =
      if app = asked then (((b.apps.get? app).getD (.fresh app)).addDevice name).1.devices
      else b.enrolled asked := by
  show (Option.map VendorApp.devices
    (((b.apps.register app name).1.update app .markAlive).get? asked)).getD [] = _
  rw [get?_announced_eq]
  split
  · rfl
  · rfl

/-- Putting an application under its name with the devices that it has changes no list. -/
theorem enrolled_put {b : Bridge} {app : String} {known changed : VendorApp}
    (hknown : b.apps.get? app = some known) (hname : changed.name = known.name)
    (hdevices : changed.devices = known.devices) (asked : String) :
    ({ b with apps := b.apps.put changed } : Bridge).enrolled asked = b.enrolled asked := by
  have happ : known.name = app := key_of_find?_eq_some hknown
  show (Option.map VendorApp.devices (find? VendorApp.name asked (Ordered.insert VendorApp.name changed b.apps))).getD
    [] = _
  rw [find?_insert, hname, happ]
  split
  · next heq =>
    subst heq
    rw [enrolled_of_get? hknown]
    exact hdevices
  · rfl

theorem addDevice_sorted {known : VendorApp} (hs : Ordered.Sorted id known.devices) (name : String) :
    Ordered.Sorted id (known.addDevice name).1.devices := by
  unfold VendorApp.addDevice
  split
  · exact hs
  · exact hs.insert name

namespace Enrolled

variable {b b' : Bridge}

theorem congr (h : Enrolled b) (identity : ∀ name, b'.identity? name = b.identity? name)
    (lists : ∀ app, b'.enrolled app = b.enrolled app) : Enrolled b' := by
  refine ⟨fun app => ?_, fun name d app hd happ => ?_⟩
  · rw [lists]
    exact h.sorted app
  · have hidentity := identity name
    unfold identity? at hidentity
    rw [hd, Option.map_some, eq_comm, Option.map_eq_some_iff] at hidentity
    obtain ⟨d₀, hd₀, heq⟩ := hidentity
    have horigin : d₀.origin = d.origin := congrArg Prod.snd heq
    rw [lists]
    refine h.listed name d₀ app hd₀ ?_
    unfold Device.app? at happ ⊢
    rw [horigin]
    exact happ

theorem putDevice (h : Enrolled b) {d d' : Device} {actions : List Action}
    (found : b.device? d.telemetryName = some d) (hears : d.Hears d' actions) : Enrolled (b.putDevice d') := by
  have hidentity : d'.identity = d.identity := Prod.ext hears.localName_eq hears.origin_eq
  exact h.congr (identity?_putDevice found hears.telemetryName_eq hidentity) fun _ => rfl

/-- A device of a vendor application, perhaps a new one, is added to the list of the application. -/
theorem enlist (h : Enrolled b) {app device : String} {d d' : Device}
    (claimed : (b.device? (Device.joinedName app device)).getD (.ofVendor app device) = d)
    (named : d'.telemetryName = d.telemetryName) (identity : d'.identity = d.identity) {apps : VendorApps}
    (lists : ∀ asked, ({ b with apps := apps } : Bridge).enrolled asked =
      if app = asked then (((b.apps.get? app).getD (.fresh app)).addDevice d.telemetryName).1.devices
      else b.enrolled asked) :
    Enrolled ({ b with apps := apps }.putDevice d') := by
  have hold : ((b.apps.get? app).getD (.fresh app)).devices = b.enrolled app := by
    unfold enrolled
    cases b.apps.get? app <;> rfl
  have hlists : ∀ asked, ({ b with apps := apps }.putDevice d').enrolled asked =
      if app = asked then (((b.apps.get? app).getD (.fresh app)).addDevice d.telemetryName).1.devices
      else b.enrolled asked := lists
  refine ⟨fun asked => ?_, fun name e asked he happ => ?_⟩
  · rw [hlists]
    split
    · refine addDevice_sorted ?_ _
      rw [hold]
      exact h.sorted app
    · exact h.sorted asked
  · rw [hlists]
    -- the device is the announced one, or was in the list before
    have hcase : name = d.telemetryName ∧ asked = app ∨ name ∈ b.enrolled asked := by
      rw [device?_putDevice, named] at he
      split at he
      · next heq =>
        obtain rfl : d' = e := Option.some.inj he
        have horigin : d'.origin = d.origin := congrArg Prod.snd identity
        have happ' : d.app? = some asked := by
          unfold Device.app? at happ ⊢
          rw [← horigin]
          exact happ
        rcases (claimed_cases claimed).2 with hd | ⟨-, rfl⟩
        · rw [← heq]
          exact .inr (h.listed _ d asked hd happ')
        · exact .inl ⟨heq.symm, (Option.some.inj happ').symm⟩
      · exact .inr (h.listed name e asked he happ)
    rcases hcase with ⟨rfl, rfl⟩ | hmem
    · rw [if_pos rfl]
      exact mem_addDevice.2 (.inl rfl)
    · split
      · next heq =>
        subst heq
        rw [← hold] at hmem
        exact mem_addDevice.2 (.inr hmem)
      · exact hmem

/-- An announced device is added to the list of the application. -/
theorem announced (h : Enrolled b) {app device : String} {d d' : Device} {actions : List Action}
    (claimed : (b.device? (Device.joinedName app device)).getD (.ofVendor app device) = d)
    (hears : d.Hears d' actions) :
    Enrolled
      ({ b with apps := (b.apps.register app d.telemetryName).1.update app .markAlive }.putDevice d') := by
  have hidentity : d'.identity = d.identity := Prod.ext hears.localName_eq hears.origin_eq
  exact h.enlist claimed hears.telemetryName_eq hidentity (enrolled_announced b app d.telemetryName)

theorem turn (h : Enrolled b) {topic : BusTopic} {actions : List Action} (hturn : b.Turn topic b' actions) :
    Enrolled b' := by
  cases hturn with
  | idle => exact h
  | announced claimed hears => exact h.announced claimed hears
  | data found hears => exact h.putDevice (device?_self (device?_of_vendorDevice? found)) hears
  | reading found hears => exact h.putDevice (device?_self (device?_of_catalogDevice? found)) hears
  | definitions _ => exact h.congr (fun _ => rfl) fun _ => rfl
  | @deaths topic names apps timestamp mourns =>
    have happs : Enrolled { b with apps := apps } := by
      cases mourns with
      | reading _ => exact h
      | device _ => exact h
      | app hknown => exact h.congr (fun _ => rfl) (enrolled_put hknown rfl rfl)
    refine happs.congr (identity?_declareAllDead _ timestamp names) fun asked => ?_
    rw [declareAllDead_frame]
    rfl

theorem moves (h : Enrolled b) {s : Step} {actions : List Action} (hmoves : b.Moves s b' actions) :
    Enrolled b' := by
  have hlate : ∀ outage, Enrolled { b with outage := outage } := fun _ => h.congr (fun _ => rfl) fun _ => rfl
  cases hmoves with
  | idle _ hframe =>
    rw [hframe]
    exact h.congr (fun _ => rfl) fun _ => rfl
  | fault _ => exact h
  | turn _ _ hturn => exact h.turn hturn
  | connected => exact h.congr (fun _ => rfl) fun _ => rfl
  | lost => exact h.congr (fun _ => rfl) fun _ => rfl
  | restored now instant outage =>
    refine (hlate outage).congr (identity?_reviveAll _ _) fun asked => ?_
    rw [restore_frame]
    rfl
  | expired now instant outage =>
    refine (hlate outage).congr (identity?_declareAllDead _ _ _) fun asked => ?_
    rw [expireOutage_frame]
    rfl

theorem calls (h : Enrolled b) (hs : b.Sorted) {s : Step} {events : List Event} (hcalls : b.Calls s b' events) :
    Enrolled b' := by
  cases hcalls with
  | prepare now => exact h.congr (fun _ => rfl) fun _ => rfl
  | publish now hmoves _ _ =>
    obtain ⟨messages, he, -⟩ := publish_emits (hmoves.sorted hs) now _
    refine (h.moves hmoves).congr he.identity?_eq fun asked => ?_
    rw [he.frame]
    rfl

end Enrolled

/-- A device of the catalog is in no list. -/
theorem Enrolled.addNew {b : Bridge} (h : Enrolled b) (c : CatalogDevice) (now : UInt64) :
    Enrolled (b.addNew (c.toDevice now)) := by
  unfold Bridge.addNew
  split
  · exact h
  · refine ⟨h.sorted, fun name d app hd happ => ?_⟩
    rw [device?_putDevice] at hd
    split at hd
    · obtain rfl := Option.some.inj hd
      rw [c.toDevice_frame now] at happ
      simp [Device.app?, Device.ofSite, Device.fresh] at happ
    · exact h.listed name d app hd happ

theorem Enrolled.addCatalog {b : Bridge} (h : Enrolled b) (catalog : Catalog) (now : UInt64) :
    Enrolled (b.addCatalog catalog now) :=
  List.foldlRecOn catalog.devices _ h fun _ hb c _ => hb.addNew c now

theorem enrolled_start (settings : Settings) (now : UInt64) : Enrolled (start settings now) := by
  have hblank : Enrolled (blank settings) :=
    ⟨fun app => sorted_nil id, fun name d app hd _ => by simp [device?, blank, find?] at hd⟩
  exact hblank.addCatalog settings.catalog now

/-- Over every run, the lists of the vendor applications are in order and complete. -/
theorem enrolled_run (settings : Settings) (now : UInt64) (steps : List Step) :
    Enrolled ((start settings now).run steps).1 := by
  have hboth : ((start settings now).run steps).1.Sorted ∧ Enrolled ((start settings now).run steps).1 := by
    refine run_induction (P := fun _ b _ => b.Sorted ∧ Enrolled b)
      ⟨start_sorted settings now, enrolled_start settings now⟩ ?_ steps
    rintro _ before _ s ⟨hs, h⟩
    have hcalls := before.step_calls s
    exact ⟨hcalls.sorted hs, h.calls hs hcalls⟩
  exact hboth.2

end ScadaBridge.Bridge
