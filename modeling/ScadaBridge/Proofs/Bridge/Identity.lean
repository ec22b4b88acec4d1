import ScadaBridge.Proofs.Bridge.Call

/-!
# Which source a device belongs to

Devices are found by one text that joins two names with a hyphen, so different sources may share it:
the device `b-c` of an application `a` and the device `c` of an application `a-b`. Under each joined
name the bridge keeps the device of the source that was registered first (`registered_run`), and a
lookup gives the device of the asked source exactly if no other source came first (`run_isolated`). A
message on the plant bus never reaches past the joined names of the sources that it concerns.
-/

namespace ScadaBridge

open Ordered

/-- A source of readings. -/
inductive Source where
  /-- A device of the catalog at a site. -/
  | site (device site : String)
  /-- A device of a vendor application. -/
  | vendor (app device : String)
deriving DecidableEq

namespace Source

/-- The device of a source, before anything is heard of it. -/
def device : Source → Device
  | .site device place => .ofSite device place
  | .vendor app device => .ofVendor app device

/-- The joined name under which the device is registered. -/
def name (s : Source) : String := s.device.telemetryName

/-- Whether the source is a vendor application. -/
def isVendor : Source → Bool
  | .site _ _ => false
  | .vendor _ _ => true

end Source

namespace Device

/-- The device belongs to a source, by its own account. -/
def IsOf (d : Device) : Source → Prop
  | .site device site => d.isExternal = false ∧ d.localName = device ∧ d.site? = some site
  | .vendor app device => d.isExternal = true ∧ d.localName = device ∧ d.app? = some app

/-- The part of a device that tells where it belongs. -/
def identity (d : Device) : String × Origin := (d.localName, d.origin)

theorem isOf_iff (d : Device) (s : Source) : d.IsOf s ↔ d.identity = s.device.identity := by
  cases s with
  | site device site =>
    simp only [IsOf, isExternal, site?, identity, Source.device, ofSite, fresh]
    cases d.origin <;> simp
  | vendor app device =>
    simp only [IsOf, isExternal, app?, identity, Source.device, ofVendor, fresh]
    cases d.origin <;> simp

theorem IsOf.unique {d : Device} {s t : Source} (hs : d.IsOf s) (ht : d.IsOf t) : s = t := by
  cases s <;> cases t <;> simp_all [IsOf]

theorem IsOf.isExternal_eq {d : Device} {s : Source} (h : d.IsOf s) : d.isExternal = s.isVendor := by
  cases s with
  | site device site => exact h.1
  | vendor app device => exact h.1

end Device

/-- The sources that a message on a topic announces. -/
def BusTopic.announced : BusTopic → List Source
  | .birth app device => [.vendor app device]
  | .data _ _ | .death _ _ | .update _ _ _ | .definitions => []

/-- The vendor device that a call announces, if its payload can be used. -/
def Step.announced? : Step → Option Source
  | .take _ _ (.bus topic payload) =>
    match BusTopic.parse topic, Bridge.recordsOf payload .noMetrics with
    | .ok (.birth app device), .ok _ => some (.vendor app device)
    | _, _ => none
  | .take _ _ (.command _ _) | .take _ _ (.connection _) | .prepare _ | .check _ _ => none

/-- The sources in the order of their registration: the catalog, then what the calls announce. -/
def Settings.sources (settings : Settings) (steps : List Step) : List Source :=
  settings.catalog.devices.map (fun c => .site c.device c.site) ++ steps.filterMap Step.announced?

/-- The first source with a joined name. -/
def Source.first? (history : List Source) (name : String) : Option Source :=
  history.find? fun s => s.name == name

theorem Source.first?_append (history more : List Source) (name : String) :
    first? (history ++ more) name = (first? history name).or (first? more name) := by
  simp [first?, List.find?_append]

theorem Source.first?_singleton (s : Source) (name : String) :
    first? [s] name = if s.name = name then some s else none := by
  by_cases h : s.name = name <;> simp [first?, h]

namespace Bridge

/-- Where the device of a name belongs. -/
def identity? (b : Bridge) (name : String) : Option (String × Origin) :=
  (b.device? name).map Device.identity

/-! ## Identities never change -/

/-- A registered device that is replaced by one of the same identity changes nothing here. -/
theorem identity?_putDevice {b : Bridge} {d d' : Device} (found : b.device? d.telemetryName = some d)
    (hname : d'.telemetryName = d.telemetryName) (hidentity : d'.identity = d.identity) (name : String) :
    (b.putDevice d').identity? name = b.identity? name := by
  unfold identity?
  rw [device?_putDevice]
  split
  · next heq =>
    rw [← heq, hname, found, Option.map_some, Option.map_some, hidentity]
  · rfl

theorem Emits.identity?_eq {now : UInt64} {b b' : Bridge} {messages : List Outbound}
    (h : Emits now b messages b') (name : String) : b'.identity? name = b.identity? name :=
  h.map_device? (fun _ _ _ => rfl) name

theorem identity?_declareAllDead (b : Bridge) (timestamp : UInt64) (names : List String)
    (name : String) : (b.declareAllDead timestamp names).1.identity? name = b.identity? name := by
  unfold identity?
  rw [device?_declareAllDead, Option.map_map]
  congr 1
  funext d
  by_cases h : name ∈ names ∧ d.known ≠ .down
  · simp [h, Device.identity, Device.markDead]
  · simp only [Function.comp, if_neg h]

theorem identity?_reviveAll (b : Bridge) (names : List String) (name : String) :
    (b.reviveAll names).1.identity? name = b.identity? name := by
  unfold identity?
  rw [device?_reviveAll, Option.map_map]
  congr 1
  funext d
  by_cases h : name ∈ names ∧ d.known = .down ∧ d.hasMetrics
  · simp [h, Device.identity, Device.markAlive]
  · simp only [Function.comp, if_neg h]

/-! ## The registry -/

/-- The registry holds under each name the device of the first source of that name, and lists with a vendor
application only devices that it announced. -/
structure Registered (history : List Source) (b : Bridge) : Prop where
  sorted : b.Sorted
  /-- Under each name stands the first source. -/
  first : ∀ name, b.identity? name = (Source.first? history name).map fun s => s.device.identity
  /-- Vendor applications list what they announced. -/
  apps : ∀ app known, b.apps.get? app = some known → ∀ name ∈ known.devices,
    ∃ device, Source.vendor app device ∈ history ∧ (Source.vendor app device).name = name

namespace Registered

variable {history : List Source} {b b' : Bridge}

theorem congr (h : Registered history b) (sorted : b'.Sorted)
    (identity : ∀ name, b'.identity? name = b.identity? name) (apps : b'.apps = b.apps) :
    Registered history b' := by
  refine ⟨sorted, fun name => ?_, fun app known hknown => ?_⟩
  · rw [identity]
    exact h.first name
  · rw [apps] at hknown
    exact h.apps app known hknown

/-- The device that is found belongs to the first source of its name. -/
theorem isOf (h : Registered history b) {name : String} {d : Device} (hd : b.device? name = some d) :
    ∃ s, Source.first? history name = some s ∧ d.IsOf s := by
  have hfirst := h.first name
  unfold identity? at hfirst
  rw [hd, Option.map_some, eq_comm, Option.map_eq_some_iff] at hfirst
  obtain ⟨s, hs, hidentity⟩ := hfirst
  exact ⟨s, hs, (d.isOf_iff s).2 hidentity.symm⟩

theorem device?_eq_none (h : Registered history b) {name : String}
    (hnone : Source.first? history name = none) : b.device? name = none := by
  have hfirst := h.first name
  unfold identity? at hfirst
  rw [hnone] at hfirst
  simpa using hfirst

theorem exists_device (h : Registered history b) {name : String} {s : Source}
    (hs : Source.first? history name = some s) : ∃ d, b.device? name = some d ∧ d.IsOf s := by
  have hfirst := h.first name
  unfold identity? at hfirst
  rw [hs, Option.map_some, Option.map_eq_some_iff] at hfirst
  obtain ⟨d, hd, hidentity⟩ := hfirst
  exact ⟨d, hd, (d.isOf_iff s).2 hidentity⟩

theorem publish (h : Registered history b) (now : UInt64) (actions : List Action) :
    Registered history (b.publish now actions).1 := by
  obtain ⟨messages, he, -⟩ := publish_emits h.sorted now actions
  exact h.congr (he.sorted h.sorted) he.identity?_eq (by rw [he.frame])

/-- A device that hears something keeps its place. -/
theorem putDevice (h : Registered history b) {d d' : Device} {actions : List Action}
    (found : b.device? d.telemetryName = some d) (hears : d.Hears d' actions) :
    Registered history (b.putDevice d') := by
  refine h.congr (h.sorted.putDevice d') (fun name => ?_) rfl
  have hidentity : d'.identity = d.identity := Prod.ext hears.localName_eq hears.origin_eq
  exact identity?_putDevice found hears.telemetryName_eq hidentity name

end Registered

theorem get?_register (apps : VendorApps) (app device asked : String) :
    (apps.register app device).1.get? asked =
      if app = asked then some (((apps.get? app).getD (.fresh app)).addDevice device).1
      else apps.get? asked := by
  have hname : (((apps.get? app).getD (.fresh app)).addDevice device).1.name = app := by
    have hold : ((apps.get? app).getD (.fresh app)).name = app := by
      cases hknown : apps.get? app with
      | none => rfl
      | some known => exact key_of_find?_eq_some hknown
    unfold VendorApp.addDevice
    split
    · exact hold
    · exact hold
  have hput : (apps.register app device).1 = Ordered.insert VendorApp.name
      (((apps.get? app).getD (.fresh app)).addDevice device).1 apps := rfl
  unfold VendorApps.get? at hname ⊢
  rw [hput]
  unfold VendorApps.get?
  rw [find?_insert, hname]

/-- A changed application is found under the name of the one that it replaces. -/
theorem get?_put_eq {apps : VendorApps} {app : String} {known changed : VendorApp}
    (hknown : apps.get? app = some known) (hname : changed.name = known.name) (asked : String) :
    (apps.put changed).get? asked = if app = asked then some changed else apps.get? asked := by
  have happ : known.name = app := key_of_find?_eq_some hknown
  rw [← happ, ← hname]
  exact find?_insert _ _ _ _

/-- Changing an application but not its list of devices changes no list. -/
theorem get?_put {apps : VendorApps} {app : String} {known changed : VendorApp}
    {asked : String} {found : VendorApp} (hknown : apps.get? app = some known)
    (hfound : (apps.put changed).get? asked = some found) (hname : changed.name = known.name)
    (hdevices : changed.devices = known.devices) :
    ∃ before, apps.get? asked = some before ∧ found.devices = before.devices := by
  rw [get?_put_eq hknown hname] at hfound
  split at hfound
  · next heq =>
    subst heq
    cases hfound
    exact ⟨known, hknown, hdevices⟩
  · exact ⟨found, hfound, rfl⟩

theorem mem_addDevice {known : VendorApp} {device name : String} :
    name ∈ (known.addDevice device).1.devices ↔ name = device ∨ name ∈ known.devices := by
  unfold VendorApp.addDevice
  split
  · next hlisted =>
    have hmem := contains_id.1 hlisted
    refine ⟨.inr, fun h => h.elim (fun heq => ?_) id⟩
    rw [heq]
    exact hmem
  · exact mem_insert_id

/-- The applications after one of them announced a device and is alive. -/
theorem get?_announced_eq (apps : VendorApps) (app device asked : String) :
    ((apps.register app device).1.update app .markAlive).get? asked =
      if app = asked then some (((apps.get? app).getD (.fresh app)).addDevice device).1.markAlive
      else apps.get? asked := by
  have hregistered := get?_register apps app device app
  rw [if_pos rfl] at hregistered
  have hname := key_of_find?_eq_some hregistered
  unfold VendorApps.update
  rw [hregistered]
  show find? VendorApp.name asked (Ordered.insert VendorApp.name _ _) = _
  rw [find?_insert]
  show (if VendorApp.name (VendorApp.addDevice _ device).1 = asked then _ else _) = _
  rw [hname]
  split
  · rfl
  · next hother => exact (get?_register apps app device asked).trans (if_neg hother)

/-- An application lists the device that is added to it, and what it listed before. -/
theorem mem_register {apps : VendorApps} {app device asked : String} {found : VendorApp}
    (h : (apps.register app device).1.get? asked = some found) :
    ∀ name ∈ found.devices, (asked = app ∧ name = device) ∨
      ∃ known, apps.get? asked = some known ∧ name ∈ known.devices := by
  rw [get?_register] at h
  split at h
  · next heq =>
    subst heq
    cases h
    intro name hname
    rcases mem_addDevice.1 hname with rfl | hname
    · exact .inl ⟨rfl, rfl⟩
    · cases hknown : apps.get? app with
      | none =>
        rw [hknown] at hname
        simp [VendorApp.fresh] at hname
      | some known =>
        rw [hknown] at hname
        exact .inr ⟨known, rfl, hname⟩
  · exact fun name hname => .inr ⟨found, h, hname⟩

/-- After an announcement, an application lists the announced device and what it listed before. -/
theorem get?_announced {apps : VendorApps} {app device asked : String} {found : VendorApp}
    (h : ((apps.register app device).1.update app .markAlive).get? asked = some found) :
    ∀ name ∈ found.devices, (asked = app ∧ name = device) ∨
      ∃ known, apps.get? asked = some known ∧ name ∈ known.devices := by
  have hregistered := get?_register apps app device asked
  rw [get?_announced_eq] at h
  split at h
  · next heq =>
    rw [if_pos heq] at hregistered
    have hlisted := mem_register hregistered
    cases h
    exact hlisted
  · exact fun name hname => .inr ⟨found, h, hname⟩

/-! ## Every call keeps the registry -/

namespace Registered

variable {history : List Source} {b b' : Bridge}

/-- A source of a vendor application is registered unless another one of its name came first. -/
theorem enlist (h : Registered history b) {app device : String} {d d' : Device}
    (claimed : (b.device? (Device.joinedName app device)).getD (.ofVendor app device) = d)
    (named : d'.telemetryName = d.telemetryName) (identity : d'.identity = d.identity) {apps : VendorApps}
    (lists : ∀ asked found, apps.get? asked = some found → ∀ name ∈ found.devices,
      (asked = app ∧ name = d.telemetryName) ∨ ∃ known, b.apps.get? asked = some known ∧ name ∈ known.devices) :
    Registered (history ++ [.vendor app device]) ({ b with apps := apps }.putDevice d') := by
  obtain ⟨hname, hcases⟩ := claimed_cases claimed
  have hname' : d'.telemetryName = Device.joinedName app device := named.trans hname
  refine ⟨h.sorted.putDevice d', fun name => ?_, fun asked found hfound => ?_⟩
  · show ((Bridge.putDevice _ d').device? name).map Device.identity = _
    have hnew : Source.first? [.vendor app device] name =
        if Device.joinedName app device = name then some (.vendor app device) else none :=
      Source.first?_singleton _ _
    rw [device?_putDevice, hname', Source.first?_append, hnew]
    by_cases heq : Device.joinedName app device = name
    · subst heq
      rw [if_pos rfl, if_pos rfl, Option.map_some, identity]
      have hfirst := h.first (Device.joinedName app device)
      unfold identity? at hfirst
      rw [hname] at hcases
      rcases hcases with hd | ⟨hd, rfl⟩
      · rw [hd, Option.map_some, eq_comm, Option.map_eq_some_iff] at hfirst
        obtain ⟨s, hs, hsidentity⟩ := hfirst
        rw [hs]
        simp [hsidentity]
      · have hnone : Source.first? history (Device.joinedName app device) = none := by
          rw [hd] at hfirst
          simpa using hfirst.symm
        rw [hnone]
        rfl
    · rw [if_neg heq, if_neg heq, Option.or_none]
      exact h.first name
  · intro name hmem
    rcases lists asked found hfound name hmem with ⟨rfl, rfl⟩ | ⟨known, hknown, hold⟩
    · exact ⟨device, List.mem_append_right _ (List.mem_singleton.2 rfl), hname.symm⟩
    · obtain ⟨device', hdevice', hjoined⟩ := h.apps asked known hknown name hold
      exact ⟨device', List.mem_append_left _ hdevice', hjoined⟩

/-- What a message does to the registry: an announcement registers its source unless another of its name
came first. -/
theorem turn (h : Registered history b) {topic : BusTopic} {actions : List Action}
    (hturn : b.Turn topic b' actions) :
    Registered (history ++ topic.announced) b' := by
  cases hturn with
  | idle => simpa [BusTopic.announced] using h
  | data found hears =>
    show Registered (history ++ []) _
    rw [List.append_nil]
    exact h.putDevice (device?_self (device?_of_vendorDevice? found)) hears
  | reading found hears =>
    show Registered (history ++ []) _
    rw [List.append_nil]
    exact h.putDevice (device?_self (device?_of_catalogDevice? found)) hears
  | definitions _ =>
    show Registered (history ++ []) _
    rw [List.append_nil]
    exact h.congr h.sorted (fun _ => rfl) rfl
  | @deaths topic names apps timestamp mourns =>
    have happs : Registered history { b with apps := apps } := by
      cases mourns with
      | reading _ => exact h
      | device _ => exact h
      | app hknown =>
        refine ⟨h.sorted, h.first, fun asked found hfound => ?_⟩
        obtain ⟨before, hbefore, hdevices⟩ := get?_put hknown hfound rfl rfl
        rw [hdevices]
        exact h.apps asked before hbefore
    have hdead := happs.congr (declareAllDead_sorted happs.sorted timestamp names)
      (identity?_declareAllDead _ timestamp names) (by rw [declareAllDead_frame])
    cases mourns <;> simpa [BusTopic.announced] using hdead
  | @announced app device d d' actions claimed hears =>
    have hidentity : d'.identity = d.identity := Prod.ext hears.localName_eq hears.origin_eq
    exact h.enlist claimed hears.telemetryName_eq hidentity fun _ _ hfound => get?_announced hfound

/-- A message that announces a device can be used exactly if its payload can. -/
theorem announced?_of_process {now : UInt64} {instant : Nat} {topic : String} {payload : List UInt8} :
    (∀ {fault}, b.process now topic payload = (b', .error fault) →
        Step.announced? (.take now instant (.bus topic payload)) = none) ∧
      ∀ {t actions}, BusTopic.parse topic = .ok t → b.process now topic payload = (b', .ok actions) →
        (Step.announced? (.take now instant (.bus topic payload))).toList = t.announced := by
  cases ht : BusTopic.parse topic with
  | error fault => simp [Step.announced?, ht]
  | ok t =>
    cases t with
    | birth app device =>
      cases hrecords : recordsOf payload .noMetrics with
      | error fault => simp [Step.announced?, ht, hrecords, process, vendorBirth, metricsOf]
      | ok records =>
        simp [Step.announced?, ht, hrecords, process, vendorBirth, metricsOf, BusTopic.announced]
    | _ =>
      constructor
      · intro _ _
        simp [Step.announced?, ht]
      · intro t _ heq _
        cases heq
        simp [Step.announced?, ht, BusTopic.announced]

/-- A move registers what its call announces. -/
theorem moves (h : Registered history b) {s : Step} {actions : List Action}
    (hmoves : b.Moves s b' actions) : Registered (history ++ s.announced?.toList) b' := by
  have hnothing : s.announced? = none → Registered history b' →
      Registered (history ++ s.announced?.toList) b' := by
    intro hnone hb'
    rw [hnone]
    simpa using hb'
  have hlate : ∀ outage, Registered history { b with outage := outage } :=
    fun _ => h.congr h.sorted (fun _ => rfl) rfl
  cases hmoves with
  | idle hquiet hframe =>
    refine hnothing (by cases hquiet <;> rfl) ?_
    rw [hframe]
    exact h.congr h.sorted (fun _ => rfl) rfl
  | fault failed => exact hnothing (announced?_of_process.1 failed) h
  | turn parsed processed hturn =>
    rw [announced?_of_process.2 parsed processed]
    exact h.turn hturn
  | connected => exact hnothing rfl (h.congr h.sorted (fun _ => rfl) rfl)
  | lost => exact hnothing rfl (h.congr h.sorted (fun _ => rfl) rfl)
  | restored now instant outage =>
    refine hnothing rfl ((hlate outage).congr (restore_sorted (hlate outage).sorted) ?_ ?_)
    · exact identity?_reviveAll _ _
    · rw [restore_frame]
  | expired now instant outage =>
    refine hnothing rfl ((hlate outage).congr (expireOutage_sorted (hlate outage).sorted now) ?_ ?_)
    · exact identity?_declareAllDead _ _ _
    · rw [expireOutage_frame]

theorem calls (h : Registered history b) {s : Step} {events : List Event}
    (hcalls : b.Calls s b' events) : Registered (history ++ s.announced?.toList) b' := by
  cases hcalls with
  | prepare now =>
    show Registered (history ++ []) _
    rw [List.append_nil]
    exact h.congr h.sorted (fun _ => rfl) rfl
  | publish now hmoves _ _ => exact (h.moves hmoves).publish now _

end Registered

/-- A source of the catalog is registered unless another one of its name came first. -/
theorem Registered.addNew {history : List Source} {b : Bridge} (h : Registered history b) (c : CatalogDevice)
    (now : UInt64) : Registered (history ++ [.site c.device c.site]) (b.addNew (c.toDevice now)) := by
  have hframe := c.toDevice_frame now
  have hname : (c.toDevice now).telemetryName = (Source.site c.device c.site).name := by
    rw [hframe]
    rfl
  have hidentity : (c.toDevice now).identity = (Source.site c.device c.site).device.identity := by
    rw [hframe]
    rfl
  have happs : ∀ app known, b.apps.get? app = some known → ∀ name ∈ known.devices,
      ∃ device, Source.vendor app device ∈ history ++ [.site c.device c.site] ∧
        (Source.vendor app device).name = name := by
    intro app known happ name hmem
    obtain ⟨device, hdevice, hjoined⟩ := h.apps app known happ name hmem
    exact ⟨device, List.mem_append_left _ hdevice, hjoined⟩
  have hfirst : ∀ name, Source.first? (history ++ [.site c.device c.site]) name =
      (Source.first? history name).or
        (if (Source.site c.device c.site).name = name then some (.site c.device c.site) else none) :=
    fun name => by rw [Source.first?_append, Source.first?_singleton]
  unfold Bridge.addNew
  rw [hname]
  split
  · next d hd =>
    refine ⟨h.sorted, fun name => ?_, happs⟩
    rw [h.first, hfirst]
    split
    · next heq =>
      subst heq
      obtain ⟨s, hs, -⟩ := h.isOf hd
      rw [hs]
      rfl
    · rw [Option.or_none]
  · next hnew =>
    refine ⟨h.sorted.putDevice _, fun name => ?_, happs⟩
    unfold identity?
    rw [device?_putDevice, hname, hfirst]
    split
    · next heq =>
      subst heq
      cases hs : Source.first? history (Source.site c.device c.site).name with
      | none => simp [hidentity]
      | some s =>
        obtain ⟨d, hd, -⟩ := h.exists_device hs
        rw [hd] at hnew
        simp at hnew
    · rw [Option.or_none]
      exact h.first name

theorem Registered.addCatalog {history : List Source} {b : Bridge} (h : Registered history b) (catalog : Catalog)
    (now : UInt64) :
    Registered (history ++ catalog.devices.map fun c => .site c.device c.site) (b.addCatalog catalog now) := by
  unfold Bridge.addCatalog
  generalize catalog.devices = devices
  induction devices generalizing history b with
  | nil => simpa using h
  | cons c rest ih =>
    have hrest := ih (h.addNew c now)
    rw [List.append_assoc] at hrest
    exact hrest

theorem registered_start (settings : Settings) (now : UInt64) :
    Registered (settings.sources []) (start settings now) := by
  have hblank : Registered [] (blank settings) :=
    ⟨sorted_nil _, fun _ => rfl, by simp [blank, VendorApps.get?, find?]⟩
  rw [Settings.sources, List.filterMap_nil, List.append_nil]
  exact hblank.addCatalog settings.catalog now

/-- Over every run, the registry holds under each name the first source of that name. -/
theorem registered_run (settings : Settings) (now : UInt64) (steps : List Step) :
    Registered (settings.sources steps) ((start settings now).run steps).1 := by
  refine run_induction (P := fun past b _ => Registered (settings.sources past) b)
    (registered_start settings now) ?_ steps
  intro past before _ s h
  have hsources : settings.sources (past ++ [s]) = settings.sources past ++ s.announced?.toList := by
    unfold Settings.sources
    rw [List.filterMap_append, List.append_assoc]
    cases hs : s.announced? <;> simp [hs]
  rw [hsources]
  exact h.calls (before.step_calls s)

end Bridge

/-! ## Messages stay with their devices -/

/-- The device that an action is about; a birth of the edge node is about none in particular. -/
def Action.device? : Action → Option String
  | .nodeRebirth => none
  | .birth name | .data name _ | .death name => some name

/-- The device that a message for the SCADA broker is about. -/
def Outbound.device? : Outbound → Option String
  | .sparkplug topic _ => topic.device
  | .bus _ _ => none

/-- The sources that a message on a topic concerns: the one that it names, or all devices of the vendor
application that it names. -/
def BusTopic.Concerns (history : List Source) : BusTopic → Source → Prop
  | .birth app device, s | .data app device, s | .death app (some device), s => s = .vendor app device
  | .death app none, s => s ∈ history ∧ ∃ device, s = .vendor app device
  | .update device site _, s => s = .site device site
  | .definitions, _ => False

namespace Bridge

theorem deviceMessage_about {b : Bridge} {d d' : Device} {name : String}
    (hd : b.device? name = some d) (hname : d'.telemetryName = d.telemetryName) (kind : MessageKind)
    (payload : Wire.Payload) :
    (∀ other, other ≠ name → (b.deviceMessage kind d' payload).1.device? other = b.device? other) ∧
      (b.deviceMessage kind d' payload).2.device? = some name := by
  have hname' : d'.telemetryName = name := by rw [hname, telemetryName_of_device? hd]
  refine ⟨fun other hother => ?_, ?_⟩
  · rw [device?_deviceMessage, hname', if_neg (Ne.symm hother)]
  · show some d'.telemetryName = some name
    rw [hname']

/-- The messages of an action about a device are about that device, and no other changes. -/
theorem render_about (b : Bridge) (now : UInt64) {action : Action} {name : String}
    (h : action.device? = some name) :
    (∀ other, other ≠ name → (b.render now action).1.device? other = b.device? other) ∧
      ∀ m ∈ (b.render now action).2, m.device? = some name := by
  cases action with
  | nodeRebirth => simp [Action.device?] at h
  | birth listed =>
    cases h
    cases hd : b.device? name with
    | none => simp [render, hd]
    | some d =>
      rw [render_birth hd]
      have hname : (d.birth now).1.telemetryName = d.telemetryName := rfl
      have habout := deviceMessage_about hd hname .deviceBirth (d.birth now).2
      exact ⟨habout.1, fun m hm => List.mem_singleton.1 hm ▸ habout.2⟩
  | data listed changes =>
    cases h
    cases hd : b.device? name with
    | none => simp [render, hd]
    | some d =>
      rcases hdata : d.data changes now with ⟨d', payload⟩
      cases payload with
      | none => simp [render, hd, hdata]
      | some payload =>
        rw [render_data hd hdata]
        have habout := deviceMessage_about hd (Saying.data hdata).telemetryName .deviceData payload
        exact ⟨habout.1, fun m hm => List.mem_singleton.1 hm ▸ habout.2⟩
  | death listed =>
    cases h
    cases hd : b.device? name with
    | none => simp [render, hd]
    | some d =>
      rw [render_death hd]
      have hname : d.death.1.telemetryName = d.telemetryName := rfl
      have habout := deviceMessage_about hd hname .deviceDeath d.death.2
      exact ⟨habout.1, fun m hm => List.mem_singleton.1 hm ▸ habout.2⟩

theorem publish_about {S : String → Prop} {b : Bridge} (now : UInt64) {actions : List Action}
    (h : ∀ action ∈ actions, ∃ name, S name ∧ action.device? = some name) :
    (∀ other, ¬S other → (b.publish now actions).1.device? other = b.device? other) ∧
      ∀ m ∈ (b.publish now actions).2, ∃ name, S name ∧ m.device? = some name := by
  induction actions generalizing b with
  | nil => simp [publish]
  | cons action rest ih =>
    obtain ⟨name, hname, haction⟩ := h action List.mem_cons_self
    have hfirst := b.render_about now haction
    have hrest := ih (b := (b.render now action).1) fun a ha => h a (List.mem_cons_of_mem _ ha)
    refine ⟨fun other hother => ?_, fun m hm => ?_⟩
    · have hne : other ≠ name := fun heq => hother (heq ▸ hname)
      exact (hrest.1 other hother).trans (hfirst.1 other hne)
    · rcases List.mem_append.1 hm with hm | hm
      · exact ⟨name, hname, hfirst.2 m (List.mem_filter.1 hm).1⟩
      · exact hrest.2 m hm

theorem Hears.about {d d' : Device} {actions : List Action} (h : d.Hears d' actions)
    {action : Action} (ha : action ∈ actions) : action.device? = some d.telemetryName := by
  cases h with
  | birth => rw [List.mem_singleton.1 ha]; rfl
  | data => rw [List.mem_singleton.1 ha]; rfl
  | quiet => simp at ha

/-- A report of deaths concerns a source of each device that it mourns. -/
theorem Mourns.concerns {history : List Source} {b : Bridge} (hb : Registered history b) {topic : BusTopic}
    {names : List String} {apps : VendorApps} (h : b.Mourns topic names apps) {name : String}
    (hmem : name ∈ names) : ∃ s, topic.Concerns history s ∧ s.name = name := by
  cases h with
  | @reading device site point d found =>
    rw [List.mem_singleton] at hmem
    subst hmem
    have hname := telemetryName_of_device? (device?_of_catalogDevice? found)
    exact ⟨.site device site, rfl, hname.symm⟩
  | @device app device d found =>
    rw [List.mem_singleton] at hmem
    subst hmem
    have hname := telemetryName_of_device? (device?_of_vendorDevice? found)
    exact ⟨.vendor app device, rfl, hname.symm⟩
  | @app app known found =>
    obtain ⟨device, hdevice, hjoined⟩ := hb.apps app known found name hmem
    exact ⟨.vendor app device, ⟨hdevice, device, rfl⟩, hjoined⟩

/-- A message changes only devices under the joined names of the sources that it concerns, and calls for
nothing about others. -/
theorem Turn.about {history : List Source} {b b' : Bridge} (hb : Registered history b)
    {topic : BusTopic} {actions : List Action} (h : b.Turn topic b' actions)
    (htopic : topic ≠ .definitions) :
    (∀ other, (¬∃ s, topic.Concerns history s ∧ s.name = other) → b'.device? other = b.device? other) ∧
      ∀ action ∈ actions, ∃ name, (∃ s, topic.Concerns history s ∧ s.name = name) ∧
        action.device? = some name := by
  have hears : ∀ {s : Source} {b₀ : Bridge} {d d' : Device}, b₀.devices = b.devices →
      topic.Concerns history s → s.name = d.telemetryName → d.Hears d' actions →
      (∀ other, (¬∃ s, topic.Concerns history s ∧ s.name = other) →
          (b₀.putDevice d').device? other = b.device? other) ∧
        ∀ action ∈ actions, ∃ name, (∃ s, topic.Concerns history s ∧ s.name = name) ∧
          action.device? = some name := by
    intro s b₀ d d' hdevices hs hname hh
    refine ⟨fun other hother => ?_, fun action ha => ⟨_, ⟨s, hs, hname⟩, Hears.about hh ha⟩⟩
    have hne : d'.telemetryName ≠ other := by
      rw [hh.telemetryName_eq, ← hname]
      exact fun heq => hother ⟨s, hs, heq⟩
    rw [device?_putDevice, if_neg hne]
    unfold device?
    rw [hdevices]
  cases h with
  | idle => simp
  | @announced app device d d' actions claimed hh =>
    have hname := (claimed_cases claimed).1
    exact hears (s := .vendor app device) rfl rfl hname.symm hh
  | @data app device d d' actions found hh =>
    have hname := telemetryName_of_device? (device?_of_vendorDevice? found)
    exact hears (s := .vendor app device) rfl rfl hname.symm hh
  | @reading device site point d d' actions found hh =>
    have hname := telemetryName_of_device? (device?_of_catalogDevice? found)
    exact hears (s := .site device site) rfl rfl hname.symm hh
  | definitions _ => exact absurd rfl htopic
  | @deaths topic names apps timestamp mourns =>
    refine ⟨fun other hother => ?_, fun action ha => ?_⟩
    · have hother' : other ∉ names := fun hmem => hother (mourns.concerns hb hmem)
      rw [device?_declareAllDead]
      simp only [hother', false_and, if_false, Option.map_id']
      rfl
    · obtain ⟨name, hmem, rfl, -⟩ := mem_declareAllDead ha
      exact ⟨name, mourns.concerns hb hmem, rfl⟩

/-! ## Lookups and messages -/

/-- What the joined names allow. A lookup gives only devices of the asked source exactly if no other source
of its name came first; a message reaches only the joined names of the sources that it concerns. -/
structure Isolated (history : List Source) (b : Bridge) : Prop where
  /-- Claiming a vendor device gives the device of the asked source exactly if no other came first. -/
  claim : ∀ app device, (b.claimVendorDevice app device).2.IsOf (.vendor app device) ↔
    ∀ s, Source.first? history (Device.joinedName app device) = some s → s = .vendor app device
  /-- A vendor device that is found is that of the asked source exactly if no other vendor came first. -/
  vendor : ∀ app device,
    (∀ d, b.vendorDevice? app device = some d → d.IsOf (.vendor app device)) ↔
      ∀ s, Source.first? history (Device.joinedName app device) = some s → s.isVendor = true →
        s = .vendor app device
  /-- A catalog device that is found is that of the asked source exactly if no other of the catalog came
  first. -/
  catalog : ∀ device site,
    (∀ d, b.catalogDevice? device site = some d → d.IsOf (.site device site)) ↔
      ∀ s, Source.first? history (Device.joinedName device site) = some s → s.isVendor = false →
        s = .site device site
  /-- A message changes no device beyond the joined names that it concerns. -/
  change : ∀ now instant topic payload t, BusTopic.parse topic = .ok t → t ≠ .definitions →
    ∀ other, (∀ s, t.Concerns history s → s.name ≠ other) →
      (b.handle now instant (.bus topic payload)).1.device? other = b.device? other
  /-- A message makes the bridge publish nothing about devices beyond the joined names that it concerns. -/
  publish : ∀ now instant topic payload t, BusTopic.parse topic = .ok t → t ≠ .definitions →
    ∀ m ∈ (b.handle now instant (.bus topic payload)).2,
      ∃ s, t.Concerns history s ∧ m.device? = some s.name

namespace Registered

variable {history : List Source} {b : Bridge}

/-- A lookup that passes over the devices of one kind. -/
theorem filter_isOf (h : Registered history b) (name : String) (external : Bool) (asked : Source) :
    (∀ d, (b.device? name).filter (fun d => d.isExternal == external) = some d → d.IsOf asked) ↔
      ∀ s, Source.first? history name = some s → s.isVendor = external → s = asked := by
  constructor
  · intro hall s hs hkind
    obtain ⟨d, hd, hof⟩ := h.exists_device hs
    have hasked := hall d (by simp [hd, hof.isExternal_eq, hkind])
    exact hof.unique hasked
  · intro hall d hd
    obtain ⟨hd, hkind⟩ := Option.filter_eq_some_iff.1 hd
    obtain ⟨s, hs, hof⟩ := h.isOf hd
    have hasked := hall s hs (by rw [← hof.isExternal_eq]; simpa using hkind)
    rw [← hasked]
    exact hof

theorem claim (h : Registered history b) (app device : String) :
    (b.claimVendorDevice app device).2.IsOf (.vendor app device) ↔
      ∀ s, Source.first? history (Device.joinedName app device) = some s → s = .vendor app device := by
  show ((b.device? (Device.joinedName app device)).getD (.ofVendor app device)).IsOf _ ↔ _
  cases hfirst : Source.first? history (Device.joinedName app device) with
  | none =>
    rw [h.device?_eq_none hfirst]
    simp [Device.IsOf, Device.ofVendor, Device.fresh, Device.isExternal, Device.app?]
  | some s =>
    obtain ⟨d, hd, hof⟩ := h.exists_device hfirst
    rw [hd, Option.getD_some]
    constructor
    · intro hasked t ht
      cases ht
      exact hof.unique hasked
    · intro hall
      rw [← hall s rfl]
      exact hof

theorem about (h : Registered history b) {now : UInt64} {instant : Nat} {topic : String}
    {payload : List UInt8} {t : BusTopic} (ht : BusTopic.parse topic = .ok t)
    (hdef : t ≠ .definitions) :
    (∀ other, (¬∃ s, t.Concerns history s ∧ s.name = other) →
        (b.handle now instant (.bus topic payload)).1.device? other = b.device? other) ∧
      ∀ m ∈ (b.handle now instant (.bus topic payload)).2,
        ∃ name, (∃ s, t.Concerns history s ∧ s.name = name) ∧ m.device? = some name := by
  unfold handle
  dsimp only
  rcases b.process_turns now topic payload with ⟨fault, heq⟩ | ⟨t', b', actions, ht', heq, hturn⟩
  · rw [heq]
    simp
  · rw [heq]
    rw [ht] at ht'
    cases ht'
    obtain ⟨hchange, hactions⟩ := hturn.about h hdef
    obtain ⟨hrendered, hmessages⟩ := publish_about (b := b') now hactions
    exact ⟨fun other hother => (hrendered other hother).trans (hchange other hother), hmessages⟩

theorem isolated (h : Registered history b) : Isolated history b where
  claim := h.claim
  vendor app device := by
    have hfilter := h.filter_isOf (Device.joinedName app device) true (.vendor app device)
    simpa [vendorDevice?] using hfilter
  catalog device site := by
    have hfilter := h.filter_isOf (Device.joinedName device site) false (.site device site)
    simpa [catalogDevice?] using hfilter
  change now instant topic payload t ht hdef other hother :=
    (h.about ht hdef).1 other fun ⟨s, hs, hname⟩ => hother s hs hname
  publish now instant topic payload t ht hdef m hm := by
    obtain ⟨name, ⟨s, hs, rfl⟩, hm⟩ := (h.about ht hdef).2 m hm
    exact ⟨s, hs, hm⟩

end Registered

/-- Over every run, lookups give the devices of the asked sources exactly as far as no other source of the
same joined name was registered first, and a message on the plant bus changes and publishes nothing beyond
the joined names of the sources that it concerns. -/
theorem run_isolated (settings : Settings) (now : UInt64) (steps : List Step) :
    Isolated (settings.sources steps) ((start settings now).run steps).1 :=
  (registered_run settings now steps).isolated

/-- Joined names do clash: after an application `a` announced its device `b-c`, the device `c` of an
application `a-b` is found, and it is the other one. -/
theorem vendorDevice?_of_other : ∃ d,
    ((start {} 0).run [.take 0 0 (.bus "BIRTH/a/b-c" (Utf8.encode "\x7b\"metrics\":[]\x7d"))]).1.vendorDevice?
        "a-b" "c" = some d ∧
      ¬d.IsOf (.vendor "a-b" "c") ∧ d.IsOf (.vendor "a" "b-c") := by
  have h := registered_run {} 0
    [.take 0 0 (.bus "BIRTH/a/b-c" (Utf8.encode "\x7b\"metrics\":[]\x7d"))]
  have hfirst : Source.first? (Settings.sources {}
      [.take 0 0 (.bus "BIRTH/a/b-c" (Utf8.encode "\x7b\"metrics\":[]\x7d"))])
      (Device.joinedName "a-b" "c") = some (.vendor "a" "b-c") := by decide +kernel
  obtain ⟨d, hd, hof⟩ := h.exists_device hfirst
  refine ⟨d, ?_, fun hother => ?_, hof⟩
  · unfold vendorDevice?
    rw [hd]
    simp [hof.isExternal_eq, Source.isVendor]
  · exact absurd (hof.unique hother) (by decide)

end Bridge

end ScadaBridge
