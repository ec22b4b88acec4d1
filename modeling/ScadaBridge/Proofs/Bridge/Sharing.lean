import Mathlib.Data.List.Forall2
import ScadaBridge.Bridge.Shared
import ScadaBridge.Proofs.Bridge.Registry

/-!
# Names in the place of references

A bridge that refers to device objects does what the bridge does that names its devices, as long as every reference
leads to the object that is registered under the name for which it stands (`SharedBridge.Mirrors`). All functions of
the two bridges keep it so, answer alike, and leave every registered name at its object (`SharedBridge.Agree`). This
module shows it of single objects and applications and of the messages of the plant bus.
-/

namespace ScadaBridge

open Ordered

/-- The application with its devices by name. -/
def SharedApp.named (app : SharedApp) : VendorApp := ⟨app.name, app.isDead, app.devices.map Prod.fst⟩

namespace Bridge

/-- The bridge with other devices, and with others that name them. -/
def withDevices (b : Bridge) (devices : List Device) (apps : VendorApps) (timedOut : List String) : Bridge :=
  { b with devices := devices, apps := apps, timedOut := timedOut }

/-- What is done neither depends on the devices nor changes them. -/
def Apart {α : Type} (act : Bridge → Bridge × α) : Prop :=
  ∀ b devices apps timedOut,
    act (b.withDevices devices apps timedOut) = ((act b).1.withDevices devices apps timedOut, (act b).2)

end Bridge

namespace SharedBridge

/-- The application lists each name once, with the object that is registered under it. -/
structure Lists (s : SharedBridge) (app : SharedApp) : Prop where
  sorted : Ordered.Sorted Prod.fst app.devices
  registered : ∀ entry ∈ app.devices, s.lookup? entry.1 = some entry.2

/-- The references are those that are registered under the names. -/
abbrev Named (s : SharedBridge) : List Ref → List String → Prop :=
  List.Forall₂ fun r name => s.lookup? name = some r

/-- The bridge with names has the devices that stand behind the references. -/
structure Mirrors (s : SharedBridge) (b : Bridge) : Prop where
  core : b = s.core.withDevices b.devices b.apps b.timedOut
  sorted : b.Sorted
  registry : Ordered.Sorted Prod.fst s.registry
  devices : ∀ name, Option.Rel (fun r d => s.object? r = some d) (s.lookup? name) (b.device? name)
  apps : b.apps = s.apps.map SharedApp.named
  appsSorted : Ordered.Sorted SharedApp.name s.apps
  lists : ∀ app ∈ s.apps, s.Lists app
  timedOut : s.Named s.timedOut b.timedOut

/-- Under every name that is registered stands later the same object. -/
def Keeps (s s' : SharedBridge) : Prop := ∀ name r, s.lookup? name = some r → s'.lookup? name = some r

theorem Keeps.refl (s : SharedBridge) : s.Keeps s := fun _ _ h => h

theorem Keeps.trans {s s' s'' : SharedBridge} (h : s.Keeps s') (h' : s'.Keeps s'') : s.Keeps s'' :=
  fun name r hr => h' name r (h name r hr)

theorem Named.mono {s s' : SharedBridge} (h : s.Keeps s') {refs : List Ref} {names : List String}
    (hnamed : s.Named refs names) : s'.Named refs names := hnamed.imp fun r name => h name r

theorem Lists.mono {s s' : SharedBridge} (h : s.Keeps s') {app : SharedApp} (hlists : s.Lists app) : s'.Lists app :=
  ⟨hlists.sorted, fun entry hentry => h _ _ (hlists.registered entry hentry)⟩

/-- The reference is that of a registered device. -/
abbrev LeadsTo (s : SharedBridge) (r : Ref) (d : Device) : Prop :=
  s.lookup? d.telemetryName = some r ∧ s.object? r = some d

/-- An action refers to the object that is registered under the name that the other one gives. -/
inductive Means (s : SharedBridge) : SharedAction → Action → Prop where
  | nodeRebirth : Means s .nodeRebirth .nodeRebirth
  | birth {r : Ref} {name : String} (found : s.lookup? name = some r) : Means s (.birth r) (.birth name)
  | data {r : Ref} {name : String} (found : s.lookup? name = some r) (changes : ChangeSet) :
      Means s (.data r changes) (.data name changes)
  | death {r : Ref} {name : String} (found : s.lookup? name = some r) : Means s (.death r) (.death name)

theorem Means.mono {s s' : SharedBridge} (h : s.Keeps s') {action : SharedAction} {action' : Action}
    (hmeans : s.Means action action') : s'.Means action action' := by
  cases hmeans with
  | nodeRebirth => exact .nodeRebirth
  | birth found => exact .birth (h _ _ found)
  | data found changes => exact .data (h _ _ found) changes
  | death found => exact .death (h _ _ found)

abbrev SameActions (s : SharedBridge) : List SharedAction → List Action → Prop := List.Forall₂ s.Means

theorem SameActions.mono {s s' : SharedBridge} (h : s.Keeps s') {actions : List SharedAction}
    {actions' : List Action} (hsame : s.SameActions actions actions') : s'.SameActions actions actions' :=
  hsame.imp fun _ _ => Means.mono h

/-- The same fault, or the same actions. -/
inductive SameOutcome (s : SharedBridge) :
    Except Fault (List SharedAction) → Except Fault (List Action) → Prop where
  | error (fault : Fault) : SameOutcome s (.error fault) (.error fault)
  | ok {actions : List SharedAction} {actions' : List Action} (same : s.SameActions actions actions') :
      SameOutcome s (.ok actions) (.ok actions')

/-- After something was done to both bridges, the one mirrors the other, every registered name is at its object, and
the answers are the same. -/
structure Agree {α β : Type} (Same : SharedBridge → α → β → Prop) (s : SharedBridge) (x : SharedBridge × α)
    (y : Bridge × β) : Prop where
  mirrors : x.1.Mirrors y.1
  keeps : s.Keeps x.1
  same : Same x.1 x.2 y.2

/-- The answers, in which there are no references, are equal. -/
abbrev AgreeEq {α : Type} (s : SharedBridge) (x : SharedBridge × α) (y : Bridge × α) : Prop :=
  Agree (fun _ => Eq) s x y

theorem Agree.after {α β : Type} {Same : SharedBridge → α → β → Prop} {s s' : SharedBridge} {x : SharedBridge × α}
    {y : Bridge × β} (hkeeps : s.Keeps s') (h : Agree Same s' x y) : Agree Same s x y :=
  ⟨h.mirrors, hkeeps.trans h.keeps, h.same⟩

theorem Agree.ok {s : SharedBridge} {x : SharedBridge × List SharedAction} {y : Bridge × List Action}
    (h : Agree SameActions s x y) : Agree SameOutcome s (x.1, .ok x.2) (y.1, .ok y.2) :=
  ⟨h.mirrors, h.keeps, .ok h.same⟩

namespace Mirrors

variable {s : SharedBridge} {b : Bridge}

/-! ## Devices -/

/-- A reference that is registered leads to the device of that name. -/
theorem exists_device (h : s.Mirrors b) {name : String} {r : Ref} (found : s.lookup? name = some r) :
    ∃ d, s.object? r = some d ∧ b.device? name = some d ∧ d.telemetryName = name := by
  have hrel := h.devices name
  rw [found, rel_some_left_iff] at hrel
  obtain ⟨d, hd, hobject⟩ := hrel
  exact ⟨d, hobject, hd, Bridge.telemetryName_of_device? hd⟩

/-- What is registered under a name in both bridges. -/
theorem device?_cases (h : s.Mirrors b) (name : String) :
    (s.lookup? name = none ∧ s.device? name = none ∧ b.device? name = none) ∨
      ∃ r d, s.lookup? name = some r ∧ s.object? r = some d ∧ s.device? name = some (r, d) ∧
        b.device? name = some d ∧ d.telemetryName = name := by
  cases hr : s.lookup? name with
  | none =>
    have hrel := h.devices name
    rw [hr] at hrel
    cases hd : b.device? name with
    | none => exact .inl ⟨rfl, by rw [device?, hr]; rfl, rfl⟩
    | some d =>
      rw [hd] at hrel
      cases hrel
  | some r =>
    obtain ⟨d, hobject, hd, hname⟩ := h.exists_device hr
    exact .inr ⟨r, d, rfl, hobject, by rw [device?, hr, Option.bind_some, hobject]; rfl, hd, hname⟩

/-- What does not depend on the devices is seen alike. -/
theorem look_eq (h : s.Mirrors b) {α : Type} (look : Bridge → α)
    (hlook : ∀ b devices apps timedOut, look (b.withDevices devices apps timedOut) = look b) :
    look s.core = look b := by
  rw [h.core, hlook]

/-- What does not concern devices is done alike. -/
theorem apart (h : s.Mirrors b) {α : Type} {act : Bridge → Bridge × α} (hact : Bridge.Apart act) :
    AgreeEq s ({ s with core := (act s.core).1 }, (act s.core).2) (act b) := by
  have heq := hact s.core b.devices b.apps b.timedOut
  have hkeeps : s.Keeps { s with core := (act s.core).1 } := fun _ _ hr => hr
  rw [← h.core] at heq
  rw [heq]
  exact ⟨⟨rfl, h.sorted, h.registry, h.devices, h.apps, h.appsSorted, fun app happ => (h.lists app happ).mono hkeeps,
    h.timedOut⟩, hkeeps, rfl⟩

theorem object?_put_self {r : Ref} {d old : Device} (hold : s.object? r = some old) : (s.put r d).object? r = some d :=
  List.getElem?_set_self (List.getElem?_eq_some_iff.1 hold).1

theorem object?_put_of_ne {r r' : Ref} (hne : r ≠ r') (d : Device) : (s.put r d).object? r' = s.object? r' :=
  List.getElem?_set_ne hne

theorem keeps_put (r : Ref) (d : Device) : s.Keeps (s.put r d) := fun _ _ hr => hr

/-- The registered object of a device is changed. -/
theorem put (h : s.Mirrors b) {r : Ref} {d : Device} (found : s.lookup? d.telemetryName = some r) :
    (s.put r d).Mirrors (b.putDevice d) := by
  obtain ⟨old, hobject, -, hold⟩ := h.exists_device found
  refine ⟨?_, h.sorted.putDevice d, h.registry, fun name => ?_, h.apps, h.appsSorted,
    fun app happ => (h.lists app happ).mono (keeps_put r d), h.timedOut⟩
  · rw [h.core]
    rfl
  show Option.Rel _ (s.lookup? name) _
  rw [Bridge.device?_putDevice]
  by_cases hname : d.telemetryName = name
  · rw [if_pos hname, ← hname, found]
    exact .some (object?_put_self hobject)
  · rw [if_neg hname]
    rcases h.device?_cases name with ⟨hnone, -, hmissing⟩ | ⟨r', d', hr', hobject', -, hd', hname'⟩
    · rw [hnone, hmissing]
      exact .none
    · have hne : r ≠ r' := by
        rintro rfl
        rw [hobject] at hobject'
        cases hobject'
        exact hname (hold.symm.trans hname')
      rw [hr', hd']
      exact .some ((object?_put_of_ne hne d).trans hobject')

theorem agree_put (h : s.Mirrors b) {r : Ref} {d : Device} (found : s.lookup? d.telemetryName = some r)
    {actions : List SharedAction} {actions' : List Action} (same : s.SameActions actions actions') :
    Agree SameActions s (s.put r d, actions) (b.putDevice d, actions') :=
  ⟨h.put found, keeps_put r d, same.mono (keeps_put r d)⟩

theorem lookup?_add (d : Device) (name : String) :
    (s.add d).lookup? name = if d.telemetryName = name then some s.objects.length else s.lookup? name := by
  unfold lookup? add
  rw [find?_insert]
  split <;> rfl

theorem object?_add_self (d : Device) : (s.add d).object? s.objects.length = some d :=
  List.getElem?_concat_length

theorem object?_add {r : Ref} {old : Device} (hold : s.object? r = some old) (d : Device) :
    (s.add d).object? r = some old := by
  have hbound : r < s.objects.length := (List.getElem?_eq_some_iff.1 hold).1
  exact (List.getElem?_append_left hbound).trans hold

theorem keeps_add {d : Device} (new : s.lookup? d.telemetryName = none) : s.Keeps (s.add d) := by
  intro name r hr
  rw [lookup?_add, if_neg]
  · exact hr
  · rintro rfl
    rw [new] at hr
    cases hr

/-- A device of a new name is made. -/
theorem add (h : s.Mirrors b) {d : Device} (new : s.lookup? d.telemetryName = none) :
    (s.add d).Mirrors (b.putDevice d) := by
  have hkeeps := keeps_add new
  refine ⟨?_, h.sorted.putDevice d, h.registry.insert _, fun name => ?_, h.apps, h.appsSorted,
    fun app happ => (h.lists app happ).mono hkeeps, h.timedOut.mono hkeeps⟩
  · rw [h.core]
    rfl
  rw [Bridge.device?_putDevice, lookup?_add]
  split
  · exact .some (object?_add_self d)
  · rcases h.device?_cases name with ⟨hnone, -, hmissing⟩ | ⟨r, d', hr, hobject, -, hd', -⟩
    · rw [hnone, hmissing]
      exact .none
    · rw [hr, hd']
      exact .some (object?_add hobject d)

/-! ## Applications -/

theorem get?_apps (h : s.Mirrors b) (name : String) : b.apps.get? name = (s.app? name).map SharedApp.named := by
  rw [h.apps]
  exact find?_map (fun _ => rfl) name s.apps

theorem lists_of_app? (h : s.Mirrors b) {name : String} {app : SharedApp} (found : s.app? name = some app) :
    s.Lists app := h.lists app (mem_of_find?_eq_some found)

theorem name_named (app : SharedApp) : app.named.name = app.name := rfl

theorem keeps_putApp (app : SharedApp) : s.Keeps (s.putApp app) := fun _ _ hr => hr

theorem putApp (h : s.Mirrors b) {app : SharedApp} (hlists : s.Lists app) :
    (s.putApp app).Mirrors { b with apps := b.apps.put app.named } := by
  refine ⟨?_, h.sorted, h.registry, h.devices, ?_, h.appsSorted.insert app, fun other hother => ?_, h.timedOut⟩
  · rw [h.core]
    rfl
  · show b.apps.put app.named = (Ordered.insert SharedApp.name app s.apps).map SharedApp.named
    rw [h.apps, map_insert name_named]
    rfl
  · rcases mem_insert hother with rfl | hother
    · exact hlists.mono (keeps_putApp _)
    · exact (h.lists other hother).mono (keeps_putApp app)

theorem named_addDevice (app : SharedApp) (name : String) (r : Ref) :
    (app.addDevice name r).named = (app.named.addDevice name).1 := by
  have hname : ∀ entry : String × Ref, id entry.1 = entry.1 := fun _ => rfl
  have hlisted : contains id name (app.devices.map Prod.fst) = contains Prod.fst name app.devices := by
    unfold contains
    rw [find?_map hname, Option.isSome_map]
  unfold SharedApp.addDevice VendorApp.addDevice
  show _ = Prod.fst (if contains id name (app.devices.map Prod.fst) then _ else _)
  rw [hlisted]
  split
  · rfl
  · show VendorApp.mk _ _ ((Ordered.insert Prod.fst (name, r) app.devices).map Prod.fst) = _
    rw [map_insert hname]
    rfl

theorem lists_addDevice {app : SharedApp} (hlists : s.Lists app) {name : String} {r : Ref}
    (found : s.lookup? name = some r) : s.Lists (app.addDevice name r) := by
  unfold SharedApp.addDevice
  split
  · exact hlists
  · refine ⟨hlists.sorted.insert _, fun entry hentry => ?_⟩
    rcases mem_insert hentry with rfl | hentry
    · exact found
    · exact hlists.registered entry hentry

theorem enlist (h : s.Mirrors b) (app : String) {name : String} {r : Ref} (found : s.lookup? name = some r) :
    (s.enlist app r).Mirrors { b with apps := (b.apps.register app name).1 } := by
  obtain ⟨d, hobject, -, rfl⟩ := h.exists_device found
  have hold : ((b.apps.get? app).getD (.fresh app)) = ((s.app? app).getD (.fresh app)).named := by
    rw [h.get?_apps]
    cases s.app? app <;> rfl
  have hlists : s.Lists ((s.app? app).getD (.fresh app)) := by
    cases hknown : s.app? app with
    | none => exact ⟨sorted_nil _, fun entry hentry => by cases hentry⟩
    | some known => exact h.lists_of_app? hknown
  have hadded := h.putApp (lists_addDevice hlists found)
  rw [named_addDevice, ← hold] at hadded
  unfold SharedBridge.enlist
  rw [hobject]
  exact hadded

theorem markAlive (h : s.Mirrors b) (name : String) :
    (s.updateApp name SharedApp.markAlive).Mirrors { b with apps := b.apps.update name VendorApp.markAlive } := by
  unfold SharedBridge.updateApp VendorApps.update
  rw [h.get?_apps]
  cases hknown : s.app? name with
  | none => exact h
  | some known =>
    have hlists := h.lists_of_app? hknown
    have halive : s.Lists known.markAlive := ⟨hlists.sorted, hlists.registered⟩
    exact h.putApp halive

theorem keeps_updateApp (name : String) (change : SharedApp → SharedApp) : s.Keeps (s.updateApp name change) := by
  unfold SharedBridge.updateApp
  split
  · exact keeps_putApp _
  · exact .refl s

theorem object?_updateApp (name : String) (change : SharedApp → SharedApp) (r : Ref) :
    (s.updateApp name change).object? r = s.object? r := by
  unfold SharedBridge.updateApp
  split <;> rfl

/-! ## Devices that come -/

theorem put_self {r : Ref} {d : Device} (hd : s.object? r = some d) : s.put r d = s := by
  obtain ⟨hbound, rfl⟩ := List.getElem?_eq_some_iff.1 hd
  unfold SharedBridge.put
  rw [List.set_getElem_self]

theorem keeps_enlist (app : String) (r : Ref) : s.Keeps (s.enlist app r) := by
  unfold SharedBridge.enlist
  split
  · exact .refl s
  · exact keeps_putApp _

theorem object?_enlist (app : String) (r r' : Ref) : (s.enlist app r).object? r' = s.object? r' := by
  unfold SharedBridge.enlist
  split <;> rfl

theorem claimVendorDevice (h : s.Mirrors b) (app device : String) :
    Agree LeadsTo s (s.claimVendorDevice app device) (b.claimVendorDevice app device) := by
  unfold SharedBridge.claimVendorDevice Bridge.claimVendorDevice
  dsimp only
  rcases h.device?_cases (Device.ofVendor app device).telemetryName with
    ⟨hnone, -, hmissing⟩ | ⟨r, d, hr, hobject, -, hd, hname⟩
  · rw [hnone, hmissing, Option.getD_none]
    have hadded := h.add hnone
    have hlookup : (s.add (.ofVendor app device)).lookup? (Device.ofVendor app device).telemetryName =
        some s.objects.length := (lookup?_add _ _).trans (if_pos rfl)
    refine ⟨hadded.enlist app hlookup, (keeps_add hnone).trans (keeps_enlist app _), keeps_enlist app _ _ _ hlookup, ?_⟩
    exact (object?_enlist app _ _).trans (object?_add_self _)
  · rw [hr, hd, Option.getD_some]
    rw [← hname] at hr
    have hput := h.put hr
    rw [put_self hobject] at hput
    exact ⟨hput.enlist app hr, keeps_enlist app r, keeps_enlist app r _ _ hr, (object?_enlist app r r).trans hobject⟩

theorem addNew (h : s.Mirrors b) (d : Device) : (s.addNew d).Mirrors (b.addNew d) ∧ s.Keeps (s.addNew d) := by
  unfold SharedBridge.addNew Bridge.addNew
  rcases h.device?_cases d.telemetryName with ⟨hnone, -, hmissing⟩ | ⟨r, d', hr, -, -, hd', -⟩
  · rw [hnone, hmissing]
    exact ⟨h.add hnone, keeps_add hnone⟩
  · rw [hr, hd']
    exact ⟨h, .refl s⟩

theorem addCatalog (h : s.Mirrors b) (catalog : Catalog) (now : UInt64) :
    (s.addCatalog catalog now).Mirrors (b.addCatalog catalog now) ∧ s.Keeps (s.addCatalog catalog now) := by
  unfold SharedBridge.addCatalog Bridge.addCatalog
  induction catalog.devices generalizing s b with
  | nil => exact ⟨h, .refl s⟩
  | cons c rest ih =>
    obtain ⟨hfirst, hkeeps⟩ := h.addNew (c.toDevice now)
    obtain ⟨hall, hkept⟩ := ih hfirst
    exact ⟨hall, hkeeps.trans hkept⟩

/-! ## Messages of the plant bus -/

theorem metricsOf_eq (h : s.Mirrors b) (payload : List UInt8) (now : UInt64) :
    s.core.metricsOf payload now = b.metricsOf payload now :=
  h.look_eq (fun b => b.metricsOf payload now) fun _ _ _ _ => rfl

theorem definitions_eq (h : s.Mirrors b) : s.core.definitions = b.definitions :=
  h.look_eq Bridge.definitions fun _ _ _ _ => rfl

theorem birthOrData {r : Ref} {name : String} (found : s.lookup? name = some r) (owesBirth : Bool)
    (changes : ChangeSet) :
    s.SameActions (SharedBridge.birthOrData owesBirth r changes) (Bridge.birthOrData owesBirth name changes) := by
  unfold SharedBridge.birthOrData Bridge.birthOrData
  split
  · exact .cons (.birth found) .nil
  · split
    · exact .nil
    · exact .cons (.data found changes) .nil

theorem vendorBirth (h : s.Mirrors b) (app device : String) (payload : List UInt8) (now : UInt64) :
    Agree SameOutcome s (s.vendorBirth app device payload now) (b.vendorBirth app device payload now) := by
  unfold SharedBridge.vendorBirth Bridge.vendorBirth
  rw [h.metricsOf_eq]
  cases b.metricsOf payload now with
  | error fault => exact ⟨h, .refl s, .error fault⟩
  | ok metrics =>
    dsimp only
    obtain ⟨hclaimed, hkeeps, hlookup, hobject⟩ := h.claimVendorDevice app device
    generalize s.claimVendorDevice app device = claimed at hclaimed hkeeps hlookup hobject ⊢
    generalize b.claimVendorDevice app device = claimed' at hclaimed hlookup hobject ⊢
    obtain ⟨s₁, r⟩ := claimed
    obtain ⟨b₁, d⟩ := claimed'
    dsimp only at hclaimed hkeeps hlookup hobject ⊢
    have halive := hclaimed.markAlive app
    have hkept := hkeeps.trans (keeps_updateApp app SharedApp.markAlive)
    have hname := (Device.Acts.announced (d := d) metrics now).telemetryName
    rw [object?_updateApp, hobject]
    dsimp only
    generalize d.ingestBirth metrics now = born at hname ⊢
    obtain ⟨d', outcome⟩ := born
    have hfound : (s₁.updateApp app SharedApp.markAlive).lookup? d'.telemetryName = some r := by
      rw [hname]
      exact keeps_updateApp app SharedApp.markAlive _ _ hlookup
    cases outcome with
    | rebirth => exact (halive.agree_put hfound (.cons (.birth hfound) .nil)).ok.after hkept
    | dataOnly changes => exact (halive.agree_put hfound (birthOrData hfound false changes)).ok.after hkept

/-- A device of a kind is found under a name by both bridges, or by none. -/
theorem filter_device?_cases (h : s.Mirrors b) (kind : Device → Bool) (name : String) :
    ((s.device? name).filter (fun found => kind found.2) = none ∧ (b.device? name).filter kind = none) ∨
      ∃ r d, (s.device? name).filter (fun found => kind found.2) = some (r, d) ∧
        (b.device? name).filter kind = some d ∧ s.LeadsTo r d := by
  rcases h.device?_cases name with ⟨-, hnone, hmissing⟩ | ⟨r, d, hr, hobject, hfound, hd, hname⟩
  · rw [hnone, hmissing]
    exact .inl ⟨rfl, rfl⟩
  · rw [hfound, hd]
    rw [← hname] at hr
    cases hkind : kind d with
    | false => exact .inl ⟨by simp [hkind], by simp [hkind]⟩
    | true => exact .inr ⟨r, d, by simp [hkind], by simp [hkind], hr, hobject⟩

theorem vendorDevice?_cases (h : s.Mirrors b) (app device : String) :
    (s.vendorDevice? app device = none ∧ b.vendorDevice? app device = none) ∨
      ∃ r d, s.vendorDevice? app device = some (r, d) ∧ b.vendorDevice? app device = some d ∧
        s.LeadsTo r d :=
  h.filter_device?_cases Device.isExternal (Device.joinedName app device)

theorem catalogDevice?_cases (h : s.Mirrors b) (device site : String) :
    (s.catalogDevice? device site = none ∧ b.catalogDevice? device site = none) ∨
      ∃ r d, s.catalogDevice? device site = some (r, d) ∧ b.catalogDevice? device site = some d ∧
        s.LeadsTo r d :=
  h.filter_device?_cases (fun d => !d.isExternal) (Device.joinedName device site)

theorem vendorData (h : s.Mirrors b) (app device : String) (payload : List UInt8) (now : UInt64) :
    Agree SameOutcome s (s.vendorData app device payload now) (b.vendorData app device payload now) := by
  unfold SharedBridge.vendorData Bridge.vendorData
  rcases h.vendorDevice?_cases app device with ⟨hnone, hmissing⟩ | ⟨r, d, hfound, hd, hr, -⟩
  · rw [hnone, hmissing]
    exact ⟨h, .refl s, .error _⟩
  · rw [hfound, hd, h.metricsOf_eq, h.definitions_eq]
    dsimp only
    cases b.metricsOf payload now with
    | error fault => exact ⟨h, .refl s, .error fault⟩
    | ok metrics =>
      exact (h.agree_put (d := (d.applyData metrics b.definitions now).1.markAlive) hr (birthOrData hr _ _)).ok

theorem declareDead (h : s.Mirrors b) {name : String} {r : Ref} (found : s.lookup? name = some r)
    (timestamp : UInt64) :
    Agree SameActions s (s.declareDead r timestamp) (b.declareDead name timestamp) := by
  obtain ⟨d, hobject, hd, rfl⟩ := h.exists_device found
  unfold SharedBridge.declareDead Bridge.declareDead
  rw [hobject, hd]
  dsimp only
  split
  · exact ⟨h, .refl s, .nil⟩
  · refine h.agree_put (d := d.markDead timestamp) found ?_
    split
    · exact .cons (.death found) .nil
    · exact .nil

theorem declareAllDead (h : s.Mirrors b) (timestamp : UInt64) {refs : List Ref} {names : List String}
    (found : s.Named refs names) :
    Agree SameActions s (s.declareAllDead timestamp refs) (b.declareAllDead timestamp names) := by
  induction refs generalizing s b names with
  | nil =>
    cases found
    exact ⟨h, .refl s, .nil⟩
  | cons r rest ih =>
    obtain ⟨name, names, hfirst, hrest, rfl⟩ := List.forall₂_cons_left_iff.1 found
    obtain ⟨hdead, hkeeps, hactions⟩ := h.declareDead hfirst timestamp
    obtain ⟨hall, hkept, hmore⟩ := ih hdead (Named.mono hkeeps hrest)
    exact ⟨hall, hkeeps.trans hkept, List.rel_append (hactions.mono hkept) hmore⟩

theorem named_devices {app : SharedApp} (hlists : s.Lists app) :
    s.Named (app.devices.map Prod.snd) (app.devices.map Prod.fst) := by
  rw [Named, List.forall₂_map_left_iff, List.forall₂_map_right_iff]
  exact List.forall₂_same.2 hlists.registered

theorem vendorDeath (h : s.Mirrors b) (app : String) (device : Option String) (now : UInt64) :
    Agree SameOutcome s (s.vendorDeath app device now) (b.vendorDeath app device now) := by
  unfold SharedBridge.vendorDeath Bridge.vendorDeath
  rw [h.get?_apps]
  cases hknown : s.app? app with
  | none => exact ⟨h, .refl s, .error _⟩
  | some known =>
    cases device with
    | none =>
      have hlists := h.lists_of_app? hknown
      have hdead : s.Lists known.markDead := ⟨hlists.sorted, hlists.registered⟩
      have hnamed := (named_devices hlists).mono (keeps_putApp known.markDead)
      exact ((h.putApp hdead).declareAllDead now hnamed).ok.after (keeps_putApp known.markDead)
    | some device =>
      rw [Option.map_some]
      dsimp only
      rcases h.vendorDevice?_cases app device with ⟨hnone, hmissing⟩ | ⟨r, d, hfound, hd, hr, -⟩
      · rw [hnone, hmissing]
        exact ⟨h, .refl s, .error _⟩
      · rw [hfound, hd]
        exact (h.declareDead hr now).ok

theorem takeValue (h : s.Mirrors b) {r : Ref} {d : Device} (found : s.lookup? d.telemetryName = some r)
    (point : String) (v : Scalar) (timestamp : UInt64) :
    Agree SameActions s (s.takeValue r d point v timestamp) (b.takeValue d point v timestamp) :=
  h.agree_put (d := (d.ingest point (.leaf (.ofValue point v timestamp)) timestamp).1.markAlive) found
    (birthOrData found _ _)

theorem deviceUpdate (h : s.Mirrors b) (device site point : String) (payload : List UInt8) (now : UInt64) :
    Agree SameOutcome s (s.deviceUpdate device site point payload now)
      (b.deviceUpdate device site point payload now) := by
  have hsettings : s.core.settings = b.settings := h.look_eq Bridge.settings fun _ _ _ _ => rfl
  unfold SharedBridge.deviceUpdate Bridge.deviceUpdate
  rcases h.catalogDevice?_cases device site with ⟨hnone, hmissing⟩ | ⟨r, d, hfound, hd, hr, -⟩
  · rw [hnone, hmissing]
    exact ⟨h, .refl s, .error _⟩
  · rw [hfound, hd, hsettings]
    dsimp only
    cases d.metric? point with
    | none => exact ⟨h, .refl s, .error _⟩
    | some m =>
      dsimp only
      cases Reading.parse payload with
      | error fault => exact ⟨h, .refl s, .error fault⟩
      | ok reading =>
        dsimp only
        cases reading.evaluate m.declaredType b.settings.deathErrorCodes with
        | error fault => exact ⟨h, .refl s, .error fault⟩
        | ok meaning =>
          cases meaning with
          | deviceDead => exact (h.declareDead hr _).ok
          | badRead _ => exact ⟨h, .refl s, .ok .nil⟩
          | value v => exact (h.takeValue hr point v _).ok

theorem announceDefinitions (h : s.Mirrors b) (payload : List UInt8) (now : UInt64) :
    Agree SameOutcome s (s.announceDefinitions payload now) (b.announceDefinitions payload now) := by
  unfold SharedBridge.announceDefinitions Bridge.announceDefinitions
  cases Bridge.recordsOf payload .noDefinitions with
  | error fault => exact ⟨h, .refl s, .error fault⟩
  | ok records =>
    let announced := records.filterMap (Bridge.definitionOf? now)
    let learned (known : Definitions) := announced.foldl (fun known u => (known.register u).1) known
    have hact : Bridge.Apart fun b => ({ b with definitions := learned b.definitions }, ()) := fun _ _ _ _ => rfl
    obtain ⟨hafter, hkeeps, -⟩ := h.apart hact
    refine ⟨hafter, hkeeps, .ok ?_⟩
    cases announced.isEmpty with
    | true => exact .nil
    | false => exact .cons .nodeRebirth .nil

/-- A message of the plant bus does the same to both bridges. -/
theorem process (h : s.Mirrors b) (now : UInt64) (topic : String) (payload : List UInt8) :
    Agree SameOutcome s (s.process now topic payload) (b.process now topic payload) := by
  unfold SharedBridge.process Bridge.process
  cases BusTopic.parse topic with
  | error fault => exact ⟨h, .refl s, .error fault⟩
  | ok t =>
    cases t with
    | birth app device => exact h.vendorBirth app device payload now
    | data app device => exact h.vendorData app device payload now
    | death app device => exact h.vendorDeath app device now
    | update device site point => exact h.deviceUpdate device site point payload now
    | definitions => exact h.announceDefinitions payload now

end Mirrors

end SharedBridge

end ScadaBridge
