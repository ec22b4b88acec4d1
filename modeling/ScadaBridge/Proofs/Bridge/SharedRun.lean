import ScadaBridge.Proofs.Bridge.Sharing

/-!
# Runs over shared devices

Whatever is done to a bridge that refers to device objects, it mirrors the bridge that names its devices, and both
publish the same (`SharedBridge.Mirrors.step`, `SharedBridge.Mirrors.perform`). So what is said of references comes
down to what is said of names: registry, lists and objects agree (`SharedBridge.Coherent`), and a name never leaves its
object (`performAll_shared`).
-/

namespace ScadaBridge

open Ordered

namespace SharedBridge

namespace Mirrors

variable {s : SharedBridge} {b : Bridge}

/-! ## All devices at once -/

theorem lookup?_of_mem (h : s.Mirrors b) {entry : String × Ref} (hentry : entry ∈ s.registry) :
    s.lookup? entry.1 = some entry.2 := by
  rw [lookup?, h.registry.find?_of_mem hentry, Option.map_some]

/-- Both bridges go through their devices in the same order. -/
theorem forall₂_registry (h : s.Mirrors b) : List.Forall₂ s.LeadsTo (s.registry.map Prod.snd) b.devices := by
  have hregistry : Ordered.Sorted id (s.registry.map Prod.fst) := List.pairwise_map.2 h.registry
  have hdevices : Ordered.Sorted id (b.devices.map Device.telemetryName) := List.pairwise_map.2 h.sorted
  have hnames : s.registry.map Prod.fst = b.devices.map Device.telemetryName := by
    refine hregistry.ext hdevices fun name => ?_
    have hleft : find? id name (s.registry.map Prod.fst) = (find? Prod.fst name s.registry).map Prod.fst :=
      find?_map (fun _ => rfl) name s.registry
    have hright : find? id name (b.devices.map Device.telemetryName) = (b.device? name).map Device.telemetryName :=
      find?_map (fun _ => rfl) name b.devices
    rw [hleft, hright]
    rcases h.device?_cases name with ⟨hnone, -, hmissing⟩ | ⟨r, d, hr, -, -, hd, hname⟩
    · rw [hmissing, Option.map_eq_none_iff.1 hnone]
      rfl
    · obtain ⟨entry, hentry, -⟩ := Option.map_eq_some_iff.1 hr
      rw [hentry, hd, Option.map_some, Option.map_some, hname, key_of_find?_eq_some hentry]
  have hsame : List.Forall₂ Eq (s.registry.map Prod.fst) (b.devices.map Device.telemetryName) := by
    rw [hnames]
    exact List.forall₂_refl _
  have hpairs : List.Forall₂ (fun entry d => entry.1 = d.telemetryName) s.registry b.devices :=
    List.forall₂_map_right_iff.1 (List.forall₂_map_left_iff.1 hsame)
  rw [List.forall₂_map_left_iff, List.forall₂_iff_get]
  refine ⟨hpairs.length_eq, fun i hi hj => ?_⟩
  have hname := hpairs.get hi hj
  have hr : s.lookup? (b.devices.get ⟨i, hj⟩).telemetryName = some (s.registry.get ⟨i, hi⟩).2 :=
    hname ▸ h.lookup?_of_mem (List.get_mem _ _)
  obtain ⟨d, hobject, hd, -⟩ := h.exists_device hr
  rw [h.sorted.device?_of_mem (List.get_mem _ _)] at hd
  cases hd
  exact ⟨hr, hobject⟩

theorem named_registry (h : s.Mirrors b) :
    s.Named (s.registry.map Prod.snd) (b.devices.map Device.telemetryName) := by
  rw [Named, List.forall₂_map_right_iff]
  exact h.forall₂_registry.imp fun _ _ => And.left

theorem withTimedOut (h : s.Mirrors b) {refs : List Ref} {names : List String} (hnamed : s.Named refs names) :
    ({ s with timedOut := refs } : SharedBridge).Mirrors { b with timedOut := names } := by
  have hkeeps : s.Keeps { s with timedOut := refs } := fun _ _ hr => hr
  refine ⟨?_, h.sorted, h.registry, h.devices, h.apps, h.appsSorted, fun app happ => (h.lists app happ).mono hkeeps,
    hnamed.mono hkeeps⟩
  rw [h.core]
  rfl

/-! ## Publishing -/

theorem send_eq (h : s.Mirrors b) (messages : List Outbound) : s.core.send messages = b.send messages :=
  h.look_eq (fun b => b.send messages) fun _ _ _ _ => rfl

theorem deviceMessage (h : s.Mirrors b) {r : Ref} {d : Device} (found : s.lookup? d.telemetryName = some r)
    (kind : MessageKind) (payload : Wire.Payload) :
    AgreeEq s (s.deviceMessage kind r d payload) (b.deviceMessage kind d payload) := by
  have hact : Bridge.Apart fun b => ((b.stamp payload).1,
      Outbound.sparkplug ((b.stamp payload).1.deviceTopic kind d.telemetryName) (b.stamp payload).2) :=
    fun _ _ _ _ => rfl
  exact ((h.put found).apart hact).after (keeps_put r d)

theorem liveBirths (h : s.Mirrors b) (now : UInt64) {refs : List Ref} {devices : List Device}
    (found : List.Forall₂ s.LeadsTo refs devices) (sorted : Ordered.Sorted Device.telemetryName devices) :
    AgreeEq s (s.liveBirths now refs) (b.liveBirths now devices) := by
  induction refs generalizing s b devices with
  | nil =>
    cases found
    exact ⟨h, .refl s, rfl⟩
  | cons r rest ih =>
    obtain ⟨d, devices, ⟨hr, hobject⟩, hrest, rfl⟩ := List.forall₂_cons_left_iff.1 found
    unfold SharedBridge.liveBirths Bridge.liveBirths
    rw [hobject]
    dsimp only
    split
    · obtain ⟨hafter, hkeeps, hmessage⟩ := h.deviceMessage (d := (d.birth now).1) hr .deviceBirth (d.birth now).2
      have hothers : List.Forall₂ (s.deviceBirth now r d).1.LeadsTo rest devices := by
        refine List.forall₂_iff_get.2 ⟨hrest.length_eq, fun i hi hj => ?_⟩
        obtain ⟨hr', hobject'⟩ := hrest.get hi hj
        have hne : r ≠ rest.get ⟨i, hi⟩ := by
          intro heq
          rw [← heq, hobject] at hobject'
          exact sorted.head_ne (List.get_mem devices ⟨i, hj⟩) (congrArg Device.telemetryName (Option.some.inj hobject'))
        exact ⟨hr', (object?_put_of_ne hne _).trans hobject'⟩
      obtain ⟨hall, hkept, hmore⟩ := ih hafter hothers sorted.tail
      refine ⟨hall, hkeeps.trans hkept, ?_⟩
      exact congrArg₂ List.cons hmessage hmore
    · exact ih h hrest sorted.tail

theorem render (h : s.Mirrors b) (now : UInt64) {action : SharedAction} {action' : Action}
    (hmeans : s.Means action action') : AgreeEq s (s.render now action) (b.render now action') := by
  unfold SharedBridge.render Bridge.render
  cases hmeans with
  | nodeRebirth =>
    have hact : Bridge.Apart fun b => ((b.nodeBirth now b.session).1,
        Outbound.sparkplug (b.nodeTopic .nodeBirth) (b.nodeBirth now b.session).2) := fun _ _ _ _ => rfl
    obtain ⟨hnode, hkeeps, hmessage⟩ := h.apart hact
    obtain ⟨hafter, hkept, hbirths⟩ := hnode.liveBirths now h.forall₂_registry h.sorted
    exact ⟨hafter, hkeeps.trans hkept, congrArg₂ List.cons hmessage hbirths⟩
  | birth found =>
    obtain ⟨d, hobject, hd, rfl⟩ := h.exists_device found
    dsimp only
    rw [hobject, hd]
    obtain ⟨hafter, hkeeps, hmessage⟩ := h.deviceMessage (d := (d.birth now).1) found .deviceBirth (d.birth now).2
    exact ⟨hafter, hkeeps, congrArg ([·]) hmessage⟩
  | data found changes =>
    obtain ⟨d, hobject, hd, rfl⟩ := h.exists_device found
    dsimp only
    rw [hobject, hd]
    have hname := (Device.Acts.dataMessage (d := d) changes now).telemetryName
    dsimp only
    generalize d.data changes now = said at hname ⊢
    obtain ⟨d', payload⟩ := said
    cases payload with
    | none => exact ⟨h, .refl s, rfl⟩
    | some payload =>
      rw [← hname] at found
      obtain ⟨hafter, hkeeps, hmessage⟩ := h.deviceMessage found .deviceData payload
      exact ⟨hafter, hkeeps, congrArg ([·]) hmessage⟩
  | death found =>
    obtain ⟨d, hobject, hd, rfl⟩ := h.exists_device found
    dsimp only
    rw [hobject, hd]
    obtain ⟨hafter, hkeeps, hmessage⟩ := h.deviceMessage (d := d.death.1) found .deviceDeath d.death.2
    exact ⟨hafter, hkeeps, congrArg ([·]) hmessage⟩

theorem publish (h : s.Mirrors b) (now : UInt64) {actions : List SharedAction} {actions' : List Action}
    (same : s.SameActions actions actions') : AgreeEq s (s.publish now actions) (b.publish now actions') := by
  induction actions generalizing s b actions' with
  | nil =>
    cases same
    exact ⟨h, .refl s, rfl⟩
  | cons action rest ih =>
    obtain ⟨action', rest', hfirst, hrest, rfl⟩ := List.forall₂_cons_left_iff.1 same
    obtain ⟨hafter, hkeeps, hmessages⟩ := h.render now hfirst
    obtain ⟨hall, hkept, hmore⟩ := ih hafter (SameActions.mono hkeeps hrest)
    refine ⟨hall, hkeeps.trans hkept, ?_⟩
    unfold SharedBridge.publish Bridge.publish
    dsimp only
    rw [hafter.send_eq, hmessages, hmore]

/-! ## Outages and commands -/

theorem named_deaths {actions : List SharedAction} {actions' : List Action} (same : s.SameActions actions actions') :
    s.Named
      (actions.filterMap fun
        | .death r => some r
        | _ => none)
      (actions'.filterMap fun
        | .death name => some name
        | _ => none) := by
  induction same with
  | nil => exact .nil
  | cons hfirst _ ih =>
    cases hfirst with
    | death found => exact .cons found ih
    | nodeRebirth | birth | data => exact ih

theorem expireOutage (h : s.Mirrors b) (now : UInt64) :
    Agree SameActions s (s.expireOutage now) (b.expireOutage now) := by
  obtain ⟨hafter, hkeeps, hactions⟩ := h.declareAllDead now h.named_registry
  have hdied := List.rel_append hafter.timedOut (named_deaths hactions)
  have hkept : (s.declareAllDead now (s.registry.map Prod.snd)).1.Keeps (s.expireOutage now).1 := fun _ _ hr => hr
  exact ⟨hafter.withTimedOut hdied, hkeeps, hactions.mono hkept⟩

theorem reviveAll (h : s.Mirrors b) {refs : List Ref} {names : List String} (found : s.Named refs names) :
    Agree SameActions s (s.reviveAll refs) (b.reviveAll names) := by
  induction refs generalizing s b names with
  | nil =>
    cases found
    exact ⟨h, .refl s, .nil⟩
  | cons r rest ih =>
    obtain ⟨name, names, hfirst, hrest, rfl⟩ := List.forall₂_cons_left_iff.1 found
    obtain ⟨d, hobject, hd, rfl⟩ := h.exists_device hfirst
    unfold SharedBridge.reviveAll Bridge.reviveAll
    rw [hobject, hd]
    dsimp only
    split
    · have hput := h.put (d := d.markAlive) hfirst
      obtain ⟨hafter, hkeeps, hactions⟩ := ih hput (Named.mono (keeps_put r d.markAlive) hrest)
      exact ⟨hafter, hkeeps, .cons (.birth (hkeeps _ _ hfirst)) hactions⟩
    · exact ih h hrest

theorem restore (h : s.Mirrors b) : Agree SameActions s s.restore b.restore := by
  have hkeeps : s.Keeps { s with timedOut := [] } := fun _ _ hr => hr
  exact ((h.withTimedOut .nil).reviveAll (h.timedOut.mono hkeeps)).after hkeeps

theorem writeRequests_apart (d : Device) (now : UInt64) (metrics : List Metric) :
    Bridge.Apart fun b => b.writeRequests d now metrics := by
  induction metrics with
  | nil => exact fun _ _ _ _ => rfl
  | cons m rest ih =>
    intro b devices apps timedOut
    have hfirst : (b.withDevices devices apps timedOut).writeRequest d now m =
        ((b.writeRequest d now m).1.withDevices devices apps timedOut, (b.writeRequest d now m).2) := by
      unfold Bridge.writeRequest
      dsimp only
      split <;> rfl
    have hrest := ih (b.writeRequest d now m).1 devices apps timedOut
    simp only [Bridge.writeRequests] at hrest ⊢
    rw [hfirst, hrest]

theorem command (h : s.Mirrors b) (now : UInt64) (topic : SparkplugTopic) (payload : Wire.Payload) :
    AgreeEq s (s.command now topic payload) (b.command now topic payload) := by
  unfold SharedBridge.command Bridge.command
  cases hkind : topic.kind with
  | deviceCommand =>
    cases hdevice : topic.device with
    | none => exact ⟨h, .refl s, rfl⟩
    | some name =>
      dsimp only
      rcases h.device?_cases name with ⟨-, hnone, hmissing⟩ | ⟨r, d, -, -, hfound, hd, -⟩
      · rw [hnone, hmissing]
        exact ⟨h, .refl s, rfl⟩
      · rw [hfound, hd]
        dsimp only
        split
        · exact ⟨h, .refl s, rfl⟩
        · split
          · exact ⟨h, .refl s, rfl⟩
          · obtain ⟨hafter, hkeeps, hrequests⟩ :=
              h.apart (writeRequests_apart d now (payload.metrics.filterMap (Bridge.accept? d now)))
            exact ⟨hafter, hkeeps, congrArg Except.ok hrequests⟩
  | _ => exact ⟨h, .refl s, rfl⟩

/-! ## Calls -/

theorem outage_eq (h : s.Mirrors b) : s.core.outage = b.outage :=
  h.look_eq Bridge.outage fun _ _ _ _ => rfl

theorem withOutage (h : s.Mirrors b) (outage : Outage) :
    (s.withOutage outage).Mirrors { b with outage := outage } := by
  have hact : Bridge.Apart fun b => ({ b with outage := outage }, ()) := fun _ _ _ _ => rfl
  exact (h.apart hact).mirrors

theorem withOnline (h : s.Mirrors b) (online : Bool) :
    (s.withOnline online).Mirrors { b with online := online } := by
  have hact : Bridge.Apart fun b => ({ b with online := online }, ()) := fun _ _ _ _ => rfl
  exact (h.apart hact).mirrors

theorem keeps_withOutage (outage : Outage) : s.Keeps (s.withOutage outage) := fun _ _ hr => hr

theorem checkTimeout (h : s.Mirrors b) (now : UInt64) (instant : Nat) :
    AgreeEq s (s.checkTimeout now instant) (b.checkTimeout now instant) := by
  unfold SharedBridge.checkTimeout Bridge.checkTimeout
  rw [h.outage_eq]
  rcases b.outage.check instant with ⟨outage, expired⟩
  have hchecked := h.withOutage outage
  cases expired with
  | false => exact ⟨hchecked, keeps_withOutage outage, rfl⟩
  | true =>
    obtain ⟨hexpired, hkeeps, hactions⟩ := hchecked.expireOutage now
    exact ((hexpired.publish now hactions).after hkeeps).after (keeps_withOutage outage)

theorem handleConnection (h : s.Mirrors b) (now : UInt64) (instant : Nat) (event : ConnectionEvent) :
    AgreeEq s (s.handleConnection now instant event) (b.handleConnection now instant event) := by
  unfold SharedBridge.handleConnection Bridge.handleConnection
  cases event with
  | scadaConnected =>
    obtain ⟨hafter, hkeeps, hbirths⟩ := (h.withOnline true).publish now (.cons .nodeRebirth .nil)
    refine ⟨hafter, hkeeps, ?_⟩
    dsimp only
    rw [hafter.send_eq, hbirths]
  | scadaLost => exact ⟨h.withOnline false, fun _ _ hr => hr, rfl⟩
  | busLost =>
    dsimp only
    rw [h.outage_eq]
    exact ⟨h.withOutage _, keeps_withOutage _, rfl⟩
  | busConnected =>
    dsimp only
    rw [h.outage_eq]
    rcases b.outage.connected with ⟨outage, expired⟩
    have hback := h.withOutage outage
    cases expired with
    | false => exact ⟨hback, keeps_withOutage outage, hback.send_eq _⟩
    | true =>
      obtain ⟨hrestored, hkeeps, hactions⟩ := hback.restore
      obtain ⟨hafter, hkept, hbirths⟩ := hrestored.publish now hactions
      exact ⟨hafter, (hkeeps.trans hkept), congrArg₂ (· ++ ·) (hback.send_eq _) hbirths⟩

theorem handle (h : s.Mirrors b) (now : UInt64) (instant : Nat) (message : Inbound) :
    AgreeEq s (s.handle now instant message) (b.handle now instant message) := by
  unfold SharedBridge.handle Bridge.handle
  cases message with
  | bus topic payload =>
    have hprocessed := h.process now topic payload
    dsimp only
    generalize s.process now topic payload = result at hprocessed ⊢
    generalize b.process now topic payload = result' at hprocessed ⊢
    obtain ⟨s', outcome⟩ := result
    obtain ⟨b', outcome'⟩ := result'
    obtain ⟨hafter, hkeeps, hsame⟩ := hprocessed
    cases hsame with
    | error fault => exact ⟨hafter, hkeeps, rfl⟩
    | ok same => exact (hafter.publish now same).after hkeeps
  | command topic payload =>
    dsimp only
    cases SparkplugTopic.parse topic with
    | error _ => exact ⟨h, .refl s, rfl⟩
    | ok topic' =>
      have hcommanded := h.command now topic' payload
      dsimp only
      generalize s.command now topic' payload = result at hcommanded ⊢
      generalize b.command now topic' payload = result' at hcommanded ⊢
      obtain ⟨s', outcome⟩ := result
      obtain ⟨b', outcome'⟩ := result'
      obtain ⟨hafter, hkeeps, rfl⟩ := hcommanded
      cases outcome with
      | error _ => exact ⟨hafter, hkeeps, rfl⟩
      | ok messages => exact ⟨hafter, hkeeps, hafter.send_eq messages⟩
  | connection event => exact h.handleConnection now instant event

end Mirrors

/-! ## Everything that is done to a bridge -/

/-- The bridge after one call, and what is seen of it. -/
def step (s : SharedBridge) : Step → SharedBridge × List Event
  | .prepare now =>
    let (s, message) := s.prepareSession now
    (s, [.will message])
  | .take now instant message =>
    let (s, messages) := s.handle now instant message
    (s, messages.map .published)
  | .check now instant =>
    let (s, messages) := s.checkTimeout now instant
    (s, messages.map .published)

def perform (s : SharedBridge) : Bridge.Operation → SharedBridge
  | .call call => (s.step call).1
  | .addCatalog catalog now => s.addCatalog catalog now
  | .claim app device => (s.claimVendorDevice app device).1

def performAll (s : SharedBridge) (operations : List Bridge.Operation) : SharedBridge := operations.foldl perform s

namespace Mirrors

variable {s : SharedBridge} {b : Bridge}

/-- A call does the same to both bridges, and the same is seen of it. -/
theorem step (h : s.Mirrors b) (call : Step) : AgreeEq s (s.step call) (b.step call) := by
  cases call with
  | prepare now =>
    have hact : Bridge.Apart fun b => b.prepareSession now := fun _ _ _ _ => rfl
    obtain ⟨hafter, hkeeps, hwill⟩ := h.apart hact
    exact ⟨hafter, hkeeps, congrArg (fun message => [Event.will message]) hwill⟩
  | take now instant message =>
    obtain ⟨hafter, hkeeps, hmessages⟩ := h.handle now instant message
    exact ⟨hafter, hkeeps, congrArg (List.map Event.published) hmessages⟩
  | check now instant =>
    obtain ⟨hafter, hkeeps, hmessages⟩ := h.checkTimeout now instant
    exact ⟨hafter, hkeeps, congrArg (List.map Event.published) hmessages⟩

theorem perform (h : s.Mirrors b) (operation : Bridge.Operation) :
    (s.perform operation).Mirrors (b.perform operation) ∧ s.Keeps (s.perform operation) := by
  cases operation with
  | call call => exact ⟨(h.step call).mirrors, (h.step call).keeps⟩
  | addCatalog catalog now => exact h.addCatalog catalog now
  | claim app device => exact ⟨(h.claimVendorDevice app device).mirrors, (h.claimVendorDevice app device).keeps⟩

theorem performAll (h : s.Mirrors b) (operations : List Bridge.Operation) :
    (s.performAll operations).Mirrors (b.performAll operations) ∧ s.Keeps (s.performAll operations) := by
  induction operations generalizing s b with
  | nil => exact ⟨h, .refl s⟩
  | cons operation rest ih =>
    obtain ⟨hfirst, hkeeps⟩ := h.perform operation
    obtain ⟨hall, hkept⟩ := ih hfirst
    exact ⟨hall, hkeeps.trans hkept⟩

end Mirrors

theorem start_mirrors (settings : Settings) (now : UInt64) :
    (start settings now).Mirrors (Bridge.start settings now) := by
  have hcore : Bridge.blank settings = ({ Bridge.start settings now with devices := [] } : Bridge).withDevices [] [] [] := by
    rw [Bridge.start_frame]
    rfl
  have hempty : (SharedBridge.mk { Bridge.start settings now with devices := [] } [] [] [] []).Mirrors
      (Bridge.blank settings) :=
    ⟨hcore, sorted_nil _, sorted_nil _, fun _ => .none, rfl, sorted_nil _, by simp, .nil⟩
  exact (hempty.addCatalog settings.catalog now).1

/-- Registry, lists and objects agree. -/
structure Coherent (s : SharedBridge) : Prop where
  /-- No key is registered twice. -/
  nodup : (s.registry.map Prod.fst).Nodup
  /-- Every key of the registry is the telemetry name of the object to which it leads. -/
  keyed : ∀ entry ∈ s.registry, ∃ d, s.object? entry.2 = some d ∧ d.telemetryName = entry.1
  /-- Every device in the list of an application is the one object that is registered under its telemetry name. -/
  listed : ∀ app ∈ s.apps, ∀ entry ∈ app.devices,
    ∃ d, s.object? entry.2 = some d ∧ d.telemetryName = entry.1 ∧ s.lookup? d.telemetryName = some entry.2
  /-- Every registered device of an application is in the list of that application. -/
  external : ∀ entry ∈ s.registry, ∀ d, s.object? entry.2 = some d → d.isExternal = true →
    ∃ name app, d.app? = some name ∧ s.app? name = some app ∧ (d.telemetryName, entry.2) ∈ app.devices
  /-- No application lists two devices of one telemetry name. -/
  distinct : ∀ app ∈ s.apps,
    (app.devices.map fun entry => (s.object? entry.2).map Device.telemetryName).Nodup

/-- If the names agree, so do the references for which they stand. -/
theorem Mirrors.coherent {s : SharedBridge} {b : Bridge} (h : s.Mirrors b) (hb : b.Coherent) : s.Coherent := by
  refine ⟨h.registry.nodup, ?_, ?_, ?_, ?_⟩
  · intro entry hentry
    obtain ⟨d, hobject, -, hname⟩ := h.exists_device (h.lookup?_of_mem hentry)
    exact ⟨d, hobject, hname⟩
  · intro app happ entry hentry
    have hr := (h.lists app happ).registered entry hentry
    obtain ⟨d, hobject, -, hname⟩ := h.exists_device hr
    exact ⟨d, hobject, hname, hname ▸ hr⟩
  · intro entry hentry d hobject hexternal
    have hr := h.lookup?_of_mem hentry
    obtain ⟨d', hobject', hd, hname⟩ := h.exists_device hr
    obtain rfl : d = d' := Option.some.inj (hobject.symm.trans hobject')
    obtain ⟨name, known, howner, hknown, hlisted⟩ := hb.external d (Bridge.mem_of_device? hd) hexternal
    rw [h.get?_apps] at hknown
    obtain ⟨app, happ, rfl⟩ := Option.map_eq_some_iff.1 hknown
    obtain ⟨other, hother, hsame⟩ := List.mem_map.1 hlisted
    -- both entries are registered under one name, so they refer to one object
    have hfound := (h.lists_of_app? happ).registered other hother
    rw [hsame, hname, hr] at hfound
    have heq : other = (d.telemetryName, entry.2) := Prod.ext hsame (Option.some.inj hfound).symm
    exact ⟨name, app, howner, happ, heq ▸ hother⟩
  · intro app happ
    have hlists := h.lists app happ
    have hnames : app.devices.map (fun entry => (s.object? entry.2).map Device.telemetryName) =
        (app.devices.map Prod.fst).map some := by
      rw [List.map_map]
      refine List.map_congr_left fun entry hentry => ?_
      obtain ⟨d, hobject, -, hname⟩ := h.exists_device (hlists.registered entry hentry)
      rw [hobject, Option.map_some, hname]
      rfl
    rw [hnames]
    exact List.pairwise_map.2 (hlists.sorted.nodup.imp fun hne heq => hne (Option.some.inj heq))

/-- Whatever is done to a bridge from its start, registry, lists and objects agree. Whatever else is done, a name that is
registered leads to the same object, as its own methods have left it. The bridge that names its devices is in the
same state, and the same is seen of both. -/
theorem performAll_shared (settings : Settings) (now : UInt64) (operations : List Bridge.Operation) :
    let s := (start settings now).performAll operations
    let b := (Bridge.start settings now).performAll operations
    s.Coherent ∧
      (∀ more name r d, s.lookup? name = some r → s.object? r = some d →
        let later := (start settings now).performAll (operations ++ more)
        later.lookup? name = some r ∧ ∃ d', later.object? r = some d' ∧ d.Becomes d') ∧
      s.Mirrors b ∧ ∀ call, (s.step call).2 = (b.step call).2 := by
  intro s b
  have hmirrors : s.Mirrors b := ((start_mirrors settings now).performAll operations).1
  obtain ⟨hcoherent, hevolves⟩ := Bridge.performAll_coherent settings now operations
  refine ⟨hmirrors.coherent hcoherent, fun more name r d hr hobject => ?_, hmirrors, fun call => (hmirrors.step call).same⟩
  intro later
  have hlater : later.Mirrors ((Bridge.start settings now).performAll (operations ++ more)) :=
    ((start_mirrors settings now).performAll (operations ++ more)).1
  have hsplit : later = s.performAll more := List.foldl_append
  have hkept : later.lookup? name = some r := by
    rw [hsplit]
    exact (hmirrors.performAll more).2 name r hr
  obtain ⟨before, hbefore, hd, -⟩ := hmirrors.exists_device hr
  obtain rfl : d = before := Option.some.inj (hobject.symm.trans hbefore)
  obtain ⟨d', hd', hbecomes⟩ := hevolves more name d hd
  obtain ⟨after, hafter, hfound, -⟩ := hlater.exists_device hkept
  obtain rfl : d' = after := Option.some.inj (hd'.symm.trans hfound)
  exact ⟨hkept, d', hafter, hbecomes⟩

/-- A pump is announced. It dies, is announced once more, is asked for, and a catalog that has a device of its telemetry
name, and another one, is added: the pump stays the object that it was, and only the other device is made. -/
theorem performAll_shared_pump :
    let announced : Bridge.Operation := .call (.take 0 0 (.bus "BIRTH/APP1/pump"
      (Utf8.encode "\x7b\"metrics\":[\x7b\"name\":\"speed\",\"dataType\":\"Int32\",\"value\":5\x7d]\x7d")))
    let more : List Bridge.Operation := [.call (.take 5 0 (.bus "DEATH/APP1/pump" [])), announced, .claim "APP1" "pump",
      .addCatalog ⟨[⟨"pump", "APP1", []⟩, ⟨"PL0", "flowmeter", []⟩]⟩ 7]
    let s := (start {} 0).performAll [announced]
    let later := (start {} 0).performAll ([announced] ++ more)
    s.lookup? "APP1-pump" = some 0 ∧ later.lookup? "APP1-pump" = some 0 ∧ later.objects.length = 2 ∧
      (∃ d d', s.object? 0 = some d ∧ later.object? 0 = some d' ∧ d.Becomes d' ∧ d.deathTime = 0 ∧ d'.deathTime = 5) ∧
      s.Coherent ∧ s.apps.map SharedApp.devices = [[("APP1-pump", 0)]] := by
  intro announced more s later
  obtain ⟨hcoherent, hstays, -⟩ := performAll_shared {} 0 [announced]
  have hr : s.lookup? "APP1-pump" = some 0 := by decide +kernel
  have hbefore : (s.object? 0).map Device.deathTime = some 0 := by decide +kernel
  obtain ⟨d, hd, hunharmed⟩ := Option.map_eq_some_iff.1 hbefore
  obtain ⟨hlater, d', hd', hbecomes⟩ := hstays more "APP1-pump" 0 d hr hd
  have hafter : (later.object? 0).map Device.deathTime = some 5 := by decide +kernel
  rw [hd', Option.map_some] at hafter
  exact ⟨hr, hlater, by decide +kernel, ⟨d, d', hd, hd', hbecomes, hunharmed, Option.some.inj hafter⟩, hcoherent,
    by decide +kernel⟩

end SharedBridge

end ScadaBridge
