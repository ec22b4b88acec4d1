import ScadaBridge.Proofs.Bridge.Account
import ScadaBridge.Proofs.Bridge.Trace

/-!
# Losing the SCADA broker

While the SCADA broker is away, the bridge works on as if it were there, and only what is for the broker
is held back. `Blind` says this of one function of the bridge, and holds of all that a call does before
messages are let through.

Two bridges that differ in nothing but their knowledge of the broker, of which the first knows of no
connection that the second does not know of, are in the relation `Shadows`. Each call keeps it, also one
that tells the first bridge alone that the broker is lost. So leaving out losses of the broker adds
Sparkplug messages to a run and changes nothing else (`run_withoutLosses`).
-/

namespace ScadaBridge

/-- The second list of calls is the first one without some of the losses of the SCADA broker. -/
inductive Step.WithoutLosses : List Step → List Step → Prop where
  | nil : WithoutLosses [] []
  | keep (s : Step) {steps fewer : List Step} (rest : WithoutLosses steps fewer) :
      WithoutLosses (s :: steps) (s :: fewer)
  | drop (now : UInt64) (instant : Nat) {steps fewer : List Step} (rest : WithoutLosses steps fewer) :
      WithoutLosses (.take now instant (.connection .scadaLost) :: steps) fewer

namespace Bridge

/-- The bridge with another opinion on whether the SCADA broker is connected. -/
def withOnline (b : Bridge) (online : Bool) : Bridge := { b with online := online }

/-- What is done neither depends on whether the broker is connected nor changes it. -/
def Blind {α : Type} (act : Bridge → Bridge × α) : Prop :=
  ∀ b online, act (b.withOnline online) = ((act b).1.withOnline online, (act b).2)

/-! ## Messages of the plant bus -/

theorem vendorBirth_blind (app device : String) (payload : List UInt8) (now : UInt64) :
    Blind fun b => b.vendorBirth app device payload now := by
  intro b online
  have hmetrics : (b.withOnline online).metricsOf payload now = b.metricsOf payload now := rfl
  simp only [vendorBirth, hmetrics]
  cases b.metricsOf payload now <;> rfl

theorem vendorData_blind (app device : String) (payload : List UInt8) (now : UInt64) :
    Blind fun b => b.vendorData app device payload now := by
  intro b online
  have hdevice : (b.withOnline online).vendorDevice? app device = b.vendorDevice? app device := rfl
  have hmetrics : (b.withOnline online).metricsOf payload now = b.metricsOf payload now := rfl
  simp only [vendorData, hdevice, hmetrics]
  cases b.vendorDevice? app device with
  | none => rfl
  | some d => cases b.metricsOf payload now <;> rfl

theorem declareDead_blind (name : String) (timestamp : UInt64) :
    Blind fun b => b.declareDead name timestamp := by
  intro b online
  have hdevice : (b.withOnline online).device? name = b.device? name := rfl
  simp only [declareDead, hdevice]
  cases b.device? name with
  | none => rfl
  | some d =>
    dsimp only
    split <;> rfl

theorem declareAllDead_blind (timestamp : UInt64) (names : List String) :
    Blind fun b => b.declareAllDead timestamp names := by
  induction names with
  | nil => exact fun _ _ => rfl
  | cons name rest ih =>
    intro b online
    have hfirst := declareDead_blind name timestamp b online
    have hrest := ih (b.declareDead name timestamp).1 online
    simp only [declareAllDead] at hfirst hrest ⊢
    rw [hfirst, hrest]

theorem vendorDeath_blind (app : String) (device : Option String) (now : UInt64) :
    Blind fun b => b.vendorDeath app device now := by
  intro b online
  have happs : (b.withOnline online).apps.get? app = b.apps.get? app := rfl
  simp only [vendorDeath, happs]
  cases b.apps.get? app with
  | none => rfl
  | some known =>
    cases device with
    | none =>
      have hall := declareAllDead_blind now known.devices { b with apps := b.apps.put known.markDead } online
      simp only [withOnline] at hall ⊢
      rw [hall]
    | some device =>
      have hdevice : (b.withOnline online).vendorDevice? app device = b.vendorDevice? app device := rfl
      simp only [hdevice]
      cases b.vendorDevice? app device with
      | none => rfl
      | some d =>
        have hdead := declareDead_blind d.telemetryName now b online
        simp only at hdead ⊢
        rw [hdead]

theorem deviceUpdate_blind (device site point : String) (payload : List UInt8) (now : UInt64) :
    Blind fun b => b.deviceUpdate device site point payload now := by
  intro b online
  have hdevice : (b.withOnline online).catalogDevice? device site = b.catalogDevice? device site := rfl
  simp only [deviceUpdate, hdevice]
  cases b.catalogDevice? device site with
  | none => rfl
  | some d =>
    dsimp only
    cases d.metric? point with
    | none => rfl
    | some m =>
      dsimp only
      cases Reading.parse payload with
      | error _ => rfl
      | ok r =>
        have hcodes : (b.withOnline online).settings = b.settings := rfl
        dsimp only
        rw [hcodes]
        cases r.evaluate m.declaredType b.settings.deathErrorCodes with
        | error _ => rfl
        | ok outcome =>
          cases outcome with
          | deviceDead =>
            have hdead := declareDead_blind d.telemetryName (if r.time = 0 then now else r.time) b online
            simp only at hdead ⊢
            rw [hdead]
          | badRead _ => rfl
          | value v => rfl

theorem announceDefinitions_blind (payload : List UInt8) (now : UInt64) :
    Blind fun b => b.announceDefinitions payload now := by
  intro b online
  simp only [announceDefinitions]
  cases recordsOf payload .noDefinitions <;> rfl

theorem process_blind (now : UInt64) (topic : String) (payload : List UInt8) :
    Blind fun b => b.process now topic payload := by
  intro b online
  simp only [process]
  cases BusTopic.parse topic with
  | error _ => rfl
  | ok t =>
    cases t with
    | birth app device => exact vendorBirth_blind app device payload now b online
    | data app device => exact vendorData_blind app device payload now b online
    | death app device => exact vendorDeath_blind app device now b online
    | update device site point => exact deviceUpdate_blind device site point payload now b online
    | definitions => exact announceDefinitions_blind payload now b online

/-! ## Outages and commands -/

theorem expireOutage_blind (now : UInt64) : Blind fun b => b.expireOutage now := by
  intro b online
  have hdevices : (b.withOnline online).devices = b.devices := rfl
  have hall := declareAllDead_blind now (b.devices.map Device.telemetryName) b online
  simp only [expireOutage, hdevices] at hall ⊢
  rw [hall]
  rfl

theorem reviveAll_blind (names : List String) : Blind fun b => b.reviveAll names := by
  induction names with
  | nil => exact fun _ _ => rfl
  | cons name rest ih =>
    intro b online
    have hdevice : (b.withOnline online).device? name = b.device? name := rfl
    simp only [reviveAll, hdevice]
    cases b.device? name with
    | none => exact ih b online
    | some d =>
      dsimp only
      split
      · have hrest := ih (b.putDevice d.markAlive) online
        have hput : (b.withOnline online).putDevice d.markAlive = (b.putDevice d.markAlive).withOnline online := rfl
        simp only at hrest ⊢
        rw [hput, hrest]
      · exact ih b online

theorem restore_blind : Blind restore :=
  fun b online => reviveAll_blind b.timedOut { b with timedOut := [] } online

theorem writeRequests_blind (d : Device) (now : UInt64) (metrics : List Metric) :
    Blind fun b => b.writeRequests d now metrics := by
  induction metrics with
  | nil => exact fun _ _ => rfl
  | cons m rest ih =>
    intro b online
    have hfirst : (b.withOnline online).writeRequest d now m =
        ((b.writeRequest d now m).1.withOnline online, (b.writeRequest d now m).2) := by
      unfold writeRequest
      dsimp only
      split <;> rfl
    have hrest := ih (b.writeRequest d now m).1 online
    simp only [writeRequests] at hrest ⊢
    rw [hfirst, hrest]

theorem command_blind (now : UInt64) (topic : SparkplugTopic) (payload : Wire.Payload) :
    Blind fun b => b.command now topic payload := by
  intro b online
  unfold command
  dsimp only
  split
  · next name _ _ =>
    have hdevice : (b.withOnline online).device? name = b.device? name := rfl
    rw [hdevice]
    cases b.device? name with
    | none => rfl
    | some d =>
      have hall := writeRequests_blind d now (payload.metrics.filterMap (accept? d now)) b online
      dsimp only at hall ⊢
      rw [hall]
      split
      · rfl
      · split <;> rfl
  · rfl

/-! ## Rendering -/

theorem liveBirths_blind (now : UInt64) (devices : List Device) : Blind fun b => b.liveBirths now devices := by
  induction devices with
  | nil => exact fun _ _ => rfl
  | cons d rest ih =>
    intro b online
    simp only [liveBirths]
    split
    · have hfirst : (b.withOnline online).deviceBirth now d =
          ((b.deviceBirth now d).1.withOnline online, (b.deviceBirth now d).2) := rfl
      have hrest := ih (b.deviceBirth now d).1 online
      dsimp only at hrest
      rw [hfirst, hrest]
    · exact ih b online

theorem render_blind (now : UInt64) (action : Action) : Blind fun b => b.render now action := by
  intro b online
  have hdevice : ∀ name, (b.withOnline online).device? name = b.device? name := fun _ => rfl
  cases action with
  | nodeRebirth =>
    have hbirths := liveBirths_blind now b.devices (b.nodeBirth now b.session).1 online
    have hnode : (b.withOnline online).nodeBirth now b.session =
        ((b.nodeBirth now b.session).1.withOnline online, (b.nodeBirth now b.session).2) := rfl
    have hframe : (b.withOnline online).session = b.session ∧ (b.withOnline online).devices = b.devices :=
      ⟨rfl, rfl⟩
    dsimp only at hbirths ⊢
    rw [render_nodeRebirth, render_nodeRebirth, hframe.1, hframe.2, hnode, hbirths]
    rfl
  | birth name | death name =>
    simp only [render, hdevice]
    cases b.device? name <;> rfl
  | data name changes =>
    simp only [render, hdevice]
    cases b.device? name with
    | none => rfl
    | some d =>
      rcases hdata : d.data changes now with ⟨d', payload⟩
      simp only [hdata]
      cases payload <;> rfl

theorem renderAll_blind (now : UInt64) (actions : List Action) : Blind fun b => b.renderAll now actions := by
  induction actions with
  | nil => exact fun _ _ => rfl
  | cons action rest ih =>
    intro b online
    have hfirst := render_blind now action b online
    have hrest := ih (b.render now action).1 online
    simp only [renderAll] at hfirst hrest ⊢
    rw [hfirst, hrest]

/-! ## Two bridges -/

/-- The first bridge is the second one but for its knowledge of the SCADA broker, and where it knows of a
connection, so does the second. -/
structure Shadows (b₁ b₂ : Bridge) : Prop where
  sorted : b₂.Sorted
  eq : b₁ = b₂.withOnline b₁.online
  online : b₁.online = true → b₂.online = true

/-- Of two lists of events, the first lacks some Sparkplug messages of the second, and nothing else. -/
structure Withheld (first second : List Event) : Prop where
  sublist : (first.filterMap Event.sparkplug?).Sublist (second.filterMap Event.sparkplug?)
  rest : first.filter (fun e => e.sparkplug?.isNone) = second.filter (fun e => e.sparkplug?.isNone)

theorem Withheld.refl (events : List Event) : Withheld events events := ⟨.refl _, rfl⟩

theorem Withheld.append {first second first' second' : List Event} (h : Withheld first second)
    (h' : Withheld first' second') : Withheld (first ++ first') (second ++ second') := by
  constructor
  · rw [List.filterMap_append, List.filterMap_append]
    exact h.sublist.append h'.sublist
  · rw [List.filter_append, List.filter_append, h.rest, h'.rest]

/-- The bridges stay in the relation, and the messages differ in nothing but what the first one holds back. -/
def Alike (first second : Bridge × List Outbound) : Prop :=
  Shadows first.1 second.1 ∧ Withheld (first.2.map .published) (second.2.map .published)

namespace Shadows

variable {b₁ b₂ : Bridge}

theorem refl {b : Bridge} (hs : b.Sorted) : Shadows b b := ⟨hs, rfl, id⟩

theorem sorted_left (h : Shadows b₁ b₂) : b₁.Sorted := by
  rw [h.eq]
  exact h.sorted

theorem outletOpen_eq (h : Shadows b₁ b₂) : b₁.outletOpen = b₂.outletOpen := by
  rw [h.eq]
  rfl

/-- What the first bridge lets through, the second one does. -/
theorem passes (h : Shadows b₁ b₂) {message : Outbound} (hm : b₁.passes message = true) :
    b₂.passes message = true := by
  cases message with
  | sparkplug topic payload =>
    obtain ⟨honline, hopen⟩ := Bool.and_eq_true_iff.1 hm
    rw [h.outletOpen_eq] at hopen
    exact Bool.and_eq_true_iff.2 ⟨h.online honline, hopen⟩
  | bus topic content => exact h.outletOpen_eq.symm.trans hm

theorem send (h : Shadows b₁ b₂) (messages : List Outbound) :
    Withheld ((b₁.send messages).map .published) ((b₂.send messages).map .published) := by
  constructor
  · have hfewer : (b₁.send messages).Sublist (b₂.send messages) :=
      List.monotone_filter_right messages fun _ hm => h.passes hm
    exact (hfewer.map _).filterMap _
  · have hbus : ∀ message ∈ messages,
        ((Event.published message).sparkplug?.isNone && b₁.passes message) =
          ((Event.published message).sparkplug?.isNone && b₂.passes message) := by
      intro message _
      cases message with
      | sparkplug _ _ => rfl
      | bus _ _ => exact h.outletOpen_eq
    simp only [Bridge.send, List.filter_map, List.filter_filter]
    exact congrArg _ (List.filter_congr hbus)

/-- What is blind to the broker is done alike, and keeps the relation. -/
theorem blind (h : Shadows b₁ b₂) {α : Type} {act : Bridge → Bridge × α} (hact : Blind act)
    (hs : (act b₂).1.Sorted) : Shadows (act b₁).1 (act b₂).1 ∧ (act b₁).2 = (act b₂).2 := by
  have hfirst := hact b₂ b₁.online
  have hkept : (act b₂).1.online = b₂.online := congrArg (fun r => r.1.online) (hact b₂ b₂.online)
  rw [← h.eq] at hfirst
  rw [hfirst]
  refine ⟨⟨hs, rfl, fun honline => ?_⟩, rfl⟩
  rw [hkept]
  exact h.online honline

theorem publish (h : Shadows b₁ b₂) (now : UInt64) (actions : List Action) :
    Alike (b₁.publish now actions) (b₂.publish now actions) := by
  have hs := (renderAll_emits h.sorted now actions).sorted h.sorted
  obtain ⟨hafter, hmessages⟩ := h.blind (renderAll_blind now actions) hs
  rw [publish_eq_renderAll h.sorted, publish_eq_renderAll h.sorted_left, hmessages]
  exact ⟨hafter, h.send _⟩

/-- What is planned blindly is published alike. -/
theorem publish_blind (h : Shadows b₁ b₂) {act : Bridge → Bridge × List Action} (hact : Blind act)
    (hs : (act b₂).1.Sorted) (now : UInt64) :
    Alike ((act b₁).1.publish now (act b₁).2) ((act b₂).1.publish now (act b₂).2) := by
  obtain ⟨hafter, hactions⟩ := h.blind hact hs
  rw [hactions]
  exact hafter.publish now _

/-! ## Calls -/

theorem outage_eq (h : Shadows b₁ b₂) : b₁.outage = b₂.outage := by
  rw [h.eq]
  rfl

theorem withOutage (h : Shadows b₁ b₂) (outage : Outage) :
    Shadows { b₁ with outage := outage } { b₂ with outage := outage } := by
  have hblind : Blind fun b : Bridge => ({ b with outage := outage }, ()) := fun _ _ => rfl
  exact (h.blind hblind h.sorted).1

theorem checkTimeout (h : Shadows b₁ b₂) (now : UInt64) (instant : Nat) :
    Alike (b₁.checkTimeout now instant) (b₂.checkTimeout now instant) := by
  unfold Bridge.checkTimeout
  rw [h.outage_eq]
  rcases b₂.outage.check instant with ⟨outage, expired⟩
  have hchecked := h.withOutage outage
  cases expired with
  | false => exact ⟨hchecked, .refl _⟩
  | true => exact hchecked.publish_blind (expireOutage_blind now) (expireOutage_sorted hchecked.sorted now) now

/-- A change of a connection is taken alike. After one of the connection to the SCADA broker there is no
difference between the bridges. -/
theorem handleConnection (h : Shadows b₁ b₂) (now : UInt64) (instant : Nat) (event : ConnectionEvent) :
    Alike (b₁.handleConnection now instant event) (b₂.handleConnection now instant event) := by
  have hforget : ∀ online, b₁.withOnline online = b₂.withOnline online := by
    intro online
    rw [h.eq]
    rfl
  cases event with
  | scadaConnected =>
    have hsame : b₁.handleConnection now instant .scadaConnected = b₂.handleConnection now instant .scadaConnected := by
      have hconnected := hforget true
      simp only [Bridge.withOnline] at hconnected
      simp only [Bridge.handleConnection, hconnected]
    have hs : (b₂.step (.take now instant (.connection .scadaConnected))).1.Sorted :=
      (b₂.step_calls _).sorted h.sorted
    rw [hsame]
    exact ⟨.refl hs, .refl _⟩
  | scadaLost =>
    have hlost : Shadows (b₁.withOnline false) (b₂.withOnline false) := by
      rw [hforget false]
      exact .refl h.sorted
    exact ⟨hlost, .refl _⟩
  | busLost =>
    have hlost := h.withOutage (b₂.outage.lost instant)
    unfold Bridge.handleConnection
    dsimp only
    rw [h.outage_eq]
    exact ⟨hlost, .refl _⟩
  | busConnected =>
    unfold Bridge.handleConnection
    dsimp only
    rw [h.outage_eq]
    rcases b₂.outage.connected with ⟨outage, expired⟩
    have hback := h.withOutage outage
    have hrequest := hback.send [announceRequest]
    cases expired with
    | false => exact ⟨hback, hrequest⟩
    | true =>
      obtain ⟨hafter, hbirths⟩ := hback.publish_blind restore_blind (restore_sorted hback.sorted) now
      have hall := hrequest.append hbirths
      rw [← List.map_append, ← List.map_append] at hall
      exact ⟨hafter, hall⟩

theorem handle (h : Shadows b₁ b₂) (now : UInt64) (instant : Nat) (message : Inbound) :
    Alike (b₁.handle now instant message) (b₂.handle now instant message) := by
  cases message with
  | bus topic payload =>
    have hs : (b₂.process now topic payload).1.Sorted := by
      rcases b₂.process_turns now topic payload with ⟨fault, heq⟩ | ⟨t, b', actions, _, heq, hturn⟩
      · rw [heq]
        exact h.sorted
      · rw [heq]
        exact hturn.sorted h.sorted
    obtain ⟨hafter, houtcome⟩ := h.blind (process_blind now topic payload) hs
    simp only [Bridge.handle]
    generalize b₁.process now topic payload = first at hafter houtcome ⊢
    generalize b₂.process now topic payload = second at hafter houtcome ⊢
    obtain ⟨b₁', outcome⟩ := first
    obtain ⟨b₂', outcome'⟩ := second
    obtain rfl : outcome = outcome' := houtcome
    cases outcome with
    | error _ => exact ⟨hafter, .refl _⟩
    | ok actions => exact hafter.publish now actions
  | command topic payload =>
    simp only [Bridge.handle]
    cases SparkplugTopic.parse topic with
    | error _ => exact ⟨h, .refl _⟩
    | ok topic' =>
      have hs : (b₂.command now topic' payload).1.Sorted := by
        rw [command_frame]
        exact h.sorted
      obtain ⟨hafter, houtcome⟩ := h.blind (command_blind now topic' payload) hs
      dsimp only
      generalize b₁.command now topic' payload = first at hafter houtcome ⊢
      generalize b₂.command now topic' payload = second at hafter houtcome ⊢
      obtain ⟨b₁', outcome⟩ := first
      obtain ⟨b₂', outcome'⟩ := second
      obtain rfl : outcome = outcome' := houtcome
      cases outcome with
      | error _ => exact ⟨hafter, .refl _⟩
      | ok messages => exact ⟨hafter, hafter.send messages⟩
  | connection event => exact h.handleConnection now instant event

/-- A call made of both bridges keeps the relation. -/
theorem step (h : Shadows b₁ b₂) (s : Step) :
    Shadows (b₁.step s).1 (b₂.step s).1 ∧ Withheld (b₁.step s).2 (b₂.step s).2 := by
  cases s with
  | prepare now =>
    have hblind : Blind fun b => b.prepareSession now := fun _ _ => rfl
    obtain ⟨hafter, hwill⟩ := h.blind hblind h.sorted
    refine ⟨hafter, ?_⟩
    simp only [Bridge.step]
    rw [hwill]
    exact .refl _
  | take now instant message => exact h.handle now instant message
  | check now instant => exact h.checkTimeout now instant

/-- The first bridge may be told that the broker is lost. -/
theorem lost (h : Shadows b₁ b₂) : Shadows (b₁.withOnline false) b₂ := by
  refine ⟨h.sorted, ?_, by simp [withOnline]⟩
  rw [h.eq]
  rfl

/-- Calls of the first bridge, and those of them that are left for the second one, keep the relation. -/
theorem run {steps fewer : List Step} (hsteps : Step.WithoutLosses steps fewer) (h : Shadows b₁ b₂) :
    Shadows (b₁.run steps).1 (b₂.run fewer).1 ∧ Withheld (b₁.run steps).2 (b₂.run fewer).2 := by
  induction hsteps generalizing b₁ b₂ with
  | nil => exact ⟨h, .refl _⟩
  | keep s _ ih =>
    obtain ⟨hafter, hevents⟩ := h.step s
    obtain ⟨hend, hmore⟩ := ih hafter
    exact ⟨hend, hevents.append hmore⟩
  | drop now instant _ ih => exact ih h.lost

end Shadows

/-! ## While the broker is away -/

/-- A call after which the broker is away publishes nothing for it. -/
theorem step_away {b : Bridge} (hs : b.Sorted) {s : Step} (away : s.online b.online = false) :
    (b.step s).2.filterMap Event.sparkplug? = [] := by
  have hplan : (b.plan s).1.online = s.online b.online := by
    rcases b.plan_moves s with ⟨now, rfl⟩ | hmoves
    · rfl
    · exact hmoves.online_eq
  rw [away] at hplan
  rw [(step_rendered hs s).2]
  refine List.filter_eq_nil_iff.2 fun message hmessage => ?_
  obtain ⟨topic, payload, rfl⟩ := (renderAll_emits (plan_sorted hs s) s.now (b.plan s).2).sparkplug hmessage
  simp [passes, hplan]

/-- Leaving out losses of the SCADA broker from a run leads to the same bridge but for its knowledge of the
broker, adds Sparkplug messages, and changes none of the other events. No call before the first connection
to the broker, or between a loss and the next connection, publishes a Sparkplug message. -/
theorem run_withoutLosses (settings : Settings) (now : UInt64) {steps fewer : List Step}
    (hsteps : Step.WithoutLosses steps fewer) :
    let lossy := (start settings now).run steps
    let steady := (start settings now).run fewer
    { lossy.1 with online := steady.1.online } = steady.1 ∧
      lossy.2.filter (fun e => e.sparkplug?.isNone) = steady.2.filter (fun e => e.sparkplug?.isNone) ∧
      (lossy.2.filterMap Event.sparkplug?).Sublist (steady.2.filterMap Event.sparkplug?) ∧
      ∀ early s late, steps = early ++ s :: late → (early ++ [s]).foldl Step.online false = false →
        (((start settings now).run early).1.step s).2.filterMap Event.sparkplug? = [] := by
  intro lossy steady
  obtain ⟨hshadows, hwithheld⟩ := Shadows.run hsteps (.refl (start_sorted settings now))
  refine ⟨?_, hwithheld.rest, hwithheld.sublist, ?_⟩
  · rw [hshadows.eq]
    rfl
  · intro early s late _ haway
    obtain ⟨hs, honline⟩ := run_online settings now early
    rw [List.foldl_append, List.foldl_cons, List.foldl_nil, ← honline] at haway
    exact step_away hs haway

/-- A device is announced, the broker is lost, and the device sends data, which is held back. -/
theorem run_withoutLosses_data :
    let connect := Step.take 0 0 (.connection .scadaConnected)
    let lose := Step.take 0 0 (.connection .scadaLost)
    let birth := Step.take 0 0 (.bus "BIRTH/APP1/D1"
      (Utf8.encode "\x7b\"metrics\":[\x7b\"name\":\"x\",\"dataType\":\"Int32\",\"value\":5\x7d]\x7d"))
    let data := Step.take 0 0 (.bus "DATA/APP1/D1"
      (Utf8.encode "\x7b\"metrics\":[\x7b\"name\":\"x\",\"dataType\":\"Int32\",\"value\":6\x7d]\x7d"))
    let lossy := (start {} 0).run [connect, birth, lose, data]
    let steady := (start {} 0).run [connect, birth, data]
    Step.WithoutLosses [connect, birth, lose, data] [connect, birth, data] ∧
      { lossy.1 with online := steady.1.online } = steady.1 ∧
      (lossy.2.filterMap Event.sparkplug?).Sublist (steady.2.filterMap Event.sparkplug?) ∧
      (((start {} 0).run [connect, birth, lose]).1.step data).2.filterMap Event.sparkplug? = [] ∧
      lossy.2.filterMap Event.kind? = [.nodeBirth, .deviceBirth] ∧
      steady.2.filterMap Event.kind? = [.nodeBirth, .deviceBirth, .deviceData] := by
  intro connect lose birth data lossy steady
  have hsteps : Step.WithoutLosses [connect, birth, lose, data] [connect, birth, data] :=
    .keep _ (.keep _ (.drop 0 0 (.keep _ .nil)))
  obtain ⟨hstate, _, hsparkplug, hsilent⟩ := run_withoutLosses {} 0 hsteps
  have hkinds : lossy.2.filterMap Event.kind? = [.nodeBirth, .deviceBirth] ∧
      steady.2.filterMap Event.kind? = [.nodeBirth, .deviceBirth, .deviceData] := by decide +kernel
  exact ⟨hsteps, hstate, hsparkplug, hsilent [connect, birth, lose] data [] rfl rfl, hkinds⟩

end Bridge

end ScadaBridge
