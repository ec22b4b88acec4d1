import ScadaBridge.Proofs.Bridge.Fate

/-!
# Deaths that are reported

A source reports a device dead, and the death sticks if no birth of the device is published until the source
is heard again, whatever happens to the connections in the meantime.

The bridge holds a device for dead once its death was published, so the death of a device whose birth was not
published leaves no trace, and the device is born with the edge node. And the devices that an outage of the
plant bus declared dead are born again when the bus is back, whatever was reported of them since.
`run_deathSticks` says that the deaths of all other devices stick, as far as nothing is heard under their
telemetry names; `deathSticks_iff` says of every state which deaths do. `not_deathSticks` has runs in which a
death does not.
-/

namespace ScadaBridge

open Ordered

/-- A call takes a message that reports a device dead: the death of the device or of its vendor application, or
a bad reading of a point of the device with an error code that tells a death. -/
inductive Step.ReportsDead (settings : Settings) (d : Device) : Step → Prop where
  | app {now : UInt64} {instant : Nat} {topic : String} {payload : List UInt8} {app : String}
      (parsed : BusTopic.parse topic = .ok (.death app none)) (owner : d.app? = some app) :
      ReportsDead settings d (.take now instant (.bus topic payload))
  | device {now : UInt64} {instant : Nat} {topic : String} {payload : List UInt8} {app device : String}
      (parsed : BusTopic.parse topic = .ok (.death app (some device))) (source : d.IsOf (.vendor app device)) :
      ReportsDead settings d (.take now instant (.bus topic payload))
  | reading {now : UInt64} {instant : Nat} {topic : String} {payload : List UInt8}
      {device site point : String} {r : Reading}
      (parsed : BusTopic.parse topic = .ok (.update device site point)) (source : d.IsOf (.site device site))
      (known : (d.metric? point).isSome)
      (read : Reading.parse payload = .ok r) (bad : r.isGood = false)
      (code : settings.deathErrorCodes.contains r.errorCode = true) :
      ReportsDead settings d (.take now instant (.bus topic payload))

/-- A call takes a message that shows the source of a device alive, and not just one of the same telemetry
name. -/
inductive Step.ShowsSourceAlive (d : Device) : Step → Prop where
  | birth {now : UInt64} {instant : Nat} {topic : String} {payload : List UInt8} {app device : String}
      (parsed : BusTopic.parse topic = .ok (.birth app device)) (source : d.IsOf (.vendor app device)) :
      ShowsSourceAlive d (.take now instant (.bus topic payload))
  | data {now : UInt64} {instant : Nat} {topic : String} {payload : List UInt8} {app device : String}
      (parsed : BusTopic.parse topic = .ok (.data app device)) (source : d.IsOf (.vendor app device)) :
      ShowsSourceAlive d (.take now instant (.bus topic payload))
  | reading {now : UInt64} {instant : Nat} {topic : String} {payload : List UInt8}
      {device site point : String} {r : Reading}
      (parsed : BusTopic.parse topic = .ok (.update device site point)) (source : d.IsOf (.site device site))
      (read : Reading.parse payload = .ok r) (good : r.isGood = true) :
      ShowsSourceAlive d (.take now instant (.bus topic payload))

namespace Outage

/-- A check lets the outage expire, or changes nothing. -/
theorem check_cases (o : Outage) (instant : Nat) :
    o.check instant = ({ o with since := .none, expired := true }, true) ∨ o.check instant = (o, false) := by
  unfold check
  split
  · split
    · exact .inl rfl
    · exact .inr rfl
  · exact .inr rfl

@[simp] theorem expired_lost (o : Outage) (instant : Nat) : (o.lost instant).expired = o.expired := by
  unfold lost
  split <;> rfl

end Outage

namespace Bridge

/-- No birth of the device of a name is published any more, until a call is a sign of life. -/
def DeathSticks (alive : Step → Prop) (b : Bridge) (name : String) : Prop :=
  ∀ future : List Step, (∀ s ∈ future, ¬alive s) →
    ∀ topic payload, .published (.sparkplug topic payload) ∈ (b.run future).2 →
      topic.device = some name → topic.kind ≠ .deviceBirth

/-! ## What holds between the calls -/

/-- What is needed of reachable states. -/
structure Consistent (settings : Settings) (b : Bridge) : Prop where
  sorted : b.Sorted
  enrolled : Enrolled b
  settings_eq : b.settings = settings
  /-- What is published has a receiver. -/
  outlet : b.outletOpen = true
  /-- Devices are kept in mind only during an outage that has expired. -/
  outage : b.timedOut ≠ [] → b.outage.expired = true
  /-- What is known to be dead was published. -/
  published : ∀ name d, b.device? name = some d → d.known = .down → d.published = .up

theorem plan_settings (b : Bridge) (s : Step) : (b.plan s).1.settings = b.settings := by
  rcases b.plan_moves s with ⟨now, rfl⟩ | hmoves
  · rfl
  · rw [hmoves.frame]

/-- The end of an outage forgets what its expiry kept in mind. -/
theorem plan_outage {b : Bridge} (h : b.timedOut ≠ [] → b.outage.expired = true) (s : Step) :
    (b.plan s).1.timedOut ≠ [] → (b.plan s).1.outage.expired = true := by
  cases s with
  | prepare now => exact h
  | check now instant =>
    rcases b.outage.check_cases instant with hcheck | hcheck
    · simp only [plan, hcheck]
      rw [expireOutage_frame]
      exact fun _ => rfl
    · simp only [plan, hcheck]
      exact h
  | take now instant message =>
    cases message with
    | bus topic payload =>
      unfold plan
      dsimp only
      rcases b.process_turns now topic payload with ⟨fault, heq⟩ | ⟨t, b', actions, _, heq, hturn⟩
      · rw [heq]
        exact h
      · rw [heq]
        dsimp only
        rw [hturn.frame]
        exact h
    | command topic payload =>
      unfold plan
      dsimp only
      split
      · exact h
      · rw [command_frame]
        exact h
    | connection event =>
      cases event with
      | scadaConnected => exact h
      | scadaLost => exact h
      | busLost =>
        show b.timedOut ≠ [] → (b.outage.lost instant).expired = true
        rw [Outage.expired_lost]
        exact h
      | busConnected =>
        unfold plan planConnection Outage.connected
        dsimp only
        split
        · intro hlisted
          rw [restore_frame] at hlisted
          exact absurd rfl hlisted
        · next outage heq =>
          intro hlisted
          have hexpired := h hlisted
          simp [hexpired] at heq

/-- A device is known to be dead once its death was published, which takes a birth before. -/
theorem Outcome.published {b : Bridge} {s : Step} {name : String} {before after : Option Device}
    {kinds : List MessageKind} (h : Outcome b s name before kinds after)
    (hbefore : ∀ d, before = some d → d.known = .down → d.published = .up) :
    ∀ d, after = some d → d.known = .down → d.published = .up := by
  rintro d hd hdown
  cases h with
  | missing => simp at hd
  | kept d₀ => exact hbefore d hd hdown
  | unborn timestamp known _ =>
    cases hd
    exact absurd hdown known
  | unchanged _ _ =>
    cases hd
    simp at hdown
  | died timestamp known published =>
    cases hd
    exact published
  | created | reborn | born | updated | revived =>
    cases hd
    rfl

namespace Consistent

variable {settings : Settings} {b : Bridge}

theorem step (h : Consistent settings b) (s : Step) : Consistent settings (b.step s).1 := by
  have hcalls := b.step_calls s
  have hframe := rendered_frame h.sorted s
  have hstep := (step_rendered h.sorted s).1
  have houtage := plan_outage h.outage s
  refine ⟨hcalls.sorted h.sorted, h.enrolled.calls h.sorted hcalls, ?_, ?_, ?_, fun name => ?_⟩
  · rw [hstep, hframe]
    exact (plan_settings b s).trans h.settings_eq
  · rw [hstep, hframe]
    exact (plan_outletOpen b s).trans h.outlet
  · rw [hstep, hframe]
    exact houtage
  · rw [hstep]
    exact (rendered_outcome h.sorted h.enrolled s name).published (h.published name)

theorem run (settings : Settings) (now : UInt64) (steps : List Step) :
    Consistent settings ((start settings now).run steps).1 := by
  refine run_induction (P := fun _ b _ => Consistent settings b) ?_ (fun _ _ _ s h => h.step s) steps
  have hframe := start_frame settings now
  refine ⟨start_sorted settings now, enrolled_start settings now, ?_, ?_, ?_, fun name d hd hdown => ?_⟩
  · rw [hframe]
    rfl
  · rw [hframe]
    rfl
  · rw [hframe]
    exact fun h => absurd rfl h
  · simp [(start_unheard d (mem_of_device? hd)).2] at hdown

end Consistent

/-! ## Staying dead -/

/-- The device of a name is not born with the edge node, nor when the plant bus is back: it has no metrics, or
it is known to be dead and not kept in mind. -/
def StaysDead (b : Bridge) (name : String) : Prop :=
  ∀ d, b.device? name = some d → d.hasMetrics = true → d.known = .down ∧ name ∉ b.timedOut

theorem staysDead_iff {b : Bridge} {name : String} {d : Device} (hd : b.device? name = some d) :
    StaysDead b name ↔ (d.hasMetrics = true → d.known = .down ∧ name ∉ b.timedOut) := by
  constructor
  · exact fun h => h d hd
  · intro h e he
    obtain rfl : d = e := Option.some.inj (hd.symm.trans he)
    exact h

/-- Only the expiry of an outage keeps devices in mind, and none that are known to be dead. -/
theorem mem_timedOut_plan {b : Bridge} {s : Step} {name : String} (h : name ∈ (b.plan s).1.timedOut) :
    name ∈ b.timedOut ∨ ∃ d, b.device? name = some d ∧ d.known ≠ .down := by
  rcases b.plan_moves s with ⟨now, rfl⟩ | hmoves
  · exact .inl h
  · generalize (b.plan s).1 = b' at hmoves h
    generalize (b.plan s).2 = actions at hmoves
    cases hmoves with
    | idle _ hframe =>
      rw [hframe] at h
      exact .inl h
    | fault _ => exact .inl h
    | turn _ _ hturn =>
      rw [hturn.frame] at h
      exact .inl h
    | connected => exact .inl h
    | lost => exact .inl h
    | restored now instant outage =>
      rw [restore_frame] at h
      simp at h
    | expired now instant outage =>
      unfold expireOutage at h
      dsimp only at h
      rcases List.mem_append.1 h with h | h
      · rw [declareAllDead_frame] at h
        exact .inl h
      · obtain ⟨action, haction, hname⟩ := List.mem_filterMap.1 h
        obtain ⟨listed, -, rfl, d, hd, hdown, -⟩ := mem_declareAllDead haction
        obtain rfl : listed = name := Option.some.inj hname
        exact .inr ⟨d, hd, hdown⟩

/-- A device that stays dead does so over every call that does not show its source alive, and is not born. -/
theorem StaysDead.rendered {b : Bridge} (hs : b.Sorted) (henrolled : Enrolled b) {name : String}
    (h : StaysDead b name) {s : Step} (lifeless : ¬s.ShowsAlive name) :
    StaysDead (b.rendered s).1 name ∧ .deviceBirth ∉ (b.rendered s).2.filterMap (Outbound.kindFor? name) := by
  have hlisted : ∀ d, b.device? name = some d → d.known = .down → name ∉ b.timedOut →
      name ∉ (b.rendered s).1.timedOut := by
    intro d hd hdown hnot hmem
    rw [rendered_frame hs s] at hmem
    rcases mem_timedOut_plan hmem with hmem | ⟨d', hd', halive⟩
    · exact hnot hmem
    · obtain rfl : d = d' := Option.some.inj (hd.symm.trans hd')
      exact halive hdown
  have houtcome := rendered_outcome hs henrolled s name
  unfold StaysDead at h ⊢
  generalize b.device? name = before at houtcome h hlisted
  generalize (b.rendered s).2.filterMap (Outbound.kindFor? name) = kinds at houtcome ⊢
  generalize (b.rendered s).1.device? name = after at houtcome ⊢
  cases houtcome with
  | missing => exact ⟨fun d hd => by simp at hd, by simp⟩
  | kept d =>
    refine ⟨?_, by simp⟩
    rintro _ ⟨⟩ hmetrics
    obtain ⟨hdown, hnot⟩ := h d rfl hmetrics
    exact ⟨hdown, hlisted d rfl hdown hnot⟩
  | @reborn d metrics known => exact absurd (h d rfl metrics).1 known
  | @died d timestamp known _ =>
    refine ⟨?_, by simp⟩
    rintro _ ⟨⟩ hmetrics
    exact absurd (h d rfl hmetrics).1 known
  | @unborn d timestamp known _ =>
    refine ⟨?_, by simp⟩
    rintro _ ⟨⟩ hmetrics
    exact absurd (h d rfl hmetrics).1 known
  | @revived d listed _ metrics => exact absurd listed (h d rfl metrics).2
  | created alive | born alive | updated alive | unchanged alive => exact absurd alive lifeless

/-- No birth of a device that stays dead is published. -/
theorem StaysDead.deathSticks {settings : Settings} {b : Bridge} (hb : Consistent settings b) {name : String}
    (h : StaysDead b name) : DeathSticks (Step.ShowsAlive name) b name := by
  intro future
  induction future generalizing b with
  | nil => simp
  | cons s rest ih =>
    intro lifeless topic payload hpublished named hkind
    obtain ⟨hdead, hnot⟩ := h.rendered hb.sorted hb.enrolled (lifeless s List.mem_cons_self)
    rw [← (step_rendered hb.sorted s).1] at hdead
    rcases List.mem_append.1 hpublished with hpublished | hpublished
    · have hmem := kind_mem_rendered hb.sorted hpublished named
      rw [hkind] at hmem
      exact hnot hmem
    · exact ih (hb.step s) hdead (fun s' hs' => lifeless s' (List.mem_cons_of_mem _ hs')) topic payload
        hpublished named hkind

/-! ## The two ways back -/

/-- A device with metrics that is not known to be dead is born when the broker is connected. -/
theorem birth_of_scadaConnected {settings : Settings} {b : Bridge} (hb : Consistent settings b)
    {name : String} {d : Device} (hd : b.device? name = some d) (metrics : d.hasMetrics = true)
    (known : d.known ≠ .down) :
    ∃ topic payload, .published (.sparkplug topic payload) ∈
        (b.step (.take 0 0 (.connection .scadaConnected))).2 ∧
      topic.device = some name ∧ topic.kind = .deviceBirth := by
  refine exists_published hb.sorted hb.outlet rfl ?_
  obtain ⟨-, hkinds⟩ := rendered_answers hb.sorted (.take 0 0 (.connection .scadaConnected)) name
  have hfound : (b.plan (.take 0 0 (.connection .scadaConnected))).1.device? name = some d := hd
  have hanswer : d.answerAll 0 [.nodeRebirth] = ((d.birth 0).1, [.deviceBirth]) := by
    rw [Device.answerAll_singleton]
    exact if_pos (by simp [metrics, known])
  rw [hkinds, hfound]
  show MessageKind.deviceBirth ∈ (d.answerAll 0 [.nodeRebirth]).2
  rw [hanswer]
  exact List.mem_singleton.2 rfl

/-- A dead device with metrics that is kept in mind is born when the plant bus is back. -/
theorem birth_of_busConnected {settings : Settings} {b : Bridge} (hb : Consistent settings b)
    (online : b.online = true) {name : String} {d : Device} (hd : b.device? name = some d)
    (metrics : d.hasMetrics = true) (known : d.known = .down) (listed : name ∈ b.timedOut) :
    ∃ topic payload, .published (.sparkplug topic payload) ∈
        (b.step (.take 0 0 (.connection .busConnected))).2 ∧
      topic.device = some name ∧ topic.kind = .deviceBirth := by
  have hexpired := hb.outage (List.ne_nil_of_mem listed)
  have hplan : b.plan (.take 0 0 (.connection .busConnected)) =
      ({ b with outage := b.outage.connected.1 } : Bridge).restore := by
    simp [plan, planConnection, Outage.connected, hexpired]
  have honline : (b.plan (.take 0 0 (.connection .busConnected))).1.online = true := by
    rw [hplan, restore_frame]
    exact online
  refine exists_published hb.sorted hb.outlet honline ?_
  obtain ⟨-, hkinds⟩ := rendered_answers hb.sorted (.take 0 0 (.connection .busConnected)) name
  have hrevived : name ∈ b.timedOut ∧ d.known = .down ∧ d.hasMetrics := ⟨listed, known, metrics⟩
  have hfilter : (b.plan (.take 0 0 (.connection .busConnected))).2.filter (Action.reaches name) =
      [.birth name] := by
    have hactions := filter_reviveAll b.timedOut
      (b := { b with outage := b.outage.connected.1, timedOut := [] }) hd
    rw [if_pos hrevived] at hactions
    rw [hplan]
    exact hactions
  have hfound : (b.plan (.take 0 0 (.connection .busConnected))).1.device? name = some d.markAlive := by
    have hdevice := device?_reviveAll { b with outage := b.outage.connected.1, timedOut := [] } b.timedOut name
    rw [show Bridge.device? { b with outage := b.outage.connected.1, timedOut := [] } name = some d from hd,
      Option.map_some, if_pos hrevived] at hdevice
    rw [hplan]
    exact hdevice
  have hanswer := d.markAlive.answer_birth 0
  have hname : d.telemetryName = name := telemetryName_of_device? hd
  rw [show d.markAlive.telemetryName = name from hname] at hanswer
  rw [hkinds, hfound, hfilter]
  show MessageKind.deviceBirth ∈ (d.markAlive.answerAll 0 [.birth name]).2
  rw [Device.answerAll_singleton, hanswer]
  exact List.mem_singleton.2 rfl

/-- Connecting the broker leaves a device that is known to be dead alone, and what is kept in mind too. -/
theorem step_scadaConnected {b : Bridge} (hs : b.Sorted) {name : String} {d : Device}
    (hd : b.device? name = some d) (known : d.known = .down) :
    (b.step (.take 0 0 (.connection .scadaConnected))).1.device? name = some d ∧
      (b.step (.take 0 0 (.connection .scadaConnected))).1.online = true ∧
      (b.step (.take 0 0 (.connection .scadaConnected))).1.timedOut = b.timedOut := by
  rw [(step_rendered hs _).1]
  refine ⟨?_, ?_, ?_⟩
  · obtain ⟨hdevice, -⟩ := rendered_answers hs (.take 0 0 (.connection .scadaConnected)) name
    have hfound : (b.plan (.take 0 0 (.connection .scadaConnected))).1.device? name = some d := hd
    have hanswer : d.answerAll 0 [.nodeRebirth] = (d, []) := by
      rw [Device.answerAll_singleton]
      exact if_neg (by simp [known])
    rw [hdevice, hfound]
    show some (d.answerAll 0 [.nodeRebirth]).1 = some d
    rw [hanswer]
  · rw [rendered_frame hs]
    rfl
  · rw [rendered_frame hs]
    rfl

/-- A device that does not stay dead is born with the edge node, or when the plant bus is back. No connection
event is a sign of life. -/
theorem staysDead_of_deathSticks {settings : Settings} {b : Bridge} (hb : Consistent settings b)
    {name : String} {alive : Step → Prop} (lifeless : ∀ event, ¬alive (.take 0 0 (.connection event)))
    (h : DeathSticks alive b name) : StaysDead b name := by
  intro d hd hmetrics
  by_cases hdown : d.known = .down
  · refine ⟨hdown, fun hlisted => ?_⟩
    -- the broker is connected, so that the birth at the end of the outage is published
    obtain ⟨hd', honline, htimedOut⟩ := step_scadaConnected hb.sorted hd hdown
    rw [← htimedOut] at hlisted
    obtain ⟨topic, payload, hpublished, named, hkind⟩ :=
      birth_of_busConnected (hb.step _) honline hd' hmetrics hdown hlisted
    refine h [.take 0 0 (.connection .scadaConnected), .take 0 0 (.connection .busConnected)] ?_ topic payload
      ?_ named hkind
    · intro s hs
      simp only [List.mem_cons, List.not_mem_nil, or_false] at hs
      rcases hs with rfl | rfl
      · exact lifeless _
      · exact lifeless _
    · exact List.mem_append_right _ (List.mem_append_left _ hpublished)
  · obtain ⟨topic, payload, hpublished, named, hkind⟩ := birth_of_scadaConnected hb hd hmetrics hdown
    refine absurd hkind (h [.take 0 0 (.connection .scadaConnected)] ?_ topic payload ?_ named)
    · intro s hs
      rw [List.mem_singleton.1 hs]
      exact lifeless _
    · exact List.mem_append_left _ hpublished

/-- The deaths that stick are those of devices without metrics, and of devices that are known to be dead and
not kept in mind. -/
theorem deathSticks_iff {settings : Settings} {b : Bridge} (hb : Consistent settings b) (name : String) :
    DeathSticks (Step.ShowsAlive name) b name ↔ StaysDead b name := by
  have lifeless : ∀ event, ¬Step.ShowsAlive name (.take 0 0 (.connection event)) := by
    intro event halive
    cases halive
  exact ⟨staysDead_of_deathSticks hb lifeless, StaysDead.deathSticks hb⟩

/-! ## Reports -/

/-- A device stands under the joined name of its own source. -/
theorem Registered.name_eq {history : List Source} {b : Bridge} (hb : Registered history b) {name : String}
    {d : Device} (hd : b.device? name = some d) {source : Source} (hsource : d.IsOf source) :
    source.name = name := by
  obtain ⟨first, hfirst, hof⟩ := hb.isOf hd
  obtain rfl := hof.unique hsource
  simpa using List.find?_some hfirst

/-- A report declares the device dead, and perhaps other devices of its application. -/
theorem plan_reported {history : List Source} {b : Bridge} (hb : Registered history b)
    (henrolled : Enrolled b) {name : String} {d : Device} (hd : b.device? name = some d) {s : Step}
    (reported : s.ReportsDead b.settings d) :
    ∃ apps names timestamp, names.Nodup ∧ name ∈ names ∧
      b.plan s = ({ b with apps := apps } : Bridge).declareAllDead timestamp names := by
  cases reported with
  | @app now instant topic payload app parsed owner =>
    obtain ⟨known, hknown, hlisted⟩ := henrolled.exists_listed hd owner
    refine ⟨b.apps.put known.markDead, known.devices, now, henrolled.nodup hknown, hlisted, ?_⟩
    simp only [plan, process, parsed, vendorDeath, hknown]
  | @device now instant topic payload app device parsed source =>
    have hjoined : Device.joinedName app device = name := hb.name_eq hd source
    have hvendor : b.vendorDevice? app device = some d := by
      unfold vendorDevice?
      rw [hjoined, hd]
      exact Option.filter_eq_some_iff.2 ⟨rfl, source.1⟩
    obtain ⟨known, hknown, -⟩ := henrolled.exists_listed hd source.2.2
    refine ⟨b.apps, [name], now, List.pairwise_singleton _ _, List.mem_singleton.2 rfl, ?_⟩
    simp only [plan, process, parsed, vendorDeath, hknown, hvendor, telemetryName_of_device? hd,
      declareDead_eq_declareAllDead]
  | @reading now instant topic payload device site point r parsed source known read bad code =>
    have hjoined : Device.joinedName device site = name := hb.name_eq hd source
    have hcatalog : b.catalogDevice? device site = some d := by
      unfold catalogDevice?
      rw [hjoined, hd]
      exact Option.filter_eq_some_iff.2 ⟨rfl, by simp [source.1]⟩
    obtain ⟨m, hm⟩ := Option.isSome_iff_exists.1 known
    have hdead : r.evaluate m.declaredType b.settings.deathErrorCodes = .ok .deviceDead := by
      unfold Reading.evaluate
      rw [bad, if_neg (by simp), if_pos code]
    refine ⟨b.apps, [name], if r.time = 0 then now else r.time, List.pairwise_singleton _ _,
      List.mem_singleton.2 rfl, ?_⟩
    simp only [plan, process, parsed, deviceUpdate, hcatalog, hm, read, hdead, telemetryName_of_device? hd,
      declareDead_eq_declareAllDead]

/-- After a report the device stays dead if and only if it has no metrics, or its birth was published before
and it is not kept in mind. -/
theorem staysDead_reported_iff {settings : Settings} {history : List Source} {b : Bridge}
    (hconsistent : Consistent settings b) (hb : Registered history b) {name : String} {d : Device}
    (hd : b.device? name = some d) {s : Step} (reported : s.ReportsDead b.settings d) :
    StaysDead (b.step s).1 name ↔ (d.hasMetrics = true → d.published = .up ∧ name ∉ b.timedOut) := by
  obtain ⟨apps, names, timestamp, hnodup, hmem, hplan⟩ := plan_reported hb hconsistent.enrolled hd reported
  have hd₀ : ({ b with apps := apps } : Bridge).device? name = some d := hd
  have hactions := filter_declareAllDead hnodup hd₀ timestamp
  have hplanned := device?_declareAllDead { b with apps := apps } timestamp names name
  rw [hd₀, Option.map_some] at hplanned
  rw [← hplan] at hactions hplanned
  have htimedOut : (b.rendered s).1.timedOut = b.timedOut := by
    rw [rendered_frame hb.sorted s, hplan, declareAllDead_frame]
  obtain ⟨hdevice, -⟩ := rendered_answers hb.sorted s name
  rw [hplanned, hactions, Option.map_some] at hdevice
  dsimp only at hdevice
  rw [(step_rendered hb.sorted s).1]
  by_cases hdown : d.known = .down
  · have hpublished := hconsistent.published name d hd hdown
    rw [if_neg fun h => h.2 hdown, if_neg fun h => h.2.1 hdown] at hdevice
    rw [staysDead_iff hdevice, htimedOut]
    exact imp_congr_right fun _ => and_congr_left' (iff_of_true hdown hpublished)
  · rw [if_pos (show name ∈ names ∧ d.known ≠ .down from ⟨hmem, hdown⟩)] at hdevice
    by_cases hup : d.published = .up
    · have hanswer := (d.markDead timestamp).answer_death s.now
      have hname : d.telemetryName = name := telemetryName_of_device? hd
      rw [show (d.markDead timestamp).telemetryName = name from hname] at hanswer
      rw [if_pos ⟨hmem, hdown, hup⟩, Device.answerAll_singleton, hanswer] at hdevice
      rw [staysDead_iff hdevice, htimedOut]
      exact imp_congr_right fun _ => and_congr_left' (iff_of_true rfl hup)
    · rw [if_neg fun h => hup h.2.2] at hdevice
      rw [staysDead_iff hdevice, htimedOut]
      exact imp_congr_right fun _ => and_congr_left' (iff_of_false hdown hup)

/-- Over every run, the death of a device sticks once it is reported, if the device has no metrics or its birth
was published and it is not among those that an outage of the plant bus declared dead. -/
theorem run_deathSticks (settings : Settings) (now : UInt64) (past : List Step) (s : Step) {d : Device}
    (registered : d ∈ ((start settings now).run past).1.devices) (reported : s.ReportsDead settings d)
    (lasting : d.hasMetrics = true →
      d.published = .up ∧ d.telemetryName ∉ ((start settings now).run past).1.timedOut) :
    DeathSticks (Step.ShowsAlive d.telemetryName) ((start settings now).run (past ++ [s])).1
      d.telemetryName := by
  have hconsistent := Consistent.run settings now past
  have hfound := hconsistent.sorted.device?_of_mem registered
  rw [← hconsistent.settings_eq] at reported
  have hdead := (staysDead_reported_iff hconsistent (registered_run settings now past) hfound reported).2 lasting
  rw [run_snoc]
  exact hdead.deathSticks (hconsistent.step s)

/-- A device is announced with one metric, and its death is reported. -/
theorem run_deathSticks_announced :
    let announced := Step.take 0 0 (.bus "BIRTH/APP1/D1"
      (Utf8.encode "\x7b\"metrics\":[\x7b\"name\":\"x\",\"dataType\":\"Int32\",\"value\":5\x7d]\x7d"))
    let report := Step.take 0 0 (.bus "DEATH/APP1/D1" [])
    ∃ d ∈ ((start {} 0).run [announced]).1.devices, d.hasMetrics = true ∧ report.ReportsDead {} d ∧
      DeathSticks (Step.ShowsAlive d.telemetryName) ((start {} 0).run ([announced] ++ [report])).1
        d.telemetryName := by
  intro announced report
  have hdevices : ((start {} 0).run [announced]).1.devices.map
      (fun d => (d.identity, d.hasMetrics, d.published)) =
        [((Source.vendor "APP1" "D1").device.identity, true, .up)] := by
    decide +kernel
  have htimedOut : ((start {} 0).run [announced]).1.timedOut = [] := by decide +kernel
  obtain ⟨d, rest, hlist, hd, -⟩ := List.map_eq_cons_iff.1 hdevices
  obtain ⟨hidentity, hmetrics, hpublished⟩ := by simpa only [Prod.mk.injEq] using hd
  have hsource := (d.isOf_iff (.vendor "APP1" "D1")).2 hidentity
  have hmem : d ∈ ((start {} 0).run [announced]).1.devices := by
    rw [hlist]
    exact List.mem_cons_self
  have hreport : report.ReportsDead {} d := .device (by rfl) hsource
  exact ⟨d, hmem, hmetrics, hreport, run_deathSticks {} 0 [announced] report hmem hreport
    fun _ => ⟨hpublished, by simp [htimedOut]⟩⟩

/-! ## Deaths that do not stick -/

/-- A run at whose end a device is reported dead. -/
structure Report where
  settings : Settings
  past : List Step
  call : Step

namespace Report

def before (r : Report) : Bridge := ((start r.settings 0).run r.past).1

def after (r : Report) : Bridge := ((start r.settings 0).run (r.past ++ [r.call])).1

/-- A birth of a device that is reported dead is published although its source is not heard again. -/
def Resurfaces (r : Report) : Prop :=
  ∃ d ∈ r.before.devices, r.call.ReportsDead r.settings d ∧
    ¬DeathSticks (Step.ShowsSourceAlive d) r.after d.telemetryName

/-- A device with metrics resurfaces if its birth was not published, or if it was kept in mind. -/
theorem resurfaces {r : Report} {name : String} {d : Device} (before : r.before.device? name = some d)
    (reported : r.call.ReportsDead r.settings d) (metrics : d.hasMetrics = true)
    (returns : d.published ≠ .up ∨ name ∈ r.before.timedOut) : r.Resurfaces := by
  refine ⟨d, mem_of_device? before, reported, fun h => ?_⟩
  rw [telemetryName_of_device? before] at h
  have lifeless : ∀ event, ¬Step.ShowsSourceAlive d (.take 0 0 (.connection event)) := by
    intro event halive
    cases halive
  have hconsistent := Consistent.run r.settings 0 r.past
  rw [← hconsistent.settings_eq] at reported
  have hiff := staysDead_reported_iff hconsistent (registered_run r.settings 0 r.past) before reported
  have hafter : r.after = (r.before.step r.call).1 := by
    unfold after
    rw [run_snoc]
    rfl
  rw [hafter] at h
  obtain ⟨hup, hlisted⟩ := hiff.1 (staysDead_of_deathSticks (hconsistent.step r.call) lifeless h) metrics
  rcases returns with hunborn | hmem
  · exact hunborn hup
  · exact hlisted hmem

/-- The readings of a catalog device fail before its birth is published. -/
def unborn : Report where
  settings := { catalog := ⟨[⟨"PL0", "flowmeter", [⟨"Flow", "uint", 1, 40001, .holdingRegister, 0, false⟩]⟩]⟩ }
  past := []
  call := .take 0 0 (.bus "/flowmeter/PL0/Flow/update"
    (Utf8.encode "\x7b\"metric\":\"Flow\",\"status\":\"Bad\",\"error_code\":\"2003\"\x7d"))

/-- The application of a device dies when an outage of the plant bus has expired. -/
def outage : Report where
  settings := {}
  past :=
    [.take 0 0 (.bus "BIRTH/APP1/D1"
        (Utf8.encode "\x7b\"metrics\":[\x7b\"name\":\"x\",\"dataType\":\"Int32\",\"value\":5\x7d]\x7d")),
      .take 0 0 (.connection .busLost), .check 0 60000]
  call := .take 0 60000 (.bus "DEATH/APP1" [])

/-- A device dies whose telemetry name another application can use. -/
def namesake : Report where
  settings := {}
  past :=
    [.take 0 0 (.connection .scadaConnected),
      .take 0 0 (.bus "BIRTH/a/b-c" (Utf8.encode "\x7b\"metrics\":[]\x7d"))]
  call := .take 0 0 (.bus "DEATH/a/b-c" [])

/-- The device `c` of an application `a-b` is announced. -/
def announced : Step := .take 0 0 (.bus "BIRTH/a-b/c" (Utf8.encode "\x7b\"metrics\":[]\x7d"))

theorem resurfaces_unborn : unborn.Resurfaces := by
  have hbefore : (unborn.before.device? "flowmeter-PL0").map
      (fun d => (d.identity, (d.metric? "Flow").isSome, d.hasMetrics, d.published)) =
        some ((Source.site "flowmeter" "PL0").device.identity, true, true, .none) := by
    decide +kernel
  obtain ⟨d, hd, heq⟩ := Option.map_eq_some_iff.1 hbefore
  obtain ⟨hidentity, hpoint, hmetrics, hpublished⟩ := by simpa only [Prod.mk.injEq] using heq
  have hreading : (Reading.parse (Utf8.encode
      "\x7b\"metric\":\"Flow\",\"status\":\"Bad\",\"error_code\":\"2003\"\x7d")).toOption.map
        (fun r => (r.isGood, r.errorCode)) = some (false, 2003) := by
    decide +kernel
  cases hparsed : Reading.parse (Utf8.encode
      "\x7b\"metric\":\"Flow\",\"status\":\"Bad\",\"error_code\":\"2003\"\x7d") with
  | error fault =>
    rw [hparsed] at hreading
    simp [Except.toOption] at hreading
  | ok r =>
    rw [hparsed] at hreading
    obtain ⟨hgood, hcode⟩ := Prod.mk.inj (Option.some.inj hreading)
    have hreported : unborn.call.ReportsDead unborn.settings d :=
      .reading (by rfl) ((d.isOf_iff _).2 hidentity) hpoint hparsed hgood (by rw [hcode]; rfl)
    exact resurfaces hd hreported hmetrics (.inl (by simp [hpublished]))

theorem resurfaces_outage : outage.Resurfaces := by
  have hbefore : (outage.before.device? "APP1-D1").map (fun d => (d.identity, d.hasMetrics)) =
      some ((Source.vendor "APP1" "D1").device.identity, true) := by
    decide +kernel
  have hlisted : outage.before.timedOut = ["APP1-D1"] := by decide +kernel
  obtain ⟨d, hd, heq⟩ := Option.map_eq_some_iff.1 hbefore
  obtain ⟨hidentity, hmetrics⟩ := Prod.mk.inj heq
  have hsource := (d.isOf_iff (.vendor "APP1" "D1")).2 hidentity
  have hreported : outage.call.ReportsDead outage.settings d := .app (by rfl) hsource.2.2
  exact resurfaces hd hreported hmetrics (.inr (by simp [hlisted]))

theorem resurfaces_namesake : namesake.Resurfaces := by
  have hbefore : (namesake.before.device? "a-b-c").map Device.identity =
      some (Source.vendor "a" "b-c").device.identity := by
    decide +kernel
  obtain ⟨d, hd, hidentity⟩ := Option.map_eq_some_iff.1 hbefore
  have hsource := (d.isOf_iff (.vendor "a" "b-c")).2 hidentity
  refine ⟨d, mem_of_device? hd, .device (by rfl) hsource, fun h => ?_⟩
  have hborn : ((namesake.after.run [announced]).2.filterMap Event.sparkplug?).filterMap
      (Outbound.kindFor? "a-b-c") = [.deviceBirth] := by
    decide +kernel
  have hmem : .deviceBirth ∈ ((namesake.after.run [announced]).2.filterMap Event.sparkplug?).filterMap
      (Outbound.kindFor? "a-b-c") := by
    rw [hborn]
    exact List.mem_singleton.2 rfl
  obtain ⟨topic, payload, hpublished, named, hkind⟩ := exists_published_of_kind hmem
  rw [telemetryName_of_device? hd] at h
  refine h [announced] (fun s hs => ?_) topic payload hpublished named hkind
  rw [List.mem_singleton.1 hs]
  have htopic : BusTopic.parse "BIRTH/a-b/c" = .ok (.birth "a-b" "c") := by rfl
  unfold announced
  intro halive
  cases halive with
  | birth parsed source =>
    cases htopic.symm.trans parsed
    exact absurd (hsource.unique source) (by decide)
  | data parsed _ => cases htopic.symm.trans parsed
  | reading parsed _ _ _ => cases htopic.symm.trans parsed

end Report

/-- Three deaths that do not stick: that of a catalog device before its birth is published, that of a device
whose application dies in an outage of the plant bus that has expired, and that of a device whose namesake is
announced. -/
theorem not_deathSticks :
    Report.unborn.Resurfaces ∧ Report.outage.Resurfaces ∧ Report.namesake.Resurfaces :=
  ⟨Report.resurfaces_unborn, Report.resurfaces_outage, Report.resurfaces_namesake⟩

end Bridge

end ScadaBridge
