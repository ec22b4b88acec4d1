import ScadaBridge.Proofs.Bridge.Call

/-!
# Keeping an account of the devices

`Account Q` says that a property `Q` of a device and of the events so far is kept up by what is published
about the device: a birth establishes it, data that the device heard restore it, a dead device has it for
nothing, and a birth of the edge node leaves it to devices without metrics. All other messages are silent.

From these laws `Account.ready_run` concludes that the property holds of every device after every run, as
long as the SCADA broker is connected, and `Account.calls` that data and deaths are published only of
devices that have it. The proof follows the devices through the calls: at every time the property is
missing only of devices that are `pending`, whose births or data are about to be published.

Births and data are about devices whose metrics are well-formed, so this is carried along, and holds in all
reachable states (`run_whole`).
-/

namespace ScadaBridge

open Ordered

def Event.kind? : Event → Option MessageKind
  | .published (.sparkplug topic _) => some topic.kind
  | .published (.bus _ _) | .will _ => none

/-- The event tells nothing of a device but, perhaps, its death. -/
def Event.Silent (name : String) : Event → Prop
  | .published (.sparkplug topic _) =>
    topic.kind ≠ .nodeBirth ∧ (topic.device = some name → topic.kind = .deviceDeath)
  | .published (.bus _ _) | .will _ => True

theorem Event.Silent.kind?_ne {e : Event} {name : String} (h : e.Silent name) : e.kind? ≠ some .nodeBirth := by
  cases e with
  | will _ => simp [Event.kind?]
  | published message =>
    cases message with
    | sparkplug topic payload => exact fun heq => h.1 (Option.some.inj heq)
    | bus _ _ => simp [Event.kind?]

namespace Bridge

/-- The bridge at the latest birth of the edge node, after a call that published `more`. -/
def renewed (latest : Option Bridge) (b : Bridge) (more : List Event) : Option Bridge :=
  if ∃ e ∈ more, e.kind? = some .nodeBirth then some b else latest

/-- The bridge after the latest of the calls that published a birth of the edge node. -/
def atNodeBirth? (b : Bridge) (steps : List Step) : Option Bridge :=
  (steps.foldl (fun (latest, b) s => (renewed latest (b.step s).1 (b.step s).2, (b.step s).1))
    (none, b)).1

theorem atNodeBirth?_snoc (b : Bridge) (steps : List Step) (s : Step) :
    b.atNodeBirth? (steps ++ [s]) =
      renewed (b.atNodeBirth? steps) ((b.run steps).1.step s).1 ((b.run steps).1.step s).2 := by
  have hstate : ∀ (steps : List Step) (latest : Option Bridge) (b : Bridge),
      (steps.foldl (fun (latest, b) s => (renewed latest (b.step s).1 (b.step s).2, (b.step s).1))
        (latest, b)).2 = (b.run steps).1 := by
    intro steps
    induction steps with
    | nil => exact fun _ _ => rfl
    | cons s rest ih => exact fun latest b => ih _ (b.step s).1
  unfold atNodeBirth?
  rw [List.foldl_append, List.foldl_cons, List.foldl_nil, ← hstate steps none b]

theorem renewed_of_same {latest : Option Bridge} {b : Bridge} {more : List Event}
    (h : ∀ e ∈ more, e.kind? ≠ some .nodeBirth) : renewed latest b more = latest := by
  unfold renewed
  rw [if_neg]
  rintro ⟨e, he, hkind⟩
  exact h e he hkind

section Bus

variable {latest : Option Bridge} {b : Bridge} {messages : List Outbound} {more : List Event}

theorem not_exists_nodeBirth_bus (hbus : OnBus messages) :
    ¬∃ e ∈ messages.map Event.published, e.kind? = some .nodeBirth := by
  rintro ⟨e, he, hkind⟩
  obtain ⟨message, hm, rfl⟩ := List.mem_map.1 he
  obtain ⟨topic, content, rfl⟩ := hbus message hm
  simp [Event.kind?] at hkind

theorem renewed_bus_left (hbus : OnBus messages) :
    renewed latest b (messages.map .published ++ more) = renewed latest b more := by
  simp only [renewed, List.mem_append, or_and_right, exists_or, not_exists_nodeBirth_bus hbus, false_or]

theorem renewed_bus_right (hbus : OnBus messages) :
    renewed latest b (more ++ messages.map .published) = renewed latest b more := by
  simp only [renewed, List.mem_append, or_and_right, exists_or, not_exists_nodeBirth_bus hbus, or_false]

end Bus

/-! ## Devices stay well-formed -/

def Whole (b : Bridge) : Prop := ∀ name d, b.device? name = some d → Metric.WellFormedAll d.metrics

theorem Whole.putDevice {b : Bridge} (h : b.Whole) {d : Device} (hd : Metric.WellFormedAll d.metrics) :
    (b.putDevice d).Whole := by
  intro name e he
  rw [device?_putDevice] at he
  split at he
  · cases he
    exact hd
  · exact h name e he

theorem Whole.of_map_device? {b b' : Bridge} (h : b.Whole)
    (hmetrics : ∀ name, (b'.device? name).map Device.metrics = (b.device? name).map Device.metrics) :
    b'.Whole := by
  intro name e he
  have hname := hmetrics name
  rw [he, Option.map_some] at hname
  obtain ⟨d, hd, heq⟩ := Option.map_eq_some_iff.1 hname.symm
  rw [← heq]
  exact h name d hd

theorem Emits.whole {now : UInt64} {b b' : Bridge} {messages : List Outbound}
    (he : Emits now b messages b') (h : b.Whole) : b'.Whole :=
  h.of_map_device? fun name => he.map_device? (fun _ _ _ => rfl) name

theorem Whole.declareAllDead {b : Bridge} (h : b.Whole) (timestamp : UInt64) (names : List String) :
    (b.declareAllDead timestamp names).1.Whole := by
  refine h.of_map_device? fun name => ?_
  rw [device?_declareAllDead, Option.map_map]
  congr 1
  funext d
  simp only [Function.comp_apply]
  split <;> rfl

theorem Whole.restore {b : Bridge} (h : b.Whole) : b.restore.1.Whole := by
  refine h.of_map_device? fun name => ?_
  unfold Bridge.restore
  rw [device?_reviveAll, Option.map_map]
  show Option.map _ (b.device? name) = _
  congr 1
  funext d
  simp only [Function.comp_apply]
  split <;> rfl

/-- The device that an announcement is for is well-formed; one that is created has no metrics. -/
theorem Whole.claimed {b : Bridge} (h : b.Whole) {app device : String} {d : Device}
    (claimed : (b.device? (Device.joinedName app device)).getD (.ofVendor app device) = d) :
    Metric.WellFormedAll d.metrics := by
  rcases (claimed_cases claimed).2 with hd | ⟨-, rfl⟩
  · exact h _ d hd
  · exact .nil

theorem Turn.whole {b b' : Bridge} {topic : BusTopic} {actions : List Action}
    (hturn : b.Turn topic b' actions) (h : b.Whole) : b'.Whole := by
  cases hturn with
  | idle => exact h
  | @announced app device d d' _ hclaimed hears =>
    have hd := hears.wellFormed (h.claimed hclaimed)
    exact Whole.putDevice (b := { b with apps := _ }) h hd
  | data hfound hears =>
    exact h.putDevice (hears.wellFormed (h _ _ (device?_of_vendorDevice? hfound)))
  | reading hfound hears =>
    exact h.putDevice (hears.wellFormed (h _ _ (device?_of_catalogDevice? hfound)))
  | @deaths _ names apps timestamp _ =>
    exact Whole.declareAllDead (b := { b with apps := apps }) h timestamp names
  | definitions => exact h

theorem start_whole (settings : Settings) (now : UInt64) : (start settings now).Whole :=
  start_induction (P := fun _ b => b.Whole) (fun _ _ h => by simp [blank, device?, find?] at h)
    (fun _ _ _ hb _ => hb) fun _ _ c hb _ => hb.putDevice (c.toDevice_wellFormed now)

/-! ## Accounts -/

/-- A property of devices, given the bridge at the latest birth of the edge node and the events so far,
that is kept up by what is published. -/
structure Account (Q : Option Bridge → List Event → Device → Prop) : Prop where
  /-- Messages that are silent about a device change nothing. -/
  silent : ∀ {latest seen d e}, Q latest seen d → e.Silent d.telemetryName → Q latest (seen ++ [e]) d
  /-- A dead device has the property. -/
  down : ∀ {latest seen d}, d.known = .down → Q latest seen d
  /-- A sign of life of a device that owes no birth changes nothing. -/
  alive : ∀ {latest seen d}, Q latest seen d → d.needsBirth = false →
    Q latest seen { d with known := .up }
  /-- The time of a death changes nothing. -/
  dying : ∀ {latest seen d timestamp}, Q latest seen d → Q latest seen (d.markDead timestamp)
  /-- The birth of a device establishes the property. -/
  birth : ∀ {latest seen now} {b : Bridge} {d}, Metric.WellFormedAll d.metrics →
    Q latest (seen ++ [.published (b.deviceBirth now d).2]) (d.birth now).1
  /-- Data that a device heard keep it up when they are published. -/
  data : ∀ {latest seen now} {b : Bridge} {d d' changes payload}, Metric.WellFormedAll d.metrics →
    Q latest seen d → d.Hears d' [.data d.telemetryName changes] →
      d'.data changes now = ({ d' with published := .up }, some payload) →
        Q latest
          (seen ++ [.published (b.deviceMessage .deviceData { d' with published := .up } payload).2])
          { d' with published := .up }
  /-- A birth of the edge node leaves the property to devices without metrics. -/
  reborn : ∀ {b : Bridge} {seen d e}, e.kind? = some .nodeBirth → d.metrics = [] →
    (b.device? d.telemetryName).map Device.metrics = some [] → Q (some b) (seen ++ [e]) d

/-- Devices have a property, unless they are pending. -/
def Kept (Q : List Event → Device → Prop) (pending : String → Prop) (b : Bridge) (seen : List Event) :
    Prop :=
  ∀ name d, b.device? name = some d → ¬pending name → Q seen d

/-- Data and deaths are published of devices that have a property and owe no birth. -/
def Founded (Q : List Event → Device → Prop) (seen : List Event) (topic : SparkplugTopic)
    (_ : Wire.Payload) : Prop :=
  topic.kind = .deviceData ∨ topic.kind = .deviceDeath →
    ∃ d, topic.device = some d.telemetryName ∧ d.needsBirth = false ∧ Q seen d

theorem Kept.mono {Q : List Event → Device → Prop} {pending pending' : String → Prop} {b : Bridge}
    {seen : List Event} (h : Kept Q pending b seen)
    (hmono : ∀ name d, b.device? name = some d → pending name → pending' name) : Kept Q pending' b seen :=
  fun name d hd hpending => h name d hd fun hp => hpending (hmono name d hd hp)

/-- What publishing keeps up, as far as the edge node is not born: the property, and the rule for data and
deaths. -/
structure Keeps (Q : List Event → Device → Prop) (pending : String → Prop) (b : Bridge)
    (seen more : List Event) : Prop where
  kept : Kept Q pending b (seen ++ more)
  rule : Respects (Founded Q) seen more
  same : ∀ e ∈ more, e.kind? ≠ some .nodeBirth

theorem Keeps.append {Q : List Event → Device → Prop} {pending pending' : String → Prop}
    {b b' : Bridge} {seen first second : List Event} (h : Keeps Q pending b seen first)
    (h' : Keeps Q pending' b' (seen ++ first) second) : Keeps Q pending' b' seen (first ++ second) := by
  refine ⟨?_, h.rule.append h'.rule, fun e he => ?_⟩
  · rw [← List.append_assoc]
    exact h'.kept
  · rcases List.mem_append.1 he with he | he
    · exact h.same e he
    · exact h'.same e he

theorem Keeps.mono {Q : List Event → Device → Prop} {pending pending' : String → Prop} {b : Bridge}
    {seen more : List Event} (h : Keeps Q pending b seen more)
    (hmono : ∀ name d, b.device? name = some d → pending name → pending' name) :
    Keeps Q pending' b seen more := ⟨h.kept.mono hmono, h.rule, h.same⟩

theorem Kept.keeps {Q : List Event → Device → Prop} {pending : String → Prop} {b : Bridge}
    {seen : List Event} (h : Kept Q pending b seen) : Keeps Q pending b seen [] :=
  ⟨by rw [List.append_nil]; exact h, respects_nil, by simp⟩

theorem silent_deviceMessage {b : Bridge} {kind : MessageKind} {d : Device} {payload : Wire.Payload}
    {name : String} (hkind : kind ≠ .nodeBirth) (hname : d.telemetryName = name → kind = .deviceDeath) :
    (Event.published (b.deviceMessage kind d payload).2).Silent name :=
  ⟨hkind, fun heq => hname (Option.some.inj heq)⟩

namespace Account

variable {Q : Option Bridge → List Event → Device → Prop} {latest : Option Bridge}
  {pending : String → Prop} {b : Bridge} {seen : List Event}

/-! ## Single messages -/

theorem silent_append (acc : Account Q) {d : Device} (h : Q latest seen d) {more : List Event}
    (hmore : ∀ e ∈ more, e.Silent d.telemetryName) : Q latest (seen ++ more) d := by
  induction more generalizing seen with
  | nil =>
    rw [List.append_nil]
    exact h
  | cons e rest ih =>
    have hrest := ih (acc.silent h (hmore e List.mem_cons_self)) fun x hx =>
      hmore x (List.mem_cons_of_mem _ hx)
    rw [List.append_assoc] at hrest
    exact hrest

/-- A message about a device that has the property after it settles what was pending of the device. -/
theorem kept_deviceMessage (acc : Account Q) (h : Kept (Q latest) pending b seen) {kind : MessageKind}
    (hkind : kind ≠ .nodeBirth) {d : Device} {payload : Wire.Payload}
    (hself : Q latest (seen ++ [.published (b.deviceMessage kind d payload).2]) d) :
    Kept (Q latest) (fun name => pending name ∧ name ≠ d.telemetryName)
      (b.deviceMessage kind d payload).1 (seen ++ [.published (b.deviceMessage kind d payload).2]) := by
  intro name e he hpending
  rw [device?_deviceMessage] at he
  split at he
  · cases he
    exact hself
  · next hne =>
    have hname : e.telemetryName = name := telemetryName_of_device? he
    have hold := h name e he fun hp => hpending ⟨hp, Ne.symm hne⟩
    refine acc.silent hold (silent_deviceMessage hkind fun heq => ?_)
    rw [hname] at heq
    exact absurd heq hne

theorem keeps_birth (acc : Account Q) (h : Kept (Q latest) pending b seen) (now : UInt64) {d : Device}
    (hd : Metric.WellFormedAll d.metrics) :
    Keeps (Q latest) (fun name => pending name ∧ name ≠ d.telemetryName) (b.deviceBirth now d).1 seen
      [.published (b.deviceBirth now d).2] := by
  refine ⟨acc.kept_deviceMessage h (by simp) (acc.birth hd), respects_singleton ?_, ?_⟩
  · intro topic payload heq hkind
    cases heq
    simp [deviceTopic] at hkind
  · simp [Event.kind?, deviceBirth, deviceMessage, deviceTopic]

/-- A death is published of a device that has the property and owes no birth. -/
theorem keeps_death (acc : Account Q) (h : Kept (Q latest) pending b seen) {d e : Device}
    (hname : e.telemetryName = d.telemetryName) (hborn : e.needsBirth = false) (hfounded : Q latest seen e) :
    Keeps (Q latest) pending (b.deviceMessage .deviceDeath d.death.1 d.death.2).1 seen
      [.published (b.deviceMessage .deviceDeath d.death.1 d.death.2).2] := by
  have hkind : MessageKind.deviceDeath ≠ .nodeBirth := by simp
  have hdown : d.death.1.known = .down := rfl
  refine ⟨(acc.kept_deviceMessage h hkind (acc.down hdown)).mono fun _ _ _ hp => hp.1,
    respects_singleton ?_, ?_⟩
  · intro topic payload heq _
    cases heq
    exact ⟨e, congrArg some hname.symm, hborn, hfounded⟩
  · simp [Event.kind?, deviceMessage, deviceTopic]

theorem keeps_bus (acc : Account Q) (h : Kept (Q latest) pending b seen) {messages : List Outbound}
    (hbus : OnBus messages) : Keeps (Q latest) pending b seen (messages.map .published) := by
  have hmessage : ∀ e ∈ messages.map Event.published,
      ∃ topic content, e = .published (.bus topic content) := by
    intro e he
    obtain ⟨message, hm, rfl⟩ := List.mem_map.1 he
    obtain ⟨topic, content, rfl⟩ := hbus message hm
    exact ⟨topic, content, rfl⟩
  refine ⟨fun name d hd hpending => ?_, respects_bus hbus, fun e he => ?_⟩
  · refine acc.silent_append (h name d hd hpending) fun e he => ?_
    obtain ⟨topic, content, rfl⟩ := hmessage e he
    trivial
  · obtain ⟨topic, content, rfl⟩ := hmessage e he
    simp [Event.kind?]

/-! ## Publishing -/

/-- Actions that may be published together: births of whatever devices, or deaths of devices that have a
property and owe no birth. -/
def Fits (Q : List Event → Device → Prop) (seen : List Event) (actions : List Action) : Prop :=
  (∀ action ∈ actions, ∃ name, action = .birth name) ∨
    ∀ action ∈ actions, ∃ e : Device, action = .death e.telemetryName ∧ e.needsBirth = false ∧ Q seen e

theorem keeps_render_birth (acc : Account Q) (h : Kept (Q latest) pending b seen) (hw : b.Whole)
    (now : UInt64) (name : String) :
    Keeps (Q latest) (fun other => pending other ∧ other ≠ name) (b.render now (.birth name)).1 seen
      ((b.render now (.birth name)).2.map .published) := by
  cases hd : b.device? name with
  | none =>
    simp only [Bridge.render, hd]
    refine (h.mono fun other d hother hp => ⟨hp, ?_⟩).keeps
    rintro rfl
    rw [hd] at hother
    simp at hother
  | some d =>
    have hname : d.telemetryName = name := telemetryName_of_device? hd
    rw [render_birth hd, ← hname]
    exact acc.keeps_birth h now (hw name d hd)

theorem keeps_render_death (acc : Account Q) (h : Kept (Q latest) pending b seen) (now : UInt64)
    {e : Device} (hborn : e.needsBirth = false) (hfounded : Q latest seen e) :
    Keeps (Q latest) pending (b.render now (.death e.telemetryName)).1 seen
      ((b.render now (.death e.telemetryName)).2.map .published) := by
  cases hd : b.device? e.telemetryName with
  | none =>
    simp only [Bridge.render, hd]
    exact h.keeps
  | some d =>
    rw [render_death hd]
    exact acc.keeps_death h (telemetryName_of_device? hd).symm hborn hfounded

/-- A death is silent about whatever device. -/
theorem silent_render_death (b : Bridge) (now : UInt64) (name : String) {e : Event}
    (he : e ∈ (b.render now (.death name)).2.map Event.published) (listed : String) : e.Silent listed := by
  cases hd : b.device? name with
  | none => simp [Bridge.render, hd] at he
  | some d =>
    rw [render_death hd, List.map_cons, List.map_nil, List.mem_singleton] at he
    subst he
    exact silent_deviceMessage (by simp) fun _ => rfl

/-- Publishing actions that fit settles what is pending of the births among them. -/
theorem keeps_publish (acc : Account Q) (h : Kept (Q latest) pending b seen) (hw : b.Whole)
    (hs : b.Sorted) (outlet : b.outletOpen = true) (online : b.online = true) (now : UInt64)
    {actions : List Action} (hfits : Fits (Q latest) seen actions) :
    Keeps (Q latest) (fun name => pending name ∧ .birth name ∉ actions) (b.publish now actions).1 seen
      ((b.publish now actions).2.map .published) := by
  -- each action settles its own device, so what is pending shrinks along the list
  induction actions generalizing b seen pending with
  | nil => exact (h.mono fun _ _ _ hp => ⟨hp, by simp⟩).keeps
  | cons action rest ih =>
    have he := render_emits hs now action
    have houtlet := he.outletOpen_eq.trans outlet
    have honline := he.online_eq.trans online
    show Keeps _ _ ((b.render now action).1.publish now rest).1 seen _
    rw [publish_cons_online hs outlet online, List.map_append]
    rcases hfits with hbirths | hdeaths
    · obtain ⟨name, rfl⟩ := hbirths action List.mem_cons_self
      have hfirst := acc.keeps_render_birth h hw now name
      have hrest := ih hfirst.kept (he.whole hw) (he.sorted hs) houtlet honline
        (.inl fun a ha => hbirths a (List.mem_cons_of_mem _ ha))
      refine (hfirst.append hrest).mono fun other _ _ hp => ⟨hp.1.1, ?_⟩
      rw [List.mem_cons, not_or]
      exact ⟨fun heq => hp.1.2 (Action.birth.inj heq), hp.2⟩
    · obtain ⟨e, rfl, hborn, hfounded⟩ := hdeaths action List.mem_cons_self
      have hfirst := acc.keeps_render_death h now hborn hfounded
      have hrest := ih hfirst.kept (he.whole hw) (he.sorted hs) houtlet honline <| .inr fun a ha => by
        obtain ⟨e', rfl, hborn', hfounded'⟩ := hdeaths a (List.mem_cons_of_mem _ ha)
        exact ⟨e', rfl, hborn', acc.silent_append hfounded' fun x hx => silent_render_death b now _ hx _⟩
      refine (hfirst.append hrest).mono fun other _ _ hp => ⟨hp.1, ?_⟩
      rw [List.mem_cons, not_or]
      exact ⟨by simp, hp.2⟩

/-- Publishing data that a device heard settles what is pending of the device. -/
theorem keeps_publish_data (acc : Account Q) (h : Kept (Q latest) pending b seen)
    (outlet : b.outletOpen = true) (online : b.online = true) (now : UInt64) {d d' : Device}
    {changes : ChangeSet} (hd : Metric.WellFormedAll d.metrics) (hborn : d.needsBirth = false)
    (hfounded : Q latest seen d) (hears : d.Hears d' [.data d.telemetryName changes])
    (found : b.device? d.telemetryName = some d') :
    Keeps (Q latest) (fun name => pending name ∧ name ≠ d.telemetryName)
      (b.publish now [.data d.telemetryName changes]).1 seen
      ((b.publish now [.data d.telemetryName changes]).2.map .published) := by
  obtain ⟨payload, hdata⟩ := hears.exists_data now
  have hpasses : (b.deviceMessage .deviceData { d' with published := .up } payload).1.passes
      (b.deviceMessage .deviceData { d' with published := .up } payload).2 = true := by
    simp [passes, deviceMessage, stamp, Bridge.putDevice, outlet, online]
  have hself := acc.data (b := b) hd hfounded hears hdata
  have hname : ({ d' with published := .up } : Device).telemetryName = d.telemetryName :=
    hears.telemetryName_eq
  simp only [Bridge.publish, render_data found hdata, send, List.filter_cons, hpasses, if_true,
    List.filter_nil, List.append_nil, List.map_cons, List.map_nil]
  refine ⟨?_, respects_singleton ?_, ?_⟩
  · have hkept := acc.kept_deviceMessage h (by simp) hself
    exact hkept.mono fun name _ _ hp => ⟨hp.1, fun heq => hp.2 (heq.trans hname.symm)⟩
  · intro topic stamped heq _
    cases heq
    exact ⟨d, congrArg some hname, hborn, hfounded⟩
  · simp [Event.kind?, deviceMessage, deviceTopic]

/-- The births of the live devices settle what is pending of these. -/
theorem keeps_liveBirths (acc : Account Q) (h : Kept (Q latest) pending b seen) (now : UInt64)
    {devices : List Device} (hd : ∀ d ∈ devices, Metric.WellFormedAll d.metrics) :
    Keeps (Q latest) (fun name => pending name ∧ ∀ d ∈ devices, d.hasMetrics → d.known ≠ .down →
        name ≠ d.telemetryName) (b.liveBirths now devices).1 seen
      ((b.liveBirths now devices).2.map .published) := by
  induction devices generalizing b seen pending with
  | nil => exact (h.mono fun _ _ _ hp => ⟨hp, by simp⟩).keeps
  | cons d rest ih =>
    have hrest : ∀ e ∈ rest, Metric.WellFormedAll e.metrics := fun e he => hd e (List.mem_cons_of_mem _ he)
    unfold Bridge.liveBirths
    split
    · have hfirst := acc.keeps_birth h now (hd d List.mem_cons_self)
      refine (hfirst.append (ih hfirst.kept hrest)).mono fun name _ _ hp => ?_
      refine ⟨hp.1.1, fun e he hmetrics halive => ?_⟩
      rcases List.mem_cons.1 he with rfl | he
      · exact hp.1.2
      · exact hp.2 e he hmetrics halive
    · next hdead =>
      refine (ih h hrest).mono fun name _ _ hp => ⟨hp.1, fun e he hmetrics halive => ?_⟩
      rcases List.mem_cons.1 he with rfl | he
      · simp [hmetrics, halive] at hdead
      · exact hp.2 e he hmetrics halive

/-- After a birth of the edge node every device has the property: the live ones by their births, the others
because they are dead or have no metrics. -/
theorem kept_nodeRebirth (acc : Account Q) (hs : b.Sorted) (hw : b.Whole) (now : UInt64)
    (seen : List Event) :
    Kept (Q (some (b.render now .nodeRebirth).1)) (fun _ => False) (b.render now .nodeRebirth).1
        (seen ++ (b.render now .nodeRebirth).2.map .published) ∧
      Respects (Founded (Q latest)) seen ((b.render now .nodeRebirth).2.map .published) := by
  have he := render_emits hs now .nodeRebirth
  have hmetrics : ∀ name, ((b.render now .nodeRebirth).1.device? name).map Device.metrics =
      (b.device? name).map Device.metrics := fun name => he.map_device? (fun _ _ _ => rfl) name
  have hwell : ∀ d ∈ b.devices, Metric.WellFormedAll d.metrics :=
    fun d hd => hw d.telemetryName d (hs.device?_of_mem hd)
  rw [render_nodeRebirth] at hmetrics ⊢
  dsimp only at hmetrics ⊢
  generalize hnode : Event.published (.sparkplug (b.nodeTopic .nodeBirth) (b.nodeBirth now b.session).2) =
    node
  have hlist : ∀ messages : List Outbound, (Outbound.sparkplug (b.nodeTopic .nodeBirth)
      (b.nodeBirth now b.session).2 :: messages).map Event.published = [node] ++ messages.map .published := by
    intro messages
    rw [← hnode]
    rfl
  have hkind : node.kind? = some .nodeBirth := by
    rw [← hnode]
    rfl
  rw [hlist]
  constructor
  · -- the live devices with metrics are still to be born
    have hstart : Kept (Q (some ((b.nodeBirth now b.session).1.liveBirths now b.devices).1))
        (fun name => ∃ d ∈ b.devices, d.hasMetrics ∧ d.known ≠ .down ∧ name = d.telemetryName)
        (b.nodeBirth now b.session).1 (seen ++ [node]) := by
      intro name d hd hpending
      have hd' : b.device? name = some d := hd
      have hname : d.telemetryName = name := telemetryName_of_device? hd'
      by_cases hdown : d.known = .down
      · exact acc.down hdown
      · have hempty : d.metrics = [] := by
          by_contra hne
          refine hpending ⟨d, mem_of_device? hd', ?_, hdown, hname.symm⟩
          simpa [Device.hasMetrics] using hne
        refine acc.reborn hkind hempty ?_
        rw [hmetrics, hname, hd', Option.map_some, hempty]
    rw [← List.append_assoc]
    refine (acc.keeps_liveBirths hstart now hwell).kept.mono fun name _ _ hp => ?_
    obtain ⟨⟨d, hd, hmetrics, halive, hname⟩, hnone⟩ := hp
    exact hnone d hd hmetrics halive hname
  · -- births are all that is published, so nothing is asked of the property
    have hstart : Kept (Q latest) (fun _ => True) (b.nodeBirth now b.session).1 (seen ++ [node]) :=
      fun _ _ _ hpending => absurd trivial hpending
    refine Respects.append (respects_singleton fun topic payload heq hdata => ?_)
      (acc.keeps_liveBirths hstart now hwell).rule
    rw [heq] at hkind
    rw [Option.some.inj hkind] at hdata
    simp at hdata

end Account

/-! ## The calls -/

/-- What holds between the calls. -/
structure Ready (Q : Option Bridge → List Event → Device → Prop) (latest : Option Bridge) (b : Bridge)
    (seen : List Event) : Prop where
  sorted : b.Sorted
  /-- What is published has a receiver. -/
  outlet : b.outletOpen = true
  whole : b.Whole
  /-- While the broker is connected, every device has the property. -/
  kept : b.online = true → Kept (Q latest) (fun _ => False) b seen

/-- A call that publishes `more` keeps the rule and leaves the bridge ready for the next one. -/
structure Advances (Q : Option Bridge → List Event → Device → Prop) (latest : Option Bridge) (b : Bridge)
    (seen more : List Event) : Prop where
  rule : Respects (Founded (Q latest)) seen more
  ready : Ready Q (renewed latest b more) b (seen ++ more)

/-- Nothing is published while the broker is away. -/
theorem publish_offline {b : Bridge} (hs : b.Sorted) (outlet : b.outletOpen = true)
    (offline : b.online = false) (now : UInt64) (actions : List Action) :
    (b.publish now actions).2 = [] ∧ (b.publish now actions).1.online = false := by
  obtain ⟨messages, he, hsent⟩ := publish_emits hs now actions
  rw [hsent, he.send_eq outlet, he.online_eq, offline]
  exact ⟨rfl, rfl⟩

namespace Account

variable {Q : Option Bridge → List Event → Device → Prop} {latest : Option Bridge} {b b' : Bridge}
  {seen first second : List Event} {messages : List Outbound} {actions : List Action}

theorem quiet (h : Ready Q latest b seen) : Advances Q latest b seen [] :=
  ⟨respects_nil, by rw [renewed_of_same (by simp), List.append_nil]; exact h⟩

/-- Messages on the plant bus may come in between. -/
theorem ready_bus (acc : Account Q) (h : Ready Q latest b seen) (hbus : OnBus messages) :
    Ready Q latest b (seen ++ messages.map .published) :=
  ⟨h.sorted, h.outlet, h.whole, fun online => (acc.keeps_bus (h.kept online) hbus).kept⟩

theorem advances_bus_left (hbus : OnBus messages)
    (h : Advances Q latest b (seen ++ messages.map .published) second) :
    Advances Q latest b seen (messages.map .published ++ second) := by
  refine ⟨(respects_bus hbus).append h.rule, ?_⟩
  rw [renewed_bus_left hbus, ← List.append_assoc]
  exact h.ready

theorem advances_bus_right (acc : Account Q) (h : Advances Q latest b seen first) (hbus : OnBus messages) :
    Advances Q latest b seen (first ++ messages.map .published) := by
  refine ⟨h.rule.append (respects_bus hbus), ?_⟩
  rw [renewed_bus_right hbus, ← List.append_assoc]
  exact acc.ready_bus h.ready hbus

/-- It is enough to look at what is published while the broker is connected. -/
theorem advances_publish (hs : b.Sorted) (outlet : b.outletOpen = true) (hw : b.Whole) (now : UInt64)
    (h : b.online = true →
      Respects (Founded (Q latest)) seen ((b.publish now actions).2.map .published) ∧
        Kept (Q (renewed latest (b.publish now actions).1 ((b.publish now actions).2.map .published)))
          (fun _ => False) (b.publish now actions).1
          (seen ++ (b.publish now actions).2.map .published)) :
    Advances Q latest (b.publish now actions).1 seen ((b.publish now actions).2.map .published) := by
  obtain ⟨messages, he, -⟩ := publish_emits hs now actions
  have hsorted := he.sorted hs
  have houtlet := he.outletOpen_eq.trans outlet
  cases honline : b.online with
  | true => exact ⟨(h honline).1, hsorted, houtlet, he.whole hw, fun _ => (h honline).2⟩
  | false =>
    obtain ⟨hnothing, hoffline⟩ := publish_offline hs outlet honline now actions
    refine ⟨?_, hsorted, houtlet, he.whole hw, fun online => ?_⟩
    · rw [hnothing]
      exact respects_nil
    · rw [hoffline] at online
      exact absurd online Bool.false_ne_true

theorem advances_of_keeps (hs : b.Sorted) (outlet : b.outletOpen = true) (hw : b.Whole) (now : UInt64)
    (h : b.online = true → Keeps (Q latest) (fun _ => False) (b.publish now actions).1 seen
      ((b.publish now actions).2.map .published)) :
    Advances Q latest (b.publish now actions).1 seen ((b.publish now actions).2.map .published) := by
  refine advances_publish hs outlet hw now fun online => ⟨(h online).rule, ?_⟩
  rw [renewed_of_same (h online).same]
  exact (h online).kept

/-- The edge node may be born at any time. -/
theorem advances_nodeRebirth (acc : Account Q) (hs : b.Sorted) (outlet : b.outletOpen = true)
    (hw : b.Whole) (now : UInt64) (seen : List Event) :
    Advances Q latest (b.publish now [.nodeRebirth]).1 seen
      ((b.publish now [.nodeRebirth]).2.map .published) := by
  refine advances_publish hs outlet hw now fun online => ?_
  have hsent : (b.publish now [.nodeRebirth]).2 = (b.render now .nodeRebirth).2 :=
    (publish_cons_online hs outlet online now .nodeRebirth []).trans (List.append_nil _)
  obtain ⟨hkept, hrule⟩ := acc.kept_nodeRebirth hs hw now seen
  have hrenewed : renewed latest (b.publish now [.nodeRebirth]).1
      ((b.publish now [.nodeRebirth]).2.map .published) = some (b.render now .nodeRebirth).1 := by
    unfold renewed
    rw [if_pos]
    · rfl
    · rw [hsent]
      exact ⟨_, List.mem_cons_self, rfl⟩
  rw [hrenewed, hsent]
  exact ⟨hrule, hkept⟩

/-! ## What the calls publish -/

/-- What a device hears either is told by its birth, or changes a device that has the property. -/
theorem keeps_hears (acc : Account Q) (h : Kept (Q latest) (fun _ => False) b seen) (hw : b.Whole)
    (hs : b.Sorted) (outlet : b.outletOpen = true) (online : b.online = true) (now : UInt64)
    {d d' : Device} (hd : Metric.WellFormedAll d.metrics)
    (found : d.needsBirth = false → b.device? d.telemetryName = some d) (hears : d.Hears d' actions) :
    Keeps (Q latest) (fun _ => False) ((b.putDevice d').publish now actions).1 seen
      (((b.putDevice d').publish now actions).2.map .published) := by
  have hfounded : d.needsBirth = false → Q latest seen d :=
    fun hborn => h d.telemetryName d (found hborn) (by simp)
  have hput : Kept (Q latest) (fun name => name = d.telemetryName) (b.putDevice d') seen := by
    intro name e he hpending
    rw [device?_putDevice, hears.telemetryName_eq, if_neg (fun heq => hpending heq.symm)] at he
    exact h name e he (by simp)
  have hw' := hw.putDevice (hears.wellFormed hd)
  have hself : (b.putDevice d').device? d.telemetryName = some d' := by
    rw [device?_putDevice, if_pos hears.telemetryName_eq]
  cases hears with
  | @birth metrics hwell =>
    have hfits : Fits (Q latest) seen [.birth d.telemetryName] :=
      .inl fun action haction => ⟨_, List.mem_singleton.1 haction⟩
    refine (acc.keeps_publish hput hw' (hs.putDevice _) outlet online now hfits).mono ?_
    rintro name _ _ ⟨rfl, hp⟩
    exact hp (by simp)
  | @data _ _ metrics changes hborn hwell hfamiliar hmerged hchanged =>
    refine (acc.keeps_publish_data hput outlet online now hd hborn (hfounded hborn)
      (.data hborn hwell hfamiliar hmerged hchanged) hself).mono ?_
    rintro name _ _ ⟨rfl, hp⟩
    exact hp rfl
  | quiet hborn =>
    have hkept : Kept (Q latest) (fun _ => False) (b.putDevice { d with known := .up }) seen := by
      intro name e he _
      by_cases hname : name = d.telemetryName
      · rw [hname, hself] at he
        cases he
        exact acc.alive (hfounded hborn) hborn
      · exact hput name e he hname
    exact hkept.keeps

/-- Deaths are published of devices that have the property. -/
theorem keeps_deaths (acc : Account Q) (h : Kept (Q latest) (fun _ => False) b seen) (hw : b.Whole)
    (hs : b.Sorted) (outlet : b.outletOpen = true) (online : b.online = true) (now timestamp : UInt64)
    (names : List String)
    (hb' : b' = { (b.declareAllDead timestamp names).1 with timedOut := b'.timedOut }) :
    Keeps (Q latest) (fun _ => False) (b'.publish now (b.declareAllDead timestamp names).2).1 seen
      ((b'.publish now (b.declareAllDead timestamp names).2).2.map .published) := by
  have hdevice : ∀ name, b'.device? name = (b.declareAllDead timestamp names).1.device? name := by
    rw [hb']
    exact fun _ => rfl
  have hkept : Kept (Q latest) (fun _ => False) b' seen := by
    intro name e he hpending
    rw [hdevice, device?_declareAllDead, Option.map_eq_some_iff] at he
    obtain ⟨d, hd, rfl⟩ := he
    split
    · exact acc.dying (h name d hd hpending)
    · exact h name d hd hpending
  have hs' : b'.Sorted := by
    rw [hb']
    exact declareAllDead_sorted hs timestamp names
  have hw' : b'.Whole := by
    intro name e he
    rw [hdevice] at he
    exact hw.declareAllDead timestamp names name e he
  have hrest : b'.outletOpen = true ∧ b'.online = true := by
    rw [hb', declareAllDead_frame]
    exact ⟨outlet, online⟩
  have hfits : Fits (Q latest) seen (b.declareAllDead timestamp names).2 := by
    refine .inr fun action haction => ?_
    obtain ⟨name, -, rfl, d, hd, hdown, hup⟩ := mem_declareAllDead haction
    refine ⟨d, ?_, Device.needsBirth_eq_false_iff.2 ⟨hup, hdown⟩, h name d hd (by simp)⟩
    rw [telemetryName_of_device? hd]
  exact (acc.keeps_publish hkept hw' hs' hrest.1 hrest.2 now hfits).mono fun _ _ _ hp => hp.1

/-- The devices that an outage declared dead are born again. -/
theorem keeps_restore (acc : Account Q) (h : Kept (Q latest) (fun _ => False) b seen) (hw : b.Whole)
    (hs : b.Sorted) (outlet : b.outletOpen = true) (online : b.online = true) (now : UInt64) :
    Keeps (Q latest) (fun _ => False) (b.restore.1.publish now b.restore.2).1 seen
      ((b.restore.1.publish now b.restore.2).2.map .published) := by
  have hkept : Kept (Q latest) (fun name => .birth name ∈ b.restore.2) b.restore.1 seen := by
    intro name e he hpending
    unfold Bridge.restore at he hpending
    rw [device?_reviveAll, Option.map_eq_some_iff] at he
    obtain ⟨d, hd, rfl⟩ := he
    split
    · next hrevived =>
      refine absurd ?_ hpending
      exact mem_reviveAll.2 ⟨name, hrevived.1, rfl, d, hd, hrevived.2⟩
    · exact h name d hd (by simp)
  have hrest : b.restore.1.outletOpen = true ∧ b.restore.1.online = true := by
    rw [restore_frame]
    exact ⟨outlet, online⟩
  have hfits : Fits (Q latest) seen b.restore.2 := by
    refine .inl fun action haction => ?_
    obtain ⟨name, -, rfl, -⟩ := mem_reviveAll.1 haction
    exact ⟨name, rfl⟩
  refine (acc.keeps_publish hkept hw.restore (restore_sorted hs) hrest.1 hrest.2 now hfits).mono ?_
  exact fun _ _ _ hp => hp.2 hp.1

theorem turn (acc : Account Q) (h : Ready Q latest b seen) {topic : BusTopic}
    (hturn : b.Turn topic b' actions) (now : UInt64) :
    Advances Q latest (b'.publish now actions).1 seen ((b'.publish now actions).2.map .published) := by
  have houtlet : b'.outletOpen = true := by
    rw [hturn.frame]
    exact h.outlet
  have honline : b'.online = b.online := by rw [hturn.frame]
  have hs' := hturn.sorted h.sorted
  have hw' := hturn.whole h.whole
  cases hturn with
  | idle => exact quiet h
  | @announced app device d d' _ hclaimed hears =>
    refine advances_of_keeps hs' houtlet hw' now fun online => ?_
    let registered : Bridge :=
      { b with apps := (b.apps.register app d.telemetryName).1.update app .markAlive }
    have hkept : Kept (Q latest) (fun _ => False) registered seen := h.kept online
    have hwhole : registered.Whole := h.whole
    have hsorted : registered.Sorted := h.sorted
    refine acc.keeps_hears hkept hwhole hsorted houtlet online now (h.whole.claimed hclaimed) ?_ hears
    intro hborn
    show b.device? d.telemetryName = some d
    rcases (claimed_cases hclaimed).2 with hd | ⟨-, rfl⟩
    · exact hd
    · simp [Device.needsBirth, Device.ofVendor, Device.fresh] at hborn
  | data hfound hears =>
    have hd := device?_of_vendorDevice? hfound
    refine advances_of_keeps hs' houtlet hw' now fun online => ?_
    exact acc.keeps_hears (h.kept online) h.whole h.sorted houtlet online now (h.whole _ _ hd)
      (fun _ => device?_self hd) hears
  | reading hfound hears =>
    have hd := device?_of_catalogDevice? hfound
    refine advances_of_keeps hs' houtlet hw' now fun online => ?_
    exact acc.keeps_hears (h.kept online) h.whole h.sorted houtlet online now (h.whole _ _ hd)
      (fun _ => device?_self hd) hears
  | @deaths _ names apps timestamp _ =>
    refine advances_of_keeps hs' houtlet hw' now fun online => ?_
    have online' : b.online = true := honline ▸ online
    let reported : Bridge := { b with apps := apps }
    have hkept : Kept (Q latest) (fun _ => False) reported seen := h.kept online'
    have hwhole : reported.Whole := h.whole
    have hsorted : reported.Sorted := h.sorted
    exact acc.keeps_deaths hkept hwhole hsorted h.outlet online' now timestamp names rfl
  | definitions hrebirth =>
    rcases hrebirth with rfl | rfl
    · exact advances_of_keeps hs' houtlet hw' now fun online => Kept.keeps (h.kept online)
    · exact acc.advances_nodeRebirth hs' houtlet hw' now seen

theorem moves (acc : Account Q) (h : Ready Q latest b seen) {s : Step} (hmoves : b.Moves s b' actions)
    (now : UInt64) :
    Advances Q latest (b'.publish now actions).1 seen ((b'.publish now actions).2.map .published) := by
  have hs' := hmoves.sorted h.sorted
  have houtlet : b'.outletOpen = true := by
    rw [hmoves.frame]
    exact h.outlet
  have hlate : ∀ outage, Ready Q latest ({ b with outage := outage } : Bridge) seen :=
    fun _ => ⟨h.sorted, h.outlet, h.whole, h.kept⟩
  cases hmoves with
  | idle _ hframe =>
    have hready : Ready Q latest b' seen := by
      rw [hframe]
      exact ⟨h.sorted, h.outlet, h.whole, h.kept⟩
    exact quiet hready
  | fault => exact quiet h
  | turn _ _ hturn => exact acc.turn h hturn now
  | connected now' instant =>
    have hw : ({ b with online := true } : Bridge).Whole := h.whole
    exact acc.advances_nodeRebirth hs' houtlet hw now seen
  | lost now' instant =>
    have hlost : Ready Q latest ({ b with online := false } : Bridge) seen :=
      ⟨h.sorted, h.outlet, h.whole, by simp⟩
    exact quiet hlost
  | restored now' instant outage =>
    refine advances_of_keeps hs' houtlet (hlate outage).whole.restore now fun online => ?_
    rw [restore_frame] at online
    exact acc.keeps_restore ((hlate outage).kept online) (hlate outage).whole (hlate outage).sorted h.outlet
      online now
  | expired now' instant outage =>
    have hw' := (hlate outage).whole.declareAllDead now' (b.devices.map Device.telemetryName)
    refine advances_of_keeps hs' houtlet hw' now fun online => ?_
    rw [expireOutage_frame] at online
    exact acc.keeps_deaths ((hlate outage).kept online) (hlate outage).whole (hlate outage).sorted h.outlet
      online now now' _ (congrArg Prod.fst (expireOutage_eq { b with outage := outage } now'))

/-- Every call keeps the rule. -/
theorem calls (acc : Account Q) (h : Ready Q latest b seen) {s : Step} {events : List Event}
    (hcalls : b.Calls s b' events) : Advances Q latest b' seen events := by
  cases hcalls with
  | prepare now =>
    have hsame : ∀ e ∈ [Event.will (b.prepareSession now).2], e.kind? ≠ some .nodeBirth := by
      simp [Event.kind?]
    refine ⟨respects_singleton (by simp), ?_⟩
    rw [renewed_of_same hsame]
    exact ⟨h.sorted, h.outlet, h.whole, fun online name d hd hpending =>
      acc.silent (h.kept online name d hd hpending) trivial⟩
  | publish now hmoves bus bus' =>
    rw [List.append_assoc]
    refine advances_bus_left bus (acc.advances_bus_right ?_ bus')
    exact acc.moves (acc.ready_bus h bus) hmoves now

/-- Between the calls of every run every device has the property while the broker is connected. -/
theorem ready_run (acc : Account Q) (settings : Settings) (now : UInt64) (steps : List Step) :
    Ready Q ((start settings now).atNodeBirth? steps) ((start settings now).run steps).1
      ((start settings now).run steps).2 := by
  induction steps using List.reverseRecOn with
  | nil =>
    have hframe := start_frame settings now
    refine ⟨start_sorted settings now, ?_, start_whole settings now, fun online => ?_⟩
    · show (start settings now).outletOpen = true
      rw [hframe]
      rfl
    · have online' : (start settings now).online = true := online
      rw [hframe] at online'
      exact absurd online' Bool.false_ne_true
  | append_singleton steps s ih =>
    rw [atNodeBirth?_snoc, run_snoc]
    exact (acc.calls ih (step_calls _ s)).ready

end Account

/-- In every reachable state the metrics of all devices are well-formed. -/
theorem run_whole (settings : Settings) (now : UInt64) (steps : List Step) :
    ((start settings now).run steps).1.Whole := by
  -- an account of nothing keeps the devices whole all the same
  have hnothing : Account fun _ _ _ => True := by
    constructor <;> intros <;> trivial
  exact (hnothing.ready_run settings now steps).whole

end Bridge

end ScadaBridge
