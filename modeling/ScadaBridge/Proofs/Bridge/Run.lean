import Mathlib.Data.List.Induction
import ScadaBridge.Bridge.Session
import ScadaBridge.Proofs.Ordered

/-!
# Runs of the bridge

A run is any sequence of calls: sessions are prepared, messages, commands and changes of connections
are taken, and the outage timeout is checked, each at a time of its own. What is seen of a run from
outside is its list of events.

`Bridge.run_induction` is the induction over runs. Below it stands what all calls have in common when
they publish: rendering a list of actions is a chain of single messages (`Emits`), of which those that
pass are sent (`publish_emits`).
-/

namespace ScadaBridge

open Ordered

/-- One call of the bridge. -/
inductive Step where
  | prepare (now : UInt64)
  | take (now : UInt64) (instant : Nat) (message : Inbound)
  | check (now : UInt64) (instant : Nat)

/-- What is seen of the bridge from outside. -/
inductive Event where
  /-- The message that is handed out to be published when the session breaks. -/
  | will (message : Outbound)
  | published (message : Outbound)

namespace Bridge

/-- The bridge after one call, and what is seen of it. -/
def step (b : Bridge) : Step → Bridge × List Event
  | .prepare now =>
    let (b, message) := b.prepareSession now
    (b, [.will message])
  | .take now instant message =>
    let (b, messages) := b.handle now instant message
    (b, messages.map .published)
  | .check now instant =>
    let (b, messages) := b.checkTimeout now instant
    (b, messages.map .published)

/-- The bridge after a sequence of calls, and what is seen of them. -/
def run (b : Bridge) : List Step → Bridge × List Event
  | [] => (b, [])
  | s :: rest =>
    let (b, first) := b.step s
    let (b, more) := b.run rest
    (b, first ++ more)

@[simp] theorem run_nil (b : Bridge) : b.run [] = (b, []) := rfl

theorem run_append (b : Bridge) (first second : List Step) :
    b.run (first ++ second) =
      (((b.run first).1.run second).1, (b.run first).2 ++ ((b.run first).1.run second).2) := by
  induction first generalizing b with
  | nil => rfl
  | cons s rest ih =>
    show ((((b.step s).1.run (rest ++ second)).1), (b.step s).2 ++ ((b.step s).1.run (rest ++ second)).2) = _
    rw [ih]
    simp [run, List.append_assoc]

theorem run_snoc (b : Bridge) (steps : List Step) (s : Step) :
    b.run (steps ++ [s]) = (((b.run steps).1.step s).1, (b.run steps).2 ++ ((b.run steps).1.step s).2) := by
  rw [run_append]
  simp [run]

/-- What holds at the start and is kept by every call holds after every run; it may speak of the calls
made and the events seen so far. -/
theorem run_induction {P : List Step → Bridge → List Event → Prop} {b : Bridge} (start : P [] b [])
    (call : ∀ past before seen s, P past before seen →
      P (past ++ [s]) (before.step s).1 (seen ++ (before.step s).2)) (steps : List Step) :
    P steps (b.run steps).1 (b.run steps).2 := by
  induction steps using List.reverseRecOn with
  | nil => exact start
  | append_singleton steps s ih =>
    rw [run_snoc]
    exact call _ _ _ s ih

/-! ## Rules for what is published -/

/-- Every Sparkplug message that is published among `more` keeps a rule, given all that was seen before
it. -/
def Respects (rule : List Event → SparkplugTopic → Wire.Payload → Prop) (seen more : List Event) : Prop :=
  ∀ early topic payload late, more = early ++ .published (.sparkplug topic payload) :: late →
    rule (seen ++ early) topic payload

/-- The messages are for the plant bus. -/
def OnBus (messages : List Outbound) : Prop :=
  ∀ message ∈ messages, ∃ topic content, message = .bus topic content

theorem onBus_nil : OnBus [] := by simp [OnBus]

theorem onBus_announceRequest (b : Bridge) : OnBus (b.send [announceRequest]) := by
  intro message hm
  have hmem := (List.mem_filter.1 hm).1
  rw [List.mem_singleton] at hmem
  exact ⟨_, _, hmem⟩

section Respects

variable {rule : List Event → SparkplugTopic → Wire.Payload → Prop} {seen : List Event}

theorem respects_nil : Respects rule seen [] := by
  intro early topic payload late heq
  simp at heq

theorem respects_singleton {e : Event}
    (h : ∀ topic payload, e = .published (.sparkplug topic payload) → rule seen topic payload) :
    Respects rule seen [e] := by
  intro early topic payload late heq
  cases early with
  | nil =>
    rw [List.append_nil]
    exact h topic payload (List.cons.inj heq).1
  | cons x early =>
    have hnil : [] = early ++ .published (.sparkplug topic payload) :: late := (List.cons.inj heq).2
    simp at hnil

theorem Respects.append {first second : List Event} (h₁ : Respects rule seen first)
    (h₂ : Respects rule (seen ++ first) second) : Respects rule seen (first ++ second) := by
  intro early topic payload late heq
  rcases List.append_eq_append_iff.1 heq with ⟨more, hearly, hsecond⟩ | ⟨more, hfirst, hlate⟩
  · have hrule := h₂ more topic payload late hsecond
    rw [hearly, ← List.append_assoc]
    exact hrule
  · cases more with
    | nil =>
      rw [List.append_nil] at hfirst
      have hrule := h₂ [] topic payload late hlate.symm
      rw [List.append_nil, hfirst] at hrule
      exact hrule
    | cons x more =>
      obtain ⟨rfl, rfl⟩ := List.cons.inj hlate
      exact h₁ early topic payload more hfirst

theorem Respects.left {first second : List Event} (h : Respects rule seen (first ++ second)) :
    Respects rule seen first := by
  intro early topic payload late heq
  refine h early topic payload (late ++ second) ?_
  rw [heq, List.append_assoc, List.cons_append]

theorem Respects.right {first second : List Event} (h : Respects rule seen (first ++ second)) :
    Respects rule (seen ++ first) second := by
  intro early topic payload late heq
  rw [List.append_assoc]
  refine h (first ++ early) topic payload late ?_
  rw [heq, List.append_assoc]

/-- Whether a rule is kept depends on single messages alone. -/
theorem Respects.mono {weaker : List Event → SparkplugTopic → Wire.Payload → Prop} {more : List Event}
    (h : Respects rule seen more)
    (himp : ∀ before topic payload, rule before topic payload → weaker before topic payload) :
    Respects weaker seen more :=
  fun early topic payload late heq => himp _ topic payload (h early topic payload late heq)

/-- Messages on the plant bus are under no rule. -/
theorem respects_bus {messages : List Outbound} (h : OnBus messages) :
    Respects rule seen (messages.map .published) := by
  intro early topic payload late heq
  have hmem : Event.published (.sparkplug topic payload) ∈ messages.map Event.published := by
    rw [heq]
    simp
  obtain ⟨message, hm, hsparkplug⟩ := List.mem_map.1 hmem
  obtain ⟨t, content, rfl⟩ := h message hm
  simp at hsparkplug

end Respects

/-! ## The registry -/

/-- The devices stand in the order of their telemetry names. -/
def Sorted (b : Bridge) : Prop := Ordered.Sorted Device.telemetryName b.devices

@[simp] theorem device?_putDevice (b : Bridge) (d : Device) (name : String) :
    (b.putDevice d).device? name = if d.telemetryName = name then some d else b.device? name :=
  find?_insert _ _ _ _

theorem telemetryName_of_device? {b : Bridge} {name : String} {d : Device}
    (h : b.device? name = some d) : d.telemetryName = name := key_of_find?_eq_some h

theorem device?_self {b : Bridge} {name : String} {d : Device} (h : b.device? name = some d) :
    b.device? d.telemetryName = some d := by
  rw [telemetryName_of_device? h]
  exact h

theorem device?_of_vendorDevice? {b : Bridge} {app device : String} {d : Device}
    (h : b.vendorDevice? app device = some d) : b.device? (Device.joinedName app device) = some d :=
  (Option.filter_eq_some_iff.1 h).1

theorem device?_of_catalogDevice? {b : Bridge} {device site : String} {d : Device}
    (h : b.catalogDevice? device site = some d) : b.device? (Device.joinedName device site) = some d :=
  (Option.filter_eq_some_iff.1 h).1

theorem mem_of_device? {b : Bridge} {name : String} {d : Device} (h : b.device? name = some d) :
    d ∈ b.devices := mem_of_find?_eq_some h

theorem Sorted.device?_of_mem {b : Bridge} (hs : b.Sorted) {d : Device} (h : d ∈ b.devices) :
    b.device? d.telemetryName = some d := Ordered.Sorted.find?_of_mem hs h

theorem Sorted.putDevice {b : Bridge} (hs : b.Sorted) (d : Device) : (b.putDevice d).Sorted :=
  Ordered.Sorted.insert hs d

/-! ## The start -/

/-- The bridge before it knows its catalog. -/
def blank (settings : Settings) : Bridge where
  settings := settings
  devices := []
  apps := []
  definitions := .empty
  seq := .zero
  sessions := .zero
  session := 0
  writeSeq := .zero
  online := false
  outage := .none (settings.outageSeconds.toNat * 1000)
  timedOut := []
  outletOpen := true

/-- Induction over the catalog: what holds without it and is kept for every device of it that is added, or
passed over for its name, holds at the start. It may speak of the devices of the catalog so far. -/
theorem start_induction {P : List CatalogDevice → Bridge → Prop} {settings : Settings} {now : UInt64}
    (nothing : P [] (blank settings))
    (known : ∀ past b c, P past b → (b.device? (c.toDevice now).telemetryName).isSome →
      P (past ++ [c]) b)
    (add : ∀ past b c, P past b → b.device? (c.toDevice now).telemetryName = none →
      P (past ++ [c]) (b.putDevice (c.toDevice now))) :
    P settings.catalog.devices (start settings now) := by
  have hfold : ∀ (rest past : List CatalogDevice) (b : Bridge), P past b →
      P (past ++ rest) (rest.foldl (fun b c => b.addNew (c.toDevice now)) b) := by
    intro rest
    induction rest with
    | nil => simp
    | cons c rest ih =>
      intro past b hb
      have hnext : P (past ++ [c]) (b.addNew (c.toDevice now)) := by
        unfold addNew
        split
        · next d hd => exact known past b c hb (by rw [hd]; rfl)
        · next hnew => exact add past b c hb hnew
      have hall := ih (past ++ [c]) _ hnext
      rw [List.append_assoc] at hall
      exact hall
  exact hfold settings.catalog.devices [] _ nothing

theorem start_sorted (settings : Settings) (now : UInt64) : (start settings now).Sorted :=
  start_induction (P := fun _ b => b.Sorted) (sorted_nil _) (fun _ _ _ hb _ => hb)
    fun _ _ _ hb _ => hb.putDevice _

/-- At the start nothing but the catalog is known. -/
theorem start_frame (settings : Settings) (now : UInt64) :
    start settings now = { blank settings with devices := (start settings now).devices } := by
  refine start_induction (P := fun _ b => b = { blank settings with devices := b.devices }) rfl
    (fun _ _ _ hb _ => hb) ?_
  intro _ b c hb _
  unfold putDevice
  rw [hb]

/-! ## Rendering -/

/-- What a device says at a time: the kind of the message, the device after it, and the payload. -/
inductive Saying (now : UInt64) (d : Device) : MessageKind → Device → Wire.Payload → Prop where
  | birth : Saying now d .deviceBirth (d.birth now).1 (d.birth now).2
  /-- Data, if some change concerns a metric that there is. -/
  | data {changes : ChangeSet} {d' : Device} {payload : Wire.Payload}
      (h : d.data changes now = (d', some payload)) : Saying now d .deviceData d' payload
  | death : Saying now d .deviceDeath d.death.1 d.death.2

/-- A chain of messages with the bridges before and after it. Rendering makes no other messages than
births of the edge node and messages of registered devices. -/
inductive Emits (now : UInt64) : Bridge → List Outbound → Bridge → Prop where
  | done (b : Bridge) : Emits now b [] b
  /-- The edge node is born. -/
  | node {b b' : Bridge} {messages : List Outbound}
      (rest : Emits now (b.nodeBirth now b.session).1 messages b') :
      Emits now b (.sparkplug (b.nodeTopic .nodeBirth) (b.nodeBirth now b.session).2 :: messages) b'
  /-- A device says something. -/
  | device {b b' : Bridge} {d d' : Device} {kind : MessageKind} {payload : Wire.Payload}
      {messages : List Outbound} (found : b.device? d.telemetryName = some d)
      (said : Saying now d kind d' payload)
      (rest : Emits now (b.deviceMessage kind d' payload).1 messages b') :
      Emits now b ((b.deviceMessage kind d' payload).2 :: messages) b'

theorem data_eq_some {d d' : Device} {changes : ChangeSet} {now : UInt64} {payload : Wire.Payload}
    (h : d.data changes now = (d', some payload)) :
    d' = { d with published := .up } ∧
      payload = { Wire.Payload.empty (millis now) with metrics := Metric.dataOf d.metrics changes } := by
  unfold Device.data at h
  dsimp only at h
  split at h
  · simp at h
  · simp only [Prod.mk.injEq, Option.some.injEq] at h
    exact ⟨h.1.symm, h.2.symm⟩

/-- What a device says changes nothing of it but its two statuses. -/
theorem Saying.frame {now : UInt64} {d d' : Device} {kind : MessageKind} {payload : Wire.Payload}
    (h : Saying now d kind d' payload) :
    d' = { d with published := d'.published, known := d'.known } := by
  cases h with
  | birth => rfl
  | data h => rw [(data_eq_some h).1]
  | death => rfl

theorem Saying.telemetryName {now : UInt64} {d d' : Device} {kind : MessageKind}
    {payload : Wire.Payload} (h : Saying now d kind d' payload) :
    d'.telemetryName = d.telemetryName := by
  rw [h.frame]

theorem device?_deviceMessage (b : Bridge) (kind : MessageKind) (d : Device) (payload : Wire.Payload)
    (name : String) :
    (b.deviceMessage kind d payload).1.device? name =
      if d.telemetryName = name then some d else b.device? name := device?_putDevice b d name

theorem Sorted.deviceMessage {b : Bridge} (hs : b.Sorted) (kind : MessageKind) (d : Device)
    (payload : Wire.Payload) : (b.deviceMessage kind d payload).1.Sorted := hs.putDevice d

namespace Emits

variable {now : UInt64} {b b' b'' : Bridge} {messages more : List Outbound}

theorem append (h : Emits now b messages b') (h' : Emits now b' more b'') :
    Emits now b (messages ++ more) b'' := by
  induction h with
  | done => exact h'
  | node _ ih => exact .node (ih h')
  | device found said _ ih => exact .device found said (ih h')

/-- Rendering leaves everything but the devices and the sequence number as it was. -/
theorem frame (h : Emits now b messages b') :
    b' = { b with devices := b'.devices, seq := b'.seq } := by
  induction h with
  | done => rfl
  | node _ ih => rw [ih]; rfl
  | device _ _ _ ih => rw [ih]; rfl

theorem online_eq (h : Emits now b messages b') : b'.online = b.online := by rw [h.frame]

theorem outletOpen_eq (h : Emits now b messages b') : b'.outletOpen = b.outletOpen := by
  rw [h.frame]

theorem session_eq (h : Emits now b messages b') : b'.session = b.session := by rw [h.frame]

theorem passes_eq (h : Emits now b messages b') : b'.passes = b.passes := by
  funext message
  cases message <;> simp [passes, h.online_eq, h.outletOpen_eq]

theorem sorted (h : Emits now b messages b') (hs : b.Sorted) : b'.Sorted := by
  induction h with
  | done => exact hs
  | node _ ih => exact ih hs
  | device _ _ _ ih => exact ih (hs.deviceMessage _ _ _)

/-- Rendering changes nothing of a device but its two statuses. -/
theorem map_device? {α : Type} {f : Device → α}
    (hf : ∀ d published known, f { d with published := published, known := known } = f d)
    (h : Emits now b messages b') (name : String) :
    (b'.device? name).map f = (b.device? name).map f := by
  induction h with
  | done => rfl
  | node _ ih => exact ih
  | @device b _ d d' _ _ _ found said _ ih =>
    rw [ih, device?_deviceMessage]
    split
    · next heq =>
      rw [← heq, said.telemetryName, found, Option.map_some, Option.map_some, said.frame, hf]
    · rfl

/-- Rendered messages pass all together or not at all. -/
theorem send_eq (h : Emits now b messages b') (outlet : b.outletOpen = true) :
    b.send messages = if b.online = true then messages else [] := by
  have hall : ∀ message ∈ messages, b.passes message = b.online := by
    induction h with
    | done => simp
    | node _ ih =>
      intro message hm
      rcases List.mem_cons.1 hm with rfl | hm
      · simp [passes, outlet]
      · exact ih outlet message hm
    | device _ _ _ ih =>
      intro message hm
      rcases List.mem_cons.1 hm with rfl | hm
      · simp [passes, deviceMessage, outlet]
      · exact ih outlet message hm
  split
  · next honline => exact List.filter_eq_self.2 fun m hm => by rw [hall m hm, honline]
  · next honline => exact List.filter_eq_nil_iff.2 fun m hm => by rw [hall m hm]; exact honline

/-- While the broker is connected, all rendered messages pass. -/
theorem send_after (h : Emits now b messages b') (outlet : b.outletOpen = true)
    (online : b.online = true) : b'.send messages = messages := by
  unfold send
  rw [h.passes_eq]
  exact (h.send_eq outlet).trans (if_pos online)

end Emits

theorem deviceBirth_emits {b : Bridge} (now : UInt64) {d : Device}
    (found : b.device? d.telemetryName = some d) :
    Emits now b [(b.deviceBirth now d).2] (b.deviceBirth now d).1 :=
  .device found .birth (.done _)

/-- The births of devices with different names that are registered. Each birth leaves the devices that
are still to come as they were. -/
theorem liveBirths_emits (now : UInt64) {devices : List Device}
    (hs : Ordered.Sorted Device.telemetryName devices) {b : Bridge}
    (found : ∀ d ∈ devices, b.device? d.telemetryName = some d) :
    Emits now b (b.liveBirths now devices).2 (b.liveBirths now devices).1 := by
  induction devices generalizing b with
  | nil => exact .done b
  | cons d rest ih =>
    have hrest : ∀ e ∈ rest, b.device? e.telemetryName = some e :=
      fun e he => found e (List.mem_cons_of_mem _ he)
    unfold liveBirths
    split
    · have hd := deviceBirth_emits now (found d List.mem_cons_self)
      refine hd.append (ih hs.tail fun e he => ?_)
      have hne : (d.birth now).1.telemetryName ≠ e.telemetryName := hs.head_ne he
      have hkept := device?_deviceMessage b .deviceBirth (d.birth now).1 (d.birth now).2 e.telemetryName
      rw [if_neg hne, hrest e he] at hkept
      exact hkept
    · exact ih hs.tail hrest

theorem render_nodeRebirth (b : Bridge) (now : UInt64) :
    b.render now .nodeRebirth =
      (((b.nodeBirth now b.session).1.liveBirths now b.devices).1,
        .sparkplug (b.nodeTopic .nodeBirth) (b.nodeBirth now b.session).2 ::
          ((b.nodeBirth now b.session).1.liveBirths now b.devices).2) := rfl

theorem render_birth {b : Bridge} {name : String} {d : Device} (h : b.device? name = some d)
    (now : UInt64) :
    b.render now (.birth name) = ((b.deviceBirth now d).1, [(b.deviceBirth now d).2]) := by
  simp only [render, h]

theorem render_data {b : Bridge} {name : String} {d d' : Device} {changes : ChangeSet} {now : UInt64}
    {payload : Wire.Payload} (h : b.device? name = some d)
    (hdata : d.data changes now = (d', some payload)) :
    b.render now (.data name changes) =
      ((b.deviceMessage .deviceData d' payload).1, [(b.deviceMessage .deviceData d' payload).2]) := by
  simp only [render, h, hdata]

theorem render_death {b : Bridge} {name : String} {d : Device} (h : b.device? name = some d)
    (now : UInt64) :
    b.render now (.death name) =
      ((b.deviceMessage .deviceDeath d.death.1 d.death.2).1,
        [(b.deviceMessage .deviceDeath d.death.1 d.death.2).2]) := by
  simp only [render, h]

theorem render_emits {b : Bridge} (hs : b.Sorted) (now : UInt64) (action : Action) :
    Emits now b (b.render now action).2 (b.render now action).1 := by
  cases action with
  | nodeRebirth => exact .node (liveBirths_emits now hs fun d hd => hs.device?_of_mem hd)
  | birth name =>
    cases hd : b.device? name with
    | none => simpa only [render, hd] using Emits.done b
    | some d =>
      rw [render_birth hd]
      exact deviceBirth_emits now (device?_self hd)
  | data name changes =>
    cases hd : b.device? name with
    | none => simpa only [render, hd] using Emits.done b
    | some d =>
      rcases hdata : d.data changes now with ⟨d', payload⟩
      cases payload with
      | none => simpa only [render, hd, hdata] using Emits.done b
      | some payload =>
        rw [render_data hd hdata]
        exact .device (device?_self hd) (.data hdata) (.done _)
  | death name =>
    cases hd : b.device? name with
    | none => simpa only [render, hd] using Emits.done b
    | some d =>
      rw [render_death hd]
      exact .device (device?_self hd) .death (.done _)

/-- Renders actions in their order, whether or not the messages pass. -/
def renderAll (b : Bridge) (now : UInt64) : List Action → Bridge × List Outbound
  | [] => (b, [])
  | action :: rest =>
    let (b, messages) := b.render now action
    let (b, more) := b.renderAll now rest
    (b, messages ++ more)

theorem renderAll_singleton (b : Bridge) (now : UInt64) (action : Action) :
    b.renderAll now [action] = b.render now action := by
  simp [renderAll]

theorem renderAll_emits {b : Bridge} (hs : b.Sorted) (now : UInt64) (actions : List Action) :
    Emits now b (b.renderAll now actions).2 (b.renderAll now actions).1 := by
  induction actions generalizing b with
  | nil => exact .done b
  | cons action rest ih =>
    have hfirst := render_emits hs now action
    exact hfirst.append (ih (hfirst.sorted hs))

/-- Publishing is rendering, of which the messages that pass are sent. -/
theorem publish_eq_renderAll {b : Bridge} (hs : b.Sorted) (now : UInt64) (actions : List Action) :
    b.publish now actions = ((b.renderAll now actions).1, b.send (b.renderAll now actions).2) := by
  induction actions generalizing b with
  | nil => rfl
  | cons action rest ih =>
    have hfirst := render_emits hs now action
    have hrest := ih (hfirst.sorted hs)
    show (((b.render now action).1.publish now rest).1,
      (b.render now action).1.send (b.render now action).2 ++
        ((b.render now action).1.publish now rest).2) = _
    rw [hrest]
    simp only [renderAll, send, hfirst.passes_eq, List.filter_append]

/-- Publishing renders a chain of messages and sends those that pass. -/
theorem publish_emits {b : Bridge} (hs : b.Sorted) (now : UInt64) (actions : List Action) :
    ∃ messages, Emits now b messages (b.publish now actions).1 ∧
      (b.publish now actions).2 = b.send messages := by
  rw [publish_eq_renderAll hs]
  exact ⟨_, renderAll_emits hs now actions, rfl⟩

theorem publish_cons_online {b : Bridge} (hs : b.Sorted) (outlet : b.outletOpen = true)
    (online : b.online = true) (now : UInt64) (action : Action) (rest : List Action) :
    (b.publish now (action :: rest)).2 =
      (b.render now action).2 ++ ((b.render now action).1.publish now rest).2 := by
  show (b.render now action).1.send (b.render now action).2 ++
    ((b.render now action).1.publish now rest).2 = _
  rw [(render_emits hs now action).send_after outlet online]

end Bridge

end ScadaBridge
