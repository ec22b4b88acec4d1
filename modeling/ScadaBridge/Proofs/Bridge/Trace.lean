import ScadaBridge.Proofs.Bridge.Identity

/-!
# What is rendered

Messages are rendered whether or not the SCADA broker is connected; only then is it decided whether they are
sent. `Bridge.trace` is what the calls of a run render, and `step_rendered` says that a call publishes what of
it passes.

Rendering treats the devices independently of each other: `Device.answerAll` is what the actions make of one
device, whatever the others are (`renderAll_answers`), and only the actions that reach the device count.
-/

namespace ScadaBridge

open Ordered

/-- The kind of a message, if it is about the device of a name. -/
def Outbound.kindFor? (name : String) : Outbound → Option MessageKind
  | .sparkplug topic _ => if topic.device = some name then some topic.kind else none
  | .bus _ _ => none

/-- The message for the SCADA broker that is published. -/
def Event.sparkplug? : Event → Option Outbound
  | .published (.sparkplug topic payload) => some (.sparkplug topic payload)
  | .published (.bus _ _) | .will _ => none

/-- Whether an action may concern the device of a name. -/
def Action.reaches (name : String) : Action → Bool
  | .nodeRebirth => true
  | .birth other | .data other _ | .death other => other == name

namespace Bridge

/-- What a call renders, and the bridge after it. -/
def rendered (b : Bridge) (s : Step) : Bridge × List Outbound :=
  (b.plan s).1.renderAll s.now (b.plan s).2

/-- The messages that calls render, in their order. -/
def trace (b : Bridge) : List Step → List Outbound
  | [] => []
  | s :: rest => (b.rendered s).2 ++ (b.step s).1.trace rest

theorem trace_snoc (b : Bridge) (steps : List Step) (s : Step) :
    b.trace (steps ++ [s]) = b.trace steps ++ ((b.run steps).1.rendered s).2 := by
  induction steps generalizing b with
  | nil => simp [trace]
  | cons first rest ih =>
    have hrest := ih (b.step first).1
    rw [List.cons_append, trace, trace, hrest, List.append_assoc]
    rfl

/-! ## Rendering and publishing -/

theorem plan_sorted {b : Bridge} (hs : b.Sorted) (s : Step) : (b.plan s).1.Sorted := by
  rcases b.plan_moves s with ⟨now, rfl⟩ | hmoves
  · exact hs
  · exact hmoves.sorted hs

theorem plan_outletOpen (b : Bridge) (s : Step) : (b.plan s).1.outletOpen = b.outletOpen := by
  rcases b.plan_moves s with ⟨now, rfl⟩ | hmoves
  · rfl
  · rw [hmoves.frame]

theorem Emits.sparkplug {now : UInt64} {b b' : Bridge} {messages : List Outbound}
    (h : Emits now b messages b') {message : Outbound} (hm : message ∈ messages) :
    ∃ topic payload, message = .sparkplug topic payload := by
  induction h with
  | done => simp at hm
  | node _ ih =>
    rcases List.mem_cons.1 hm with rfl | hm
    · exact ⟨_, _, rfl⟩
    · exact ih hm
  | device _ _ _ ih =>
    rcases List.mem_cons.1 hm with rfl | hm
    · exact ⟨_, _, rfl⟩
    · exact ih hm

theorem filterMap_sparkplug?_of_onBus {messages : List Outbound} (h : OnBus messages) :
    (messages.map .published).filterMap Event.sparkplug? = [] := by
  rw [List.filterMap_map, List.filterMap_eq_nil_iff]
  intro message hm
  obtain ⟨topic, content, rfl⟩ := h message hm
  rfl

theorem Emits.filterMap_sparkplug? {now : UInt64} {b b' : Bridge} {messages sent : List Outbound}
    (h : Emits now b messages b') (hsent : ∀ message ∈ sent, message ∈ messages) :
    (sent.map .published).filterMap Event.sparkplug? = sent := by
  rw [List.filterMap_map]
  refine (List.filterMap_congr fun message hm => ?_).trans List.filterMap_some
  obtain ⟨topic, payload, rfl⟩ := h.sparkplug (hsent message hm)
  rfl

/-- A call leaves the bridge as rendering its plan does, and publishes what was rendered and passes. -/
theorem step_rendered {b : Bridge} (hs : b.Sorted) (s : Step) :
    (b.step s).1 = (b.rendered s).1 ∧
      (b.step s).2.filterMap Event.sparkplug? = (b.plan s).1.send (b.rendered s).2 := by
  have hplan := plan_sorted hs s
  have hrendered := renderAll_emits hplan s.now (b.plan s).2
  rcases b.step_publishes s with ⟨now, rfl⟩ | ⟨before, after, hbefore, hafter, heq⟩
  · exact ⟨rfl, rfl⟩
  · rw [heq, publish_eq_renderAll hplan]
    refine ⟨rfl, ?_⟩
    have hsent : (((b.plan s).1.send (b.rendered s).2).map .published).filterMap Event.sparkplug? =
        (b.plan s).1.send (b.rendered s).2 :=
      hrendered.filterMap_sparkplug? fun message hm => (List.mem_filter.1 hm).1
    rw [List.filterMap_append, List.filterMap_append, filterMap_sparkplug?_of_onBus hbefore,
      filterMap_sparkplug?_of_onBus hafter, List.nil_append, List.append_nil]
    exact hsent

/-- A message about a device that is published was rendered. -/
theorem kind_mem_rendered {b : Bridge} (hs : b.Sorted) {s : Step} {topic : SparkplugTopic}
    {payload : Wire.Payload} (h : .published (.sparkplug topic payload) ∈ (b.step s).2) {name : String}
    (named : topic.device = some name) :
    topic.kind ∈ (b.rendered s).2.filterMap (Outbound.kindFor? name) := by
  have hsent : .sparkplug topic payload ∈ (b.step s).2.filterMap Event.sparkplug? :=
    List.mem_filterMap.2 ⟨_, h, rfl⟩
  rw [(step_rendered hs s).2] at hsent
  exact List.mem_filterMap.2 ⟨_, (List.mem_filter.1 hsent).1, if_pos named⟩

theorem exists_published_of_kind {events : List Event} {name : String} {kind : MessageKind}
    (h : kind ∈ (events.filterMap Event.sparkplug?).filterMap (Outbound.kindFor? name)) :
    ∃ topic payload, .published (.sparkplug topic payload) ∈ events ∧ topic.device = some name ∧
      topic.kind = kind := by
  obtain ⟨message, hmessage, hkind⟩ := List.mem_filterMap.1 h
  obtain ⟨e, he, hevent⟩ := List.mem_filterMap.1 hmessage
  cases e with
  | will _ => simp [Event.sparkplug?] at hevent
  | published message' =>
    cases message' with
    | bus _ _ => simp [Event.sparkplug?] at hevent
    | sparkplug topic payload =>
      obtain rfl : .sparkplug topic payload = message := Option.some.inj hevent
      unfold Outbound.kindFor? at hkind
      dsimp only at hkind
      split at hkind
      · next named => exact ⟨topic, payload, he, named, Option.some.inj hkind⟩
      · simp at hkind

/-- While the broker is connected, what is rendered about a device is published. -/
theorem exists_published {b : Bridge} (hs : b.Sorted) {s : Step} (outlet : b.outletOpen = true)
    (online : (b.plan s).1.online = true) {name : String} {kind : MessageKind}
    (h : kind ∈ (b.rendered s).2.filterMap (Outbound.kindFor? name)) :
    ∃ topic payload, .published (.sparkplug topic payload) ∈ (b.step s).2 ∧ topic.device = some name ∧
      topic.kind = kind := by
  have hpasses : (b.plan s).1.send (b.rendered s).2 = (b.rendered s).2 := by
    refine List.filter_eq_self.2 fun message hmessage => ?_
    obtain ⟨topic, payload, rfl⟩ := (renderAll_emits (plan_sorted hs s) s.now (b.plan s).2).sparkplug hmessage
    simp [passes, online, plan_outletOpen, outlet]
  rw [← hpasses, ← (step_rendered hs s).2] at h
  exact exists_published_of_kind h

/-- Rendering leaves everything but the devices and the sequence number as the plan does. -/
theorem rendered_frame {b : Bridge} (hs : b.Sorted) (s : Step) :
    (b.rendered s).1 =
      { (b.plan s).1 with devices := (b.rendered s).1.devices, seq := (b.rendered s).1.seq } :=
  (renderAll_emits (plan_sorted hs s) s.now (b.plan s).2).frame

end Bridge

/-! ## One device -/

/-- What an action makes of a device, and the kinds of the messages about it. -/
def Device.answer (d : Device) (now : UInt64) : Action → Device × List MessageKind
  | .nodeRebirth => if d.hasMetrics && d.known != .down then ((d.birth now).1, [.deviceBirth]) else (d, [])
  | .birth name => if name = d.telemetryName then ((d.birth now).1, [.deviceBirth]) else (d, [])
  | .data name changes =>
    if name = d.telemetryName then
      match d.data changes now with
      | (d', some _) => (d', [.deviceData])
      | (_, none) => (d, [])
    else (d, [])
  | .death name => if name = d.telemetryName then (d.death.1, [.deviceDeath]) else (d, [])

/-- What actions make of a device, and the kinds of the messages about it. -/
def Device.answerAll (d : Device) (now : UInt64) : List Action → Device × List MessageKind
  | [] => (d, [])
  | action :: rest =>
    let (d, first) := d.answer now action
    let (d, more) := d.answerAll now rest
    (d, first ++ more)

namespace Device

theorem answer_birth (d : Device) (now : UInt64) :
    d.answer now (.birth d.telemetryName) = ((d.birth now).1, [.deviceBirth]) := if_pos rfl

theorem answer_death (d : Device) (now : UInt64) :
    d.answer now (.death d.telemetryName) = (d.death.1, [.deviceDeath]) := if_pos rfl

theorem answer_data {d d' : Device} {changes : ChangeSet} {now : UInt64} {payload : Wire.Payload}
    (h : d.data changes now = (d', some payload)) :
    d.answer now (.data d.telemetryName changes) = (d', [.deviceData]) := by
  simp [answer, h]

theorem answerAll_cons (d : Device) (now : UInt64) (action : Action) (rest : List Action) :
    d.answerAll now (action :: rest) =
      (((d.answer now action).1.answerAll now rest).1,
        (d.answer now action).2 ++ ((d.answer now action).1.answerAll now rest).2) := rfl

theorem answerAll_singleton (d : Device) (now : UInt64) (action : Action) :
    d.answerAll now [action] = d.answer now action := by
  simp [answerAll]

@[simp] theorem telemetryName_answer (d : Device) (now : UInt64) (action : Action) :
    (d.answer now action).1.telemetryName = d.telemetryName := by
  cases action with
  | data name changes =>
    unfold answer
    dsimp only
    split
    · split
      · next hdata => rw [(Bridge.data_eq_some hdata).1]
      · rfl
    · rfl
  | _ =>
    unfold answer
    dsimp only
    split <;> rfl

theorem answer_of_not_reaches {d : Device} {action : Action} (h : action.reaches d.telemetryName = false)
    (now : UInt64) : d.answer now action = (d, []) := by
  cases action with
  | nodeRebirth => simp [Action.reaches] at h
  | birth name | data name changes | death name =>
    have hne : name ≠ d.telemetryName := by simpa [Action.reaches] using h
    simp [answer, hne]

/-- Actions that do not reach a device do not count. -/
theorem answerAll_filter (d : Device) (now : UInt64) (actions : List Action) :
    d.answerAll now (actions.filter (Action.reaches d.telemetryName)) = d.answerAll now actions := by
  induction actions generalizing d with
  | nil => rfl
  | cons action rest ih =>
    have hrest := ih (d.answer now action).1
    rw [telemetryName_answer] at hrest
    cases hreaches : action.reaches d.telemetryName with
    | true =>
      rw [List.filter_cons_of_pos hreaches, answerAll_cons, answerAll_cons, hrest]
    | false =>
      have hidle := answer_of_not_reaches hreaches now
      rw [hidle] at hrest
      rw [List.filter_cons_of_neg (by simp [hreaches]), answerAll_cons, hidle]
      exact hrest

end Device

namespace Bridge

/-- Rendering acts on the device of a name as its answer says, and renders the answered messages about it. -/
def Answers (name : String) (b : Bridge) (answer : Device → Device × List MessageKind)
    (result : Bridge × List Outbound) : Prop :=
  result.1.device? name = (b.device? name).map (fun d => (answer d).1) ∧
    result.2.filterMap (Outbound.kindFor? name) = ((b.device? name).map fun d => (answer d).2).getD []

theorem kindFor?_deviceMessage (b : Bridge) (kind : MessageKind) (d : Device) (payload : Wire.Payload)
    (name : String) :
    (b.deviceMessage kind d payload).2.kindFor? name =
      if d.telemetryName = name then some kind else none := by
  simp [Outbound.kindFor?, deviceMessage, deviceTopic]

/-- A message about a device is its answer. -/
theorem answers_deviceMessage {b : Bridge} {d d' : Device} (found : b.device? d.telemetryName = some d)
    {kind : MessageKind} (payload : Wire.Payload) (hname : d'.telemetryName = d.telemetryName)
    {answer : Device → Device × List MessageKind} (hanswer : answer d = (d', [kind])) :
    Answers d.telemetryName b answer
      ((b.deviceMessage kind d' payload).1, [(b.deviceMessage kind d' payload).2]) := by
  constructor
  · dsimp only
    rw [device?_deviceMessage, if_pos hname, found, Option.map_some, hanswer]
  · have hkind := kindFor?_deviceMessage b kind d' payload d.telemetryName
    rw [if_pos hname] at hkind
    rw [found, Option.map_some, hanswer, List.filterMap_cons, hkind]
    rfl

/-- What a device has no answer to does not touch it. -/
theorem answers_idle {b : Bridge} {name : String} {answer : Device → Device × List MessageKind}
    {result : Bridge × List Outbound} (hdevice : result.1.device? name = b.device? name)
    (hkinds : ∀ m ∈ result.2, m.kindFor? name = none)
    (hanswer : ∀ d, b.device? name = some d → answer d = (d, [])) : Answers name b answer result := by
  have hnothing : result.2.filterMap (Outbound.kindFor? name) = [] := List.filterMap_eq_nil_iff.2 hkinds
  unfold Answers
  rw [hdevice, hnothing]
  cases hd : b.device? name with
  | none => exact ⟨rfl, rfl⟩
  | some d => simp [hanswer d hd]

theorem filterMap_kindFor?_deviceBirth (b : Bridge) (now : UInt64) (d : Device) (name : String)
    (more : List Outbound) :
    ((b.deviceBirth now d).2 :: more).filterMap (Outbound.kindFor? name) =
      (if d.telemetryName = name then [.deviceBirth] else []) ++ more.filterMap (Outbound.kindFor? name) := by
  have hkind : (b.deviceBirth now d).2.kindFor? name = if d.telemetryName = name then some .deviceBirth else none :=
    kindFor?_deviceMessage b .deviceBirth (d.birth now).1 (d.birth now).2 name
  rw [List.filterMap_cons, hkind]
  split
  · next h =>
    split at h
    · simp at h
    · next hne => rw [if_neg hne, List.nil_append]
  · next kind h =>
    split at h
    · next heq =>
      cases h
      rw [if_pos heq]
      rfl
    · simp at h

/-- At a birth of the edge node, each of the devices that are gone through answers for itself. -/
theorem liveBirths_answer (now : UInt64) (name : String) {devices : List Device}
    (hs : Ordered.Sorted Device.telemetryName devices) {b : Bridge}
    (found : ∀ d ∈ devices, b.device? d.telemetryName = some d) :
    (b.liveBirths now devices).1.device? name =
        ((find? Device.telemetryName name devices).map fun d => (d.answer now .nodeRebirth).1).or
          (b.device? name) ∧
      (b.liveBirths now devices).2.filterMap (Outbound.kindFor? name) =
        ((find? Device.telemetryName name devices).map fun d => (d.answer now .nodeRebirth).2).getD [] := by
  induction devices generalizing b with
  | nil => exact ⟨rfl, rfl⟩
  | cons d rest ih =>
    have hrest : ∀ e ∈ rest, b.device? e.telemetryName = some e :=
      fun e he => found e (List.mem_cons_of_mem _ he)
    have hd : b.device? d.telemetryName = some d := found d List.mem_cons_self
    have hlate : d.telemetryName = name → find? Device.telemetryName name rest = none := by
      rintro rfl
      exact hs.find?_head
    unfold liveBirths
    split
    · next hlive =>
      have hkept : ∀ other, (b.deviceBirth now d).1.device? other =
          if d.telemetryName = other then some (d.birth now).1 else b.device? other :=
        fun other => device?_deviceMessage b .deviceBirth (d.birth now).1 (d.birth now).2 other
      have hfound : ∀ e ∈ rest, (b.deviceBirth now d).1.device? e.telemetryName = some e := by
        intro e he
        rw [hkept, if_neg (hs.head_ne he)]
        exact hrest e he
      obtain ⟨hdevice, hkinds⟩ := ih hs.tail hfound
      have hanswer : d.answer now .nodeRebirth = ((d.birth now).1, [.deviceBirth]) := if_pos hlive
      dsimp only
      rw [hdevice, filterMap_kindFor?_deviceBirth, hkinds, hkept]
      by_cases hname : d.telemetryName = name
      · simp [find?, hname, hlate hname, hanswer]
      · simp [find?, hname]
    · next hidle =>
      obtain ⟨hdevice, hkinds⟩ := ih hs.tail hrest
      have hanswer : d.answer now .nodeRebirth = (d, []) := if_neg hidle
      rw [hdevice, hkinds]
      by_cases hname : d.telemetryName = name
      · rw [hname] at hd
        simp [find?, hname, hlate hname, hanswer, hd]
      · simp [find?, hname]

/-- An action about another device does not touch the device, which has no answer to it. -/
theorem render_answers_other (b : Bridge) (now : UInt64) {action : Action} {name target : String}
    (haction : action.device? = some target) (hne : name ≠ target) :
    Answers name b (fun d => d.answer now action) (b.render now action) := by
  obtain ⟨hdevice, hmessages⟩ := b.render_about now haction
  have hreaches : action.reaches name = false := by
    cases action with
    | nodeRebirth => simp [Action.device?] at haction
    | birth _ | data _ _ | death _ =>
      cases haction
      simpa [Action.reaches] using Ne.symm hne
  refine answers_idle (hdevice name hne) (fun m hm => ?_) fun d hd => ?_
  · have habout := hmessages m hm
    cases m with
    | bus _ _ => rfl
    | sparkplug topic payload => exact if_neg fun heq => hne (Option.some.inj (heq.symm.trans habout))
  · rw [← telemetryName_of_device? hd] at hreaches
    exact Device.answer_of_not_reaches hreaches now

/-- Nothing is rendered about a device that is missing. -/
theorem render_answers_missing {b : Bridge} (now : UInt64) {action : Action} {name : String}
    (haction : action.device? = some name) (hd : b.device? name = none) :
    Answers name b (fun d => d.answer now action) (b.render now action) := by
  have hidle : b.render now action = (b, []) := by
    cases action with
    | nodeRebirth => simp [Action.device?] at haction
    | birth _ | data _ _ | death _ =>
      cases haction
      simp [render, hd]
  rw [hidle]
  exact answers_idle rfl (by simp) (by simp [hd])

/-- Rendering an action does to each device what the device answers. -/
theorem render_answers {b : Bridge} (hs : b.Sorted) (now : UInt64) (action : Action) (name : String) :
    Answers name b (fun d => d.answer now action) (b.render now action) := by
  -- an action about one device leaves the case that this device is registered under the name
  have htargeted : ∀ target, action.device? = some target →
      (∀ d, b.device? d.telemetryName = some d → target = d.telemetryName →
        Answers d.telemetryName b (fun d => d.answer now action) (b.render now action)) →
      Answers name b (fun d => d.answer now action) (b.render now action) := by
    intro target haction hknown
    by_cases hname : name = target
    · subst hname
      cases hd : b.device? name with
      | none => exact render_answers_missing now haction hd
      | some d =>
        obtain rfl := telemetryName_of_device? hd
        exact hknown d hd rfl
    · exact b.render_answers_other now haction hname
  cases action with
  | nodeRebirth =>
    have hnode : (Outbound.sparkplug (b.nodeTopic .nodeBirth) (b.nodeBirth now b.session).2).kindFor? name = none :=
      by simp [Outbound.kindFor?, nodeTopic]
    obtain ⟨hdevice, hkinds⟩ := liveBirths_answer now name (b := (b.nodeBirth now b.session).1) hs
      fun d hd => hs.device?_of_mem hd
    rw [render_nodeRebirth]
    refine ⟨hdevice.trans ?_, ?_⟩
    · show ((b.device? name).map _).or (b.device? name) = _
      cases b.device? name <;> rfl
    · rw [List.filterMap_cons, hnode]
      exact hkinds
  | birth target =>
    refine htargeted target rfl fun d hd htarget => ?_
    subst htarget
    have hname : (d.birth now).1.telemetryName = d.telemetryName := rfl
    rw [render_birth hd]
    exact answers_deviceMessage hd (d.birth now).2 hname (d.answer_birth now)
  | death target =>
    refine htargeted target rfl fun d hd htarget => ?_
    subst htarget
    have hname : d.death.1.telemetryName = d.telemetryName := rfl
    rw [render_death hd]
    exact answers_deviceMessage hd d.death.2 hname (d.answer_death now)
  | data target changes =>
    refine htargeted target rfl fun d hd htarget => ?_
    subst htarget
    rcases hdata : d.data changes now with ⟨d', payload⟩
    cases payload with
    | none =>
      refine answers_idle (by simp [render, hd, hdata]) (by simp [render, hd, hdata]) fun e he => ?_
      obtain rfl : d = e := Option.some.inj (hd.symm.trans he)
      simp [Device.answer, hdata]
    | some payload =>
      rw [render_data hd hdata]
      exact answers_deviceMessage hd payload (Saying.data hdata).telemetryName (Device.answer_data hdata)

theorem renderAll_answers {b : Bridge} (hs : b.Sorted) (now : UInt64) (actions : List Action) (name : String) :
    Answers name b (fun d => d.answerAll now actions) (b.renderAll now actions) := by
  induction actions generalizing b with
  | nil => exact answers_idle rfl (by simp [renderAll]) fun _ _ => rfl
  | cons action rest ih =>
    obtain ⟨hdevice, hkinds⟩ := render_answers hs now action name
    obtain ⟨hdevice', hkinds'⟩ := ih ((render_emits hs now action).sorted hs)
    rw [hdevice] at hdevice' hkinds'
    refine ⟨hdevice'.trans ?_, ?_⟩
    · rw [Option.map_map]
      rfl
    · show ((b.render now action).2 ++ ((b.render now action).1.renderAll now rest).2).filterMap _ = _
      rw [List.filterMap_append, hkinds, hkinds']
      cases b.device? name <;> rfl

/-- Rendering the plan of a call does to a device what the device answers to the actions that reach it. -/
theorem rendered_answers {b : Bridge} (hs : b.Sorted) (s : Step) (name : String) :
    Answers name (b.plan s).1
      (fun d => d.answerAll s.now ((b.plan s).2.filter (Action.reaches name))) (b.rendered s) := by
  obtain ⟨hdevice, hkinds⟩ := renderAll_answers (plan_sorted hs s) s.now (b.plan s).2 name
  have hsame : ∀ d, (b.plan s).1.device? name = some d →
      d.answerAll s.now ((b.plan s).2.filter (Action.reaches name)) = d.answerAll s.now (b.plan s).2 := by
    intro d hd
    rw [← telemetryName_of_device? hd]
    exact d.answerAll_filter s.now (b.plan s).2
  unfold Answers rendered
  rw [hdevice, hkinds]
  cases hd : (b.plan s).1.device? name with
  | none => exact ⟨rfl, rfl⟩
  | some d => simp [hsame d hd]

end Bridge

end ScadaBridge
