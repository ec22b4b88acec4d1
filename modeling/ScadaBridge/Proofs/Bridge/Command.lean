import ScadaBridge.Proofs.Bridge.Trace

/-!
# Commands and write requests

A command is for the one device that its topic names (`handle_command`). Of its metrics only those count that
this device carries out; the others might as well not have been sent (`handle_effective`).

Write requests are numbered over the whole run, across all devices and commands, in the order in which they
are published and without a gap (`run_writesNumbered`). The invariant is that the counter of the bridge is the
number of write requests seen so far.
-/

namespace ScadaBridge

open Ordered

/-! ## Topics of write requests -/

namespace BusTopic

/-- Whether a topic begins with an empty level and ends with the level of write requests. -/
def isWriteRequest (topic : String) : Bool :=
  topic.toList.head? == some '/' && "/write".toList.isSuffixOf topic.toList

theorem isWriteRequest_writeRequest (device site point : String) :
    isWriteRequest (writeRequest device site point) = true := by
  have htext : (writeRequest device site point).toList =
      '/' :: (device.toList ++ '/' :: (site.toList ++ '/' :: point.toList)) ++ "/write".toList := by
    simp [writeRequest, Topic.ofSegments, List.intercalate]
  have hend : "/write".toList <:+ (writeRequest device site point).toList := ⟨_, htext.symm⟩
  rw [isWriteRequest, List.isSuffixOf_iff_suffix.2 hend, htext]
  rfl

theorem isWriteRequest_vendorCommand (app device : String) :
    isWriteRequest (vendorCommand app device) = false := by
  simp [isWriteRequest, vendorCommand, Topic.ofSegments, List.intercalate]

theorem isWriteRequest_announceRequest : isWriteRequest announceRequest = false := by decide +kernel

end BusTopic

/-- The content of the write request that is published. -/
def Event.writeRequest? : Event → Option Json
  | .published (.bus topic content) => if BusTopic.isWriteRequest topic then some content else none
  | .published (.sparkplug _ _) | .will _ => none

theorem Event.writeRequest?_bus {topic : String} {content : Json} (h : BusTopic.isWriteRequest topic = false) :
    (Event.published (.bus topic content)).writeRequest? = none := by
  simp [writeRequest?, h]

/-- The numbers that the write requests among some events carry. -/
def writeNumbers (events : List Event) : List (Option Json) :=
  (events.filterMap Event.writeRequest?).map (Json.get? "app_seq")

/-- The number of the `n`-th write request as it is written. -/
def writeNumber (n : Nat) : Option Json := some (.str (toString (n % 65536)))

theorem writeNumbers_append (first second : List Event) :
    writeNumbers (first ++ second) = writeNumbers first ++ writeNumbers second := by
  simp [writeNumbers]

theorem writeNumbers_eq_nil {events : List Event} (h : ∀ e ∈ events, e.writeRequest? = none) :
    writeNumbers events = [] := by
  rw [writeNumbers, List.filterMap_eq_nil_iff.2 h, List.map_nil]

theorem writeNumbers_cons (device site point : String) (content : Json) (rest : List Event) :
    writeNumbers (.published (.bus (BusTopic.writeRequest device site point) content) :: rest) =
      content.get? "app_seq" :: writeNumbers rest := by
  rw [writeNumbers, List.filterMap_cons_some (b := content), List.map_cons, writeNumbers]
  exact if_pos (BusTopic.isWriteRequest_writeRequest device site point)

/-- Whether a command metric comes to something: it passes the checks of the device, and for a catalog device
its value fits the registers. -/
def Device.carriesOut (d : Device) (now : UInt64) (metric : Wire.Metric) : Bool :=
  match Bridge.accept? d now metric with
  | some m => d.isExternal || (Bridge.registersOf? (d.metric? m.name) m).isSome
  | none => false

namespace Bridge

/-! ## Whom a command is for -/

/-- The device that a command is for, with the topic that names it. -/
def addressee? (b : Bridge) (text : String) : Option (SparkplugTopic × Device) :=
  match SparkplugTopic.parse text with
  | .ok topic =>
    if topic.kind = .deviceCommand then topic.device.bind fun name => (b.device? name).map (topic, ·) else none
  | .error _ => none

/-- What the metrics of a command make the bridge do for a device. -/
def obey (b : Bridge) (d : Device) (now : UInt64) (topic : SparkplugTopic) (metrics : List Wire.Metric) :
    Bridge × List Outbound :=
  let accepted := metrics.filterMap (accept? d now)
  if d.isExternal then (b, if accepted.isEmpty then [] else [vendorCommand d topic accepted now])
  else b.writeRequests d now accepted

theorem addressee?_eq_some {b : Bridge} {text : String} {topic : SparkplugTopic} {d : Device} :
    b.addressee? text = some (topic, d) ↔
      SparkplugTopic.parse text = .ok topic ∧ topic.kind = .deviceCommand ∧
        ∃ name, topic.device = some name ∧ b.device? name = some d := by
  unfold addressee?
  cases SparkplugTopic.parse text with
  | error _ => simp
  | ok t =>
    by_cases hkind : t.kind = .deviceCommand
    · simp only [if_pos hkind, Option.bind_eq_some_iff, Option.map_eq_some_iff, Prod.mk.injEq]
      constructor
      · rintro ⟨name, hname, d', hd', rfl, rfl⟩
        exact ⟨rfl, hkind, name, hname, hd'⟩
      · rintro ⟨ht, -, name, hname, hd⟩
        cases ht
        exact ⟨name, hname, d, hd, rfl, rfl⟩
    · simp only [if_neg hkind]
      constructor
      · simp
      · rintro ⟨ht, hkind', -⟩
        cases ht
        exact absurd hkind' hkind

theorem command_eq_obey {b : Bridge} {topic : SparkplugTopic} {name : String} {d : Device}
    (kind : topic.kind = .deviceCommand) (named : topic.device = some name) (found : b.device? name = some d)
    (now : UInt64) (payload : Wire.Payload) :
    b.command now topic payload =
      ((b.obey d now topic payload.metrics).1, .ok (b.obey d now topic payload.metrics).2) := by
  unfold command obey
  rw [kind, named]
  simp only [found]
  split
  · next hempty =>
    have hnil := List.isEmpty_iff.1 hempty
    split
    · rfl
    · rw [hnil]
      rfl
  · split <;> rfl

theorem command_refused {b : Bridge} {topic : SparkplugTopic}
    (h : ∀ name d, topic.kind = .deviceCommand → topic.device = some name → b.device? name ≠ some d)
    (now : UInt64) (payload : Wire.Payload) : ∃ fault, b.command now topic payload = (b, .error fault) := by
  unfold command
  split
  · next name hkind hname =>
    cases hd : b.device? name with
    | none => exact ⟨_, rfl⟩
    | some d => exact absurd hd (h name d hkind hname)
  · exact ⟨_, rfl⟩

/-- A command is obeyed by the device that its topic names, and dropped if there is none. -/
theorem handle_command (b : Bridge) (now : UInt64) (instant : Nat) (text : String) (payload : Wire.Payload) :
    b.handle now instant (.command text payload) =
      match b.addressee? text with
      | some (topic, d) =>
        ((b.obey d now topic payload.metrics).1,
          (b.obey d now topic payload.metrics).1.send (b.obey d now topic payload.metrics).2)
      | none => (b, []) := by
  cases haddressee : b.addressee? text with
  | some addressee =>
    obtain ⟨topic, d⟩ := addressee
    obtain ⟨hparsed, hkind, name, hname, hd⟩ := addressee?_eq_some.1 haddressee
    unfold handle
    simp only [hparsed, command_eq_obey hkind hname hd]
  | none =>
    unfold handle
    dsimp only
    cases hparsed : SparkplugTopic.parse text with
    | error _ => rfl
    | ok topic =>
      have hnobody : ∀ name d, topic.kind = .deviceCommand → topic.device = some name → b.device? name ≠ some d := by
        intro name d hkind hname hd
        have hsome := addressee?_eq_some.2 ⟨hparsed, hkind, name, hname, hd⟩
        rw [haddressee] at hsome
        simp at hsome
      obtain ⟨fault, hrefused⟩ := command_refused hnobody now payload
      simp only [hrefused]

/-! ## Metrics that come to nothing -/

/-- The metrics of a command that its addressee carries out. -/
def effective (b : Bridge) (now : UInt64) (text : String) (payload : Wire.Payload) : List Wire.Metric :=
  match b.addressee? text with
  | some (_, d) => payload.metrics.filter (d.carriesOut now)
  | none => []

theorem writeRequests_cons (b : Bridge) (d : Device) (now : UInt64) (m : Metric) (rest : List Metric) :
    b.writeRequests d now (m :: rest) =
      (((b.writeRequest d now m).1.writeRequests d now rest).1,
        (b.writeRequest d now m).2.toList ++ ((b.writeRequest d now m).1.writeRequests d now rest).2) := rfl

/-- Metrics that cannot be written change neither the requests nor their numbers. -/
theorem writeRequests_filter (b : Bridge) (d : Device) (now : UInt64) (metrics : List Metric) :
    b.writeRequests d now metrics =
      b.writeRequests d now (metrics.filter fun m => (registersOf? (d.metric? m.name) m).isSome) := by
  induction metrics generalizing b with
  | nil => rfl
  | cons m rest ih =>
    cases hregisters : registersOf? (d.metric? m.name) m with
    | none =>
      have hnone : b.writeRequest d now m = (b, none) := by simp [writeRequest, hregisters]
      rw [List.filter_cons_of_neg (by simp [hregisters]), writeRequests_cons, hnone]
      exact ih b
    | some _ =>
      rw [List.filter_cons_of_pos (by simp [hregisters]), writeRequests_cons, writeRequests_cons, ih]

theorem filterMap_carriesOut (d : Device) (now : UInt64) (metrics : List Wire.Metric) :
    (metrics.filter (d.carriesOut now)).filterMap (accept? d now) =
      (metrics.filterMap (accept? d now)).filter fun m =>
        d.isExternal || (registersOf? (d.metric? m.name) m).isSome := by
  rw [List.filterMap_filter, List.filter_filterMap]
  refine List.filterMap_congr fun metric _ => ?_
  unfold Device.carriesOut
  cases accept? d now metric with
  | none => simp
  | some m => simp [Option.filter]

theorem obey_carriesOut (b : Bridge) (d : Device) (now : UInt64) (topic : SparkplugTopic)
    (metrics : List Wire.Metric) :
    b.obey d now topic metrics = b.obey d now topic (metrics.filter (d.carriesOut now)) := by
  unfold obey
  simp only [filterMap_carriesOut]
  cases d.isExternal with
  | true => simp
  | false =>
    rw [if_neg Bool.false_ne_true, if_neg Bool.false_ne_true, b.writeRequests_filter d now]
    simp only [Bool.false_or]

/-- Only the metrics that are carried out count: the bridge is left as it would be without the others, and the
same is published. -/
theorem handle_effective (b : Bridge) (now : UInt64) (instant : Nat) (text : String) (payload : Wire.Payload) :
    b.handle now instant (.command text payload) =
      b.handle now instant (.command text { payload with metrics := b.effective now text payload }) := by
  rw [handle_command, handle_command]
  cases haddressee : b.addressee? text with
  | none => rfl
  | some addressee =>
    obtain ⟨topic, d⟩ := addressee
    simp only [effective, haddressee, ← obey_carriesOut]

/-! ## Numbers of write requests -/

/-- Write requests take their numbers one by one. -/
theorem writeRequests_numbered {b : Bridge} {k : Nat} (h : b.writeSeq = .ofNat 65535 k) (d : Device) (now : UInt64)
    (metrics : List Metric) :
    (b.writeRequests d now metrics).1.writeSeq =
        .ofNat 65535 (k + (b.writeRequests d now metrics).2.length) ∧
      writeNumbers ((b.writeRequests d now metrics).2.map .published) =
        (List.range' k (b.writeRequests d now metrics).2.length).map writeNumber := by
  induction metrics generalizing b k with
  | nil => exact ⟨h, rfl⟩
  | cons m rest ih =>
    rw [writeRequests_cons]
    cases hregisters : registersOf? (d.metric? m.name) m with
    | none =>
      have hnone : b.writeRequest d now m = (b, none) := by simp [writeRequest, hregisters]
      rw [hnone]
      exact ih h
    | some registers =>
      have hfirst : b.writeRequest d now m =
          ({ b with writeSeq := .ofNat 65535 (k + 1) },
            some (.bus (BusTopic.writeRequest d.localName (d.site?.getD "") m.name)
              (writeContent (d.site?.getD "") m.name registers (isRealtime (d.metric? m.name)) (k % 65536) now))) := by
        simp only [writeRequest, hregisters, h, Counter.next, Counter.advance, Counter.ofNat, Nat.mod_add_mod]
      obtain ⟨hseq, hnumbers⟩ := ih (b := { b with writeSeq := .ofNat 65535 (k + 1) }) (k := k + 1) rfl
      rw [hfirst]
      dsimp only [Option.toList_some, List.singleton_append]
      refine ⟨?_, ?_⟩
      · rw [hseq, List.length_cons, Nat.add_right_comm, Nat.add_assoc]
      · rw [List.map_cons, writeNumbers_cons, hnumbers, List.length_cons, List.range'_succ, List.map_cons]
        rfl

theorem length_writeRequests (b : Bridge) (d : Device) (now : UInt64) (metrics : List Metric) :
    (b.writeRequests d now metrics).2.length =
      metrics.countP fun m => (registersOf? (d.metric? m.name) m).isSome := by
  induction metrics generalizing b with
  | nil => rfl
  | cons m rest ih =>
    rw [writeRequests_cons, List.length_append, ih, List.countP_cons, Nat.add_comm]
    cases hregisters : registersOf? (d.metric? m.name) m <;> simp [writeRequest, hregisters]

/-- How many write requests a command calls for: one for each metric that a catalog device carries out. -/
def requestCount (b : Bridge) (now : UInt64) (text : String) (payload : Wire.Payload) : Nat :=
  match b.addressee? text with
  | some (_, d) => if d.isExternal then 0 else (b.effective now text payload).length
  | none => 0

theorem length_filter_carriesOut {d : Device} (catalog : d.isExternal = false) (now : UInt64)
    (metrics : List Wire.Metric) :
    (metrics.filter (d.carriesOut now)).length =
      (metrics.filterMap (accept? d now)).countP fun m => (registersOf? (d.metric? m.name) m).isSome := by
  rw [← List.countP_eq_length_filter, List.countP_filterMap]
  refine List.countP_congr fun metric _ => ?_
  unfold Device.carriesOut
  cases accept? d now metric with
  | none => simp
  | some m => simp [catalog]

/-- While what is published has a receiver, the write requests of a command carry the next numbers. -/
theorem handle_numbered {b : Bridge} {k : Nat} (h : b.writeSeq = .ofNat 65535 k) (outlet : b.outletOpen = true)
    (now : UInt64) (instant : Nat) (text : String) (payload : Wire.Payload) :
    (b.handle now instant (.command text payload)).1.writeSeq = .ofNat 65535 (k + b.requestCount now text payload) ∧
      writeNumbers ((b.handle now instant (.command text payload)).2.map .published) =
        (List.range' k (b.requestCount now text payload)).map writeNumber := by
  rw [handle_command]
  unfold requestCount effective
  cases b.addressee? text with
  | none => exact ⟨h, rfl⟩
  | some addressee =>
    obtain ⟨topic, d⟩ := addressee
    dsimp only
    unfold obey
    dsimp only
    cases hexternal : d.isExternal with
    | true =>
      refine ⟨h, writeNumbers_eq_nil fun e he => ?_⟩
      obtain ⟨message, hmessage, rfl⟩ := List.mem_map.1 he
      have hvendor := (List.mem_filter.1 hmessage).1
      rw [if_pos rfl] at hvendor
      dsimp only at hvendor
      split at hvendor
      · simp at hvendor
      · rw [List.mem_singleton.1 hvendor]
        exact Event.writeRequest?_bus (BusTopic.isWriteRequest_vendorCommand _ _)
    | false =>
      rw [if_neg Bool.false_ne_true, if_neg Bool.false_ne_true]
      have hnumbered := writeRequests_numbered h d now (payload.metrics.filterMap (accept? d now))
      have hlength := b.length_writeRequests d now (payload.metrics.filterMap (accept? d now))
      rw [← length_filter_carriesOut hexternal] at hlength
      have hsent : (b.writeRequests d now (payload.metrics.filterMap (accept? d now))).1.send
          (b.writeRequests d now (payload.metrics.filterMap (accept? d now))).2 =
            (b.writeRequests d now (payload.metrics.filterMap (accept? d now))).2 := by
        refine List.filter_eq_self.2 fun message hmessage => ?_
        obtain ⟨_, _, rfl⟩ := mem_writeRequests hmessage
        rw [writeRequests_frame]
        exact outlet
      rw [hsent, ← hlength]
      exact hnumbered

/-! ## Runs -/

/-- Publishing neither makes write requests nor takes numbers of them. -/
theorem publish_noWrites {b : Bridge} (hs : b.Sorted) (now : UInt64) (actions : List Action) :
    writeNumbers ((b.publish now actions).2.map .published) = [] ∧ (b.publish now actions).1.writeSeq = b.writeSeq := by
  obtain ⟨messages, hemits, hsent⟩ := publish_emits hs now actions
  refine ⟨writeNumbers_eq_nil fun e he => ?_, by rw [hemits.frame]⟩
  obtain ⟨message, hmessage, rfl⟩ := List.mem_map.1 he
  rw [hsent] at hmessage
  obtain ⟨_, _, rfl⟩ := hemits.sparkplug (List.mem_filter.1 hmessage).1
  rfl

theorem announceRequest_noWrites (b : Bridge) : writeNumbers ((b.send [announceRequest]).map .published) = [] := by
  refine writeNumbers_eq_nil fun e he => ?_
  obtain ⟨message, hmessage, rfl⟩ := List.mem_map.1 he
  rw [List.mem_singleton.1 (List.mem_filter.1 hmessage).1]
  exact Event.writeRequest?_bus BusTopic.isWriteRequest_announceRequest

theorem handleConnection_noWrites {b : Bridge} (hs : b.Sorted) (now : UInt64) (instant : Nat)
    (event : ConnectionEvent) :
    writeNumbers ((b.handleConnection now instant event).2.map .published) = [] ∧
      (b.handleConnection now instant event).1.writeSeq = b.writeSeq := by
  cases event with
  | scadaConnected =>
    have honline : ({ b with online := true } : Bridge).Sorted := hs
    obtain ⟨hnone, hseq⟩ := publish_noWrites honline now [.nodeRebirth]
    unfold handleConnection
    dsimp only
    rw [List.map_append, writeNumbers_append, hnone, announceRequest_noWrites]
    exact ⟨rfl, hseq⟩
  | scadaLost => exact ⟨rfl, rfl⟩
  | busLost => exact ⟨rfl, rfl⟩
  | busConnected =>
    rcases hconnected : b.outage.connected with ⟨outage, expired⟩
    simp only [handleConnection, hconnected]
    cases expired with
    | false => exact ⟨announceRequest_noWrites _, rfl⟩
    | true =>
      have hs' : ({ b with outage := outage } : Bridge).Sorted := hs
      obtain ⟨hnone, hseq⟩ := publish_noWrites (restore_sorted hs') now ({ b with outage := outage } : Bridge).restore.2
      rw [if_pos rfl, List.map_append, writeNumbers_append, announceRequest_noWrites, hnone]
      refine ⟨rfl, ?_⟩
      dsimp only
      rw [hseq, restore_frame]

/-- Only commands make write requests. -/
theorem step_noWrites {b : Bridge} (hs : b.Sorted) {s : Step}
    (other : ∀ now instant text payload, s ≠ .take now instant (.command text payload)) :
    writeNumbers (b.step s).2 = [] ∧ (b.step s).1.writeSeq = b.writeSeq := by
  cases s with
  | prepare now => exact ⟨rfl, rfl⟩
  | check now instant =>
    rcases hcheck : b.outage.check instant with ⟨outage, expired⟩
    simp only [step, checkTimeout, hcheck]
    cases expired with
    | false => exact ⟨rfl, rfl⟩
    | true =>
      have hs' : ({ b with outage := outage } : Bridge).Sorted := hs
      obtain ⟨hnone, hseq⟩ := publish_noWrites (expireOutage_sorted hs' now) now
        (({ b with outage := outage } : Bridge).expireOutage now).2
      refine ⟨hnone, ?_⟩
      dsimp only
      rw [hseq, expireOutage_frame]
  | take now instant message =>
    cases message with
    | command text payload => exact absurd rfl (other now instant text payload)
    | connection event => exact handleConnection_noWrites hs now instant event
    | bus topic payload =>
      rcases b.process_turns now topic payload with ⟨fault, heq⟩ | ⟨t, b', actions, -, heq, hturn⟩
      · simp only [step, handle, heq]
        exact ⟨rfl, trivial⟩
      · simp only [step, handle, heq]
        obtain ⟨hnone, hseq⟩ := publish_noWrites (hturn.sorted hs) now actions
        refine ⟨hnone, ?_⟩
        rw [hseq, hturn.frame]

/-- The counter is the number of write requests that were seen. -/
structure CountsWrites (b : Bridge) (seen : List Event) : Prop where
  sorted : b.Sorted
  /-- What is published has a receiver. -/
  outlet : b.outletOpen = true
  counter : b.writeSeq = .ofNat 65535 (writeNumbers seen).length
  numbers : writeNumbers seen = (List.range (writeNumbers seen).length).map writeNumber

theorem CountsWrites.step {b : Bridge} {seen : List Event} (h : b.CountsWrites seen) (s : Step) :
    (b.step s).1.CountsWrites (seen ++ (b.step s).2) := by
  have hnext : ∃ count, (b.step s).1.writeSeq = .ofNat 65535 ((writeNumbers seen).length + count) ∧
      writeNumbers (b.step s).2 = (List.range' (writeNumbers seen).length count).map writeNumber := by
    by_cases hcommand : ∃ now instant text payload, s = .take now instant (.command text payload)
    · obtain ⟨now, instant, text, payload, rfl⟩ := hcommand
      exact ⟨_, handle_numbered h.counter h.outlet now instant text payload⟩
    · obtain ⟨hnone, hseq⟩ := step_noWrites h.sorted (s := s) fun now instant text payload heq =>
        hcommand ⟨now, instant, text, payload, heq⟩
      exact ⟨0, by rw [hseq, h.counter, Nat.add_zero], hnone⟩
  obtain ⟨count, hseq, hnumbers⟩ := hnext
  have hall : writeNumbers (seen ++ (b.step s).2) =
      (List.range ((writeNumbers seen).length + count)).map writeNumber := by
    rw [writeNumbers_append, hnumbers, List.range_add, List.map_append, ← h.numbers, List.range'_eq_map_range]
  have hlength : (writeNumbers (seen ++ (b.step s).2)).length = (writeNumbers seen).length + count := by
    rw [hall, List.length_map, List.length_range]
  refine ⟨(b.step_calls s).sorted h.sorted, ?_, ?_, ?_⟩
  · rw [(step_rendered h.sorted s).1, rendered_frame h.sorted s]
    exact (b.plan_outletOpen s).trans h.outlet
  · rw [hlength, hseq]
  · rw [hlength, hall]

theorem countsWrites_run (settings : Settings) (now : UInt64) (steps : List Step) :
    ((start settings now).run steps).1.CountsWrites ((start settings now).run steps).2 := by
  refine run_induction (P := fun _ b seen => b.CountsWrites seen) ?_ (fun _ _ _ s h => h.step s) steps
  refine ⟨start_sorted settings now, ?_, ?_, rfl⟩
  · rw [start_frame]
    rfl
  · rw [start_frame]
    rfl

/-- The write requests of a run are numbered in the order in which they are published. A command adds one request
for each metric that its addressee carries out, and does the same as if it held no others. -/
theorem run_writesNumbered (settings : Settings) (now : UInt64) (steps : List Step) :
    writeNumbers ((start settings now).run steps).2 =
        (List.range (writeNumbers ((start settings now).run steps).2).length).map writeNumber ∧
      ∀ (later : UInt64) (instant : Nat) (text : String) (payload : Wire.Payload),
        let b := ((start settings now).run steps).1
        (writeNumbers ((b.handle later instant (.command text payload)).2.map .published)).length =
            b.requestCount later text payload ∧
          b.handle later instant (.command text payload) =
            b.handle later instant (.command text { payload with metrics := b.effective later text payload }) := by
  have hcounts := countsWrites_run settings now steps
  refine ⟨hcounts.numbers, fun later instant text payload => ⟨?_, handle_effective _ later instant text payload⟩⟩
  rw [(handle_numbered hcounts.counter hcounts.outlet later instant text payload).2, List.length_map,
    List.length_range']

/-- A text that is too long for its registers, and a point that the device does not have, take no number. -/
example :
    let points : List CatalogPoint :=
      [⟨"Flow", "uint", 1, 40001, .holdingRegister, 0, false⟩, ⟨"Tag", "string", 1, 40002, .holdingRegister, 0, false⟩]
    let settings : Settings := { catalog := ⟨[⟨"PL0", "fm", points⟩]⟩ }
    let metrics : List Wire.Metric :=
      [.plain "Tag" 0 12 false (.string "TOO LONG"), .plain "Flow" 0 6 false (.int 300),
        .plain "Level" 0 6 false (.int 300)]
    let topic : SparkplugTopic := ⟨settings.groupId, .deviceCommand, settings.edgeNodeId, some "fm-PL0"⟩
    let command : Step := .take 0 0 (.command topic.text { Wire.Payload.empty 0 with metrics := metrics })
    (writeNumbers ((start settings 0).run [command, command]).2).map (·.bind Json.text?) = [some "0", some "1"] := by
  decide +kernel

end Bridge

end ScadaBridge
