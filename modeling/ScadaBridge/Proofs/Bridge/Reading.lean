import ScadaBridge.Proofs.Bridge.Account
import ScadaBridge.Proofs.Bridge.Topics

/-!
# What a reading of a point does

A reading of a point of a catalog device is bad, and then either reports the death of the device or says
nothing, or it is good and either cannot be evaluated or brings a value. `reading_outcome` says for each of
these what the bridge is after it and what is rendered.

That a value is never refused rests on the devices being well-formed in all reachable states (`run_whole`): a
stored value has the declared type of its point, and an evaluated one too.
-/

namespace ScadaBridge

open Ordered

/-! ## Good readings -/

/-- A good reading that can be evaluated brings a value of the declared type. -/
theorem Reading.evaluate_of_good {r : Reading} {declared : DataType} {deathCodes : List UInt64}
    {meaning : Evaluation} (good : r.isGood = true) (h : r.evaluate declared deathCodes = .ok meaning) :
    ∃ v, meaning = .value v ∧ v.dataType = declared := by
  unfold evaluate at h
  rw [if_pos good] at h
  obtain ⟨v, hmeaning, ⟨j, hjson⟩ | ⟨raw, hregisters⟩⟩ := goodValue_cases h
  · exact ⟨v, hmeaning, Scalar.ofJson_dataType hjson⟩
  · exact ⟨v, hmeaning, Scalar.ofRegisters_dataType hregisters⟩

namespace Device

theorem ingest_value {d : Device} {point : String} {l : Leaf} (stored : d.metric? point = some (.leaf l))
    (wellFormed : l.WellFormed) {v : Scalar} (typed : v.dataType = l.declared) (timestamp : UInt64) :
    d.ingest point (.leaf (.ofValue point v timestamp)) timestamp =
      if l.value = some v then (d, .noChange)
      else (d.addMetric (.leaf (l.take (.ofValue point v timestamp) v)), .assigned .whole) := by
  have hname : (Metric.leaf (.ofValue point v timestamp)).name = point := rfl
  have htime : (Metric.leaf (.ofValue point v timestamp)).atTime timestamp =
      .leaf (.ofValue point v timestamp) := rfl
  have hfound : find? Metric.name point d.metrics = some (.leaf l) := stored
  have hassign := wellFormed.assign_value typed point timestamp
  unfold ingest ingestInto
  rw [hname, if_neg (not_not.2 rfl), hfound]
  dsimp only
  rw [htime, Metric.assign, hassign]
  by_cases hheld : l.value = some v
  · rw [if_pos hheld, if_pos hheld]
  · rw [if_neg hheld, if_neg hheld]
    rfl

/-- Of the metrics of a device one point was set to a value, and the others are as they were. -/
structure Sets (d d' : Device) (point : String) (type : DataType) (v : Scalar) : Prop where
  held : ∃ l, d'.metric? point = some (.leaf l) ∧ l.WellFormed ∧ l.declared = type ∧ l.value = some v
  others : ∀ name, name ≠ point → d'.metric? name = d.metric? name

theorem Sets.of_metrics_eq {d d' d'' : Device} {point : String} {type : DataType} {v : Scalar}
    (h : d.Sets d' point type v) (same : d''.metrics = d'.metrics) : d.Sets d'' point type v := by
  have hsame : ∀ name, d''.metric? name = d'.metric? name := fun name => congrArg (find? Metric.name name) same
  obtain ⟨l, hl, hvalue⟩ := h.held
  exact ⟨⟨l, (hsame point).trans hl, hvalue⟩, fun name hne => (hsame name).trans (h.others name hne)⟩

/-- A point that is stored has the value, or holds it after the value was taken over. -/
theorem sets_ingest {d : Device} {point : String} {l : Leaf} (stored : d.metric? point = some (.leaf l))
    (wellFormed : l.WellFormed) {v : Scalar} (typed : v.dataType = l.declared) (timestamp : UInt64) :
    d.Sets (d.ingest point (.leaf (.ofValue point v timestamp)) timestamp).1 point l.declared v := by
  have hname : (Metric.leaf l).name = point := key_of_find?_eq_some stored
  rw [ingest_value stored wellFormed typed]
  split
  · next hheld => exact ⟨⟨l, stored, wellFormed, rfl, hheld⟩, fun _ _ => rfl⟩
  · let taken := l.take (.ofValue point v timestamp) v
    have htaken : (Metric.leaf taken).name = point := hname
    refine ⟨⟨taken, ?_, wellFormed.take typed _, rfl, rfl⟩, fun name hne => ?_⟩
    · rw [metric?_addMetric, if_pos htaken]
    · rw [metric?_addMetric, if_neg (htaken.trans_ne hne.symm)]

end Device

/-- The payload holds one metric, which is read as a point with a value. -/
def Wire.Payload.Tells (payload : Wire.Payload) (point : String) (v : Scalar) : Prop :=
  ∃ metric read, payload.metrics = [metric] ∧ Metric.ofWire metric = .ok (.leaf read) ∧
    read.label.name = point ∧ read.value = some v

namespace Bridge

/-- What a reading of a point of a catalog device does to the bridge, and what is rendered of it. -/
def updated (b : Bridge) (device site point : String) (payload : List UInt8) (now : UInt64) :
    Bridge × List Outbound :=
  match b.deviceUpdate device site point payload now with
  | (b, .ok actions) => b.renderAll now actions
  | (b, .error _) => (b, [])

/-- A reading arrives on the topic of its point, and of what is rendered that is sent which passes. -/
theorem handle_update {b : Bridge} (hs : b.Sorted) {topic device site point : String}
    (addressed : BusTopic.parse topic = .ok (.update device site point)) (payload : List UInt8) (now : UInt64)
    (instant : Nat) :
    b.handle now instant (.bus topic payload) =
      ((b.updated device site point payload now).1, b.send (b.updated device site point payload now).2) := by
  have hprocess : b.process now topic payload = b.deviceUpdate device site point payload now := by
    unfold process
    rw [addressed]
  have hturns := b.deviceUpdate_turns device site point payload now
  unfold handle updated
  dsimp only
  rw [hprocess]
  generalize b.deviceUpdate device site point payload now = updated at hturns ⊢
  obtain ⟨b', outcome⟩ := updated
  cases outcome with
  | error fault => rfl
  | ok actions =>
    have hturn : b.Turn (.update device site point) b' actions := hturns
    have hpasses : b'.passes = b.passes := by
      funext message
      rw [hturn.frame]
      cases message <;> rfl
    dsimp only
    rw [publish_eq_renderAll (hturn.sorted hs), send, send, hpasses]

/-! ## Deaths -/

/-- A device is reported dead: its metrics stay, and its death is rendered if its birth was published and it is not
known to be dead. -/
structure Buries (b : Bridge) (d : Device) (result : Bridge × List Outbound) : Prop where
  metrics : ∀ name, (result.1.device? name).map Device.metrics = (b.device? name).map Device.metrics
  death : d.published = .up → d.known ≠ .down →
    result.2.map Outbound.topic? = [some (b.deviceTopic .deviceDeath d.telemetryName)]
  nothing : ¬(d.published = .up ∧ d.known ≠ .down) → result.2 = []

theorem declareDead_buries {b : Bridge} (hs : b.Sorted) {d : Device} (found : b.device? d.telemetryName = some d)
    (timestamp now : UInt64) :
    b.Buries d ((b.declareDead d.telemetryName timestamp).1.renderAll now
      (b.declareDead d.telemetryName timestamp).2) := by
  have hmetrics : ∀ name, (((b.declareDead d.telemetryName timestamp).1.renderAll now
      (b.declareDead d.telemetryName timestamp).2).1.device? name).map Device.metrics =
        (b.device? name).map Device.metrics := by
    intro name
    have hemits := renderAll_emits (declareDead_sorted hs d.telemetryName timestamp) now
      (b.declareDead d.telemetryName timestamp).2
    rw [hemits.map_device? (fun _ _ _ => rfl) name, device?_declareDead, Option.map_map]
    congr 1
    funext e
    simp only [Function.comp_apply]
    split <;> rfl
  rcases b.declareDead_cases d.telemetryName timestamp with ⟨heq, hdown⟩ | ⟨e, he, halive, heq⟩
  · have hd := hdown d found
    refine ⟨hmetrics, fun _ halive => absurd hd halive, fun _ => ?_⟩
    rw [heq]
    rfl
  · obtain rfl : d = e := Option.some.inj (found.symm.trans he)
    refine ⟨hmetrics, fun hup _ => ?_, fun hnot => ?_⟩
    · have hput : (b.putDevice (d.markDead timestamp)).device? d.telemetryName = some (d.markDead timestamp) := by
        rw [device?_putDevice]
        exact if_pos rfl
      rw [heq, if_pos hup, renderAll_singleton, render_death hput]
      rfl
    · have hup : d.published ≠ .up := fun hup => hnot ⟨hup, halive⟩
      rw [heq, if_neg hup]
      rfl

/-! ## Values -/

/-- A value is taken over for a point of a device that is stored as a leaf: the point holds it after that, nothing
else has changed, and it is told by the birth that the device owes, or by data if it is new. -/
structure TakesOver (b : Bridge) (d : Device) (point : String) (l : Leaf) (v : Scalar)
    (result : Bridge × List Outbound) : Prop where
  typed : v.dataType = l.declared
  accepted : ∀ timestamp, (d.ingest point (.leaf (.ofValue point v timestamp)) timestamp).2 ≠ .typeMismatch
  sets : ∃ d', result.1.device? d.telemetryName = some d' ∧ d.Sets d' point l.declared v
  others : ∀ name, name ≠ d.telemetryName → result.1.device? name = b.device? name
  birth : d.needsBirth = true →
    result.2.map Outbound.topic? = [some (b.deviceTopic .deviceBirth d.telemetryName)]
  data : d.needsBirth = false → l.value ≠ some v → ∃ payload,
    result.2 = [.sparkplug (b.deviceTopic .deviceData d.telemetryName) payload] ∧ payload.Tells point v
  nothing : d.needsBirth = false → l.value = some v → result.2 = []

/-- Rendering changes nothing of the metrics of a device. -/
theorem exists_device?_renderAll {b : Bridge} (hs : b.Sorted) {name : String} {d : Device}
    (found : b.device? name = some d) (now : UInt64) (actions : List Action) :
    ∃ d', (b.renderAll now actions).1.device? name = some d' ∧ d'.metrics = d.metrics := by
  have hkept := (renderAll_emits hs now actions).map_device? (f := Device.metrics) (fun _ _ _ => rfl) name
  rw [found, Option.map_some] at hkept
  exact Option.map_eq_some_iff.1 hkept

/-- What changed values of a device call for does not touch other devices. -/
theorem device?_renderAll_birthOrData (b : Bridge) (now : UInt64) (owes : Bool) {name other : String}
    (changes : ChangeSet) (hne : other ≠ name) :
    (b.renderAll now (birthOrData owes name changes)).1.device? other = b.device? other := by
  unfold birthOrData
  split
  · rw [renderAll_singleton]
    exact (b.render_about now rfl).1 other hne
  · split
    · rfl
    · rw [renderAll_singleton]
      exact (b.render_about now rfl).1 other hne

/-- A point that changed is told by a data message. -/
theorem renderAll_data_tells {b : Bridge} {d : Device} (found : b.device? d.telemetryName = some d)
    {point : String} {l : Leaf} (stored : d.metric? point = some (.leaf l)) (wellFormed : l.WellFormed)
    {v : Scalar} (held : l.value = some v) (now : UInt64) :
    ∃ payload, (b.renderAll now [.data d.telemetryName [(point, .whole)]]).2 =
        [.sparkplug (b.deviceTopic .deviceData d.telemetryName) payload] ∧
      payload.Tells point v := by
  have hfound : find? Metric.name point d.metrics = some (.leaf l) := stored
  have hmetrics : Metric.dataOf d.metrics [(point, .whole)] = [l.toWire false] := by
    simp [Metric.dataOf, hfound, Metric.data, Metric.toWire]
  have hdata : d.data [(point, .whole)] now = ({ d with published := .up },
      some { Wire.Payload.empty (millis now) with metrics := [l.toWire false] }) := by
    simp [Device.data, hmetrics]
  have hread := Metric.ofWire_toWire_leaf wellFormed false
  have hname : (Metric.leaf l).name = point := key_of_find?_eq_some hfound
  rw [renderAll_singleton, render_data found hdata]
  exact ⟨_, rfl, l.toWire false, l.received false, rfl, hread, hname, held⟩

/-- A value of the declared type of a point is taken over. -/
theorem takeValue_takesOver {b : Bridge} (hs : b.Sorted) {d : Device} {point : String} {l : Leaf}
    (stored : d.metric? point = some (.leaf l)) (wellFormed : l.WellFormed) {v : Scalar}
    (typed : v.dataType = l.declared) (timestamp now : UInt64) :
    b.TakesOver d point l v ((b.takeValue d point v timestamp).1.renderAll now
      (b.takeValue d point v timestamp).2) := by
  have hingest := Device.ingest_value stored wellFormed typed timestamp
  have hsets := Device.sets_ingest stored wellFormed typed timestamp
  have htaken : b.takeValue d point v timestamp =
      (b.putDevice (d.ingest point (.leaf (.ofValue point v timestamp)) timestamp).1.markAlive,
        birthOrData d.needsBirth d.telemetryName
          (Device.changesOf (d.ingest point (.leaf (.ofValue point v timestamp)) timestamp).2 point)) := rfl
  have hname : (d.ingest point (.leaf (.ofValue point v timestamp)) timestamp).1.markAlive.telemetryName =
      d.telemetryName := rfl
  rw [htaken]
  generalize d.ingest point (.leaf (.ofValue point v timestamp)) timestamp = heard at hingest hsets hname ⊢
  have hput : (b.putDevice heard.1.markAlive).device? d.telemetryName = some heard.1.markAlive := by
    rw [device?_putDevice, if_pos hname]
  refine ⟨typed, fun time => ?_, ?_, fun name hne => ?_, fun howes => ?_, fun hborn hnew => ?_,
    fun hborn hheld => ?_⟩
  · rw [Device.ingest_value stored wellFormed typed time]
    split <;> simp
  · obtain ⟨d', hd', hmetrics⟩ := exists_device?_renderAll (hs.putDevice heard.1.markAlive) hput now
      (birthOrData d.needsBirth d.telemetryName (Device.changesOf heard.2 point))
    exact ⟨d', hd', hsets.of_metrics_eq hmetrics⟩
  · rw [device?_renderAll_birthOrData _ _ _ _ hne, device?_putDevice, hname, if_neg hne.symm]
  · have hbirth : birthOrData d.needsBirth d.telemetryName (Device.changesOf heard.2 point) =
        [.birth d.telemetryName] := if_pos howes
    rw [hbirth, renderAll_singleton, render_birth hput]
    show [some (b.deviceTopic .deviceBirth heard.1.markAlive.telemetryName)] = _
    rw [hname]
  · have hchanges : heard.2 = .assigned .whole := congrArg Prod.snd (hingest.trans (if_neg hnew))
    have hdata : birthOrData d.needsBirth d.telemetryName (Device.changesOf heard.2 point) =
        [.data d.telemetryName [(point, .whole)]] := by
      rw [hchanges, hborn]
      rfl
    obtain ⟨m, hm, hwell, -, hvalue⟩ := hsets.held
    have hstored : heard.1.markAlive.metric? point = some (.leaf m) := hm
    have htold := renderAll_data_tells (device?_self hput) hstored hwell hvalue now
    rw [hname] at htold
    rw [hdata]
    exact htold
  · have hchanges : heard.2 = .noChange := congrArg Prod.snd (hingest.trans (if_pos hheld))
    have hnothing : birthOrData d.needsBirth d.telemetryName (Device.changesOf heard.2 point) = [] := by
      rw [hchanges, hborn]
      rfl
    rw [hnothing]
    rfl

/-! ## The outcome of a reading -/

theorem updated_eq {b : Bridge} {device site point : String} {d : Device} {m : Metric} {payload : List UInt8}
    {r : Reading} (found : b.catalogDevice? device site = some d) (stored : d.metric? point = some m)
    (parsed : Reading.parse payload = .ok r) (now : UInt64) :
    let timestamp := if r.time = 0 then now else r.time
    b.updated device site point payload now =
      match r.evaluate m.declaredType b.settings.deathErrorCodes with
      | .error _ | .ok (.badRead _) => (b, [])
      | .ok .deviceDead =>
        (b.declareDead d.telemetryName timestamp).1.renderAll now (b.declareDead d.telemetryName timestamp).2
      | .ok (.value v) =>
        (b.takeValue d point v timestamp).1.renderAll now (b.takeValue d point v timestamp).2 := by
  intro timestamp
  unfold updated deviceUpdate
  simp only [found, stored, parsed]
  cases r.evaluate m.declaredType b.settings.deathErrorCodes with
  | error fault => rfl
  | ok meaning => cases meaning <;> rfl

/-- In every reachable state, a bad reading of a point reports the death of its device if it has one of the error
codes for that, and does nothing otherwise. A good reading does nothing if it cannot be evaluated; otherwise it
brings a value of the declared type, which is taken over. -/
theorem reading_outcome {settings : Settings} {started : UInt64} {steps : List Step} {b : Bridge}
    (reached : ((start settings started).run steps).1 = b) {device site point : String} {d : Device} {l : Leaf}
    {payload : List UInt8} {r : Reading} (found : b.catalogDevice? device site = some d)
    (stored : d.metric? point = some (.leaf l)) (parsed : Reading.parse payload = .ok r) (now : UInt64) :
    (∀ topic instant, BusTopic.parse topic = .ok (.update device site point) →
      b.handle now instant (.bus topic payload) = ((b.updated device site point payload now).1,
        b.send (b.updated device site point payload now).2)) ∧
    (r.isGood = false →
      if b.settings.deathErrorCodes.contains r.errorCode then b.Buries d (b.updated device site point payload now)
      else b.updated device site point payload now = (b, [])) ∧
    (r.isGood = true →
      match r.evaluate l.declared b.settings.deathErrorCodes with
      | .error _ => b.updated device site point payload now = (b, [])
      | .ok meaning => ∃ v, meaning = .value v ∧
        b.TakesOver d point l v (b.updated device site point payload now)) := by
  have hd : b.device? d.telemetryName = some d := device?_self (device?_of_catalogDevice? found)
  have hs : b.Sorted := reached ▸ (run_online settings started steps).1
  have hwhole : b.Whole := reached ▸ run_whole settings started steps
  have hwell : l.WellFormed := Metric.WellFormed.leaf_iff.1 ((hwhole _ d hd).find? stored)
  have hupdated := updated_eq found stored parsed now
  refine ⟨fun _ instant addressed => handle_update hs addressed payload now instant, fun bad => ?_, fun good => ?_⟩
  · have hmeaning : r.evaluate l.declared b.settings.deathErrorCodes =
        if b.settings.deathErrorCodes.contains r.errorCode then .ok .deviceDead
        else .ok (.badRead r.errorCode) := by
      unfold Reading.evaluate
      rw [bad, if_neg Bool.false_ne_true]
    dsimp only [Metric.declaredType] at hupdated
    rw [hmeaning] at hupdated
    split
    · next hcode =>
      rw [if_pos hcode] at hupdated
      rw [hupdated]
      exact declareDead_buries hs hd _ now
    · next hcode =>
      rw [if_neg hcode] at hupdated
      exact hupdated
  · dsimp only [Metric.declaredType] at hupdated
    split
    · next fault hfault =>
      rw [hfault] at hupdated
      exact hupdated
    · next meaning hmeaning =>
      obtain ⟨v, rfl, typed⟩ := Reading.evaluate_of_good good hmeaning
      rw [hmeaning] at hupdated
      refine ⟨v, rfl, ?_⟩
      rw [hupdated]
      exact takeValue_takesOver hs stored hwell typed _ now

/-- The flow is 5 when it is read first, which is told by the birth of the device, and 6 when it is read again. -/
theorem reading_outcome_flow :
    let settings : Settings :=
      { catalog := ⟨[⟨"PL0", "fm", [⟨"Flow", "uint", 1, 40001, .holdingRegister, 0, false⟩]⟩]⟩ }
    let topic := "/fm/PL0/Flow/update"
    let reading (raw : String) := Utf8.encode ("\x7b\"metric\":\"Flow\",\"value\":\"" ++ raw ++ "\"\x7d")
    let number (n : Nat) : Scalar := .ofPattern ⟨false, .w16⟩ n
    let b := ((start settings 0).run [.take 0 0 (.bus topic (reading "0x0005"))]).1
    let result := b.updated "fm" "PL0" "Flow" (reading "0x0006") 0
    b.handle 0 0 (.bus topic (reading "0x0006")) = (result.1, b.send result.2) ∧
    ∃ d l payload, b.catalogDevice? "fm" "PL0" = some d ∧ d.metric? "Flow" = some (.leaf l) ∧
      l.value = some (number 5) ∧ b.TakesOver d "Flow" l (number 6) result ∧
      result.2 = [.sparkplug (b.deviceTopic .deviceData "fm-PL0") payload] ∧ payload.Tells "Flow" (number 6) := by
  intro settings topic reading number b result
  have hok : ∀ {α : Type} {x : Except Fault α} {a : α}, x.toOption = some a → x = .ok a := by
    intro α x a h
    cases x with
    | error fault => cases h
    | ok a' => exact congrArg Except.ok (Option.some.inj h)
  -- the point
  have hpoint : ((b.catalogDevice? "fm" "PL0").bind fun d => (d.metric? "Flow").map fun m =>
      (d.telemetryName, d.needsBirth, m.declaredType, m.value?)) =
        some ("fm-PL0", false, .integer ⟨false, .w16⟩, some (number 5)) := by decide +kernel
  obtain ⟨d, hd, hpoint⟩ := Option.bind_eq_some_iff.1 hpoint
  obtain ⟨m, hm, hpoint⟩ := Option.map_eq_some_iff.1 hpoint
  simp only [Prod.mk.injEq] at hpoint
  obtain ⟨hname, hborn, hdeclared, hvalue⟩ := hpoint
  -- the reading
  have hreading : ((Reading.parse (reading "0x0006")).toOption.bind fun r =>
      (r.evaluate (.integer ⟨false, .w16⟩) b.settings.deathErrorCodes).toOption.map fun meaning =>
        (r.isGood, match meaning with | .value v => some v | _ => none)) = some (true, some (number 6)) := by
    decide +kernel
  obtain ⟨r, hr, hreading⟩ := Option.bind_eq_some_iff.1 hreading
  obtain ⟨meaning, hmeaning, hreading⟩ := Option.map_eq_some_iff.1 hreading
  obtain ⟨hgood, hnumber⟩ := Prod.mk.inj hreading
  have haddressed : (BusTopic.parse topic).toOption = some (.update "fm" "PL0" "Flow") := by decide +kernel
  cases m with
  | udt head children => cases hdeclared
  | leaf l =>
    have hl : l.declared = .integer ⟨false, .w16⟩ := hdeclared
    have hreached : ((start settings 0).run [.take 0 0 (.bus topic (reading "0x0005"))]).1 = b := rfl
    obtain ⟨harrives, -, houtcome⟩ := reading_outcome hreached hd hm (hok hr) 0
    have htaken := houtcome hgood
    rw [hl, hok hmeaning] at htaken
    obtain ⟨v, rfl, htakes⟩ := htaken
    obtain rfl : v = number 6 := Option.some.inj hnumber
    have hnew : l.value ≠ some (number 6) := by
      rw [show l.value = some (number 5) from hvalue]
      decide +kernel
    obtain ⟨payload, hsent, htells⟩ := htakes.data hborn hnew
    rw [hname] at hsent
    exact ⟨harrives topic 0 (hok haddressed), d, l, payload, hd, hm, hvalue, htakes, hsent, htells⟩

end Bridge

end ScadaBridge
