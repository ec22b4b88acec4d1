import ScadaBridge.Proofs.Bridge.Call

/-!
# Rejected messages

`Bridge.Refuses` says why a message of the plant bus cannot be used: an error arises in no other case, and with
no other fault (`process_error_iff`). Every check comes before the first change, so a message that is rejected
leaves the bridge as it was and nothing is published (`rejected_leaves_no_trace`); a run is the same without it
(`run_rejected`).
-/

namespace ScadaBridge.Bridge

/-! ## Why a message is rejected -/

/-- A message on a topic cannot be used, for a fault: it does not hold what the topic promises, or names a
device, an application or a point that is not known. -/
inductive Refuses (b : Bridge) (payload : List UInt8) : BusTopic → Fault → Prop where
  | birth {app device : String} {fault : Fault} (unreadable : recordsOf payload .noMetrics = .error fault) :
      Refuses b payload (.birth app device) fault
  | dataDevice {app device : String} (unknown : b.vendorDevice? app device = none) :
      Refuses b payload (.data app device) (.unknownDevice (Device.joinedName app device))
  | data {app device : String} {d : Device} {fault : Fault} (found : b.vendorDevice? app device = some d)
      (unreadable : recordsOf payload .noMetrics = .error fault) : Refuses b payload (.data app device) fault
  /-- The death of a vendor application that announced nothing, or of a device of it. -/
  | deathApp {app : String} {device : Option String} (unknown : b.apps.get? app = none) :
      Refuses b payload (.death app device) (.unknownDevice app)
  | deathDevice {app device : String} {known : VendorApp} (found : b.apps.get? app = some known)
      (unknown : b.vendorDevice? app device = none) :
      Refuses b payload (.death app (some device)) (.unknownDevice (Device.joinedName app device))
  | updateDevice {device site point : String} (unknown : b.catalogDevice? device site = none) :
      Refuses b payload (.update device site point) (.unknownDevice (Device.joinedName device site))
  | updatePoint {device site point : String} {d : Device} (found : b.catalogDevice? device site = some d)
      (unknown : d.metric? point = none) :
      Refuses b payload (.update device site point) (.unknownMetric d.telemetryName point)
  | reading {device site point : String} {d : Device} {m : Metric} {fault : Fault}
      (found : b.catalogDevice? device site = some d) (metric : d.metric? point = some m)
      (unreadable : Reading.parse payload = .error fault) : Refuses b payload (.update device site point) fault
  /-- A reading that has no value of the type of the point. -/
  | value {device site point : String} {d : Device} {m : Metric} {r : Reading} {fault : Fault}
      (found : b.catalogDevice? device site = some d) (metric : d.metric? point = some m)
      (read : Reading.parse payload = .ok r)
      (failed : r.evaluate m.declaredType b.settings.deathErrorCodes = .error fault) :
      Refuses b payload (.update device site point) fault
  | definitions {fault : Fault} (unreadable : recordsOf payload .noDefinitions = .error fault) :
      Refuses b payload .definitions fault

variable {b : Bridge} {payload : List UInt8} {now : UInt64} {fault : Fault}

theorem metricsOf_error_iff :
    b.metricsOf payload now = .error fault ↔ recordsOf payload .noMetrics = .error fault := by
  unfold metricsOf
  cases recordsOf payload .noMetrics <;> simp

theorem vendorBirth_error_iff {app device : String} :
    (b.vendorBirth app device payload now).2 = .error fault ↔ b.Refuses payload (.birth app device) fault := by
  constructor
  · intro h
    unfold vendorBirth at h
    cases hmetrics : b.metricsOf payload now with
    | ok metrics => simp [hmetrics] at h
    | error fault' =>
      obtain rfl : fault' = fault := by simpa [hmetrics] using h
      exact .birth (metricsOf_error_iff.1 hmetrics)
  · intro h
    cases h with
    | birth unreadable => simp [vendorBirth, metricsOf_error_iff.2 unreadable]

theorem vendorData_error_iff {app device : String} :
    (b.vendorData app device payload now).2 = .error fault ↔ b.Refuses payload (.data app device) fault := by
  constructor
  · intro h
    unfold vendorData at h
    cases hfound : b.vendorDevice? app device with
    | none =>
      obtain rfl : Fault.unknownDevice _ = fault := by simpa [hfound] using h
      exact .dataDevice hfound
    | some d =>
      cases hmetrics : b.metricsOf payload now with
      | ok metrics => simp [hfound, hmetrics] at h
      | error fault' =>
        obtain rfl : fault' = fault := by simpa [hfound, hmetrics] using h
        exact .data hfound (metricsOf_error_iff.1 hmetrics)
  · intro h
    cases h with
    | dataDevice unknown => simp [vendorData, unknown]
    | data found unreadable => simp [vendorData, found, metricsOf_error_iff.2 unreadable]

theorem vendorDeath_error_iff {app : String} {device : Option String} :
    (b.vendorDeath app device now).2 = .error fault ↔ b.Refuses payload (.death app device) fault := by
  constructor
  · intro h
    unfold vendorDeath at h
    cases hknown : b.apps.get? app with
    | none =>
      obtain rfl : Fault.unknownDevice _ = fault := by simpa [hknown] using h
      exact .deathApp hknown
    | some known =>
      cases device with
      | none => simp [hknown] at h
      | some device =>
        cases hfound : b.vendorDevice? app device with
        | none =>
          obtain rfl : Fault.unknownDevice _ = fault := by simpa [hknown, hfound] using h
          exact .deathDevice hknown hfound
        | some d => simp [hknown, hfound] at h
  · intro h
    cases h with
    | deathApp unknown => simp [vendorDeath, unknown]
    | deathDevice found unknown => simp [vendorDeath, found, unknown]

theorem deviceUpdate_error_iff {device site point : String} :
    (b.deviceUpdate device site point payload now).2 = .error fault ↔
      b.Refuses payload (.update device site point) fault := by
  constructor
  · intro h
    unfold deviceUpdate at h
    cases hfound : b.catalogDevice? device site with
    | none =>
      obtain rfl : Fault.unknownDevice _ = fault := by simpa [hfound] using h
      exact .updateDevice hfound
    | some d =>
      cases hmetric : d.metric? point with
      | none =>
        obtain rfl : Fault.unknownMetric _ _ = fault := by simpa [hfound, hmetric] using h
        exact .updatePoint hfound hmetric
      | some m =>
        cases hread : Reading.parse payload with
        | error fault' =>
          obtain rfl : fault' = fault := by simpa [hfound, hmetric, hread] using h
          exact .reading hfound hmetric hread
        | ok r =>
          cases hvalue : r.evaluate m.declaredType b.settings.deathErrorCodes with
          | error fault' =>
            obtain rfl : fault' = fault := by simpa [hfound, hmetric, hread, hvalue] using h
            exact .value hfound hmetric hread hvalue
          | ok outcome => cases outcome <;> simp [hfound, hmetric, hread, hvalue] at h
  · intro h
    cases h with
    | updateDevice unknown => simp [deviceUpdate, unknown]
    | updatePoint found unknown => simp [deviceUpdate, found, unknown]
    | reading found metric unreadable => simp [deviceUpdate, found, metric, unreadable]
    | value found metric read failed => simp [deviceUpdate, found, metric, read, failed]

theorem announceDefinitions_error_iff :
    (b.announceDefinitions payload now).2 = .error fault ↔ b.Refuses payload .definitions fault := by
  constructor
  · intro h
    unfold announceDefinitions at h
    cases hrecords : recordsOf payload .noDefinitions with
    | ok records => simp [hrecords] at h
    | error fault' =>
      obtain rfl : fault' = fault := by simpa [hrecords] using h
      exact .definitions hrecords
  · intro h
    cases h with
    | definitions unreadable => simp [announceDefinitions, unreadable]

/-- A message of the plant bus is rejected exactly if its topic cannot be read, or it is refused. -/
theorem process_error_iff {topic : String} :
    (b.process now topic payload).2 = .error fault ↔
      BusTopic.parse topic = .error fault ∨ ∃ t, BusTopic.parse topic = .ok t ∧ b.Refuses payload t fault := by
  unfold process
  cases BusTopic.parse topic with
  | error fault' => simp
  | ok t =>
    have hhandled : ∀ {outcome : Except Fault (List Action)}, (outcome = .error fault ↔ b.Refuses payload t fault) →
        (outcome = .error fault ↔ (.ok t : Except Fault BusTopic) = .error fault ∨
          ∃ t', (.ok t : Except Fault BusTopic) = .ok t' ∧ b.Refuses payload t' fault) := by
      intro outcome h
      simpa using h
    cases t with
    | birth app device => exact hhandled vendorBirth_error_iff
    | data app device => exact hhandled vendorData_error_iff
    | death app device => exact hhandled vendorDeath_error_iff
    | update device site point => exact hhandled deviceUpdate_error_iff
    | definitions => exact hhandled announceDefinitions_error_iff

/-! ## What a rejected message leaves behind -/

theorem process_of_error {topic : String} (h : (b.process now topic payload).2 = .error fault) :
    b.process now topic payload = (b, .error fault) := by
  rcases b.process_turns now topic payload with ⟨fault', heq⟩ | ⟨t, b', actions, -, heq, -⟩
  · rw [heq] at h ⊢
    rw [show fault' = fault from Except.error.inj h]
  · rw [heq] at h
    simp at h

/-- A command is rejected exactly if it is not for a device, or for one that is not registered; then not even the
number of write requests changes. -/
theorem command_of_error {topic : SparkplugTopic} {command : Wire.Payload}
    (h : (b.command now topic command).2 = .error fault) : b.command now topic command = (b, .error fault) := by
  unfold Bridge.command at h ⊢
  split at h
  · split at h
    · exact congrArg (b, ·) h
    · dsimp only at h
      split at h
      · simp at h
      · split at h <;> simp at h
  · exact congrArg (b, ·) h

/-- A call takes a message that is rejected. -/
inductive Rejects (b : Bridge) : Step → Prop where
  | message {now : UInt64} {instant : Nat} {topic : String} {payload : List UInt8} {fault : Fault}
      (failed : (b.process now topic payload).2 = .error fault) :
      Rejects b (.take now instant (.bus topic payload))
  | topic {now : UInt64} {instant : Nat} {topic : String} {command : Wire.Payload} {fault : Fault}
      (unreadable : SparkplugTopic.parse topic = .error fault) :
      Rejects b (.take now instant (.command topic command))
  | command {now : UInt64} {instant : Nat} {topic : String} {t : SparkplugTopic} {command : Wire.Payload}
      {fault : Fault} (parsed : SparkplugTopic.parse topic = .ok t)
      (failed : (b.command now t command).2 = .error fault) :
      Rejects b (.take now instant (.command topic command))

theorem handle_of_error {topic : String} (h : (b.process now topic payload).2 = .error fault) (instant : Nat) :
    b.handle now instant (.bus topic payload) = (b, []) := by
  simp [handle, process_of_error h]

theorem step_rejected {s : Step} (h : b.Rejects s) : b.step s = (b, []) := by
  cases h with
  | message failed => simp [step, handle_of_error failed]
  | topic unreadable => simp [step, handle, unreadable]
  | command parsed failed => simp [step, handle, parsed, command_of_error failed]

theorem run_rejected {past : List Step} {s : Step} (h : (b.run past).1.Rejects s) (rest : List Step) :
    b.run (past ++ s :: rest) = b.run (past ++ rest) := by
  have hstep : (b.run past).1.run (s :: rest) = (b.run past).1.run rest := by
    simp [run.eq_2, step_rejected h]
  rw [run_append, run_append, hstep]

/-- A message of the plant bus that is rejected leaves the whole bridge as it was, and nothing is published. A
command changes nothing but the number of write requests, and nothing at all if it is rejected. -/
theorem rejected_leaves_no_trace (b : Bridge) (now : UInt64) (instant : Nat) :
    (∀ topic payload fault, (b.process now topic payload).2 = .error fault →
      (b.process now topic payload).1 = b ∧ b.handle now instant (.bus topic payload) = (b, [])) ∧
    ∀ topic payload,
      (b.command now topic payload).1 = { b with writeSeq := (b.command now topic payload).1.writeSeq } ∧
      ∀ fault, (b.command now topic payload).2 = .error fault → (b.command now topic payload).1 = b := by
  refine ⟨fun topic payload fault h => ⟨?_, handle_of_error h instant⟩,
    fun topic payload => ⟨b.command_frame now topic payload, fun fault h => ?_⟩⟩
  · rw [process_of_error h]
  · rw [command_of_error h]

/-- A pump was announced and died with its application. Births of it and of a new device and data of it, none of which can
be read, neither revive it nor make the new device, so a command for that one is rejected, too. -/
theorem rejected_leaves_no_trace_pump :
    let b := ((start {} 0).run
      [.take 0 0 (.bus "BIRTH/APP1/pump"
        (Utf8.encode "\x7b\"metrics\":[\x7b\"name\":\"speed\",\"dataType\":\"Int32\",\"value\":5\x7d]\x7d")),
        .take 5 0 (.bus "DEATH/APP1" [])]).1
    let payload := Utf8.encode "\x7b\"metrics\":7\x7d"
    b.devices.map (fun d => (d.telemetryName, d.known)) = [("APP1-pump", .down)] ∧
    (∀ topic ∈ ["BIRTH/APP1/pump", "BIRTH/APP1/fan", "DATA/APP1/pump"],
      (b.process 9 topic payload).2 = .error (.malformedRecord .noMetrics) ∧
        (b.process 9 topic payload).1 = b ∧ b.handle 9 0 (.bus topic payload) = (b, [])) ∧
    let topic : SparkplugTopic := ⟨"group", .deviceCommand, "node", some "APP1-fan"⟩
    let command : Wire.Payload := ⟨9, none, none, []⟩
    (b.command 9 topic command).2 = .error (.unknownDevice "APP1-fan") ∧ (b.command 9 topic command).1 = b := by
  intro b payload
  obtain ⟨hmessages, hcommands⟩ := rejected_leaves_no_trace b 9 0
  have hpump : b.devices.map (fun d => (d.telemetryName, d.known)) = [("APP1-pump", .down)] := by decide +kernel
  have hunreadable : recordsOf payload .noMetrics = .error (.malformedRecord .noMetrics) := by
    with_unfolding_all rfl
  have hknown : (b.vendorDevice? "APP1" "pump").isSome = true := by decide +kernel
  obtain ⟨d, hd⟩ := Option.isSome_iff_exists.1 hknown
  have hfailed : ∀ topic ∈ ["BIRTH/APP1/pump", "BIRTH/APP1/fan", "DATA/APP1/pump"],
      (b.process 9 topic payload).2 = .error (.malformedRecord .noMetrics) := by
    intro topic htopic
    rw [process_error_iff]
    simp only [List.mem_cons, List.not_mem_nil, or_false] at htopic
    rcases htopic with rfl | rfl | rfl
    · exact .inr ⟨.birth "APP1" "pump", rfl, .birth hunreadable⟩
    · exact .inr ⟨.birth "APP1" "fan", rfl, .birth hunreadable⟩
    · exact .inr ⟨.data "APP1" "pump", rfl, .data hd hunreadable⟩
  have hmissing : b.device? "APP1-fan" = none := by
    rw [← Option.isNone_iff_eq_none]
    decide +kernel
  refine ⟨hpump, fun topic htopic => ⟨hfailed topic htopic, hmessages _ _ _ (hfailed topic htopic)⟩, ?_⟩
  intro topic command
  have hrefused : (b.command 9 topic command).2 = .error (.unknownDevice "APP1-fan") := by
    simp [Bridge.command, topic, hmissing]
  exact ⟨hrefused, (hcommands topic command).2 _ hrefused⟩

end ScadaBridge.Bridge
