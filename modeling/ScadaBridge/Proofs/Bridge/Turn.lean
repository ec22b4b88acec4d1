import ScadaBridge.Bridge.Session
import ScadaBridge.Proofs.Bridge.Run
import ScadaBridge.Proofs.Device

/-!
# What the bridge does before it publishes

`Bridge.Turn` says case by case what a message on a topic can do to the bridge before anything is
published: a device hears something, devices are declared dead, definitions are replaced, or nothing
happens. `process_turns` is the inversion of `Bridge.process`; what follows of a message is derived from
its cases and from the laws of `declareAllDead`, which also carries the expiry of an outage. The laws of
`reviveAll` and of commands stand at the end.
-/

namespace ScadaBridge.Bridge

open Ordered

/-! ## Declaring devices dead -/

theorem declareDead_cases (b : Bridge) (name : String) (timestamp : UInt64) :
    (b.declareDead name timestamp = (b, []) ∧ ∀ d, b.device? name = some d → d.known = .down) ∨
      ∃ d, b.device? name = some d ∧ d.known ≠ .down ∧
        b.declareDead name timestamp =
          (b.putDevice (d.markDead timestamp), if d.published = .up then [.death name] else []) := by
  unfold declareDead
  cases hd : b.device? name with
  | none => exact .inl ⟨rfl, by simp⟩
  | some d =>
    by_cases hdown : d.known = .down
    · exact .inl ⟨by simp [hdown], by simpa using hdown⟩
    · exact .inr ⟨d, rfl, hdown, by simp [hdown]⟩

theorem declareDead_frame (b : Bridge) (name : String) (timestamp : UInt64) :
    (b.declareDead name timestamp).1 =
      { b with devices := (b.declareDead name timestamp).1.devices } := by
  rcases b.declareDead_cases name timestamp with ⟨heq, -⟩ | ⟨d, -, -, heq⟩
  · rw [heq]
  · rw [heq]
    rfl

theorem device?_declareDead (b : Bridge) (name : String) (timestamp : UInt64) (listed : String) :
    (b.declareDead name timestamp).1.device? listed =
      (b.device? listed).map fun d =>
        if listed = name ∧ d.known ≠ .down then d.markDead timestamp else d := by
  rcases b.declareDead_cases name timestamp with ⟨heq, hdown⟩ | ⟨d, hd, hdown, heq⟩
  · rw [heq]
    cases hfound : b.device? listed with
    | none => rfl
    | some d =>
      by_cases hlisted : listed = name
      · subst hlisted
        simp [hdown d hfound]
      · simp [hlisted]
  · have hname : d.telemetryName = name := telemetryName_of_device? hd
    rw [heq]
    show (b.putDevice (d.markDead timestamp)).device? listed = _
    rw [device?_putDevice]
    show (if d.telemetryName = listed then _ else _) = _
    rw [hname]
    by_cases hlisted : name = listed
    · subst hlisted
      simp [hd, hdown]
    · have hne : ¬listed = name := fun h => hlisted h.symm
      simp [hlisted, hne]

theorem declareDead_sorted {b : Bridge} (hs : b.Sorted) (name : String) (timestamp : UInt64) :
    (b.declareDead name timestamp).1.Sorted := by
  rcases b.declareDead_cases name timestamp with ⟨heq, -⟩ | ⟨d, -, -, heq⟩
  · rw [heq]
    exact hs
  · rw [heq]
    exact hs.putDevice _

theorem declareAllDead_cons (b : Bridge) (timestamp : UInt64) (name : String) (rest : List String) :
    b.declareAllDead timestamp (name :: rest) =
      (((b.declareDead name timestamp).1.declareAllDead timestamp rest).1,
        (b.declareDead name timestamp).2 ++
          ((b.declareDead name timestamp).1.declareAllDead timestamp rest).2) := rfl

/-- Declaring devices dead touches no other part of the bridge. -/
theorem declareAllDead_frame (b : Bridge) (timestamp : UInt64) (names : List String) :
    (b.declareAllDead timestamp names).1 =
      { b with devices := (b.declareAllDead timestamp names).1.devices } := by
  induction names generalizing b with
  | nil => rfl
  | cons name rest ih =>
    have hfirst := b.declareDead_frame name timestamp
    have hrest := ih (b.declareDead name timestamp).1
    rw [declareAllDead_cons]
    dsimp only
    generalize ((b.declareDead name timestamp).1.declareAllDead timestamp rest).1 = b' at hrest ⊢
    rw [hrest, hfirst]

/-- Of a device that is declared dead only the time of its death changes. -/
theorem device?_declareAllDead (b : Bridge) (timestamp : UInt64) (names : List String)
    (listed : String) :
    (b.declareAllDead timestamp names).1.device? listed =
      (b.device? listed).map fun d =>
        if listed ∈ names ∧ d.known ≠ .down then d.markDead timestamp else d := by
  induction names generalizing b with
  | nil =>
    show b.device? listed = _
    simp
  | cons name rest ih =>
    rw [declareAllDead_cons]
    dsimp only
    rw [ih, device?_declareDead, Option.map_map]
    congr 1
    funext d
    by_cases hdown : d.known = .down
    · simp [hdown]
    · by_cases hname : listed = name
      · by_cases hrest : listed ∈ rest <;> simp [hname, hdown, Device.markDead]
      · simp [hname]

theorem declareAllDead_sorted {b : Bridge} (hs : b.Sorted) (timestamp : UInt64) (names : List String) :
    (b.declareAllDead timestamp names).1.Sorted := by
  induction names generalizing b with
  | nil => exact hs
  | cons name rest ih => exact ih (declareDead_sorted hs name timestamp)

/-- Deaths are published of listed devices that were born and are not known to be dead. -/
theorem mem_declareAllDead {b : Bridge} {timestamp : UInt64} {names : List String} {action : Action}
    (h : action ∈ (b.declareAllDead timestamp names).2) :
    ∃ name ∈ names, action = .death name ∧
      ∃ d, b.device? name = some d ∧ d.known ≠ .down ∧ d.published = .up := by
  induction names generalizing b with
  | nil => simp [declareAllDead] at h
  | cons name rest ih =>
    rw [declareAllDead_cons] at h
    rcases List.mem_append.1 h with h | h
    · rcases b.declareDead_cases name timestamp with ⟨heq, -⟩ | ⟨d, hd, hdown, heq⟩
      · rw [heq] at h
        simp at h
      · rw [heq] at h
        by_cases hup : d.published = .up
        · have haction : action = .death name := by simpa [hup] using h
          exact ⟨name, List.mem_cons_self, haction, d, hd, hdown, hup⟩
        · simp [hup] at h
    · obtain ⟨listed, hmem, haction, d, hd, hdown, hup⟩ := ih h
      refine ⟨listed, List.mem_cons_of_mem _ hmem, haction, ?_⟩
      rw [device?_declareDead, Option.map_eq_some_iff] at hd
      obtain ⟨d₀, hd₀, rfl⟩ := hd
      refine ⟨d₀, hd₀, ?_⟩
      split at hdown
      · next hcond =>
        rw [if_pos hcond] at hup
        exact ⟨hdown, hup⟩
      · next hcond =>
        rw [if_neg hcond] at hup
        exact ⟨hdown, hup⟩

/-! ## Turns -/

/-- The devices, by telemetry name, whose death a topic may report, and the vendor applications after the
report. -/
inductive Mourns (b : Bridge) : BusTopic → List String → VendorApps → Prop where
  /-- A reading tells that a catalog device cannot be reached. -/
  | reading {device site point : String} {d : Device} (found : b.catalogDevice? device site = some d) :
      Mourns b (.update device site point) [d.telemetryName] b.apps
  /-- A device of a vendor application is dead. -/
  | device {app device : String} {d : Device} (found : b.vendorDevice? app device = some d) :
      Mourns b (.death app (some device)) [d.telemetryName] b.apps
  /-- A vendor application is dead, and all its devices. -/
  | app {app : String} {known : VendorApp} (found : b.apps.get? app = some known) :
      Mourns b (.death app none) known.devices (b.apps.put known.markDead)

/-- What a message on a topic does to the bridge, and what it calls for. -/
inductive Turn (b : Bridge) : BusTopic → Bridge → List Action → Prop where
  /-- A bad reading says nothing of its device. -/
  | idle (device site point : String) : Turn b (.update device site point) b []
  /-- An announced device hears of its metrics; it is created if there is none of its name. -/
  | announced {app device : String} {d d' : Device} {actions : List Action}
      (claimed : (b.device? (Device.joinedName app device)).getD (.ofVendor app device) = d)
      (hears : d.Hears d' actions) :
      Turn b (.birth app device)
        ({ b with apps := (b.apps.register app d.telemetryName).1.update app .markAlive }.putDevice d')
        actions
  /-- A vendor device hears data. -/
  | data {app device : String} {d d' : Device} {actions : List Action}
      (found : b.vendorDevice? app device = some d) (hears : d.Hears d' actions) :
      Turn b (.data app device) (b.putDevice d') actions
  /-- A catalog device hears a reading. -/
  | reading {device site point : String} {d d' : Device} {actions : List Action}
      (found : b.catalogDevice? device site = some d) (hears : d.Hears d' actions) :
      Turn b (.update device site point) (b.putDevice d') actions
  /-- Devices are declared dead. -/
  | deaths {topic : BusTopic} {names : List String} {apps : VendorApps} (timestamp : UInt64)
      (mourns : b.Mourns topic names apps) :
      Turn b topic ({ b with apps := apps }.declareAllDead timestamp names).1
        ({ b with apps := apps }.declareAllDead timestamp names).2
  | definitions {definitions : Definitions} {actions : List Action}
      (rebirth : actions = [] ∨ actions = [.nodeRebirth]) :
      Turn b .definitions { b with definitions := definitions } actions

/-- A result is that of a turn, or of a fault, which changes nothing. -/
def Turns (b : Bridge) (topic : BusTopic) (result : Bridge × Except Fault (List Action)) : Prop :=
  match result.2 with
  | .ok actions => b.Turn topic result.1 actions
  | .error _ => result.1 = b

theorem metricsOf_wellFormed {b : Bridge} {payload : List UInt8} {now : UInt64} {metrics : List Metric}
    (h : b.metricsOf payload now = .ok metrics) : ∀ m ∈ metrics, m.WellFormed := by
  unfold metricsOf at h
  split at h
  · simp at h
  · cases h
    intro m hm
    obtain ⟨record, -, hrecord⟩ := List.mem_filterMap.1 hm
    exact Definitions.usable?_wellFormed hrecord

/-- The device that an announcement is for has the announced name; it is known, or is created. -/
theorem claimed_cases {b : Bridge} {app device : String} {d : Device}
    (claimed : (b.device? (Device.joinedName app device)).getD (.ofVendor app device) = d) :
    d.telemetryName = Device.joinedName app device ∧
      (b.device? d.telemetryName = some d ∨ b.device? d.telemetryName = none ∧ d = .ofVendor app device) := by
  cases hd : b.device? (Device.joinedName app device) with
  | none =>
    rw [hd, Option.getD_none] at claimed
    subst claimed
    exact ⟨rfl, .inr ⟨hd, rfl⟩⟩
  | some known =>
    rw [hd, Option.getD_some] at claimed
    subst claimed
    exact ⟨telemetryName_of_device? hd, .inl (device?_self hd)⟩

theorem vendorBirth_turns (b : Bridge) (app device : String) (payload : List UInt8) (now : UInt64) :
    b.Turns (.birth app device) (b.vendorBirth app device payload now) := by
  unfold vendorBirth
  cases hmetrics : b.metricsOf payload now with
  | error fault => rfl
  | ok metrics =>
    show Turn b _ _ _
    dsimp only [claimVendorDevice]
    show Turn b _ (putDevice _ _) _
    generalize hclaimed : (b.device? (Device.ofVendor app device).telemetryName).getD
      (Device.ofVendor app device) = d
    have hears := d.ingestBirth_hears now (metricsOf_wellFormed hmetrics)
    -- the device that is created is replaced by what it heard
    have hput : insert Device.telemetryName (d.ingestBirth metrics now).1
        (insert Device.telemetryName d b.devices) =
          insert Device.telemetryName (d.ingestBirth metrics now).1 b.devices :=
      insert_insert hears.telemetryName_eq _
    have hturn := Turn.announced hclaimed hears
    unfold putDevice at hturn ⊢
    dsimp only
    rw [hput, hears.telemetryName_eq]
    exact hturn

theorem vendorData_turns (b : Bridge) (app device : String) (payload : List UInt8) (now : UInt64) :
    b.Turns (.data app device) (b.vendorData app device payload now) := by
  unfold vendorData
  cases hfound : b.vendorDevice? app device with
  | none => rfl
  | some d =>
    cases hmetrics : b.metricsOf payload now with
    | error fault => rfl
    | ok metrics =>
      have hexternal : d.isExternal = true := (Option.filter_eq_some_iff.1 hfound).2
      exact .data hfound (Device.applyData_hears hexternal b.definitions now (metricsOf_wellFormed hmetrics))

theorem declareDead_eq_declareAllDead (b : Bridge) (name : String) (timestamp : UInt64) :
    b.declareDead name timestamp = b.declareAllDead timestamp [name] := by
  simp [declareAllDead]

theorem vendorDeath_turns (b : Bridge) (app : String) (device : Option String) (now : UInt64) :
    b.Turns (.death app device) (b.vendorDeath app device now) := by
  unfold vendorDeath
  cases hknown : b.apps.get? app with
  | none => rfl
  | some known =>
    cases device with
    | none => exact .deaths now (.app hknown)
    | some device =>
      dsimp only
      cases hfound : b.vendorDevice? app device with
      | none => rfl
      | some d =>
        dsimp only
        rw [declareDead_eq_declareAllDead]
        exact .deaths now (.device hfound)

theorem deviceUpdate_turns (b : Bridge) (device site point : String) (payload : List UInt8)
    (now : UInt64) :
    b.Turns (.update device site point) (b.deviceUpdate device site point payload now) := by
  unfold deviceUpdate
  cases hfound : b.catalogDevice? device site with
  | none => rfl
  | some d =>
    cases hm : d.metric? point with
    | none => simp [Turns, hm]
    | some m =>
      cases hr : Reading.parse payload with
      | error fault => simp [Turns, hm]
      | ok r =>
        dsimp only
        rw [hm]
        dsimp only
        split
        · rfl
        · rw [declareDead_eq_declareAllDead]
          exact .deaths _ (.reading hfound)
        · exact .idle _ _ _
        · next v hv =>
          have hpoint : (d.metric? point).isSome := by rw [hm]; rfl
          exact .reading hfound (Device.ingest_hears _ hpoint (Reading.evaluate_ne_unknown hv))

theorem announceDefinitions_turns (b : Bridge) (payload : List UInt8) (now : UInt64) :
    b.Turns .definitions (b.announceDefinitions payload now) := by
  unfold announceDefinitions
  split
  · rfl
  · refine .definitions ?_
    split
    · exact .inl rfl
    · exact .inr rfl

/-- A message either cannot be used and changes nothing, or its topic makes the bridge turn. -/
theorem process_turns (b : Bridge) (now : UInt64) (topic : String) (payload : List UInt8) :
    (∃ fault, b.process now topic payload = (b, .error fault)) ∨
      ∃ t b' actions, BusTopic.parse topic = .ok t ∧ b.process now topic payload = (b', .ok actions) ∧
        b.Turn t b' actions := by
  have hturns : ∀ {t : BusTopic} {result : Bridge × Except Fault (List Action)},
      BusTopic.parse topic = .ok t → b.Turns t result →
        (∃ fault, result = (b, .error fault)) ∨
          ∃ t b' actions, BusTopic.parse topic = .ok t ∧ result = (b', .ok actions) ∧
            b.Turn t b' actions := by
    rintro t ⟨b', outcome⟩ ht h
    cases outcome with
    | error fault => exact .inl ⟨fault, congrArg (·, _) h⟩
    | ok actions => exact .inr ⟨t, b', actions, ht, rfl, h⟩
  unfold process
  cases ht : BusTopic.parse topic with
  | error fault => exact .inl ⟨fault, rfl⟩
  | ok t =>
    rw [ht] at hturns
    cases t with
    | birth app device => exact hturns rfl (b.vendorBirth_turns app device payload now)
    | data app device => exact hturns rfl (b.vendorData_turns app device payload now)
    | death app device => exact hturns rfl (b.vendorDeath_turns app device now)
    | update device site point => exact hturns rfl (b.deviceUpdate_turns device site point payload now)
    | definitions => exact hturns rfl (b.announceDefinitions_turns payload now)

namespace Turn

variable {b b' : Bridge} {topic : BusTopic} {actions : List Action}

/-- A message touches only the devices, the vendor applications and the definitions. -/
theorem frame (h : b.Turn topic b' actions) :
    b' = { b with devices := b'.devices, apps := b'.apps, definitions := b'.definitions } := by
  cases h with
  | deaths timestamp _ => rw [declareAllDead_frame]
  | _ => rfl

theorem sorted (h : b.Turn topic b' actions) (hs : b.Sorted) : b'.Sorted := by
  cases h with
  | idle => exact hs
  | announced _ _ => exact hs.putDevice _
  | data _ _ => exact hs.putDevice _
  | reading _ _ => exact hs.putDevice _
  | @deaths topic names apps timestamp _ =>
    have hs' : ({ b with apps := apps } : Bridge).Sorted := hs
    exact declareAllDead_sorted hs' timestamp names
  | definitions _ => exact hs

end Turn

/-! ## Outages

Neither the expiry of an outage nor its end changes anything but devices and the list of those that
timed out. -/

theorem expireOutage_eq (b : Bridge) (now : UInt64) :
    b.expireOutage now =
      ({ (b.declareAllDead now (b.devices.map Device.telemetryName)).1 with
          timedOut := (b.expireOutage now).1.timedOut },
        (b.declareAllDead now (b.devices.map Device.telemetryName)).2) := rfl

theorem expireOutage_frame (b : Bridge) (now : UInt64) :
    (b.expireOutage now).1 =
      { b with
        devices := (b.expireOutage now).1.devices
        timedOut := (b.expireOutage now).1.timedOut } := by
  have hframe := b.declareAllDead_frame now (b.devices.map Device.telemetryName)
  rw [expireOutage_eq]
  dsimp only
  rw [hframe]

theorem expireOutage_sorted {b : Bridge} (hs : b.Sorted) (now : UInt64) :
    (b.expireOutage now).1.Sorted :=
  declareAllDead_sorted hs now _

theorem reviveAll_cons (b : Bridge) (name : String) (rest : List String) :
    (b.reviveAll (name :: rest) = b.reviveAll rest ∧
        ∀ d, b.device? name = some d → ¬(d.known = .down ∧ d.hasMetrics)) ∨
      ∃ d, b.device? name = some d ∧ (d.known = .down ∧ d.hasMetrics) ∧
        b.reviveAll (name :: rest) =
          (((b.putDevice d.markAlive).reviveAll rest).1,
            .birth name :: ((b.putDevice d.markAlive).reviveAll rest).2) := by
  rw [reviveAll]
  cases hd : b.device? name with
  | none => exact .inl ⟨rfl, by simp⟩
  | some d =>
    by_cases hdead : d.known = .down ∧ d.hasMetrics
    · right
      exact ⟨d, rfl, hdead, by simp [hdead]⟩
    · left
      refine ⟨by simp [hdead], ?_⟩
      intro d' hd'
      cases hd'
      exact hdead

theorem reviveAll_frame (b : Bridge) (names : List String) :
    (b.reviveAll names).1 = { b with devices := (b.reviveAll names).1.devices } := by
  induction names generalizing b with
  | nil => rfl
  | cons name rest ih =>
    rcases b.reviveAll_cons name rest with ⟨heq, -⟩ | ⟨d, -, -, heq⟩
    · rw [heq]
      exact ih b
    · rw [heq]
      exact ih (b.putDevice d.markAlive)

/-- The listed devices that are dead and have metrics are alive again, and no other device changes. -/
theorem device?_reviveAll (b : Bridge) (names : List String) (listed : String) :
    (b.reviveAll names).1.device? listed =
      (b.device? listed).map fun d =>
        if listed ∈ names ∧ d.known = .down ∧ d.hasMetrics then d.markAlive else d := by
  induction names generalizing b with
  | nil =>
    show b.device? listed = _
    simp
  | cons name rest ih =>
    rcases b.reviveAll_cons name rest with ⟨heq, halive⟩ | ⟨d, hd, hdead, heq⟩
    · rw [heq, ih]
      cases hfound : b.device? listed with
      | none => rfl
      | some d =>
        by_cases hlisted : listed = name
        · subst hlisted
          simp [halive d hfound]
        · simp [hlisted]
    · have hname : d.telemetryName = name := telemetryName_of_device? hd
      rw [heq]
      dsimp only
      rw [ih, device?_putDevice]
      show Option.map _ (if d.telemetryName = listed then _ else _) = _
      rw [hname]
      by_cases hlisted : name = listed
      · subst hlisted
        simp [hd, hdead, Device.markAlive]
      · have hne : ¬listed = name := fun h => hlisted h.symm
        simp [hlisted, hne]

theorem reviveAll_sorted {b : Bridge} (hs : b.Sorted) (names : List String) :
    (b.reviveAll names).1.Sorted := by
  induction names generalizing b with
  | nil => exact hs
  | cons name rest ih =>
    rcases b.reviveAll_cons name rest with ⟨heq, -⟩ | ⟨d, -, -, heq⟩
    · rw [heq]
      exact ih hs
    · rw [heq]
      exact ih (hs.putDevice _)

/-- Births are called for exactly for the devices that are revived. -/
theorem mem_reviveAll {b : Bridge} {names : List String} {action : Action} :
    action ∈ (b.reviveAll names).2 ↔
      ∃ name ∈ names, action = .birth name ∧
        ∃ d, b.device? name = some d ∧ d.known = .down ∧ d.hasMetrics := by
  induction names generalizing b with
  | nil => simp [reviveAll]
  | cons name rest ih =>
    rcases b.reviveAll_cons name rest with ⟨heq, halive⟩ | ⟨d, hd, hdead, heq⟩
    · rw [heq, ih]
      constructor
      · rintro ⟨listed, hmem, haction⟩
        exact ⟨listed, List.mem_cons_of_mem _ hmem, haction⟩
      · rintro ⟨listed, hmem, haction, d, hd, hdead⟩
        rcases List.mem_cons.1 hmem with rfl | hmem
        · exact absurd hdead (halive d hd)
        · exact ⟨listed, hmem, haction, d, hd, hdead⟩
    · have hname : d.telemetryName = name := telemetryName_of_device? hd
      rw [heq, List.mem_cons, ih]
      constructor
      · rintro (haction | ⟨listed, hmem, haction, d', hd', hdead'⟩)
        · exact ⟨name, List.mem_cons_self, haction, d, hd, hdead⟩
        · refine ⟨listed, List.mem_cons_of_mem _ hmem, haction, ?_⟩
          rw [device?_putDevice] at hd'
          split at hd'
          · cases hd'
            simp [Device.markAlive] at hdead'
          · exact ⟨d', hd', hdead'⟩
      · rintro ⟨listed, hmem, haction, d', hd', hdead'⟩
        by_cases hlisted : listed = name
        · subst hlisted
          exact .inl haction
        · right
          refine ⟨listed, (List.mem_cons.1 hmem).resolve_left hlisted, haction, d', ?_, hdead'⟩
          rw [device?_putDevice]
          show (if d.telemetryName = listed then _ else _) = _
          rw [hname, if_neg (Ne.symm hlisted)]
          exact hd'

theorem restore_frame (b : Bridge) :
    b.restore.1 = { b with devices := b.restore.1.devices, timedOut := [] } :=
  reviveAll_frame { b with timedOut := [] } b.timedOut

theorem restore_sorted {b : Bridge} (hs : b.Sorted) : b.restore.1.Sorted := by
  have hs' : ({ b with timedOut := [] } : Bridge).Sorted := hs
  exact reviveAll_sorted hs' b.timedOut

/-! ## Commands -/

theorem writeRequests_frame (b : Bridge) (d : Device) (now : UInt64) (metrics : List Metric) :
    (b.writeRequests d now metrics).1 =
      { b with writeSeq := (b.writeRequests d now metrics).1.writeSeq } := by
  induction metrics generalizing b with
  | nil => rfl
  | cons m rest ih =>
    have hrest := ih (b.writeRequest d now m).1
    have hfirst : (b.writeRequest d now m).1 =
        { b with writeSeq := (b.writeRequest d now m).1.writeSeq } := by
      unfold writeRequest
      dsimp only
      split <;> rfl
    show ((b.writeRequest d now m).1.writeRequests d now rest).1 = { b with
      writeSeq := ((b.writeRequest d now m).1.writeRequests d now rest).1.writeSeq }
    generalize ((b.writeRequest d now m).1.writeRequests d now rest).1 = b' at hrest ⊢
    rw [hrest, hfirst]

theorem mem_writeRequests {b : Bridge} {d : Device} {now : UInt64} {metrics : List Metric}
    {message : Outbound} (h : message ∈ (b.writeRequests d now metrics).2) :
    ∃ topic content, message = .bus topic content := by
  induction metrics generalizing b with
  | nil => simp [writeRequests] at h
  | cons m rest ih =>
    rcases List.mem_append.1 h with h | h
    · dsimp only at h
      split at h
      · simp only [Option.toList, List.mem_singleton] at h
        exact ⟨_, _, h⟩
      · simp at h
    · exact ih h

/-- A command touches only the number of write requests. -/
theorem command_frame (b : Bridge) (now : UInt64) (topic : SparkplugTopic) (payload : Wire.Payload) :
    (b.command now topic payload).1 =
      { b with writeSeq := (b.command now topic payload).1.writeSeq } := by
  unfold command
  split
  · split
    · rfl
    · dsimp only
      split
      · rfl
      · split
        · rfl
        · exact writeRequests_frame _ _ _ _
  · rfl

/-- A command calls for messages on the plant bus alone. -/
theorem command_bus {b : Bridge} {now : UInt64} {topic : SparkplugTopic} {payload : Wire.Payload}
    {messages : List Outbound} (h : (b.command now topic payload).2 = .ok messages)
    {message : Outbound} (hm : message ∈ messages) : ∃ t content, message = .bus t content := by
  unfold command at h
  split at h
  · split at h
    · simp at h
    · dsimp only at h
      split at h
      · cases h
        simp at hm
      · split at h
        · cases h
          exact ⟨_, _, by simpa [vendorCommand] using hm⟩
        · cases h
          exact mem_writeRequests hm
  · simp at h

end ScadaBridge.Bridge
