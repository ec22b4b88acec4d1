import ScadaBridge.Proofs.Bridge.Account

/-!
# What a SCADA host holds

A SCADA host that follows the published messages builds a mirror of the devices: a birth of the edge node
empties it, a birth of a device replaces the metrics of the device, and data are merged into them.

`run_mirrored` says that the mirror is right while the broker is connected: of every device that is not
known to be dead it holds every metric with its content. The account that is kept (`mirrored_account`) says
so, and also that of a vendor device the mirror holds nothing else, so that a metric that is new to such a
device is new to the mirror.
-/

namespace ScadaBridge

open Ordered

/-- The metrics that a SCADA host holds of the devices, by the names of the devices. -/
def Mirror := String → List Metric

namespace Mirror

/-- Nothing. -/
def empty : Mirror := fun _ => []

def put (mirror : Mirror) (device : String) (metrics : List Metric) : Mirror :=
  fun other => if other = device then metrics else mirror other

/-- The metrics after one of a data message is merged into the one of its name, or added. -/
def takeOver (metrics : List Metric) (incoming : Metric) : List Metric :=
  Ordered.insert Metric.name (Metric.merged (find? Metric.name incoming.name metrics) incoming) metrics

/-- The mirror after an event. -/
def observe (mirror : Mirror) : Event → Mirror
  | .published (.sparkplug topic payload) =>
    match topic.kind, topic.device with
    | .nodeBirth, _ => empty
    | .deviceBirth, some device =>
      mirror.put device (Ordered.ofList Metric.name (Metric.ofWires payload.metrics))
    | .deviceData, some device =>
      mirror.put device ((Metric.ofWires payload.metrics).foldl takeOver (mirror device))
    | _, _ => mirror
  | .published (.bus _ _) | .will _ => mirror

/-- The mirror after all events, in their order. -/
def ofEvents (events : List Event) : Mirror := events.foldl observe empty

theorem ofEvents_snoc (events : List Event) (e : Event) :
    ofEvents (events ++ [e]) = (ofEvents events).observe e := by
  unfold ofEvents
  rw [List.foldl_append, List.foldl_cons, List.foldl_nil]

/-- An event that is silent of a device changes nothing of what is held of it. -/
theorem observe_silent (mirror : Mirror) {e : Event} {device : String} (h : e.Silent device) :
    mirror.observe e device = mirror device := by
  cases e with
  | will _ => rfl
  | published message =>
    cases message with
    | bus _ _ => rfl
    | sparkplug topic payload =>
      obtain ⟨hbirth, hdeath⟩ := h
      obtain ⟨group, kind, edgeNode, name⟩ := topic
      dsimp only at hbirth hdeath
      have hother : kind ≠ .deviceDeath → ∀ other, name = some other → ∀ metrics,
          mirror.put other metrics device = mirror device := by
        intro hkind other hname metrics
        refine if_neg fun heq => hkind (hdeath ?_)
        rw [hname, heq]
      cases kind with
      | nodeBirth => exact absurd rfl hbirth
      | deviceBirth | deviceData =>
        cases name with
        | none => rfl
        | some other => exact hother (by simp) other rfl _
      | _ => rfl

theorem observe_nodeBirth (mirror : Mirror) {e : Event} (h : e.kind? = some .nodeBirth) :
    mirror.observe e = empty := by
  cases e with
  | will _ => simp [Event.kind?] at h
  | published message =>
    cases message with
    | bus _ _ => simp [Event.kind?] at h
    | sparkplug topic payload =>
      unfold observe
      dsimp only
      rw [Option.some.inj h]

theorem observe_birth (mirror : Mirror) (b : Bridge) (now : UInt64) (d : Device) :
    mirror.observe (.published (b.deviceBirth now d).2) d.telemetryName =
      Ordered.ofList Metric.name (Metric.ofWires (d.birth now).2.metrics) := if_pos rfl

theorem observe_data (mirror : Mirror) (b : Bridge) (d : Device) (payload : Wire.Payload) :
    mirror.observe (.published (b.deviceMessage .deviceData d payload).2) d.telemetryName =
      (Metric.ofWires payload.metrics).foldl takeOver (mirror d.telemetryName) := if_pos rfl

theorem find?_foldl_takeOver {incoming : List Metric} (hs : Ordered.Sorted Metric.name incoming)
    (metrics : List Metric) (listed : String) :
    find? Metric.name listed (incoming.foldl takeOver metrics) =
      match find? Metric.name listed incoming with
      | some m => some (Metric.merged (find? Metric.name listed metrics) m)
      | none => find? Metric.name listed metrics := by
  induction incoming generalizing metrics with
  | nil => rfl
  | cons m rest ih =>
    rw [List.foldl_cons, ih hs.tail, takeOver, find?_insert, Metric.merged_name]
    by_cases hm : m.name = listed
    · subst hm
      rw [hs.find?_head]
      simp [find?]
    · simp [find?, hm]

end Mirror

namespace Metric

theorem ofWires_append (first second : List Wire.Metric) :
    ofWires (first ++ second) = ofWires first ++ ofWires second := by
  induction first with
  | nil => rfl
  | cons m rest ih =>
    rw [List.cons_append, ofWires, ofWires, ih]
    split <;> rfl

theorem toWires_eq_map (isBirth : Bool) (metrics : List Metric) :
    toWires isBirth metrics = metrics.map (toWire isBirth) := by
  induction metrics with
  | nil => rfl
  | cons m rest ih => rw [toWires, ih, List.map_cons]

end Metric

/-! ## What data bring -/

/-- The metrics of a data message are read back, each as the part that its change names. -/
theorem Metric.Deltas.ofWires_dataOf {changes : ChangeSet} {olds news : List Metric}
    (h : Metric.Deltas changes olds news) (hnews : Metric.WellFormedAll news) :
    Metric.ofWires (Metric.dataOf news changes) =
      (Metric.partsOf news changes).map (Metric.received false) := by
  rw [Metric.dataOf_eq_toWires_partsOf, Metric.ofWires_toWires false _ (h.partsOf_wellFormed hnews).each]

/-- Whoever holds the content of the old metric of a name, or as the old metrics holds none, and takes over
the data message holds the content of the new one. -/
theorem Metric.Deltas.find?_takeOver {changes : ChangeSet} {olds news held : List Metric}
    (h : Metric.Deltas changes olds news) (holds : Metric.WellFormedAll olds)
    (hnews : Metric.WellFormedAll news) {listed : String}
    (hheld : (find? Metric.name listed held).map Metric.content =
      (find? Metric.name listed olds).map Metric.content) :
    (find? Metric.name listed ((Metric.ofWires (Metric.dataOf news changes)).foldl Mirror.takeOver held)).map
        Metric.content =
      (find? Metric.name listed news).map Metric.content := by
  have hsorted := (h.partsOf_wellFormed hnews).sorted.map (Metric.name_received false)
  rw [h.ofWires_dataOf hnews, Mirror.find?_foldl_takeOver hsorted, find?_map (Metric.name_received false),
    Metric.find?_partsOf]
  cases hchange : changes.change? listed with
  | none =>
    rw [Option.bind_none, Option.map_none, h.kept listed hchange]
    exact hheld
  | some change =>
    obtain ⟨m, hm⟩ := h.found listed change hchange
    have hdelta := h.each listed change m hchange hm
    have hpart := (hdelta.part_wellFormed (hnews.find? hm)).content_received false
    rw [Option.bind_some, hm, Option.map_some, Option.map_some, Option.map_some]
    exact congrArg some (hdelta.apply (fun o ho => holds.find? ho) (hnews.find? hm) hheld hpart)

/-! ## Devices and what is held of them -/

/-- What is held of a device is right: every metric with its content, and nothing else of a vendor
device. -/
structure Device.Synced (d : Device) (metrics : List Metric) : Prop where
  holds : ∀ name m, d.metric? name = some m →
    ∃ m', find? Metric.name name metrics = some m' ∧ m'.content = m.content
  only : d.isExternal = true → ∀ name, d.metric? name = none → find? Metric.name name metrics = none

namespace Device.Synced

theorem birth {d : Device} (hd : Metric.WellFormedAll d.metrics) (now : UInt64) :
    d.Synced (Ordered.ofList Metric.name (Metric.ofWires (d.birth now).2.metrics)) := by
  have hread : Metric.ofWires (d.birth now).2.metrics =
      Metric.ofWires (d.identityMetrics (millis now)) ++ d.metrics.map (Metric.received true) := by
    rw [← Metric.ofWires_toWires true d.metrics hd.each, Metric.toWires_eq_map, ← Metric.ofWires_append]
    rfl
  have hsorted := hd.sorted.map (Metric.name_received true)
  have hfind : ∀ name, find? Metric.name name (Ordered.ofList Metric.name
      (Metric.ofWires (d.birth now).2.metrics)) = ((d.metric? name).map (Metric.received true)).or
        (find? Metric.name name (Ordered.ofList Metric.name
          (Metric.ofWires (d.identityMetrics (millis now))))) := by
    intro name
    rw [hread, Ordered.ofList, List.foldl_append, hsorted.find?_foldl_insert,
      find?_map (Metric.name_received true)]
    rfl
  refine ⟨fun name m hm => ?_, fun hexternal name hnone => ?_⟩
  · rw [hfind, hm]
    exact ⟨_, rfl, (hd.find? hm).content_received true⟩
  · have hidentity : d.identityMetrics (millis now) = [] := by
      unfold Device.isExternal at hexternal
      unfold identityMetrics site?
      split at hexternal
      · next horigin => rw [horigin]
      · simp at hexternal
      · next horigin => rw [horigin]
    rw [hfind, hnone, hidentity]
    rfl

/-- Data that a device heard bring what is held of it up to date. -/
theorem data {d d' : Device} {held : List Metric} {changes : ChangeSet} (h : d.Synced held)
    (hd : Metric.WellFormedAll d.metrics) (hears : d.Hears d' [.data d.telemetryName changes]) :
    d'.Synced ((Metric.ofWires (Metric.dataOf d'.metrics changes)).foldl Mirror.takeOver held) := by
  have hd' := hears.wellFormed hd
  cases hears with
  | @data timestamp incoming metrics _ _ hi hfamiliar hmerged _ =>
    have hdeltas := foldl_mergeAnnounced_deltas hi (.nil d.metrics) hmerged
    refine ⟨fun name m hm => ?_, fun hexternal name hnone => ?_⟩
    · have hm' : find? Metric.name name metrics = some m := hm
      -- what is new to the device is new to whoever follows it
      have hheld : (find? Metric.name name held).map Metric.content =
          (find? Metric.name name d.metrics).map Metric.content := by
        cases hold : find? Metric.name name d.metrics with
        | some o =>
          obtain ⟨o', ho', hcontent⟩ := h.holds name o hold
          rw [ho', Option.map_some, Option.map_some, hcontent]
        | none =>
          have hexternal : d.isExternal = true := by
            by_contra hcatalog
            have hknown : ∀ x ∈ incoming, (find? Metric.name x.name d.metrics).isSome :=
              fun x hx => (hfamiliar x hx).resolve_right hcatalog
            rw [foldl_mergeAnnounced_names (by exact hknown) hmerged hold] at hm'
            simp at hm'
          rw [h.only hexternal name hold]
      have htaken := hdeltas.find?_takeOver hd hd' hheld
      rw [hm', Option.map_some, Option.map_eq_some_iff] at htaken
      exact htaken
    · have hnone' : find? Metric.name name metrics = none := hnone
      have hold : find? Metric.name name d.metrics = none := by
        cases hchange : changes.change? name with
        | none => rw [← hdeltas.kept name hchange, hnone']
        | some change =>
          obtain ⟨m, hm⟩ := hdeltas.found name change hchange
          rw [hnone'] at hm
          simp at hm
      have hheld := h.only hexternal name hold
      have htaken := hdeltas.find?_takeOver hd hd' (by rw [hheld, hold])
      rw [hnone', Option.map_none, Option.map_eq_none_iff] at htaken
      exact htaken

end Device.Synced

namespace Bridge

/-- Of a device that is not known to be dead the mirror is right. -/
def Mirrored (_ : Option Bridge) (seen : List Event) (d : Device) : Prop :=
  d.known ≠ .down → d.Synced (Mirror.ofEvents seen d.telemetryName)

theorem mirrored_account : Account Mirrored where
  silent := by
    intro latest seen d e h hsilent hdown
    rw [Mirror.ofEvents_snoc, Mirror.observe_silent _ hsilent]
    exact h hdown
  down hdown halive := absurd hdown halive
  alive := by
    intro latest seen d h hborn _
    have hsynced := h (Device.needsBirth_eq_false_iff.1 hborn).2
    exact ⟨hsynced.holds, hsynced.only⟩
  dying h halive := ⟨(h halive).holds, (h halive).only⟩
  birth := by
    intro latest seen now b d hd _
    have hsynced := Device.Synced.birth hd now
    rw [← Mirror.observe_birth (Mirror.ofEvents seen) b, ← Mirror.ofEvents_snoc] at hsynced
    exact ⟨hsynced.holds, hsynced.only⟩
  data := by
    intro latest seen now b d d' changes payload hd h hears hdata _
    have hname : d'.telemetryName = d.telemetryName := hears.telemetryName_eq
    have hborn : d.needsBirth = false := by
      cases hears with
      | data born => exact born
    have hpayload : payload.metrics = Metric.dataOf d'.metrics changes := by
      rw [(data_eq_some hdata).2]
    have hsynced := (h (Device.needsBirth_eq_false_iff.1 hborn).2).data hd hears
    rw [← hpayload, ← hname] at hsynced
    have hobserved := Mirror.observe_data (Mirror.ofEvents seen) b { d' with published := .up } payload
    rw [Mirror.ofEvents_snoc]
    show Device.Synced _ (Mirror.observe _ _ ({ d' with published := .up } : Device).telemetryName)
    rw [hobserved]
    exact ⟨hsynced.holds, hsynced.only⟩
  reborn := by
    intro b seen d e hkind hempty _ _
    rw [Mirror.ofEvents_snoc, Mirror.observe_nodeBirth _ hkind]
    refine ⟨fun name m hm => ?_, fun _ _ _ => rfl⟩
    rw [Device.metric?, hempty] at hm
    simp [find?] at hm

/-- The SCADA broker was connected during the calls, and not lost since. -/
def Connected (steps : List Step) : Prop := steps.foldl Step.online false = true

/-- Over every run, while the SCADA broker is connected, whoever follows the published messages holds of
every device that is not known to be dead every metric with its content. -/
theorem run_mirrored (settings : Settings) (now : UInt64) (steps : List Step) (connected : Connected steps) :
    ∀ d ∈ ((start settings now).run steps).1.devices, d.known ≠ .down → ∀ m ∈ d.metrics,
      ∃ m', find? Metric.name m.name
          (Mirror.ofEvents ((start settings now).run steps).2 d.telemetryName) = some m' ∧
        m'.content = m.content := by
  intro d hd halive m hm
  have hready := mirrored_account.ready_run settings now steps
  have online : ((start settings now).run steps).1.online = true := by
    rw [(run_online settings now steps).2]
    exact connected
  have hfound := hready.sorted.device?_of_mem hd
  have hsynced := hready.kept online d.telemetryName d hfound (by simp) halive
  exact hsynced.holds m.name m ((hready.whole _ d hfound).sorted.find?_of_mem hm)

/-- A device is announced with one metric while the broker is connected, and the metric is held. -/
theorem run_mirrored_announced :
    let after := (start {} 0).run [.take 0 0 (.connection .scadaConnected), .take 0 0 (.bus "BIRTH/APP1/D1"
      (Utf8.encode "\x7b\"metrics\":[\x7b\"name\":\"x\",\"dataType\":\"Int32\",\"value\":5\x7d]\x7d"))]
    ∃ d ∈ after.1.devices, ∃ m ∈ d.metrics, ∃ m',
      find? Metric.name m.name (Mirror.ofEvents after.2 d.telemetryName) = some m' ∧
        m'.content = m.content := by
  intro after
  have hdevices : after.1.devices.map (fun d => (d.known, d.metrics.map Metric.name)) = [(.up, ["x"])] := by
    decide +kernel
  obtain ⟨d, rest, hlist, hd, -⟩ := List.map_eq_cons_iff.1 hdevices
  obtain ⟨hknown, hnames⟩ := Prod.mk.inj hd
  obtain ⟨m, others, hmetrics, -, -⟩ := List.map_eq_cons_iff.1 hnames
  have hmem : d ∈ after.1.devices := by
    rw [hlist]
    exact List.mem_cons_self
  have hm : m ∈ d.metrics := by
    rw [hmetrics]
    exact List.mem_cons_self
  exact ⟨d, hmem, m, hm, run_mirrored {} 0 _ (by rfl) d hmem (by simp [hknown]) m hm⟩

end Bridge

end ScadaBridge
