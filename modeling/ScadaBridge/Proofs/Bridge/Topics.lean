import ScadaBridge.Proofs.Bridge.Command
import ScadaBridge.Proofs.Bridge.Registry
import ScadaBridge.Proofs.Bridge.ReportedDeath
import ScadaBridge.Proofs.Topic

/-!
# Topics of published messages

Whatever is published for the SCADA broker names the group and the edge node of the settings, and no device or
one that is registered (`Bridge.Owns`). The settings are checked for slashes and the names of vendor devices
are levels of topics, so all topics are read back as they were meant but those of catalog devices with a slash
in their name or site. The same holds of commands: they reach the device whose birth was published under the
name, unless the name has a slash in it (`run_topics`).

Catalogs are not checked for slashes, so such devices do come up (`not_reached_of_slash`).
-/

namespace ScadaBridge

open Ordered

def Outbound.topic? : Outbound → Option SparkplugTopic
  | .sparkplug topic _ => some topic
  | .bus _ _ => none

/-- The topic of a message for the SCADA broker that is published, or is handed out to be published when the
session breaks. -/
def Event.topic? : Event → Option SparkplugTopic
  | .published message | .will message => message.topic?

/-- The topic of commands for the device that a topic names. -/
def SparkplugTopic.command (t : SparkplugTopic) : SparkplugTopic := { t with kind := .deviceCommand }

namespace Device

theorem isLevel_joinedName {first second : String} (h₁ : Topic.IsLevel first) (h₂ : Topic.IsLevel second) :
    Topic.IsLevel (joinedName first second) := by
  simp only [Topic.IsLevel, joinedName, String.toList_append, List.mem_append, not_or] at *
  exact ⟨⟨h₁, by decide⟩, h₂⟩

end Device

/-- Settings that pass the check name the group and the edge node by levels. -/
theorem Settings.isLevel_of_validate {settings : Settings} (valid : settings.validate = .ok ()) :
    Topic.IsLevel settings.groupId ∧ Topic.IsLevel settings.edgeNodeId := by
  have hidentifier : ∀ s, isIdentifier s = true → Topic.IsLevel s := by
    intro s hs hslash
    simp only [isIdentifier, Bool.and_eq_true, List.all_eq_true] at hs
    simpa using hs.2 '/' hslash
  unfold validate refusal? at valid
  by_cases hgroup : isIdentifier settings.groupId = true
  · by_cases hnode : isIdentifier settings.edgeNodeId = true
    · exact ⟨hidentifier _ hgroup, hidentifier _ hnode⟩
    · simp [hgroup, hnode] at valid
  · simp [hgroup] at valid

/-- Announced vendor devices are named by levels of topics. -/
theorem Step.isLevel_of_announced? {s : Step} {app device : String} (h : s.announced? = some (.vendor app device)) :
    Topic.IsLevel app ∧ Topic.IsLevel device := by
  unfold announced? at h
  split at h
  · next topic payload =>
    split at h
    · next app' device' _ hparsed _ =>
      cases h
      have hsegments := BusTopic.segments_of_parse hparsed
      have hlevel : ∀ level ∈ (BusTopic.birth app device).segments, Topic.IsLevel level := fun level hlevel =>
        Topic.isLevel_of_mem_segments (hsegments ▸ hlevel)
      exact ⟨hlevel app (by simp [BusTopic.segments]), hlevel device (by simp [BusTopic.segments])⟩
    · simp at h
  all_goals simp at h

/-- Vendor devices are named by levels; any other name is that of a device of the catalog. -/
theorem Settings.isLevel_or_catalog {settings : Settings} {steps : List Step} {s : Source}
    (h : s ∈ settings.sources steps) :
    Topic.IsLevel s.name ∨ ∃ c ∈ settings.catalog.devices, s.name = Device.joinedName c.device c.site := by
  rcases List.mem_append.1 h with h | h
  · obtain ⟨c, hc, rfl⟩ := List.mem_map.1 h
    exact .inr ⟨c, hc, rfl⟩
  · obtain ⟨step, -, hstep⟩ := List.mem_filterMap.1 h
    cases s with
    | vendor app device =>
      obtain ⟨happ, hdevice⟩ := Step.isLevel_of_announced? hstep
      exact .inl (Device.isLevel_joinedName happ hdevice)
    | site device site =>
      unfold Step.announced? at hstep
      split at hstep
      · split at hstep <;> simp at hstep
      all_goals simp at hstep

namespace Bridge

/-! ## Topics of rendered messages -/

/-- A topic of the bridge: of its edge node, or of a device that is registered. -/
inductive Owns (b : Bridge) : SparkplugTopic → Prop where
  | node {kind : MessageKind} (h : kind.isDeviceLevel = false) : Owns b (b.nodeTopic kind)
  | device {kind : MessageKind} {name : String} {d : Device} (h : kind.isDeviceLevel = true)
      (found : b.device? name = some d) : Owns b (b.deviceTopic kind name)

theorem Owns.evolves {b b' : Bridge} {topic : SparkplugTopic} (h : b.Owns topic) (settings : b'.settings = b.settings)
    (evolves : Evolves b b') : b'.Owns topic := by
  cases h with
  | @node kind h =>
    have hnode := Owns.node (b := b') h
    unfold nodeTopic at hnode ⊢
    rw [← settings]
    exact hnode
  | @device kind name d h found =>
    obtain ⟨d', found', -⟩ := evolves name d found
    have hdevice := Owns.device (b := b') h found'
    unfold deviceTopic at hdevice ⊢
    rw [← settings]
    exact hdevice

theorem Saying.isDeviceLevel {now : UInt64} {d d' : Device} {kind : MessageKind} {payload : Wire.Payload}
    (h : Saying now d kind d' payload) : kind.isDeviceLevel = true := by
  cases h <;> rfl

theorem Emits.owns {now : UInt64} {b b' : Bridge} {messages : List Outbound} (h : Emits now b messages b')
    {topic : SparkplugTopic} {payload : Wire.Payload} (hm : .sparkplug topic payload ∈ messages) :
    b'.Owns topic := by
  induction h with
  | done => simp at hm
  | @node b b' messages rest ih =>
    rcases List.mem_cons.1 hm with heq | hm
    · cases heq
      have hfirst : b.Owns (b.nodeTopic .nodeBirth) := .node rfl
      exact hfirst.evolves (by rw [rest.frame]; rfl) rest.evolves
    · exact ih hm
  | @device b b' d d' kind stated messages found said rest ih =>
    rcases List.mem_cons.1 hm with heq | hm
    · cases heq
      have hput : (b.deviceMessage kind d' stated).1.device? d'.telemetryName = some d' := by
        rw [device?_deviceMessage, if_pos rfl]
      have hfirst : (b.deviceMessage kind d' stated).1.Owns (b.deviceTopic kind d'.telemetryName) :=
        .device said.isDeviceLevel hput
      exact hfirst.evolves (by rw [rest.frame]) rest.evolves
    · exact ih hm

theorem step_settings {b : Bridge} (hs : b.Sorted) (s : Step) : (b.step s).1.settings = b.settings := by
  rw [(step_rendered hs s).1, rendered_frame hs s]
  exact b.plan_settings s

theorem step_owns {b : Bridge} (hs : b.Sorted) (s : Step) {e : Event} (he : e ∈ (b.step s).2)
    {topic : SparkplugTopic} (htopic : e.topic? = some topic) : (b.step s).1.Owns topic := by
  cases e with
  | will message =>
    have hcalls := b.step_calls s
    generalize (b.step s).1 = b', (b.step s).2 = events at hcalls he ⊢
    cases hcalls with
    | prepare now =>
      cases List.mem_singleton.1 he
      cases htopic
      exact .node rfl
    | publish => simp at he
  | published message =>
    cases message with
    | bus _ _ => simp [Event.topic?, Outbound.topic?] at htopic
    | sparkplug topic' payload =>
      obtain rfl : topic' = topic := Option.some.inj htopic
      have hsent : .sparkplug topic' payload ∈ (b.step s).2.filterMap Event.sparkplug? :=
        List.mem_filterMap.2 ⟨_, he, rfl⟩
      rw [(step_rendered hs s).2] at hsent
      rw [(step_rendered hs s).1]
      exact (renderAll_emits (plan_sorted hs s) s.now (b.plan s).2).owns (List.mem_filter.1 hsent).1

/-- Over every run, nothing is published on topics of others. -/
theorem run_owns (settings : Settings) (now : UInt64) (steps : List Step) :
    ∀ e ∈ ((start settings now).run steps).2, ∀ topic, e.topic? = some topic →
      ((start settings now).run steps).1.Owns topic := by
  have hrun : ((start settings now).run steps).1.Sorted ∧ ∀ e ∈ ((start settings now).run steps).2,
      ∀ topic, e.topic? = some topic → ((start settings now).run steps).1.Owns topic := by
    refine run_induction (P := fun _ b seen => b.Sorted ∧ ∀ e ∈ seen, ∀ topic, e.topic? = some topic → b.Owns topic)
      ⟨start_sorted settings now, by simp⟩ ?_ steps
    rintro _ before seen s ⟨hs, howns⟩
    refine ⟨(before.step_calls s).sorted hs, fun e he topic htopic => ?_⟩
    rcases List.mem_append.1 he with he | he
    · exact (howns e he topic htopic).evolves (step_settings hs s) (step_evolves hs s)
    · exact step_owns hs s he htopic
  exact hrun.2

/-! ## Reading topics back -/

theorem Owns.parse_text_iff {b : Bridge} {topic : SparkplugTopic} (h : b.Owns topic)
    (valid : b.settings.validate = .ok ()) :
    SparkplugTopic.parse topic.text = .ok topic ↔ ∀ name ∈ topic.device, Topic.IsLevel name := by
  obtain ⟨hgroup, hnode⟩ := Settings.isLevel_of_validate valid
  rw [SparkplugTopic.parse_text_iff]
  refine ⟨fun hwf => hwf.device, fun hdevice => ?_⟩
  cases h with
  | node hkind => exact ⟨hgroup, hnode, hdevice, hkind⟩
  | device hkind found => exact ⟨hgroup, hnode, hdevice, hkind⟩

/-- Commands on a topic make the bridge do what they say with the device. -/
def Reaches (b : Bridge) (topic : SparkplugTopic) (d : Device) : Prop :=
  ∀ (now : UInt64) (instant : Nat) (payload : Wire.Payload),
    b.handle now instant (.command topic.text payload) =
      ((b.obey d now topic payload.metrics).1,
        (b.obey d now topic payload.metrics).1.send (b.obey d now topic payload.metrics).2)

/-- Commands on a topic are dropped. -/
def Ignores (b : Bridge) (topic : SparkplugTopic) : Prop :=
  ∀ (now : UInt64) (instant : Nat) (payload : Wire.Payload),
    b.handle now instant (.command topic.text payload) = (b, [])

theorem reaches_of_isLevel {b : Bridge} (valid : b.settings.validate = .ok ()) {name : String} {d : Device}
    (found : b.device? name = some d) (level : Topic.IsLevel name) :
    b.Reaches (b.deviceTopic .deviceCommand name) d := by
  have howns : b.Owns (b.deviceTopic .deviceCommand name) := .device rfl found
  have hparsed := (howns.parse_text_iff valid).2 fun other hother => Option.some.inj hother ▸ level
  have haddressee := addressee?_eq_some.2 ⟨hparsed, rfl, name, rfl, found⟩
  intro now instant payload
  rw [handle_command, haddressee]

theorem ignores_of_not_isLevel {b : Bridge} (valid : b.settings.validate = .ok ()) {name : String}
    (slash : ¬Topic.IsLevel name) : b.Ignores (b.deviceTopic .deviceCommand name) := by
  obtain ⟨hgroup, hnode⟩ := Settings.isLevel_of_validate valid
  obtain ⟨fault, hparsed⟩ :=
    SparkplugTopic.parse_text_of_not_isLevel (t := b.deviceTopic .deviceCommand name) hgroup hnode rfl slash
  have haddressee : b.addressee? (b.deviceTopic .deviceCommand name).text = none := by
    unfold addressee?
    rw [hparsed]
  intro now instant payload
  rw [handle_command, haddressee]

/-- With settings that pass the check, the topic of a published message is read back from its text, and a
command reaches the device that was born under its name, exactly if the name has no slash in it; only names
from the catalog have one. -/
theorem run_topics {settings : Settings} (valid : settings.validate = .ok ()) (now : UInt64) (steps : List Step) :
    (∀ e ∈ ((start settings now).run steps).2, ∀ topic, e.topic? = some topic →
      (SparkplugTopic.parse topic.text = .ok topic ↔ ∀ name ∈ topic.device, Topic.IsLevel name) ∧
        ∀ name ∈ topic.device, ¬Topic.IsLevel name →
          ∃ c ∈ settings.catalog.devices, name = Device.joinedName c.device c.site) ∧
      ∀ earlier s later, steps = earlier ++ s :: later → ∀ topic payload,
        .published (.sparkplug topic payload) ∈ (((start settings now).run earlier).1.step s).2 →
        topic.kind = .deviceBirth →
        ∃ name born d, topic.device = some name ∧
          (((start settings now).run earlier).1.step s).1.device? name = some born ∧
          ((start settings now).run steps).1.device? name = some d ∧ born.Becomes d ∧
          (Topic.IsLevel name → ((start settings now).run steps).1.Reaches topic.command d) ∧
          (¬Topic.IsLevel name → ((start settings now).run steps).1.Ignores topic.command) := by
  have hsettings : ∀ past, ((start settings now).run past).1.settings = settings := fun past =>
    (Consistent.run settings now past).settings_eq
  have hvalid : ((start settings now).run steps).1.settings.validate = .ok () := by rw [hsettings, valid]
  refine ⟨fun e he topic htopic => ?_, ?_⟩
  · have howns := run_owns settings now steps e he topic htopic
    refine ⟨howns.parse_text_iff hvalid, fun name hname hslash => ?_⟩
    cases howns with
    | node => simp [nodeTopic] at hname
    | @device _ listed d _ found =>
      obtain rfl : listed = name := Option.some.inj hname
      obtain ⟨source, hfirst, -⟩ := (registered_run settings now steps).isOf found
      have hmem := List.mem_of_find?_eq_some hfirst
      have hsource : source.name = listed := by simpa using List.find?_some hfirst
      rcases Settings.isLevel_or_catalog hmem with hlevel | ⟨c, hc, hjoined⟩
      · exact absurd (hsource ▸ hlevel) hslash
      · exact ⟨c, hc, hsource ▸ hjoined⟩
  · rintro earlier s later rfl topic payload hpublished hkind
    have hconsistent := Consistent.run settings now earlier
    have howns := step_owns hconsistent.sorted s hpublished rfl
    have hcalls := ((start settings now).run earlier).1.step_calls s
    have hrun : ((start settings now).run (earlier ++ s :: later)).1 =
        ((((start settings now).run earlier).1.step s).1.run later).1 := by
      rw [run_append]
      rfl
    have hlater := run_evolves (hcalls.sorted hconsistent.sorted) later
    rw [← hrun] at hlater
    cases howns with
    | @node kind h =>
      obtain rfl : kind = .deviceBirth := hkind
      exact absurd h (by decide)
    | @device kind name born _ found =>
      obtain ⟨d, hd, hbecomes⟩ := hlater name born found
      have htopic : ((((start settings now).run earlier).1.step s).1.deviceTopic kind name).command =
          ((start settings now).run (earlier ++ s :: later)).1.deviceTopic .deviceCommand name := by
        unfold SparkplugTopic.command deviceTopic
        rw [hsettings, step_settings hconsistent.sorted, hsettings]
      refine ⟨name, born, d, rfl, found, hd, hbecomes, ?_⟩
      rw [htopic]
      exact ⟨reaches_of_isLevel hvalid hd, ignores_of_not_isLevel hvalid⟩

theorem exists_published_of_topic {events : List Event} {topic : SparkplugTopic}
    (h : some topic ∈ (events.filterMap Event.sparkplug?).map Outbound.topic?) :
    ∃ payload, .published (.sparkplug topic payload) ∈ events := by
  obtain ⟨message, hmessage, htopic⟩ := List.mem_map.1 h
  obtain ⟨e, he, hevent⟩ := List.mem_filterMap.1 hmessage
  cases e with
  | will _ => simp [Event.sparkplug?] at hevent
  | published sent =>
    cases sent with
    | bus _ _ => simp [Event.sparkplug?] at hevent
    | sparkplug topic' payload =>
      cases hevent
      cases htopic
      exact ⟨payload, he⟩

/-- Settings with one device in the catalog, at the site `PL0`. -/
def withMeter (device : String) : Settings where
  edgeNodeId := "edge-1"
  catalog := ⟨[⟨"PL0", device, [⟨"Flow", "uint", 1, 40001, .holdingRegister, 0, false⟩]⟩]⟩

/-- The topic of the birth of that device. -/
def meterBirth (name : String) : SparkplugTopic := ⟨"UWC nodes", .deviceBirth, "edge-1", some name⟩

/-- The SCADA broker is connected. -/
def connect : Step := .take 0 0 (.connection .scadaConnected)

/-- The birth of a device `fm` is published, its topic is read back, and commands reach the device. -/
theorem run_topics_fm :
    ∃ payload d, .published (.sparkplug (meterBirth "fm-PL0") payload) ∈ ((start (withMeter "fm") 0).run [connect]).2 ∧
      SparkplugTopic.parse (meterBirth "fm-PL0").text = .ok (meterBirth "fm-PL0") ∧
      ((start (withMeter "fm") 0).run [connect]).1.device? "fm-PL0" = some d ∧
      ((start (withMeter "fm") 0).run [connect]).1.Reaches (meterBirth "fm-PL0").command d := by
  have hvalid : (withMeter "fm").validate = .ok () := by rfl
  have hlevel : Topic.IsLevel "fm-PL0" := by decide
  have hpublished : ∃ payload, .published (.sparkplug (meterBirth "fm-PL0") payload) ∈
      (((start (withMeter "fm") 0).run []).1.step connect).2 := exists_published_of_topic (by decide +kernel)
  obtain ⟨payload, hpublished⟩ := hpublished
  have hseen : .published (.sparkplug (meterBirth "fm-PL0") payload) ∈
      ((start (withMeter "fm") 0).run [connect]).2 := by
    simpa [run] using hpublished
  obtain ⟨hread, hreached⟩ := run_topics hvalid 0 [connect]
  obtain ⟨name, _, d, hname, -, hd, -, hreaches, -⟩ := hreached [] connect [] rfl _ payload hpublished rfl
  obtain rfl : "fm-PL0" = name := Option.some.inj hname
  have hlevels : ∀ name ∈ (meterBirth "fm-PL0").device, Topic.IsLevel name := fun _ h => Option.some.inj h ▸ hlevel
  exact ⟨payload, d, hseen, (hread _ hseen _ rfl).1.2 hlevels, hd, hreaches hlevel⟩

/-- A slash in the name of a catalog device passes the check of the settings. The birth of such a device is
published on a text that is no topic, and commands for it are dropped. -/
theorem not_reached_of_slash :
    (withMeter "a/b").validate = .ok () ∧
      (∃ payload, .published (.sparkplug (meterBirth "a/b-PL0") payload) ∈
        ((start (withMeter "a/b") 0).run [connect]).2) ∧
      SparkplugTopic.parse (meterBirth "a/b-PL0").text ≠ .ok (meterBirth "a/b-PL0") ∧
      ((start (withMeter "a/b") 0).run [connect]).1.Ignores (meterBirth "a/b-PL0").command := by
  have hvalid : (withMeter "a/b").validate = .ok () := by rfl
  have hslash : ¬Topic.IsLevel "a/b-PL0" := by decide
  have hsettings := (Consistent.run (withMeter "a/b") 0 [connect]).settings_eq
  refine ⟨hvalid, exists_published_of_topic (by decide +kernel), fun hparsed => ?_, ?_⟩
  · exact hslash ((SparkplugTopic.parse_text_iff.1 hparsed).device _ rfl)
  · have hignores := ignores_of_not_isLevel (by rw [hsettings]; exact hvalid) hslash
    unfold deviceTopic at hignores
    rw [hsettings] at hignores
    exact hignores

end Bridge

end ScadaBridge
