import ScadaBridge.Proofs.Bridge.Mirror
import ScadaBridge.Proofs.Bridge.Sequence
import ScadaBridge.Proofs.Definitions
import ScadaBridge.Proofs.Metric.RoundTrip

/-!
# Definitions in births of the edge node

An instance of a UDT is of use to a Sparkplug host only if the host knows its definition, and it learns of
definitions from births of the edge node alone. `run_knowsDefinitions` says that a connected host that reads
the latest one knows exactly the registered definitions.

The invariant is `Informing`. A call that registers definitions calls for a birth of the edge node
(`Moves.registers`), and messages about devices do not make the latest birth an older one.
-/

namespace ScadaBridge

open Ordered

/-- The payload of a birth of the edge node that is published. -/
def Event.nodeBirth? : Event → Option Wire.Payload
  | .published (.sparkplug topic payload) => if topic.kind = .nodeBirth then some payload else none
  | .published (.bus _ _) | .will _ => none

/-- All definitions can be sent and read back. -/
def Definitions.WellFormed (definitions : Definitions) : Prop := ∀ u ∈ definitions.entries, u.metric.WellFormed

/-! ## Registered definitions -/

theorem UdtHead.WellFormed.asDefinition {head : UdtHead} (h : head.WellFormed)
    (definition : head.isDefinition = true) : head.asDefinition.WellFormed := by
  refine ⟨h.published, fun _ => ?_, h.sorted, h.parameters⟩
  have hname : head.definition = head.label.name := h.definition definition
  show (if head.definition = "" then head.label.name else head.definition) = head.label.name
  rw [hname]
  exact ite_self _

theorem Bridge.definitionOf?_wellFormed {now : UInt64} {record : Json} {u : Udt}
    (h : definitionOf? now record = some u) : u.metric.WellFormed ∧ u.head.isDefinition = true := by
  unfold definitionOf? at h
  split at h
  · next head children hread =>
    split at h
    · next hdefinition =>
      cases h
      exact ⟨Metric.ofRecord_wellFormed now record hread, hdefinition⟩
    · simp at h
  · simp at h
  · simp at h

namespace Definitions

theorem WellFormed.register {definitions : Definitions} (h : definitions.WellFormed) {u : Udt}
    (hu : u.metric.WellFormed) (definition : u.head.isDefinition = true) :
    (definitions.register u).1.WellFormed := by
  have hnew : Metric.WellFormed (.udt u.head.asDefinition u.children) :=
    .udt (hu.head.asDefinition definition) hu.children.sorted hu.children.each
  unfold Definitions.register
  dsimp only
  split
  · intro other hother
    rcases List.mem_or_eq_of_mem_set hother with hother | rfl
    · exact h other hother
    · exact hnew
  · intro other hother
    rcases List.mem_append.1 hother with hother | hother
    · exact h other hother
    · rw [List.mem_singleton.1 hother]
      exact hnew

theorem WellFormed.registerAll {definitions : Definitions} (h : definitions.WellFormed) {announced : List Udt}
    (each : ∀ u ∈ announced, u.metric.WellFormed ∧ u.head.isDefinition = true) :
    (definitions.registerAll announced).WellFormed := by
  induction announced generalizing definitions with
  | nil => exact h
  | cons u rest ih =>
    obtain ⟨⟨hu, hdefinition⟩, hrest⟩ := List.forall_mem_cons.1 each
    exact ih (h.register hu hdefinition) hrest

end Definitions

namespace Bridge

/-- Definitions were registered from `b` to `b'`, and a birth of the edge node is called for if there were
any. -/
def Registers (b b' : Bridge) (actions : List Action) : Prop :=
  ∃ announced : List Udt, (∀ u ∈ announced, u.metric.WellFormed ∧ u.head.isDefinition = true) ∧
    b'.definitions = b.definitions.registerAll announced ∧ (announced = [] ∨ actions = [.nodeRebirth])

theorem Registers.of_definitions_eq {b b' : Bridge} (h : b'.definitions = b.definitions)
    (actions : List Action) : b.Registers b' actions :=
  ⟨[], by simp, h, .inl rfl⟩

/-- An announcement registers the definitions in it that can be read, and calls for a birth of the edge node
if there are any. -/
theorem announceDefinitions_eq_ok {b b' : Bridge} {payload : List UInt8} {now : UInt64} {actions : List Action}
    (h : b.announceDefinitions payload now = (b', .ok actions)) : b.Registers b' actions := by
  unfold announceDefinitions at h
  split at h
  · simp at h
  · next records hrecords =>
    obtain ⟨rfl, hactions⟩ := Prod.mk.inj h
    refine ⟨records.filterMap (definitionOf? now), fun u hu => ?_, rfl, ?_⟩
    · obtain ⟨record, -, hrecord⟩ := List.mem_filterMap.1 hu
      exact definitionOf?_wellFormed hrecord
    · have hcalled := Except.ok.inj hactions
      split at hcalled
      · next hempty => exact .inl (List.isEmpty_iff.1 hempty)
      · exact .inr hcalled.symm

/-- A move that registers definitions calls for a birth of the edge node. -/
theorem Moves.registers {b b' : Bridge} {s : Step} {actions : List Action} (h : b.Moves s b' actions) :
    b.Registers b' actions := by
  cases h with
  | idle _ hframe =>
    apply Registers.of_definitions_eq
    rw [hframe]
  | fault | connected | lost => exact .of_definitions_eq rfl _
  | restored _ _ outage =>
    apply Registers.of_definitions_eq
    rw [restore_frame]
  | expired _ _ outage =>
    apply Registers.of_definitions_eq
    rw [expireOutage_frame]
  | turn parsed processed hturn =>
    cases hturn with
    | idle | announced | data | reading => exact .of_definitions_eq rfl _
    | deaths =>
      apply Registers.of_definitions_eq
      rw [declareAllDead_frame]
    | definitions _ =>
      simp only [process, parsed] at processed
      exact announceDefinitions_eq_ok processed

/-- When a move finds the broker connected, it was so before, or a birth of the edge node is called for. -/
theorem Moves.online_or_rebirth {b b' : Bridge} {s : Step} {actions : List Action} (h : b.Moves s b' actions)
    (online : b'.online = true) : b.online = true ∨ actions = [.nodeRebirth] := by
  cases h with
  | idle _ hframe =>
    rw [hframe] at online
    exact .inl online
  | fault => exact .inl online
  | turn _ _ hturn =>
    rw [hturn.frame] at online
    exact .inl online
  | connected => exact .inr rfl
  | lost => simp at online
  | restored =>
    rw [restore_frame] at online
    exact .inl online
  | expired =>
    rw [expireOutage_frame] at online
    exact .inl online

/-! ## The invariant -/

/-- The birth of the edge node that was published last. -/
def latestNodeBirth? (seen : List Event) : Option Wire.Payload := (seen.filterMap Event.nodeBirth?).getLast?

/-- After the name and the session, a payload has the births of all definitions, in their order. -/
def Lists (definitions : Definitions) (payload : Wire.Payload) : Prop :=
  ∃ name session, name.name = "Name" ∧ session.name = "bdSeq" ∧
    payload.metrics = name :: session :: definitions.entries.map fun u => u.metric.birth

/-- The latest birth of the edge node lists the registered definitions. -/
def Informed (b : Bridge) (seen : List Event) : Prop :=
  ∃ payload, latestNodeBirth? seen = some payload ∧ Lists b.definitions payload

/-- What holds of the definitions and of what was seen at every point of a run. -/
structure Informing (b : Bridge) (seen : List Event) : Prop where
  sorted : b.Sorted
  /-- What is published has a receiver. -/
  outlet : b.outletOpen = true
  wellFormed : b.definitions.WellFormed
  informed : b.online = true → b.Informed seen

theorem lists_nodeBirth (b : Bridge) (now session : UInt64) : Lists b.definitions (b.nodeBirth now session).2 :=
  ⟨_, _, rfl, rfl, rfl⟩

namespace Informed

variable {b b' : Bridge} {seen : List Event}

theorem nodeBirth (b : Bridge) (seen : List Event) (now session : UInt64) :
    (b.nodeBirth now session).1.Informed
      (seen ++ [.published (.sparkplug (b.nodeTopic .nodeBirth) (b.nodeBirth now session).2)]) := by
  refine ⟨(b.nodeBirth now session).2, ?_, b.lists_nodeBirth now session⟩
  simp [latestNodeBirth?, Event.nodeBirth?, nodeTopic]

/-- Other events leave the host informed. -/
theorem append (h : b.Informed seen) {more : List Event} (other : ∀ e ∈ more, e.nodeBirth? = none) :
    b.Informed (seen ++ more) := by
  obtain ⟨payload, hlatest, hlists⟩ := h
  have hnothing : more.filterMap Event.nodeBirth? = [] := List.filterMap_eq_nil_iff.2 other
  refine ⟨payload, ?_, hlists⟩
  unfold latestNodeBirth?
  rw [List.filterMap_append, hnothing, List.append_nil]
  exact hlatest

theorem bus (h : b.Informed seen) {messages : List Outbound} (hm : OnBus messages) :
    b.Informed (seen ++ messages.map .published) := by
  refine h.append fun e he => ?_
  obtain ⟨message, hmessage, rfl⟩ := List.mem_map.1 he
  obtain ⟨topic, content, rfl⟩ := hm message hmessage
  rfl

/-- A message about a device is not a birth of the edge node. -/
theorem deviceMessage (h : b.Informed seen) {kind : MessageKind} (hkind : kind ≠ .nodeBirth) (d : Device)
    (payload : Wire.Payload) :
    (b.deviceMessage kind d payload).1.Informed (seen ++ [.published (b.deviceMessage kind d payload).2]) := by
  refine Informed.append (b := b) h fun e he => ?_
  rw [List.mem_singleton.1 he]
  exact if_neg hkind

theorem emits {now : UInt64} {messages : List Outbound} (h : b.Informed seen) (he : Emits now b messages b') :
    b'.Informed (seen ++ messages.map .published) := by
  induction he generalizing seen with
  | done => simpa using h
  | @node b _ _ _ ih =>
    have hrest := ih (nodeBirth b seen now b.session)
    rw [List.append_assoc] at hrest
    exact hrest
  | device _ said _ ih =>
    have hrest := ih (h.deviceMessage said.kind_ne _ _)
    rw [List.append_assoc] at hrest
    exact hrest

end Informed

namespace Informing

variable {b b' : Bridge} {seen : List Event}

/-- What is published keeps the host informed, also of definitions that it did not know before if a birth of
the edge node is called for. -/
theorem publish (sorted : b.Sorted) (outlet : b.outletOpen = true) (wellFormed : b.definitions.WellFormed)
    (now : UInt64) {actions : List Action}
    (informed : b.online = true → b.Informed seen ∨ actions = [.nodeRebirth]) :
    (b.publish now actions).1.Informing (seen ++ (b.publish now actions).2.map .published) := by
  obtain ⟨messages, he, hsent⟩ := publish_emits sorted now actions
  refine ⟨he.sorted sorted, he.outletOpen_eq.trans outlet, ?_, fun honline => ?_⟩
  · rw [he.frame]
    exact wellFormed
  · rw [he.online_eq] at honline
    rcases informed honline with hinformed | rfl
    · rw [hsent, he.send_eq outlet, if_pos honline]
      exact hinformed.emits he
    · -- the birth of the edge node comes first, whatever the host knew before it
      have hbirths : Emits now (b.nodeBirth now b.session).1 _ _ :=
        liveBirths_emits now sorted fun d hd => sorted.device?_of_mem hd
      have hall := (Informed.nodeBirth b seen now b.session).emits hbirths
      rw [List.append_assoc] at hall
      rw [publish_cons_online sorted outlet honline, Bridge.publish, List.append_nil]
      exact hall

/-- A move that leaves the host with unknown definitions, or with none at all, calls for a birth. -/
theorem moves (h : b.Informing seen) {s : Step} {actions : List Action} (hmoves : b.Moves s b' actions)
    (now : UInt64) :
    (b'.publish now actions).1.Informing (seen ++ (b'.publish now actions).2.map .published) := by
  obtain ⟨announced, heach, hdefinitions, hrebirth⟩ := hmoves.registers
  have hwellFormed : b'.definitions.WellFormed := by
    rw [hdefinitions]
    exact h.wellFormed.registerAll heach
  have houtlet : b'.outletOpen = true := by
    rw [hmoves.frame]
    exact h.outlet
  refine publish (hmoves.sorted h.sorted) houtlet hwellFormed now fun honline => ?_
  rcases hrebirth with rfl | hactions
  · refine (hmoves.online_or_rebirth honline).imp_left fun hbefore => ?_
    have hinformed := h.informed hbefore
    unfold Informed at hinformed ⊢
    rw [hdefinitions]
    exact hinformed
  · exact .inr hactions

theorem bus (h : b.Informing seen) {messages : List Outbound} (hm : OnBus messages) :
    b.Informing (seen ++ messages.map .published) :=
  ⟨h.sorted, h.outlet, h.wellFormed, fun honline => (h.informed honline).bus hm⟩

/-- The invariant is kept by every call. -/
theorem calls (h : b.Informing seen) {s : Step} {events : List Event} (hcalls : b.Calls s b' events) :
    b'.Informing (seen ++ events) := by
  cases hcalls with
  | prepare now =>
    refine ⟨h.sorted, h.outlet, h.wellFormed, fun honline => ?_⟩
    exact Informed.append (h.informed honline) (by simp [Event.nodeBirth?])
  | publish now hmoves before after =>
    rw [← List.append_assoc, ← List.append_assoc]
    exact ((h.bus before).moves hmoves now).bus after

end Informing

theorem informing_start (settings : Settings) (now : UInt64) : (start settings now).Informing [] := by
  have hframe := start_frame settings now
  refine ⟨start_sorted settings now, ?_, ?_, fun honline => ?_⟩
  · rw [hframe]
    rfl
  · rw [hframe]
    exact fun u hu => absurd hu List.not_mem_nil
  · rw [hframe] at honline
    exact absurd honline Bool.false_ne_true

/-- Whoever reads the latest birth of the edge node finds in it, after the name and the session, exactly the
registered definitions in their order, with times rounded down to whole milliseconds and without handles. -/
def KnowsDefinitions (after : Bridge × List Event) : Prop :=
  ∃ payload name session told, latestNodeBirth? after.2 = some payload ∧
    payload.metrics = name :: session :: told ∧ name.name = "Name" ∧ session.name = "bdSeq" ∧
    told.map Metric.ofWire = after.1.definitions.entries.map fun u => .ok u.metric.rounded

theorem Informing.knowsDefinitions {b : Bridge} {seen : List Event} (h : b.Informing seen)
    (online : b.online = true) : KnowsDefinitions (b, seen) := by
  obtain ⟨payload, hlatest, name, session, hname, hsession, hmetrics⟩ := h.informed online
  refine ⟨payload, name, session, _, hlatest, hmetrics, hname, hsession, ?_⟩
  rw [List.map_map]
  exact List.map_congr_left fun u hu => Metric.ofWire_birth (h.wellFormed u hu)

/-- Over every run, while the SCADA broker is connected, its side knows the registered definitions. -/
theorem run_knowsDefinitions (settings : Settings) (now : UInt64) (steps : List Step)
    (connected : Connected steps) : KnowsDefinitions ((start settings now).run steps) := by
  have hinforming : ((start settings now).run steps).1.Informing ((start settings now).run steps).2 :=
    run_induction (P := fun _ b seen => b.Informing seen) (informing_start settings now)
      (fun _ before _ s h => h.calls (before.step_calls s)) steps
  exact hinforming.knowsDefinitions ((run_online settings now steps).2.trans connected)

/-- A pump with a speed is announced before the broker is there. -/
theorem run_knowsDefinitions_pump :
    let steps := [.take 0 0 (.bus "TemplateDef" (Utf8.encode
        "\x7b\"metrics\":[\x7b\"name\":\"Pump\",\"dataType\":\"Template\",\"value\":\x7b\"version\":\"1\",\"metrics\":[\x7b\"name\":\"speed\",\"dataType\":\"Int8\",\"value\":0\x7d]\x7d\x7d]\x7d")),
      .take 0 0 (.connection .scadaConnected)]
    let after := (start {} 0).run steps
    Connected steps ∧
      after.1.definitions.entries.map (fun u => (u.head.definition, u.children.map Metric.name)) =
        [("Pump", ["speed"])] ∧
      KnowsDefinitions after := by
  intro steps after
  have hconnected : Connected steps := rfl
  have hentries : after.1.definitions.entries.map (fun u => (u.head.definition, u.children.map Metric.name)) =
      [("Pump", ["speed"])] := by decide +kernel
  exact ⟨hconnected, hentries, run_knowsDefinitions {} 0 steps hconnected⟩

end Bridge

end ScadaBridge
