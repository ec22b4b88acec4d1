import Mathlib.Data.List.Nodup
import ScadaBridge.Proofs.Bridge.Cascade
import ScadaBridge.Proofs.Bridge.Topics
import ScadaBridge.Proofs.Outage

/-!
# What an outage of the plant bus takes and gives back

When an outage expires, all live devices die, and are kept in mind (`rendered_expiry`). Until the bus is back nothing
is added to them or taken away, whatever happens to the devices themselves (`timedOut_between`). When the bus is
back, those of them are born again that are dead then, and no other device; a bus that is back without an outage
having expired gives birth to nothing (`outage_bracket`).
-/

namespace ScadaBridge

open Ordered

/-- What a call means for the outage. -/
def Step.outageCall? : Step → Option Outage.Call
  | .take _ instant (.connection .busLost) => some (.lost instant)
  | .take _ _ (.connection .busConnected) => some .connected
  | .check _ instant => some (.check instant)
  | .take _ _ (.connection .scadaConnected) | .take _ _ (.connection .scadaLost) | .take _ _ (.bus _ _)
  | .take _ _ (.command _ _) | .prepare _ => none

/-- The plant bus is connected. -/
def Step.reconnect (now : UInt64) (instant : Nat) : Step := .take now instant (.connection .busConnected)

namespace Bridge

/-! ## The outage of a run -/

/-- A call acts on the outage by what it means for it. -/
theorem plan_outage_eq (b : Bridge) (s : Step) :
    (b.plan s).1.outage = (s.outageCall?.map fun c => (b.outage.answer c).1).getD b.outage := by
  cases s with
  | prepare now => rfl
  | check now instant =>
    unfold plan
    dsimp only
    split
    · next outage hcheck =>
      rw [expireOutage_frame]
      show outage = (b.outage.check instant).1
      rw [hcheck]
    · next outage hcheck =>
      show outage = (b.outage.check instant).1
      rw [hcheck]
  | take now instant message =>
    cases message with
    | bus topic payload =>
      unfold plan
      dsimp only
      rcases b.process_turns now topic payload with ⟨fault, heq⟩ | ⟨t, b', actions, _, heq, hturn⟩
      · rw [heq]
        rfl
      · rw [heq]
        dsimp only
        rw [hturn.frame]
        rfl
    | command topic payload =>
      unfold plan
      dsimp only
      split
      · rfl
      · rw [command_frame]
        rfl
    | connection event =>
      cases event with
      | scadaConnected | scadaLost | busLost => rfl
      | busConnected =>
        unfold plan planConnection
        dsimp only
        split
        · next outage hconnected =>
          rw [restore_frame]
          show outage = b.outage.connected.1
          rw [hconnected]
        · next outage hconnected =>
          show outage = b.outage.connected.1
          rw [hconnected]

theorem step_outage {b : Bridge} (hs : b.Sorted) (s : Step) :
    (b.step s).1.outage = (s.outageCall?.map fun c => (b.outage.answer c).1).getD b.outage := by
  rw [(step_rendered hs s).1, rendered_frame hs]
  exact b.plan_outage_eq s

/-- The outage of a run has answered to the calls that mean something for it. -/
theorem run_outage (settings : Settings) (started : UInt64) (steps : List Step) :
    ((start settings started).run steps).1.outage =
      ((Outage.none (settings.outageSeconds.toNat * 1000)).answers (steps.filterMap Step.outageCall?)).1 := by
  induction steps using List.reverseRecOn with
  | nil =>
    have hframe := start_frame settings started
    show (start settings started).outage = _
    rw [hframe]
    rfl
  | append_singleton steps s ih =>
    rw [run_snoc, step_outage (run_online settings started steps).1, ih, List.filterMap_append]
    cases hcall : s.outageCall? with
    | none => simp [hcall]
    | some c =>
      rw [List.filterMap_cons_some hcall, List.filterMap_nil, Outage.answers_snoc]
      rfl

/-! ## The expiry -/

/-- The names of the devices that were born and are not known to be dead. -/
def live (b : Bridge) : List String := (b.devices.filter fun d => !d.needsBirth).map Device.telemetryName

theorem filter_isLive {b : Bridge} (hs : b.Sorted) : (b.devices.map Device.telemetryName).filter b.isLive = b.live := by
  have hlive : ∀ d ∈ b.devices, (b.isLive ∘ Device.telemetryName) d = !d.needsBirth := fun d hd => by
    simp [isLive, hs.device?_of_mem hd]
  unfold live
  rw [List.filter_map, List.filter_congr hlive]

theorem live_nodup {b : Bridge} (hs : b.Sorted) : b.live.Nodup := by
  rw [← filter_isLive hs]
  exact hs.nodup.filter _

theorem isLive_of_mem_live {b : Bridge} (hs : b.Sorted) {name : String} (h : name ∈ b.live) :
    b.isLive name = true := by
  rw [← filter_isLive hs] at h
  exact (List.mem_filter.1 h).2

/-- When an outage expires, all live devices die, and are kept in mind. -/
theorem expireOutage_live {b : Bridge} (hs : b.Sorted) (now : UInt64) :
    (b.expireOutage now).2 = b.live.map .death ∧ (b.expireOutage now).1.timedOut = b.timedOut ++ b.live := by
  have hactions : (b.declareAllDead now (b.devices.map Device.telemetryName)).2 = b.live.map .death := by
    rw [declareAllDead_actions, filter_isLive hs]
  refine ⟨hactions, ?_⟩
  unfold expireOutage
  dsimp only
  rw [hactions, declareAllDead_frame, List.filterMap_map]
  congr 1
  exact List.filterMap_some

theorem plan_expiry {b : Bridge} {instant : Nat} (expires : (b.outage.check instant).2 = true) (now : UInt64) :
    b.plan (.check now instant) = ({ b with outage := (b.outage.check instant).1 } : Bridge).expireOutage now := by
  rcases hcheck : b.outage.check instant with ⟨outage, expired⟩
  rw [hcheck] at expires
  obtain rfl : expired = true := expires
  simp only [plan, hcheck]

/-- The deaths of all live devices are rendered when an outage expires. -/
theorem rendered_expiry {b : Bridge} (hs : b.Sorted) (now : UInt64) {instant : Nat}
    (expires : (b.outage.check instant).2 = true) :
    (b.rendered (.check now instant)).2 = b.deathNotices now b.live ∧
      (b.rendered (.check now instant)).1.timedOut = b.timedOut ++ b.live := by
  have hplan := plan_expiry expires now
  have hs' : ({ b with outage := (b.outage.check instant).1 } : Bridge).Sorted := hs
  obtain ⟨hactions, htimedOut⟩ := expireOutage_live hs' now
  have hframe := expireOutage_frame { b with outage := (b.outage.check instant).1 } now
  have hdated : ∀ name ∈ b.live, ∃ d,
      (({ b with outage := (b.outage.check instant).1 } : Bridge).expireOutage now).1.device? name = some d ∧
        d.deathTime = now := by
    intro name hname
    have hlive : ({ b with outage := (b.outage.check instant).1 } : Bridge).isLive name = true :=
      isLive_of_mem_live hs hname
    obtain ⟨d, hd, -⟩ := isLive_eq_true_iff.1 hlive
    have hlisted : name ∈ b.devices.map Device.telemetryName := by
      rw [← telemetryName_of_device? hd]
      exact List.mem_map_of_mem (mem_of_device? hd)
    exact exists_dated hlisted hlive now
  refine ⟨?_, ?_⟩
  · unfold rendered
    rw [hplan, hactions]
    show (renderAll _ now (b.live.map .death)).2 = _
    rw [renderAll_deaths (live_nodup hs) hdated, hframe]
    rfl
  · rw [rendered_frame hs, hplan]
    exact htimedOut

/-! ## Between the expiry and the end -/

/-- An outage has expired, and devices are kept in mind. -/
structure KeepsInMind (b : Bridge) (names : List String) : Prop where
  expired : b.outage.expired = true
  since : b.outage.since = none
  timedOut : b.timedOut = names

theorem timedOut_plan {b : Bridge} (since : b.outage.since = none) {s : Step}
    (kept : ∀ now instant, s ≠ .reconnect now instant) : (b.plan s).1.timedOut = b.timedOut := by
  cases s with
  | prepare now => rfl
  | check now instant =>
    have hcheck : b.outage.check instant = (b.outage, false) := by simp [Outage.check, since]
    simp only [plan, hcheck]
  | take now instant message =>
    have hmoves := (b.plan_moves (.take now instant message)).resolve_left (by simp)
    generalize (b.plan (.take now instant message)).1 = b' at hmoves ⊢
    generalize (b.plan (.take now instant message)).2 = actions at hmoves
    cases hmoves with
    | idle _ hframe => rw [hframe]
    | fault | connected | lost => rfl
    | turn _ _ hturn => rw [hturn.frame]
    | restored => exact absurd rfl (kept now instant)

/-- Nothing but the end of the outage changes what is kept in mind. -/
theorem KeepsInMind.step {b : Bridge} {names : List String} (hs : b.Sorted) (h : b.KeepsInMind names) {s : Step}
    (kept : ∀ now instant, s ≠ .reconnect now instant) : (b.step s).1.KeepsInMind names := by
  have houtage : (b.step s).1.outage = b.outage := by
    rw [step_outage hs]
    cases hcall : s.outageCall? with
    | none => rfl
    | some c =>
      rw [Option.map_some, Option.getD_some]
      cases c with
      | lost instant =>
        show b.outage.lost instant = b.outage
        simp [Outage.lost, h.expired]
      | check instant =>
        show (b.outage.check instant).1 = b.outage
        simp [Outage.check, h.since]
      | connected =>
        unfold Step.outageCall? at hcall
        split at hcall <;> simp at hcall
        next now instant => exact absurd rfl (kept now instant)
  refine ⟨houtage ▸ h.expired, houtage ▸ h.since, ?_⟩
  rw [(step_rendered hs s).1, rendered_frame hs]
  exact (timedOut_plan h.since kept).trans h.timedOut

theorem KeepsInMind.run {b : Bridge} {names : List String} (hs : b.Sorted) (h : b.KeepsInMind names)
    {steps : List Step} (kept : ∀ now instant, Step.reconnect now instant ∉ steps) :
    (b.run steps).1.KeepsInMind names := by
  induction steps generalizing b with
  | nil => exact h
  | cons s rest ih =>
    have hs' : (b.step s).1.Sorted := (b.step_calls s).sorted hs
    have hstep := h.step hs fun now instant heq => kept now instant (heq ▸ List.mem_cons_self)
    exact ih hs' hstep fun now instant hmem => kept now instant (List.mem_cons_of_mem _ hmem)

/-- When an outage expires, just the devices that die then are kept in mind. -/
theorem keepsInMind_of_expiry (settings : Settings) (started : UInt64) (past : List Step) (now : UInt64) {instant : Nat}
    (expires : (((start settings started).run past).1.outage.check instant).2 = true) :
    (((start settings started).run past).1.step (.check now instant)).1.KeepsInMind
      ((start settings started).run past).1.live := by
  have hconsistent := Consistent.run settings started past
  have hs := hconsistent.sorted
  have hrecalls := Outage.recalls_answers (settings.outageSeconds.toNat * 1000) (past.filterMap Step.outageCall?)
  rw [← run_outage settings started past] at hrecalls
  generalize ((start settings started).run past).1 = b at expires hconsistent hs hrecalls ⊢
  have hbegan : ∃ began, b.outage.since = some began := by
    cases hsince : b.outage.since with
    | some began => exact ⟨began, rfl⟩
    | none => simp [Outage.check, hsince] at expires
  obtain ⟨began, hsince⟩ := hbegan
  have hnot := hrecalls.expired_eq_false hsince
  have hnothing : b.timedOut = [] := by
    by_contra hlisted
    simp [hconsistent.outage hlisted] at hnot
  have hcheck : (b.outage.check instant).1 = { b.outage with since := none, expired := true } := by
    rcases b.outage.check_cases instant with heq | heq
    · rw [heq]
    · simp [heq] at expires
  have houtage : (b.step (.check now instant)).1.outage = { b.outage with since := none, expired := true } := by
    rw [step_outage hs, ← hcheck]
    rfl
  refine ⟨by rw [houtage], by rw [houtage], ?_⟩
  rw [(step_rendered hs _).1, (rendered_expiry hs now expires).2, hnothing, List.nil_append]

/-! ## The end -/

/-- Whether a device of the name is known to be dead and has metrics. -/
def isRevivable (b : Bridge) (name : String) : Bool := (b.device? name).any fun d => d.known == .down && d.hasMetrics

/-- Of the listed devices those that are dead and have metrics are born again, in the order of the list. -/
theorem reviveAll_actions {names : List String} (nodup : names.Nodup) (b : Bridge) :
    (b.reviveAll names).2 = (names.filter b.isRevivable).map .birth := by
  induction names generalizing b with
  | nil => rfl
  | cons name rest ih =>
    obtain ⟨hnew, hrest⟩ := List.nodup_cons.1 nodup
    rcases b.reviveAll_cons name rest with ⟨heq, hnot⟩ | ⟨d, hd, hdead, heq⟩
    · have hskip : ¬b.isRevivable name = true := by
        unfold isRevivable
        cases hd : b.device? name with
        | none => simp
        | some d =>
          simpa using hnot d hd
      rw [heq, ih hrest, List.filter_cons_of_neg hskip]
    · have htake : b.isRevivable name = true := by simp [isRevivable, hd, hdead.1, hdead.2]
      have hothers : ∀ listed ∈ rest, (b.putDevice d.markAlive).isRevivable listed = b.isRevivable listed := by
        intro listed hlisted
        have hname : d.telemetryName = name := telemetryName_of_device? hd
        have hne : d.markAlive.telemetryName ≠ listed := fun h => hnew (hname ▸ h ▸ hlisted)
        unfold isRevivable
        rw [device?_putDevice, if_neg hne]
      rw [heq, List.filter_cons_of_pos htake, List.map_cons, ih hrest, List.filter_congr hothers]

/-- Births of registered devices are rendered in their order. -/
theorem renderAll_births {names : List String} {b : Bridge} (found : ∀ name ∈ names, (b.device? name).isSome)
    (now : UInt64) :
    (b.renderAll now (names.map .birth)).2.map Outbound.topic? =
      names.map fun name => some (b.deviceTopic .deviceBirth name) := by
  induction names generalizing b with
  | nil => rfl
  | cons name rest ih =>
    obtain ⟨d, hd⟩ := Option.isSome_iff_exists.1 (found name List.mem_cons_self)
    have hname : d.telemetryName = name := telemetryName_of_device? hd
    have hfound : ∀ listed ∈ rest, ((b.deviceBirth now d).1.device? listed).isSome := by
      intro listed hlisted
      have hkept : (b.deviceBirth now d).1.device? listed =
          if d.telemetryName = listed then some (d.birth now).1 else b.device? listed :=
        device?_deviceMessage b .deviceBirth (d.birth now).1 (d.birth now).2 listed
      rw [hkept]
      split
      · rfl
      · exact found listed (List.mem_cons_of_mem _ hlisted)
    have hmore := ih hfound
    show ((b.render now (.birth name)).2 ++ ((b.render now (.birth name)).1.renderAll now _).2).map _ = _
    rw [render_birth hd, List.map_append, hmore, ← hname]
    rfl

/-- The devices that are kept in mind are born again, if they are dead and have metrics. -/
theorem KeepsInMind.rendered {b : Bridge} {names : List String} (h : b.KeepsInMind names) (nodup : names.Nodup)
    (now : UInt64) (instant : Nat) :
    (b.rendered (.reconnect now instant)).2.map Outbound.topic? =
      (names.filter b.isRevivable).map fun name => some (b.deviceTopic .deviceBirth name) := by
  let ended : Bridge := { b with outage := b.outage.connected.1, timedOut := [] }
  have hplan : b.plan (.reconnect now instant) = ended.reviveAll names := by
    show b.planConnection instant .busConnected = _
    simp only [planConnection, Outage.connected, h.expired, restore, h.timedOut]
    rfl
  have hactions : (ended.reviveAll names).2 = (names.filter b.isRevivable).map .birth := reviveAll_actions nodup ended
  have hfound : ∀ name ∈ names.filter b.isRevivable, ((ended.reviveAll names).1.device? name).isSome := by
    intro name hname
    have hrevivable := (List.mem_filter.1 hname).2
    rw [device?_reviveAll, Option.isSome_map]
    show (b.device? name).isSome = true
    unfold isRevivable at hrevivable
    cases hd : b.device? name with
    | none => simp [hd] at hrevivable
    | some d => rfl
  have hbirths := renderAll_births hfound now
  have hframe := reviveAll_frame ended names
  unfold Bridge.rendered
  rw [hplan, hactions]
  refine hbirths.trans ?_
  rw [hframe]
  rfl

/-- A bus that is back from an outage that did not expire gives birth to nothing. -/
theorem rendered_of_not_expired {b : Bridge} (h : b.outage.expired = false) (now : UInt64) (instant : Nat) :
    (b.rendered (.reconnect now instant)).2 = [] := by
  have hplan : b.plan (.reconnect now instant) = ({ b with outage := b.outage.connected.1 }, []) := by
    show b.planConnection instant .busConnected = _
    simp only [planConnection, Outage.connected, h]
  unfold rendered
  rw [hplan]
  rfl

/-- An outage that has expired after a call had expired before or expires in the call. -/
theorem expired_of_step {b : Bridge} (hs : b.Sorted) {s : Step} (h : (b.step s).1.outage.expired = true) :
    b.outage.expired = true ∨ ∃ now instant, s = .check now instant ∧ (b.outage.check instant).2 = true := by
  rw [step_outage hs] at h
  cases s with
  | prepare => exact .inl h
  | check now instant =>
    rcases b.outage.check_cases instant with heq | heq
    · exact .inr ⟨now, instant, rfl, by rw [heq]⟩
    · left
      have hsame : (b.outage.check instant).1 = b.outage := by rw [heq]
      exact hsame ▸ h
  | take now instant message =>
    left
    cases message with
    | bus | command => exact h
    | connection event =>
      cases event with
      | scadaConnected | scadaLost => exact h
      | busLost => rw [← Outage.expired_lost b.outage instant]; exact h
      | busConnected => cases h

/-- No outage has expired if none did since the bus was connected. -/
theorem not_expired (settings : Settings) (started : UInt64) {past between : List Step}
    (fresh : past = [] ∨ ∃ before now instant, past = before ++ [.reconnect now instant])
    (quiet : ∀ first now instant rest, between = first ++ .check now instant :: rest →
      (((start settings started).run (past ++ first)).1.outage.check instant).2 = false) :
    ((start settings started).run (past ++ between)).1.outage.expired = false := by
  have hsorted : ∀ steps, ((start settings started).run steps).1.Sorted := fun steps =>
    (run_online settings started steps).1
  induction between using List.reverseRecOn with
  | nil =>
    rw [List.append_nil]
    rcases fresh with rfl | ⟨before, now, instant, rfl⟩
    · show (start settings started).outage.expired = false
      rw [start_frame]
      rfl
    · rw [run_snoc, step_outage (hsorted before)]
      rfl
  | append_singleton first s ih =>
    have hbefore := ih fun first' now instant rest heq => quiet first' now instant (rest ++ [s]) (by rw [heq]; simp)
    rw [← List.append_assoc, run_snoc, ← Bool.not_eq_true]
    intro hexpired
    rcases expired_of_step (hsorted _) hexpired with hearlier | ⟨now, instant, rfl, hexpires⟩
    · rw [hbefore] at hearlier
      cases hearlier
    · rw [quiet first now instant [] rfl] at hexpires
      cases hexpires

/-! ## The bracket -/

/-- What is rendered when an outage is over that had expired: a birth of each device that it declared dead, if the
device is dead and has metrics. -/
structure Revives (expired ended : Bridge) (messages : List Outbound) : Prop where
  births : messages.map Outbound.topic? =
    (expired.live.filter ended.isRevivable).map fun name => some (ended.deviceTopic .deviceBirth name)
  /-- Each is born once. -/
  once : (messages.map Outbound.topic?).Nodup
  /-- None that was dead already is born. -/
  dead : ∀ name, expired.isDead name = true →
    some (ended.deviceTopic .deviceBirth name) ∉ messages.map Outbound.topic?

theorem revives_of_births {expired ended : Bridge} (hs : expired.Sorted) {messages : List Outbound}
    (births : messages.map Outbound.topic? =
      (expired.live.filter ended.isRevivable).map fun name => some (ended.deviceTopic .deviceBirth name)) :
    Revives expired ended messages := by
  have hinjective : Function.Injective fun name => some (ended.deviceTopic .deviceBirth name) := fun first second h =>
    Option.some.inj (congrArg SparkplugTopic.device (Option.some.inj h))
  refine ⟨births, ?_, fun name hdead hmem => ?_⟩
  · rw [births]
    exact List.Nodup.map hinjective ((live_nodup hs).filter _)
  · rw [births] at hmem
    obtain ⟨listed, hlisted, heq⟩ := List.mem_map.1 hmem
    obtain rfl : listed = name := hinjective heq
    obtain ⟨d, hd, halive, -⟩ := isLive_eq_true_iff.1 (isLive_of_mem_live hs (List.mem_filter.1 hlisted).1)
    simp [isDead, hd, halive] at hdead

/-- Over every run: when an outage expires, one death of each live device is rendered and nothing else. When it is
over, whatever happened in between, one birth of each of those devices is rendered that is dead then and has metrics,
and nothing else. When the bus is back and no outage has expired since it was back before, nothing is rendered. What
is rendered is published as far as it passes. -/
theorem outage_bracket (settings : Settings) (started : UInt64) :
    let after := fun steps => ((start settings started).run steps).1
    (∀ past s, ((after past).step s).2.filterMap Event.sparkplug? =
      ((after past).plan s).1.send ((after past).rendered s).2) ∧
    (∀ past now instant, ((after past).outage.check instant).2 = true →
      ((after past).rendered (.check now instant)).2 = (after past).deathNotices now (after past).live) ∧
    (∀ past now instant between, ((after past).outage.check instant).2 = true →
      (∀ now instant, Step.reconnect now instant ∉ between) → ∀ now' instant',
        let ended := after (past ++ .check now instant :: between)
        Revives (after past) ended (ended.rendered (.reconnect now' instant')).2) ∧
    ∀ past between, (past = [] ∨ ∃ before now instant, past = before ++ [.reconnect now instant]) →
      (∀ first now instant rest, between = first ++ .check now instant :: rest →
        ((after (past ++ first)).outage.check instant).2 = false) → ∀ now' instant',
          ((after (past ++ between)).rendered (.reconnect now' instant')).2 = [] := by
  intro after
  have hsorted : ∀ steps, (after steps).Sorted := fun steps => (run_online settings started steps).1
  refine ⟨fun past s => (step_rendered (hsorted past) s).2,
    fun past now instant expires => (rendered_expiry (hsorted past) now expires).1, ?_, ?_⟩
  · intro past now instant between expires lasting now' instant' ended
    have hended : ended = (((after past).step (.check now instant)).1.run between).1 := by
      show ((start settings started).run _).1 = _
      rw [run_append]
      rfl
    have hmind := keepsInMind_of_expiry settings started past now expires
    have hs' : ((after past).step (.check now instant)).1.Sorted :=
      ((after past).step_calls (.check now instant)).sorted (hsorted past)
    have hkept : ended.KeepsInMind (after past).live := by
      rw [hended]
      exact hmind.run hs' lasting
    exact revives_of_births (hsorted past) (hkept.rendered (live_nodup (hsorted past)) now' instant')
  · intro past between fresh quiet now' instant'
    exact rendered_of_not_expired (not_expired settings started fresh quiet) now' instant'

/-- In an outage two devices die, of which one has no metrics, and a third was dead before; one is born again, and
once. -/
theorem outage_bracket_pump :
    let birth (topic metrics : String) : Step :=
      .take 0 0 (.bus topic (Utf8.encode ("\x7b\"metrics\":[" ++ metrics ++ "]\x7d")))
    let speed := "\x7b\"name\":\"speed\",\"dataType\":\"Int32\",\"value\":5\x7d"
    let past : List Step := [birth "BIRTH/APP1/pump" speed, birth "BIRTH/APP1/fan" speed, birth "BIRTH/APP1/tap" "",
      .take 0 0 (.bus "DEATH/APP1/fan" []), .take 0 0 (.connection .busLost)]
    let between : List Step := [.take 0 70000 (.connection .scadaConnected), .check 0 80000]
    let expired := ((start {} 0).run past).1
    let ended := ((start {} 0).run (past ++ .check 0 60000 :: between)).1
    (expired.outage.check 60000).2 = true ∧ expired.live = ["APP1-pump", "APP1-tap"] ∧
      Revives expired ended (ended.rendered (.reconnect 0 90000)).2 ∧
      (ended.rendered (.reconnect 0 90000)).2.map Outbound.topic? =
        [some (ended.deviceTopic .deviceBirth "APP1-pump")] ∧
      ((ended.step (.reconnect 0 90000)).1.rendered (.reconnect 0 95000)).2 = [] := by
  intro birth speed past between expired ended
  have hexpires : (expired.outage.check 60000).2 = true := by decide +kernel
  have hlive : expired.live = ["APP1-pump", "APP1-tap"] := by decide +kernel
  have hrevivable : expired.live.filter ended.isRevivable = ["APP1-pump"] := by
    rw [hlive]
    decide +kernel
  have hrevives := (outage_bracket {} 0).2.2.1 past 0 60000 between hexpires (by simp [between, Step.reconnect]) 0 90000
  let finished : List Step := past ++ .check 0 60000 :: between ++ [.reconnect 0 90000]
  have hover : ((start {} 0).run (finished ++ [])).1 = (ended.step (.reconnect 0 90000)).1 := by
    rw [List.append_nil, run_snoc]
  have hnothing : (((start {} 0).run (finished ++ [])).1.rendered (.reconnect 0 95000)).2 = [] :=
    (outage_bracket {} 0).2.2.2 finished [] (.inr ⟨_, 0, 90000, rfl⟩) (by simp) 0 95000
  rw [hover] at hnothing
  refine ⟨hexpires, hlive, hrevives, ?_, hnothing⟩
  rw [hrevives.births, hrevivable]
  rfl

end Bridge

end ScadaBridge
