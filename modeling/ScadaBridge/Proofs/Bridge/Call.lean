import ScadaBridge.Proofs.Bridge.Turn

/-!
# What a call does

Every call of the bridge but the preparation of a session first moves the bridge, which is its plan, then
publishes what the plan calls for, and perhaps sends messages on the plant bus (`step_publishes`). The plan of a
call is one of a few moves (`plan_moves`). What holds of moves and of publishing holds of runs.
-/

namespace ScadaBridge

open Ordered

/-- Whether the SCADA broker is connected after a call, given whether it was before. -/
def Step.online (before : Bool) : Step → Bool
  | .take _ _ (.connection .scadaConnected) => true
  | .take _ _ (.connection .scadaLost) => false
  | .take _ _ (.connection _) | .take _ _ (.bus _ _) | .take _ _ (.command _ _) | .prepare _ | .check _ _ =>
    before

/-- When a call is made. -/
def Step.now : Step → UInt64
  | .prepare now | .take now _ _ | .check now _ => now

/-- The calls that may leave the devices alone: commands, checks of the timeout, and changes of the
connection to the plant bus. -/
inductive Step.Quiet : Step → Prop where
  | command (now : UInt64) (instant : Nat) (topic : String) (payload : Wire.Payload) :
      Quiet (.take now instant (.command topic payload))
  | busLost (now : UInt64) (instant : Nat) : Quiet (.take now instant (.connection .busLost))
  | busConnected (now : UInt64) (instant : Nat) : Quiet (.take now instant (.connection .busConnected))
  | check (now : UInt64) (instant : Nat) : Quiet (.check now instant)

namespace Bridge

/-- What a change of a connection does to the bridge before anything is published, and what it calls for. -/
def planConnection (b : Bridge) (instant : Nat) : ConnectionEvent → Bridge × List Action
  | .scadaConnected => ({ b with online := true }, [.nodeRebirth])
  | .scadaLost => ({ b with online := false }, [])
  | .busLost => ({ b with outage := b.outage.lost instant }, [])
  | .busConnected =>
    match b.outage.connected with
    | (outage, true) => { b with outage := outage }.restore
    | (outage, false) => ({ b with outage := outage }, [])

/-- What a call does to the bridge before anything is published, and what it calls for. -/
def plan (b : Bridge) : Step → Bridge × List Action
  | .prepare now => ((b.prepareSession now).1, [])
  | .take now _ (.bus topic payload) =>
    match b.process now topic payload with
    | (b, .ok actions) => (b, actions)
    | (b, .error _) => (b, [])
  | .take now _ (.command topic payload) =>
    match SparkplugTopic.parse topic with
    | .error _ => (b, [])
    | .ok topic => ((b.command now topic payload).1, [])
  | .take _ instant (.connection event) => b.planConnection instant event
  | .check now instant =>
    match b.outage.check instant with
    | (outage, true) => { b with outage := outage }.expireOutage now
    | (outage, false) => ({ b with outage := outage }, [])

/-- The moves of the bridge: what a call does before anything is published, and what it calls for. -/
inductive Moves (b : Bridge) : Step → Bridge → List Action → Prop where
  /-- Nothing happens to the devices. -/
  | idle {s : Step} {b' : Bridge} (quiet : s.Quiet)
      (frame : b' = { b with outage := b'.outage, writeSeq := b'.writeSeq }) : Moves b s b' []
  /-- A message of the plant bus cannot be used. -/
  | fault {now : UInt64} {instant : Nat} {topic : String} {payload : List UInt8} {fault : Fault}
      (failed : b.process now topic payload = (b, .error fault)) :
      Moves b (.take now instant (.bus topic payload)) b []
  /-- A message of the plant bus makes the bridge turn. -/
  | turn {now : UInt64} {instant : Nat} {topic : String} {payload : List UInt8} {t : BusTopic}
      {b' : Bridge} {actions : List Action} (parsed : BusTopic.parse topic = .ok t)
      (processed : b.process now topic payload = (b', .ok actions)) (turn : b.Turn t b' actions) :
      Moves b (.take now instant (.bus topic payload)) b' actions
  | connected (now : UInt64) (instant : Nat) :
      Moves b (.take now instant (.connection .scadaConnected)) { b with online := true } [.nodeRebirth]
  | lost (now : UInt64) (instant : Nat) :
      Moves b (.take now instant (.connection .scadaLost)) { b with online := false } []
  /-- An outage that had expired is over. -/
  | restored (now : UInt64) (instant : Nat) (outage : Outage) :
      Moves b (.take now instant (.connection .busConnected)) ({ b with outage := outage } : Bridge).restore.1
        ({ b with outage := outage } : Bridge).restore.2
  | expired (now : UInt64) (instant : Nat) (outage : Outage) :
      Moves b (.check now instant) (({ b with outage := outage } : Bridge).expireOutage now).1
        (({ b with outage := outage } : Bridge).expireOutage now).2

/-- What is seen of a call, and the bridge after it. -/
inductive Calls (b : Bridge) : Step → Bridge → List Event → Prop where
  | prepare (now : UInt64) :
      Calls b (.prepare now) (b.prepareSession now).1 [.will (b.prepareSession now).2]
  | publish {s : Step} {b' : Bridge} {actions : List Action} {before after : List Outbound} (now : UInt64)
      (moves : b.Moves s b' actions) (bus : OnBus before) (bus' : OnBus after) :
      Calls b s (b'.publish now actions).1
        (before.map .published ++ (b'.publish now actions).2.map .published ++ after.map .published)

/-- Preparing a session apart, the plan of a call is a move. -/
theorem plan_moves (b : Bridge) (s : Step) :
    (∃ now, s = .prepare now) ∨ b.Moves s (b.plan s).1 (b.plan s).2 := by
  cases s with
  | prepare now => exact .inl ⟨now, rfl⟩
  | check now instant =>
    right
    unfold plan
    dsimp only
    split
    · exact .expired now instant _
    · exact .idle (.check now instant) rfl
  | take now instant message =>
    right
    cases message with
    | bus topic payload =>
      unfold plan
      dsimp only
      rcases b.process_turns now topic payload with ⟨fault, heq⟩ | ⟨t, b', actions, ht, heq, hturn⟩
      · rw [heq]
        exact .fault heq
      · rw [heq]
        exact .turn ht heq hturn
    | command topic payload =>
      unfold plan
      dsimp only
      split
      · exact .idle (.command now instant topic payload) rfl
      · next topic' _ =>
        have hframe := b.command_frame now topic' payload
        refine .idle (.command now instant topic payload) ?_
        dsimp only
        rw [hframe]
    | connection event =>
      cases event with
      | scadaConnected => exact .connected now instant
      | scadaLost => exact .lost now instant
      | busLost => exact .idle (.busLost now instant) rfl
      | busConnected =>
        unfold plan planConnection
        dsimp only
        split
        · exact .restored now instant _
        · exact .idle (.busConnected now instant) rfl

/-- What was planned has been published, and perhaps messages on the plant bus were sent. -/
def Publishes (now : UInt64) (planned : Bridge × List Action) (result : Bridge × List Event) : Prop :=
  ∃ before after, OnBus before ∧ OnBus after ∧
    result = ((planned.1.publish now planned.2).1,
      before.map .published ++ (planned.1.publish now planned.2).2.map .published ++ after.map .published)

theorem publishes_plain (now : UInt64) (planned : Bridge × List Action) :
    Publishes now planned ((planned.1.publish now planned.2).1,
      (planned.1.publish now planned.2).2.map .published) :=
  ⟨[], [], onBus_nil, onBus_nil, by simp⟩

theorem publishes_bus (now : UInt64) (b : Bridge) {messages : List Outbound} (bus : OnBus messages) :
    Publishes now (b, []) (b, messages.map .published) :=
  ⟨messages, [], bus, onBus_nil, by simp [publish]⟩

theorem handleConnection_publishes (b : Bridge) (now : UInt64) (instant : Nat) (event : ConnectionEvent) :
    Publishes now (b.planConnection instant event)
      ((b.handleConnection now instant event).1, (b.handleConnection now instant event).2.map .published) := by
  cases event with
  | scadaConnected =>
    unfold handleConnection
    dsimp only
    rw [List.map_append]
    exact ⟨[], _, onBus_nil, onBus_announceRequest _, rfl⟩
  | scadaLost => exact publishes_bus now _ onBus_nil
  | busLost => exact publishes_bus now _ onBus_nil
  | busConnected =>
    rcases hconnected : b.outage.connected with ⟨outage, expired⟩
    have hrequest := onBus_announceRequest { b with outage := outage }
    simp only [planConnection, handleConnection, hconnected]
    cases expired with
    | false => exact publishes_bus now _ hrequest
    | true =>
      rw [if_pos rfl, List.map_append]
      exact ⟨_, [], hrequest, onBus_nil, by rw [List.map_nil, List.append_nil]⟩

/-- Preparing a session apart, a call publishes what its plan calls for. -/
theorem step_publishes (b : Bridge) (s : Step) :
    (∃ now, s = .prepare now) ∨ Publishes s.now (b.plan s) (b.step s) := by
  cases s with
  | prepare now => exact .inl ⟨now, rfl⟩
  | check now instant =>
    right
    rcases hcheck : b.outage.check instant with ⟨outage, expired⟩
    simp only [step, checkTimeout, plan, hcheck]
    cases expired with
    | false => exact publishes_bus now _ onBus_nil
    | true => exact publishes_plain now _
  | take now instant message =>
    right
    cases message with
    | bus topic payload =>
      rcases hprocess : b.process now topic payload with ⟨b', outcome⟩
      simp only [step, handle, plan, hprocess]
      cases outcome with
      | error _ => exact publishes_bus now _ onBus_nil
      | ok actions => exact publishes_plain now _
    | command topic payload =>
      cases htopic : SparkplugTopic.parse topic with
      | error _ =>
        simp only [step, handle, plan, htopic]
        exact publishes_bus now _ onBus_nil
      | ok topic' =>
        rcases hcommand : b.command now topic' payload with ⟨b', outcome⟩
        simp only [step, handle, plan, htopic, hcommand]
        cases outcome with
        | error _ => exact publishes_bus now _ onBus_nil
        | ok messages =>
          refine publishes_bus now _ fun message hm => ?_
          exact command_bus (congrArg Prod.snd hcommand) (List.mem_filter.1 hm).1
    | connection event => exact b.handleConnection_publishes now instant event

/-- Every call is a move and its publishing, or prepares a session. -/
theorem step_calls (b : Bridge) (s : Step) : Calls b s (b.step s).1 (b.step s).2 := by
  rcases b.plan_moves s with ⟨now, rfl⟩ | hmoves
  · exact .prepare now
  · rcases b.step_publishes s with ⟨now, rfl⟩ | ⟨before, after, hbefore, hafter, heq⟩
    · exact .prepare now
    · rw [heq]
      exact .publish s.now hmoves hbefore hafter

namespace Moves

variable {b b' : Bridge} {s : Step} {actions : List Action}

/-- A move leaves the settings, the numbers of messages and sessions, and the outlet as they were. -/
theorem frame (h : b.Moves s b' actions) :
    b' = { b with
      devices := b'.devices, apps := b'.apps, definitions := b'.definitions, writeSeq := b'.writeSeq,
      online := b'.online, outage := b'.outage, timedOut := b'.timedOut } := by
  cases h with
  | idle _ hframe =>
    rw [hframe]
  | fault | connected | lost => rfl
  | turn _ _ hturn =>
    rw [hturn.frame]
  | restored now instant outage =>
    rw [restore_frame]
  | expired now instant outage =>
    rw [expireOutage_frame]

theorem sorted (h : b.Moves s b' actions) (hs : b.Sorted) : b'.Sorted := by
  have hs' : ∀ outage, ({ b with outage := outage } : Bridge).Sorted := fun _ => hs
  cases h with
  | idle _ hframe =>
    rw [hframe]
    exact hs
  | fault | connected | lost => exact hs
  | turn _ _ hturn => exact hturn.sorted hs
  | restored now instant outage => exact restore_sorted (hs' outage)
  | expired now instant outage => exact expireOutage_sorted (hs' outage) now

/-- The bridge knows whether the broker is connected. -/
theorem online_eq (h : b.Moves s b' actions) : b'.online = s.online b.online := by
  cases h with
  | idle hquiet hframe =>
    have hstays : s.online b.online = b.online := by cases hquiet <;> rfl
    rw [hframe, hstays]
  | fault | connected | lost => rfl
  | turn _ _ hturn =>
    rw [hturn.frame]
    rfl
  | restored now instant outage =>
    rw [restore_frame]
    rfl
  | expired now instant outage =>
    rw [expireOutage_frame]
    rfl

end Moves

namespace Calls

variable {b b' : Bridge} {s : Step} {events : List Event}

theorem sorted (h : b.Calls s b' events) (hs : b.Sorted) : b'.Sorted := by
  cases h with
  | prepare now => exact hs
  | publish now moves _ _ =>
    obtain ⟨_, he, -⟩ := publish_emits (moves.sorted hs) now _
    exact he.sorted (moves.sorted hs)

theorem online_eq (h : b.Calls s b' events) (hs : b.Sorted) : b'.online = s.online b.online := by
  cases h with
  | prepare now => rfl
  | publish now moves _ _ =>
    obtain ⟨_, he, -⟩ := publish_emits (moves.sorted hs) now _
    rw [he.online_eq, moves.online_eq]

end Calls

/-- The devices stay in order, and the bridge knows whether the broker is connected. -/
theorem run_online (settings : Settings) (now : UInt64) (steps : List Step) :
    ((start settings now).run steps).1.Sorted ∧
      ((start settings now).run steps).1.online = steps.foldl Step.online false := by
  refine run_induction (P := fun past b _ => b.Sorted ∧ b.online = past.foldl Step.online false) ?_ ?_ steps
  · refine ⟨start_sorted settings now, ?_⟩
    rw [start_frame]
    rfl
  · rintro past before _ s ⟨hs, honline⟩
    have hcalls := before.step_calls s
    refine ⟨hcalls.sorted hs, ?_⟩
    rw [hcalls.online_eq hs, honline, List.foldl_append]
    rfl

end Bridge

end ScadaBridge
