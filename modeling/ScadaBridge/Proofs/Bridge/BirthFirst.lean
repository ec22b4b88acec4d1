import ScadaBridge.Proofs.Bridge.Account

/-!
# Births before data

A Sparkplug host knows a device only from its birth, so data and deaths of a device must not be published
before it was born in the present session. Whether a device owes its birth is decided by two statuses
that outlive a session, and a birth of the edge node is followed by births of those devices alone that
have metrics. The two criteria differ for a device that was announced without any metric: it counts as
born but is left out.

`run_birthFirst_iff` says that nothing else goes wrong. The account that is kept says of a device that
owes no birth that it was born, or had no metrics at the latest birth of the edge node (`introduced_account`).
-/

namespace ScadaBridge

/-- The device that a published message is about. -/
def Event.device? : Event → Option String
  | .published (.sparkplug topic _) => topic.device
  | .published (.bus _ _) | .will _ => none

namespace Bridge

/-- A birth of the device was published, and none of the edge node since. -/
def Born (seen : List Event) (name : String) : Prop :=
  ∃ early topic payload late, seen = early ++ .published (.sparkplug topic payload) :: late ∧
    topic.kind = .deviceBirth ∧ topic.device = some name ∧ ∀ e ∈ late, e.kind? ≠ some .nodeBirth

/-- Data and deaths are published only of devices that were born since the latest birth of the edge
node. -/
def BirthFirst (events : List Event) : Prop :=
  Respects (fun seen topic _ => topic.kind = .deviceData ∨ topic.kind = .deviceDeath →
    ∀ name, topic.device = some name → Born seen name) [] events

/-- The device had no metrics when the edge node was born last. -/
def Bare (latest : Option Bridge) (name : String) : Prop :=
  ∃ b d, latest = some b ∧ b.device? name = some d ∧ d.metrics = []

/-! ## Births that were published -/

theorem Born.snoc {seen : List Event} {name : String} (h : Born seen name) {e : Event}
    (he : e.kind? ≠ some .nodeBirth) : Born (seen ++ [e]) name := by
  obtain ⟨early, topic, payload, late, rfl, hkind, hdevice, hlate⟩ := h
  refine ⟨early, topic, payload, late ++ [e], by simp, hkind, hdevice, fun x hx => ?_⟩
  rcases List.mem_append.1 hx with hx | hx
  · exact hlate x hx
  · rw [List.mem_singleton] at hx
    rw [hx]
    exact he

theorem born_self (seen : List Event) {topic : SparkplugTopic} (payload : Wire.Payload) {name : String}
    (hkind : topic.kind = .deviceBirth) (hdevice : topic.device = some name) :
    Born (seen ++ [.published (.sparkplug topic payload)]) name :=
  ⟨seen, topic, payload, [], rfl, hkind, hdevice, by simp⟩

theorem Born.kind?_mem {seen : List Event} {name : String} (h : Born seen name) :
    some .deviceBirth ∈ seen.map Event.kind? := by
  obtain ⟨early, topic, payload, late, rfl, hkind, -, -⟩ := h
  simp [Event.kind?, hkind]

/-- A device that owes no birth was born, or had no metrics when the edge node was. -/
def Introduced (latest : Option Bridge) (seen : List Event) (d : Device) : Prop :=
  d.needsBirth = false → Born seen d.telemetryName ∨ Bare latest d.telemetryName

theorem introduced_account : Account Introduced where
  silent h hsilent hborn := (h hborn).imp_left fun hseen => hseen.snoc hsilent.kind?_ne
  down hdown hborn := absurd hdown (Device.needsBirth_eq_false_iff.1 hborn).2
  alive h hborn _ := h hborn
  dying h hborn := h hborn
  birth _ _ := .inl (born_self _ _ rfl rfl)
  data := by
    intro latest seen now b d d' changes payload _ h hears _ _
    have hname : d'.telemetryName = d.telemetryName := hears.telemetryName_eq
    have hborn : d.needsBirth = false := by
      cases hears with
      | data born => exact born
    show Born _ d'.telemetryName ∨ Bare latest d'.telemetryName
    rw [hname]
    exact (h hborn).imp_left fun hseen =>
      hseen.snoc (by simp [Event.kind?, deviceMessage, deviceTopic])
  reborn := by
    intro b seen d e _ _ hmetrics _
    obtain ⟨d', hd', hempty⟩ := Option.map_eq_some_iff.1 hmetrics
    exact .inr ⟨b, d', rfl, hd', hempty⟩

/-- Over every run data and deaths are published of born devices alone, except for devices that had no
metrics at the latest birth of the edge node: a run puts births before data if and only if none of its
calls publishes data, or the death, of such a device that was not born since. -/
theorem run_birthFirst_iff (settings : Settings) (now : UInt64) (steps : List Step) :
    BirthFirst ((start settings now).run steps).2 ↔
      ∀ before s after, steps = before ++ s :: after →
        Respects
          (fun seen topic _ => topic.kind = .deviceData ∨ topic.kind = .deviceDeath →
            ∀ name, topic.device = some name → Bare ((start settings now).atNodeBirth? before) name →
              Born seen name)
          ((start settings now).run before).2 (((start settings now).run before).1.step s).2 := by
  constructor
  · rintro h before s after rfl
    have hsplit : ((start settings now).run (before ++ s :: after)).2 =
        ((start settings now).run before).2 ++ ((((start settings now).run before).1.step s).2 ++
          ((((start settings now).run before).1.step s).1.run after).2) := by
      rw [run_append]
      rfl
    unfold BirthFirst at h
    rw [hsplit] at h
    exact h.right.left.mono fun seen topic _ hrule hkind name hname _ => hrule hkind name hname
  · intro h
    -- by induction on the calls, each of which the account judges after those before it
    induction steps using List.reverseRecOn with
    | nil => exact respects_nil
    | append_singleton steps s ih =>
      rw [run_snoc]
      refine (ih fun before s' after heq => ?_).append ?_
      · exact h before s' (after ++ [s]) (by rw [heq, List.append_assoc, List.cons_append])
      · have hlast := h steps s [] rfl
        have hready := introduced_account.ready_run settings now steps
        have hrule := (introduced_account.calls hready (step_calls _ s)).rule
        intro early topic payload late heq hkind name hname
        obtain ⟨d, hd, hborn, hintroduced⟩ := hrule early topic payload late heq hkind
        rw [hd] at hname
        rcases hintroduced hborn with hseen | hbare
        · rw [← Option.some.inj hname]
          exact hseen
        · rw [Option.some.inj hname] at hd hbare
          exact hlast early topic payload late heq hkind name hd hbare

/-- Devices without metrics do break the rule: `D1` is announced without any, the broker is connected, and
the death of `D1` is published although its birth was not. -/
theorem not_birthFirst_of_bare :
    ¬BirthFirst ((start {} 0).run
      [.take 0 0 (.bus "BIRTH/APP1/D1" (Utf8.encode "\x7b\"metrics\":[]\x7d")),
        .take 0 0 (.connection .scadaConnected), .take 0 0 (.bus "DEATH/APP1/D1" [])]).2 := by
  intro h
  generalize hrun : ((start {} 0).run _).2 = events at h
  have hkinds : events.map Event.kind? = [some .nodeBirth, none, some .deviceDeath] := by
    rw [← hrun]
    decide +kernel
  have hdevice : events.map Event.device? = [none, none, some "APP1-D1"] := by
    rw [← hrun]
    decide +kernel
  obtain ⟨birth, rest, rfl, hbirth, hrest⟩ := List.map_eq_cons_iff.1 hkinds
  obtain ⟨request, last, rfl, hrequest, hlast⟩ := List.map_eq_cons_iff.1 hrest
  obtain ⟨death, none, rfl, hdeath, hnone⟩ := List.map_eq_cons_iff.1 hlast
  rw [List.map_eq_nil_iff] at hnone
  subst hnone
  cases death with
  | will _ => simp [Event.kind?] at hdeath
  | published message =>
    cases message with
    | bus _ _ => simp [Event.kind?] at hdeath
    | sparkplug topic payload =>
      have hname : topic.device = some "APP1-D1" := by
        have hlast := congrArg List.getLast? hdevice
        simpa [Event.device?] using hlast
      have hborn := h [birth, request] topic payload [] rfl (.inr (Option.some.inj hdeath)) _ hname
      have hmem := hborn.kind?_mem
      simp [hbirth, hrequest] at hmem

end Bridge

end ScadaBridge
