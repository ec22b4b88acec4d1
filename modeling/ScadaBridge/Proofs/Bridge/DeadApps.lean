import ScadaBridge.Proofs.Bridge.Rejection
import ScadaBridge.Proofs.Bridge.ReportedDeath
import ScadaBridge.Proofs.Bridge.Status

/-!
# Dead applications

A vendor application is flagged dead when its death is reported, which declares all its devices dead. Only an
announcement of the application takes the flag back, but its devices come to life in other ways too: with data,
and when an expired outage of the plant bus is over. So the flag may outlive the deaths (`not_deadAppsAgree`).
`run_deadAppsAgree_iff` says that it does in no other way: as long as no call gives birth to a device that a dead
application lists, but by an announcement of that application, dead applications have dead devices.
-/

namespace ScadaBridge

open Ordered

/-- A call takes an announcement of a vendor application. -/
inductive Step.Announces (app : String) : Step → Prop where
  | intro {now : UInt64} {instant : Nat} {topic : String} {payload : List UInt8} {device : String}
      (parsed : BusTopic.parse topic = .ok (.birth app device)) :
      Announces app (.take now instant (.bus topic payload))

theorem Step.Announces.unique {s : Step} {app app' : String} (h : s.Announces app) (h' : s.Announces app') :
    app = app' := by
  cases h with
  | intro parsed =>
    cases h' with
    | intro parsed' =>
      cases parsed.symm.trans parsed'
      rfl

namespace Bridge

/-- Applications that are flagged dead list only devices that are known to be dead. -/
def DeadAppsAgree (b : Bridge) : Prop :=
  ∀ app known, b.apps.get? app = some known → known.isDead = true →
    ∀ name ∈ known.devices, (b.device? name).map Device.known = some .down

/-- A call gives birth to a device that a dead application lists, but not by an announcement of that
application. -/
def Resurrects (b : Bridge) (s : Step) : Prop :=
  ∃ app known name, b.apps.get? app = some known ∧ known.isDead = true ∧ name ∈ known.devices ∧
    ¬s.Announces app ∧ .deviceBirth ∈ (b.rendered s).2.filterMap (Outbound.kindFor? name)

/-! ## What a call does to the applications -/

/-- The applications after a call: as they were, or one of them announced a device or was reported dead. -/
inductive Tells (b : Bridge) : Step → VendorApps → Prop where
  | kept {s : Step} (silent : ∀ app, s.Announces app → b.Rejects s) : Tells b s b.apps
  | announced {now : UInt64} {instant : Nat} {topic : String} {payload : List UInt8} {app device : String}
      {b' : Bridge} {actions : List Action} (parsed : BusTopic.parse topic = .ok (.birth app device))
      (processed : b.process now topic payload = (b', .ok actions)) :
      Tells b (.take now instant (.bus topic payload))
        ((b.apps.register app (Device.joinedName app device)).1.update app .markAlive)
  | died {now : UInt64} {instant : Nat} {topic : String} {payload : List UInt8} {app : String} {known : VendorApp}
      (parsed : BusTopic.parse topic = .ok (.death app none)) (found : b.apps.get? app = some known) :
      Tells b (.take now instant (.bus topic payload)) (b.apps.put known.markDead)

theorem plan_tells (b : Bridge) (s : Step) : b.Tells s (b.plan s).1.apps := by
  rcases b.plan_moves s with ⟨now, rfl⟩ | hmoves
  · exact .kept fun app h => by cases h
  · generalize (b.plan s).1 = b' at hmoves ⊢
    generalize (b.plan s).2 = actions at hmoves
    cases hmoves with
    | idle quiet frame =>
      rw [frame]
      exact .kept fun app h => by
        cases h
        cases quiet
    | fault failed => exact .kept fun _ _ => .message (congrArg Prod.snd failed)
    | connected | lost => exact .kept fun app h => by cases h
    | restored =>
      rw [restore_frame]
      exact .kept fun app h => by cases h
    | expired =>
      rw [expireOutage_frame]
      exact .kept fun app h => by cases h
    | @turn now instant topic payload t _ _ parsed processed turn =>
      -- a topic of another kind announces nothing
      have hsilent : (∀ app device, t ≠ .birth app device) →
          ∀ app, (Step.take now instant (.bus topic payload)).Announces app →
            b.Rejects (.take now instant (.bus topic payload)) := by
        intro hother app h
        cases h with
        | intro parsed' => exact absurd (Except.ok.inj (parsed.symm.trans parsed')) (hother _ _)
      cases turn with
      | idle => exact .kept (hsilent (by simp))
      | data => exact .kept (hsilent (by simp))
      | reading => exact .kept (hsilent (by simp))
      | definitions => exact .kept (hsilent (by simp))
      | @announced app device d _ _ claimed hears =>
        show b.Tells _ ((b.apps.register app d.telemetryName).1.update app .markAlive)
        rw [(claimed_cases claimed).1]
        exact .announced parsed processed
      | deaths timestamp mourns =>
        rw [declareAllDead_frame]
        cases mourns with
        | reading _ => exact .kept (hsilent (by simp))
        | device _ => exact .kept (hsilent (by simp))
        | app found => exact .died parsed found

namespace Tells

variable {b : Bridge} {s : Step} {apps : VendorApps}

/-- A dead application that is not announced stays dead, with the devices that it lists. -/
theorem dead_after (h : b.Tells s apps) {app : String} {known : VendorApp} (found : b.apps.get? app = some known)
    (dead : known.isDead = true) (unannounced : ¬s.Announces app) :
    ∃ known', apps.get? app = some known' ∧ known'.isDead = true ∧ known'.devices = known.devices := by
  cases h with
  | kept => exact ⟨known, found, dead, rfl⟩
  | @announced _ _ _ _ app' device _ _ parsed _ =>
    have hother : app' ≠ app := fun heq => unannounced (heq ▸ .intro parsed)
    refine ⟨known, ?_, dead, rfl⟩
    rw [get?_announced_eq, if_neg hother]
    exact found
  | @died _ _ _ _ app' known' _ found' =>
    have hput := get?_put_eq found' (show known'.markDead.name = known'.name from rfl) app
    by_cases happ : app' = app
    · subst happ
      obtain rfl : known' = known := Option.some.inj (found'.symm.trans found)
      exact ⟨known'.markDead, by rw [hput, if_pos rfl], rfl, rfl⟩
    · exact ⟨known, by rw [hput, if_neg happ, found], dead, rfl⟩

/-- A dead application was dead before and was not announced, or was just reported dead. -/
theorem dead_before (h : b.Tells s apps) {app : String} {known : VendorApp} (found : apps.get? app = some known)
    (dead : known.isDead = true) :
    (b.apps.get? app = some known ∧ (s.Announces app → b.Rejects s)) ∨
      ∃ now instant topic payload known', s = .take now instant (.bus topic payload) ∧
        BusTopic.parse topic = .ok (.death app none) ∧ b.apps.get? app = some known' ∧
        known'.devices = known.devices := by
  cases h with
  | kept silent => exact .inl ⟨found, silent app⟩
  | @announced now instant topic payload app' device _ _ parsed processed =>
    rw [get?_announced_eq] at found
    split at found
    · cases found
      simp [VendorApp.markAlive] at dead
    · next hother =>
      refine .inl ⟨found, fun h => absurd (Step.Announces.unique (.intro parsed) h) hother⟩
  | @died now instant topic payload app' known' parsed found' =>
    rw [get?_put_eq found' (show known'.markDead.name = known'.name from rfl)] at found
    split at found
    · next heq =>
      subst heq
      cases found
      exact .inr ⟨now, instant, topic, payload, known', rfl, parsed, found', rfl⟩
    · refine .inl ⟨found, fun h => ?_⟩
      cases h with
      | intro parsed' => cases parsed.symm.trans parsed'

end Tells

theorem step_apps {b : Bridge} (hs : b.Sorted) (s : Step) : (b.step s).1.apps = (b.plan s).1.apps := by
  rw [(step_rendered hs s).1, rendered_frame hs]

theorem plan_of_process {b b' : Bridge} {now : UInt64} {topic : String} {payload : List UInt8}
    {actions : List Action} (processed : b.process now topic payload = (b', .ok actions)) (instant : Nat) :
    b.plan (.take now instant (.bus topic payload)) = (b', actions) := by
  simp [plan, processed]

/-- An announced device is known to be alive after the call. -/
theorem rendered_announced {b b' : Bridge} (hs : b.Sorted) {now : UInt64} {topic : String} {payload : List UInt8}
    {app device : String} {actions : List Action} (parsed : BusTopic.parse topic = .ok (.birth app device))
    (processed : b.process now topic payload = (b', .ok actions)) (instant : Nat) :
    ∃ d, (b.rendered (.take now instant (.bus topic payload))).1.device? (Device.joinedName app device) = some d ∧
      d.known = .up := by
  have hturn : b.Turn (.birth app device) b' actions := by
    have hturns := b.vendorBirth_turns app device payload now
    have hbirth : b.vendorBirth app device payload now = (b', .ok actions) := by
      simpa [process, parsed] using processed
    rw [hbirth] at hturns
    exact hturns
  obtain ⟨hdevice, -⟩ := rendered_answers hs (.take now instant (.bus topic payload)) (Device.joinedName app device)
  rw [hdevice, plan_of_process processed]
  cases hturn with
  | deaths _ mourns => cases mourns
  | @announced _ _ d d' _ claimed hears =>
    have hname : d.telemetryName = Device.joinedName app device := (claimed_cases claimed).1
    have hfound : ({ b with apps := (b.apps.register app d.telemetryName).1.update app .markAlive }.putDevice
        d').device? (Device.joinedName app device) = some d' := by
      rw [device?_putDevice, hears.telemetryName_eq, hname, if_pos rfl]
    rw [hfound, Fate.filter_hears hears, if_pos hname]
    refine ⟨_, rfl, ?_⟩
    show (d'.answerAll now _).1.known = .up
    rcases Hears.answerAll hears now with ⟨metrics, hanswer⟩ | ⟨-, ⟨metrics, hanswer⟩ | hanswer⟩
    · rw [hanswer]
    · rw [hanswer]
    · rw [hanswer]

/-- Every listed device that was published is known to be dead after its application is reported dead. -/
theorem rendered_appDeath {b : Bridge} (hs : b.Sorted) (henrolled : Enrolled b) {now : UInt64} {topic : String}
    {payload : List UInt8} {app : String} {known : VendorApp}
    (parsed : BusTopic.parse topic = .ok (.death app none)) (found : b.apps.get? app = some known) {name : String}
    {d : Device} (listed : name ∈ known.devices) (hd : b.device? name = some d) (published : d.published = .up)
    (instant : Nat) :
    ((b.rendered (.take now instant (.bus topic payload))).1.device? name).map Device.known = some .down := by
  have hprocess : b.process now topic payload =
      (({ b with apps := b.apps.put known.markDead }.declareAllDead now known.devices).1,
        .ok ({ b with apps := b.apps.put known.markDead }.declareAllDead now known.devices).2) := by
    simp [process, parsed, vendorDeath, found]
  have hnodup := henrolled.nodup found
  have hd' : ({ b with apps := b.apps.put known.markDead } : Bridge).device? name = some d := hd
  obtain ⟨hdevice, -⟩ := rendered_answers hs (.take now instant (.bus topic payload)) name
  rw [hdevice, plan_of_process hprocess]
  dsimp only
  rw [filter_declareAllDead hnodup hd', device?_declareAllDead, hd']
  by_cases hdown : d.known = .down
  · simp [hdown, Device.answerAll]
  · have hname : d.telemetryName = name := telemetryName_of_device? hd
    have hanswer := (d.markDead now).answer_death now
    rw [show (d.markDead now).telemetryName = name from hname] at hanswer
    simp [listed, hdown, published, Device.answerAll_singleton, Step.now, hanswer, Device.death]

/-- A device that is known to be dead stays so unless it is born. -/
theorem Outcome.known_eq_down_iff {b : Bridge} {s : Step} {name : String} {d : Device} {after : Option Device}
    {kinds : List MessageKind} (h : Outcome b s name (some d) kinds after) (known : d.known = .down) :
    after.map Device.known = some .down ↔ .deviceBirth ∉ kinds := by
  have hborn : d.needsBirth ≠ false := by simp [Device.needsBirth, known]
  cases h with
  | kept => simp [known]
  | born | revived => simp
  | reborn _ halive | died _ halive | unborn _ halive => exact absurd known halive
  | updated _ born | unchanged _ born => exact absurd born hborn

/-! ## Listed devices -/

/-- Something is known of every device that an application lists. -/
def Heard (b : Bridge) : Prop :=
  ∀ app known, b.apps.get? app = some known → ∀ name ∈ known.devices,
    ∃ d, b.device? name = some d ∧ d.known ≠ .none

theorem Heard.step {b : Bridge} (hs : b.Sorted) (henrolled : Enrolled b) (h : Heard b) (s : Step) :
    Heard (b.step s).1 := by
  -- a device that was listed before stays heard
  have hold : ∀ app known, b.apps.get? app = some known → ∀ name ∈ known.devices,
      ∃ d, (b.step s).1.device? name = some d ∧ d.known ≠ .none := by
    intro app known hknown name hname
    obtain ⟨d, hd, hheard⟩ := h app known hknown name hname
    have houtcome := rendered_outcome hs henrolled s name
    rw [hd] at houtcome
    rw [(step_rendered hs s).1]
    exact houtcome.known_ne_none hheard
  have htells := b.plan_tells s
  intro asked found hfound name hname
  rw [step_apps hs] at hfound
  generalize (b.plan s).1.apps = apps at htells hfound
  cases htells with
  | kept _ => exact hold asked found hfound name hname
  | @announced _ instant _ _ app device _ _ parsed processed =>
    rcases get?_announced hfound name hname with ⟨-, rfl⟩ | ⟨known, hknown, hlisted⟩
    · obtain ⟨d, hd, hup⟩ := rendered_announced hs parsed processed instant
      rw [(step_rendered hs _).1]
      exact ⟨d, hd, by simp [hup]⟩
    · exact hold asked known hknown name hlisted
  | died parsed hknown =>
    obtain ⟨before, hbefore, hdevices⟩ := get?_put hknown hfound rfl rfl
    rw [hdevices] at hname
    exact hold asked before hbefore name hname

theorem start_get?_apps (settings : Settings) (now : UInt64) (app : String) :
    (start settings now).apps.get? app = none := by
  rw [start_frame]
  rfl

theorem heard_run (settings : Settings) (now : UInt64) (steps : List Step) :
    Heard ((start settings now).run steps).1 := by
  induction steps using List.reverseRecOn with
  | nil =>
    intro app known hknown
    cases (start_get?_apps settings now app).symm.trans hknown
  | append_singleton steps s ih =>
    rw [run_snoc]
    exact ih.step (run_online settings now steps).1 (enrolled_run settings now steps) s

/-! ## Agreement -/

/-- After a call that starts in agreement, there is agreement exactly if the call resurrects no device. -/
theorem DeadAppsAgree.step_iff {b : Bridge} (hs : b.Sorted) (henrolled : Enrolled b) (hheard : Heard b)
    (hsettled : ∀ name d, b.device? name = some d → d.Settled) (h : b.DeadAppsAgree) (s : Step) :
    (b.step s).1.DeadAppsAgree ↔ ¬b.Resurrects s := by
  have hstep : ∀ name, (b.step s).1.device? name = (b.rendered s).1.device? name := by
    intro name
    rw [(step_rendered hs s).1]
  -- a device that a dead application lists is dead after the call unless it is born in it
  have hstays : ∀ app known, b.apps.get? app = some known → known.isDead = true → ∀ name ∈ known.devices,
      (((b.step s).1.device? name).map Device.known = some .down ↔
        .deviceBirth ∉ (b.rendered s).2.filterMap (Outbound.kindFor? name)) := by
    intro app known hknown hdead name hname
    obtain ⟨d, hd, hdown⟩ := Option.map_eq_some_iff.1 (h app known hknown hdead name hname)
    have houtcome := rendered_outcome hs henrolled s name
    rw [hd] at houtcome
    rw [hstep]
    exact houtcome.known_eq_down_iff hdown
  have htells := b.plan_tells s
  rw [← step_apps hs] at htells
  constructor
  · rintro hafter ⟨app, known, name, hknown, hdead, hname, hunannounced, hbirth⟩
    obtain ⟨known', hknown', hdead', hdevices⟩ := htells.dead_after hknown hdead hunannounced
    have hdown := hafter app known' hknown' hdead' name (hdevices ▸ hname)
    exact (hstays app known hknown hdead name hname).1 hdown hbirth
  · intro hnone app known hknown hdead name hname
    rcases htells.dead_before hknown hdead with
      ⟨hbefore, hsilent⟩ | ⟨now, instant, topic, payload, known', rfl, parsed, hbefore, hdevices⟩
    · by_cases hannounced : s.Announces app
      · -- the announcement was rejected, or the flag would be gone
        rw [step_rejected (hsilent hannounced)]
        exact h app known hbefore hdead name hname
      · refine (hstays app known hbefore hdead name hname).2 fun hbirth => hnone ?_
        exact ⟨app, known, name, hbefore, hdead, hname, hannounced, hbirth⟩
    · rw [← hdevices] at hname
      obtain ⟨d, hd, hheard⟩ := hheard app known' hbefore name hname
      rw [hstep]
      exact rendered_appDeath hs henrolled parsed hbefore hname hd ((hsettled name d hd).known hheard) instant

/-- What resurrects a device is a sign of life of its source, or the end of an outage that had declared it
dead. -/
theorem Resurrects.cause {b : Bridge} (hs : b.Sorted) (henrolled : Enrolled b) (h : b.DeadAppsAgree) {s : Step}
    (hresurrects : b.Resurrects s) :
    ∃ app known name, b.apps.get? app = some known ∧ known.isDead = true ∧ name ∈ known.devices ∧
      (s.ShowsAlive name ∨ name ∈ b.timedOut) := by
  obtain ⟨app, known, name, hknown, hdead, hname, -, hbirth⟩ := hresurrects
  refine ⟨app, known, name, hknown, hdead, hname, ?_⟩
  obtain ⟨d, hd, hdown⟩ := Option.map_eq_some_iff.1 (h app known hknown hdead name hname)
  have houtcome := rendered_outcome hs henrolled s name
  rw [hd] at houtcome
  generalize (b.rendered s).2.filterMap (Outbound.kindFor? name) = kinds at houtcome hbirth
  generalize (b.rendered s).1.device? name = after at houtcome
  cases houtcome with
  | born alive => exact .inl alive
  | revived listed => exact .inr listed
  | reborn _ known => exact absurd hdown known
  | kept | updated | unchanged | died | unborn => simp at hbirth

/-- Over every run, dead applications have dead devices after every call if and only if no call resurrects a
device. -/
theorem run_deadAppsAgree_iff (settings : Settings) (now : UInt64) (steps : List Step) :
    (∀ before after, steps = before ++ after → ((start settings now).run before).1.DeadAppsAgree) ↔
      ∀ before s after, steps = before ++ s :: after →
        ¬((start settings now).run before).1.Resurrects s := by
  have hnext : ∀ before s, ((start settings now).run before).1.DeadAppsAgree →
      (((start settings now).run (before ++ [s])).1.DeadAppsAgree ↔
        ¬((start settings now).run before).1.Resurrects s) := by
    intro before s h
    rw [run_snoc]
    exact h.step_iff (run_online settings now before).1 (enrolled_run settings now before)
      (heard_run settings now before) (settled_run settings now before) s
  constructor
  · intro h before s after heq
    have hlast : steps = (before ++ [s]) ++ after := by rw [heq, List.append_assoc, List.singleton_append]
    exact (hnext before s (h before (s :: after) heq)).1 (h _ after hlast)
  · intro h before
    -- by induction on the calls so far
    induction before using List.reverseRecOn with
    | nil =>
      intro _ _ app known hknown
      cases (start_get?_apps settings now app).symm.trans hknown
    | append_singleton before s ih =>
      intro after heq
      rw [List.append_assoc, List.singleton_append] at heq
      exact (hnext before s (ih _ heq)).2 (h before s after heq)

/-- Applications that stay dead while their device is alive: it delivers data, or it is born again at the end of an
outage of the plant bus in which the application was reported dead. -/
theorem not_deadAppsAgree :
    let metric := fun value =>
      Utf8.encode ("\x7b\"metrics\":[\x7b\"name\":\"x\",\"dataType\":\"Int32\",\"value\":" ++ value ++ "\x7d]\x7d")
    ¬((start {} 0).run [.take 0 0 (.bus "BIRTH/APP1/D1" (metric "5")), .take 0 0 (.bus "DEATH/APP1" []),
        .take 0 0 (.bus "DATA/APP1/D1" (metric "6"))]).1.DeadAppsAgree ∧
      ¬((start {} 0).run [.take 0 0 (.bus "BIRTH/APP1/D1" (metric "5")), .take 0 0 (.connection .busLost),
        .check 0 60000, .take 0 60000 (.bus "DEATH/APP1" []),
        .take 0 60000 (.connection .busConnected)]).1.DeadAppsAgree := by
  intro metric
  have halive : ∀ b : Bridge, b.apps.get? "APP1" = some ⟨"APP1", true, ["APP1-D1"]⟩ →
      (b.device? "APP1-D1").map Device.known = some .up → ¬b.DeadAppsAgree := by
    intro b happ hup h
    have hdown := h "APP1" _ happ rfl "APP1-D1" (List.mem_singleton.2 rfl)
    rw [hup] at hdown
    simp at hdown
  exact ⟨halive _ (by decide +kernel) (by decide +kernel), halive _ (by decide +kernel) (by decide +kernel)⟩

end Bridge

end ScadaBridge
