import ScadaBridge.Proofs.Bridge.Enrollment
import ScadaBridge.Proofs.Bridge.Trace

/-!
# What a call means for one device

`Bridge.Fate` says case by case what the plan of a call means for the device of one name: nothing, a birth
along with the edge node, something heard from its source, its death, or its revival after an outage. What
the plan calls for elsewhere does not reach the device.

`Bridge.Outcome` says the same of the whole call: what is rendered about the device, and the device after
it. `rendered_outcome` is the inversion of calls that properties of single devices are derived from.
-/

namespace ScadaBridge

open Ordered

/-- A call takes a message that shows the source of a telemetry name alive: an announcement or data of a
vendor device of that name, or a good reading of a catalog device of that name. -/
inductive Step.ShowsAlive (name : String) : Step → Prop where
  | birth {now : UInt64} {instant : Nat} {topic : String} {payload : List UInt8} {app device : String}
      (parsed : BusTopic.parse topic = .ok (.birth app device)) (named : Device.joinedName app device = name) :
      ShowsAlive name (.take now instant (.bus topic payload))
  | data {now : UInt64} {instant : Nat} {topic : String} {payload : List UInt8} {app device : String}
      (parsed : BusTopic.parse topic = .ok (.data app device)) (named : Device.joinedName app device = name) :
      ShowsAlive name (.take now instant (.bus topic payload))
  | reading {now : UInt64} {instant : Nat} {topic : String} {payload : List UInt8}
      {device site point : String} {r : Reading}
      (parsed : BusTopic.parse topic = .ok (.update device site point))
      (named : Device.joinedName device site = name) (read : Reading.parse payload = .ok r)
      (good : r.isGood = true) : ShowsAlive name (.take now instant (.bus topic payload))

namespace Bridge

/-- What the plan of a call means for the device of a name: the device before it, the actions that reach the
device, and the device after it. -/
inductive Fate (b : Bridge) (s : Step) (name : String) : Option Device → List Action → Option Device → Prop where
  /-- There is no device of that name, and none is created. -/
  | missing (actions : List Action) : Fate b s name none actions none
  /-- A vendor application announces the device for the first time. -/
  | created {app device : String} {d' : Device} {actions : List Action} (alive : s.ShowsAlive name)
      (hears : (Device.ofVendor app device).Hears d' actions) :
      Fate b s name none actions (some d')
  | kept (d : Device) : Fate b s name (some d) [] (some d)
  /-- The edge node is born. -/
  | reborn (d : Device) : Fate b s name (some d) [.nodeRebirth] (some d)
  /-- The device hears from its source. -/
  | heard {d d' : Device} {actions : List Action} (alive : s.ShowsAlive name) (hears : d.Hears d' actions) :
      Fate b s name (some d) actions (some d')
  /-- The device is declared dead, which is told if its birth was. -/
  | died {d : Device} (timestamp : UInt64) (known : d.known ≠ .down) :
      Fate b s name (some d) (if d.published = .up then [.death name] else []) (some (d.markDead timestamp))
  /-- An outage that had expired is over, and the device is born again. -/
  | revived {d : Device} (listed : name ∈ b.timedOut) (known : d.known = .down) (metrics : d.hasMetrics = true) :
      Fate b s name (some d) [.birth name] (some d.markAlive)

/-! ## The actions that reach a device -/

theorem filter_declareDead {b : Bridge} {name : String} {d : Device} (found : b.device? name = some d)
    (listed : String) (timestamp : UInt64) :
    (b.declareDead listed timestamp).2.filter (Action.reaches name) =
      if name = listed ∧ d.known ≠ .down ∧ d.published = .up then [.death name] else [] := by
  rcases b.declareDead_cases listed timestamp with ⟨heq, hdown⟩ | ⟨e, he, hdown, heq⟩
  · have hnot : ¬(name = listed ∧ d.known ≠ .down ∧ d.published = .up) := by
      rintro ⟨rfl, halive, -⟩
      exact halive (hdown d found)
    rw [heq, if_neg hnot]
    rfl
  · rw [heq]
    by_cases hname : name = listed
    · subst hname
      obtain rfl : d = e := Option.some.inj (found.symm.trans he)
      by_cases hup : d.published = .up
      · simp [hup, hdown, Action.reaches]
      · simp [hup]
    · have hne : ¬listed = name := fun h => hname h.symm
      by_cases hup : e.published = .up
      · simp [hup, hname, hne, Action.reaches]
      · simp [hup, hname]

/-- A device that is listed once is declared dead once. -/
theorem filter_declareAllDead {names : List String} (nodup : names.Nodup) {b : Bridge} {name : String}
    {d : Device} (found : b.device? name = some d) (timestamp : UInt64) :
    (b.declareAllDead timestamp names).2.filter (Action.reaches name) =
      if name ∈ names ∧ d.known ≠ .down ∧ d.published = .up then [.death name] else [] := by
  induction names generalizing b d with
  | nil => simp [declareAllDead]
  | cons listed rest ih =>
    obtain ⟨hnew, hrest⟩ := List.nodup_cons.1 nodup
    have hnext := device?_declareDead b listed timestamp name
    rw [found, Option.map_some] at hnext
    have hmore := ih hrest hnext
    have hknown : (if name = listed ∧ d.known ≠ .down then d.markDead timestamp else d).known = d.known := by
      split <;> rfl
    have hpublished :
        (if name = listed ∧ d.known ≠ .down then d.markDead timestamp else d).published = d.published := by
      split <;> rfl
    rw [hknown, hpublished] at hmore
    rw [declareAllDead_cons, List.filter_append, hmore, filter_declareDead found]
    by_cases hname : name = listed
    · subst hname
      simp [hnew]
    · simp [hname]

/-- A device is revived once, however often it is listed. -/
theorem filter_reviveAll (names : List String) {b : Bridge} {name : String} {d : Device}
    (found : b.device? name = some d) :
    (b.reviveAll names).2.filter (Action.reaches name) =
      if name ∈ names ∧ d.known = .down ∧ d.hasMetrics then [.birth name] else [] := by
  induction names generalizing b d with
  | nil => simp [reviveAll]
  | cons listed rest ih =>
    rcases b.reviveAll_cons listed rest with ⟨heq, halive⟩ | ⟨e, he, hdead, heq⟩
    · rw [heq, ih found]
      by_cases hname : name = listed
      · subst hname
        simp [halive d found]
      · simp [hname]
    · have hlisted : e.telemetryName = listed := telemetryName_of_device? he
      have hnext : (b.putDevice e.markAlive).device? name =
          if listed = name then some e.markAlive else some d := by
        rw [device?_putDevice, found, ← hlisted]
        rfl
      rw [heq]
      by_cases hname : listed = name
      · subst hname
        obtain rfl : d = e := Option.some.inj (found.symm.trans he)
        rw [if_pos rfl] at hnext
        have hmore := ih hnext
        have hup : d.markAlive.known ≠ .down := by simp [Device.markAlive]
        rw [if_neg fun h => hup h.2.1] at hmore
        rw [List.filter_cons_of_pos (by simp [Action.reaches]), hmore]
        simp [hdead]
      · rw [if_neg hname] at hnext
        have hmore := ih hnext
        have hne : ¬name = listed := fun h => hname h.symm
        rw [List.filter_cons_of_neg (by simpa [Action.reaches] using hname), hmore]
        simp [hne]

/-! ## Readings -/

/-- A reading that is taken is good, or does no more than declare its device dead. -/
theorem deviceUpdate_cases {b b' : Bridge} {device site point : String} {payload : List UInt8} {now : UInt64}
    {actions : List Action} (h : b.deviceUpdate device site point payload now = (b', .ok actions)) :
    (∃ r, Reading.parse payload = .ok r ∧ r.isGood = true) ∨ (b' = b ∧ actions = []) ∨
      ∃ name timestamp, (b', actions) = b.declareDead name timestamp := by
  unfold deviceUpdate at h
  split at h
  · simp at h
  · next d _ =>
    split at h
    · simp at h
    · split at h
      · simp at h
      · next r hr =>
        cases hgood : r.isGood with
        | true => exact .inl ⟨r, hr, hgood⟩
        | false =>
          right
          dsimp only at h
          unfold Reading.evaluate at h
          rw [hgood, if_neg (by simp)] at h
          split at h
          · next hdead =>
            split at hdead <;> simp at hdead
          · right
            refine ⟨d.telemetryName, if r.time = 0 then now else r.time, ?_⟩
            cases h
            rfl
          · left
            cases h
            exact ⟨rfl, rfl⟩
          · next hvalue =>
            split at hvalue <;> simp at hvalue

/-! ## The plan -/

namespace Fate

variable {b b' : Bridge} {s : Step} {name : String}

theorem untouched {actions : List Action} (device : b'.device? name = b.device? name)
    (actions_nil : actions.filter (Action.reaches name) = []) :
    Fate b s name (b.device? name) (actions.filter (Action.reaches name)) (b'.device? name) := by
  rw [device, actions_nil]
  cases b.device? name with
  | none => exact .missing []
  | some d => exact .kept d

theorem ofRebirth (device : b'.device? name = b.device? name) :
    Fate b s name (b.device? name) ([Action.nodeRebirth].filter (Action.reaches name)) (b'.device? name) := by
  rw [device]
  cases b.device? name with
  | none => exact .missing _
  | some d => exact .reborn d

theorem filter_hears {d d' : Device} {actions : List Action} (hears : d.Hears d' actions) :
    actions.filter (Action.reaches name) = if d.telemetryName = name then actions else [] := by
  have hreaches : ∀ action ∈ actions, action.reaches name = (d.telemetryName == name) := by
    intro action haction
    cases hears with
    | birth => rw [List.mem_singleton.1 haction]; rfl
    | data => rw [List.mem_singleton.1 haction]; rfl
    | quiet => simp at haction
  by_cases hname : d.telemetryName = name
  · rw [if_pos hname]
    exact List.filter_eq_self.2 fun action haction => by rw [hreaches action haction]; simp [hname]
  · rw [if_neg hname]
    exact List.filter_eq_nil_iff.2 fun action haction => by rw [hreaches action haction]; simp [hname]

/-- A device heard something; only the devices of the bridge before it count. -/
theorem ofHears {b₀ : Bridge} (devices : b₀.devices = b.devices) {d d' : Device} {actions : List Action}
    (found : b.device? d.telemetryName = some d) (hears : d.Hears d' actions)
    (alive : s.ShowsAlive d.telemetryName) :
    Fate b s name (b.device? name) (actions.filter (Action.reaches name)) ((b₀.putDevice d').device? name) := by
  have hkept : b₀.device? name = b.device? name := by
    unfold device?
    rw [devices]
  rw [filter_hears hears, device?_putDevice, hears.telemetryName_eq, hkept]
  by_cases hname : d.telemetryName = name
  · rw [if_pos hname, if_pos hname, ← hname, found]
    exact .heard alive hears
  · rw [if_neg hname, if_neg hname]
    cases b.device? name with
    | none => exact .missing []
    | some e => exact .kept e

/-- Devices were declared dead; only the devices of the bridge before it count. -/
theorem ofDeaths (b b₀ : Bridge) (devices : b₀.devices = b.devices) {names : List String}
    (nodup : names.Nodup) (timestamp : UInt64) :
    Fate b s name (b.device? name) ((b₀.declareAllDead timestamp names).2.filter (Action.reaches name))
      ((b₀.declareAllDead timestamp names).1.device? name) := by
  have hkept : b₀.device? name = b.device? name := by
    unfold device?
    rw [devices]
  rw [device?_declareAllDead, hkept]
  cases hd : b.device? name with
  | none => exact .missing _
  | some d =>
    rw [hd] at hkept
    rw [filter_declareAllDead nodup hkept, Option.map_some]
    by_cases hdies : name ∈ names ∧ d.known ≠ .down
    · rw [if_pos hdies]
      simp only [hdies.1, hdies.2, ne_eq, not_false_eq_true, true_and]
      exact .died timestamp hdies.2
    · rw [if_neg hdies, if_neg fun h => hdies ⟨h.1, h.2.1⟩]
      exact .kept d

end Fate

/-- What a message on the plant bus means for the device of a name. -/
theorem turn_fate {b b' : Bridge} (henrolled : Enrolled b) {now : UInt64} {instant : Nat} {topic : String}
    {payload : List UInt8} {t : BusTopic} {actions : List Action} (parsed : BusTopic.parse topic = .ok t)
    (processed : b.process now topic payload = (b', .ok actions)) (hturn : b.Turn t b' actions) (name : String) :
    Fate b (.take now instant (.bus topic payload)) name (b.device? name)
      (actions.filter (Action.reaches name)) (b'.device? name) := by
  cases hturn with
  | idle => exact .untouched rfl rfl
  | definitions hrebirth =>
    rcases hrebirth with rfl | rfl
    · exact .untouched rfl rfl
    · exact .ofRebirth rfl
  | @data app device d d' _ found hears =>
    have hd := device?_of_vendorDevice? found
    have hname := telemetryName_of_device? hd
    exact .ofHears rfl (device?_self hd) hears (.data parsed hname.symm)
  | @announced app device d d' _ claimed hears =>
    obtain ⟨hname, hd | ⟨hd, rfl⟩⟩ := claimed_cases claimed
    · exact .ofHears rfl hd hears (.birth parsed hname.symm)
    · rw [Fate.filter_hears hears, device?_putDevice, hears.telemetryName_eq]
      by_cases hnamed : (Device.ofVendor app device).telemetryName = name
      · rw [if_pos hnamed, if_pos hnamed]
        have hnone : b.device? name = none := by
          rw [← hnamed]
          exact hd
        rw [hnone]
        exact .created (.birth parsed hnamed) hears
      · rw [if_neg hnamed, if_neg hnamed]
        show Fate b _ name (b.device? name) [] (b.device? name)
        cases b.device? name with
        | none => exact .missing []
        | some e => exact .kept e
  | @reading device site point d d' _ found hears =>
    have hd := device?_of_catalogDevice? found
    have hname := telemetryName_of_device? hd
    have hupdate : b.deviceUpdate device site point payload now = (b.putDevice d', .ok actions) := by
      unfold process at processed
      rw [parsed] at processed
      exact processed
    rcases deviceUpdate_cases hupdate with ⟨r, hr, hgood⟩ | ⟨hsame, rfl⟩ | ⟨dead, timestamp, hdead⟩
    · exact .ofHears rfl (device?_self hd) hears (.reading parsed hname.symm hr hgood)
    · rw [hsame]
      exact .untouched rfl rfl
    · rw [declareDead_eq_declareAllDead] at hdead
      obtain ⟨hbridge, hactions⟩ := Prod.mk.inj hdead
      rw [hbridge, hactions]
      have hnodup : [dead].Nodup := List.pairwise_singleton _ _
      exact .ofDeaths b b rfl hnodup timestamp
  | @deaths _ names apps timestamp mourns =>
    refine .ofDeaths b { b with apps := apps } rfl ?_ timestamp
    cases mourns with
    | reading _ => exact List.pairwise_singleton _ _
    | device _ => exact List.pairwise_singleton _ _
    | app found => exact henrolled.nodup found

/-- What the plan of a call means for the device of a name. -/
theorem plan_fate {b : Bridge} (hs : b.Sorted) (henrolled : Enrolled b) (s : Step) (name : String) :
    Fate b s name (b.device? name) ((b.plan s).2.filter (Action.reaches name)) ((b.plan s).1.device? name) := by
  rcases b.plan_moves s with ⟨now, rfl⟩ | hmoves
  · exact .untouched rfl rfl
  · generalize (b.plan s).1 = b' at hmoves ⊢
    generalize (b.plan s).2 = actions at hmoves ⊢
    cases hmoves with
    | idle _ hframe =>
      rw [hframe]
      exact .untouched rfl rfl
    | fault _ => exact .untouched rfl rfl
    | turn parsed processed hturn => exact turn_fate henrolled parsed processed hturn name
    | connected => exact .ofRebirth rfl
    | lost => exact .untouched rfl rfl
    | expired now instant outage =>
      rw [expireOutage_eq]
      exact .ofDeaths b { b with outage := outage } rfl hs.nodup now
    | restored now instant outage =>
      unfold restore
      rw [device?_reviveAll]
      show Fate b _ name (b.device? name) _ ((b.device? name).map _)
      cases hd : b.device? name with
      | none => exact .missing _
      | some d =>
        have hfound : ({ b with outage := outage, timedOut := [] } : Bridge).device? name = some d := hd
        rw [filter_reviveAll b.timedOut hfound, Option.map_some]
        by_cases hrevived : name ∈ b.timedOut ∧ d.known = .down ∧ d.hasMetrics
        · rw [if_pos hrevived, if_pos hrevived]
          exact .revived hrevived.1 hrevived.2.1 hrevived.2.2
        · rw [if_neg hrevived, if_neg hrevived]
          exact .kept d

/-! ## The whole call -/

/-- What a call means for the device of a name: the device before it, the kinds of the messages that are
rendered about the device, and the device after it. -/
inductive Outcome (b : Bridge) (s : Step) (name : String) :
    Option Device → List MessageKind → Option Device → Prop where
  | missing : Outcome b s name none [] none
  | kept (d : Device) : Outcome b s name (some d) [] (some d)
  /-- A vendor application announces the device for the first time. -/
  | created (alive : s.ShowsAlive name) (app device : String) (metrics : List Metric) :
      Outcome b s name none [.deviceBirth]
        (some { Device.ofVendor app device with published := .up, known := .up, metrics := metrics })
  /-- The device is born along with the edge node. -/
  | reborn {d : Device} (metrics : d.hasMetrics = true) (known : d.known ≠ .down) :
      Outcome b s name (some d) [.deviceBirth] (some { d with published := .up })
  /-- The device hears from its source, and is born. -/
  | born {d : Device} (alive : s.ShowsAlive name) (metrics : List Metric) :
      Outcome b s name (some d) [.deviceBirth]
        (some { d with published := .up, known := .up, metrics := metrics })
  /-- The device hears data from its source. -/
  | updated {d : Device} (alive : s.ShowsAlive name) (born : d.needsBirth = false) (metrics : List Metric) :
      Outcome b s name (some d) [.deviceData]
        (some { d with published := .up, known := .up, metrics := metrics })
  /-- The device hears nothing new from its source. -/
  | unchanged {d : Device} (alive : s.ShowsAlive name) (born : d.needsBirth = false) :
      Outcome b s name (some d) [] (some { d with known := .up })
  /-- The device is declared dead. -/
  | died {d : Device} (timestamp : UInt64) (known : d.known ≠ .down) (published : d.published = .up) :
      Outcome b s name (some d) [.deviceDeath] (some { d with known := .down, deathTime := timestamp })
  /-- The device is declared dead before its birth was published. -/
  | unborn {d : Device} (timestamp : UInt64) (known : d.known ≠ .down) (published : d.published ≠ .up) :
      Outcome b s name (some d) [] (some (d.markDead timestamp))
  /-- An outage that had expired is over, and the device is born again. -/
  | revived {d : Device} (listed : name ∈ b.timedOut) (known : d.known = .down) (metrics : d.hasMetrics = true) :
      Outcome b s name (some d) [.deviceBirth] (some { d with published := .up, known := .up })

theorem Hears.answerAll {d d' : Device} {actions : List Action} (hears : d.Hears d' actions) (now : UInt64) :
    (∃ metrics, d'.answerAll now actions =
        ({ d with published := .up, known := .up, metrics := metrics }, [.deviceBirth])) ∨
      d.needsBirth = false ∧
        ((∃ metrics, d'.answerAll now actions =
            ({ d with published := .up, known := .up, metrics := metrics }, [.deviceData])) ∨
          d'.answerAll now actions = ({ d with known := .up }, [])) := by
  have hname := hears.telemetryName_eq
  cases hears with
  | @birth metrics _ =>
    left
    rw [Device.answerAll_singleton, ← hname, Device.answer_birth]
    exact ⟨metrics, rfl⟩
  | quiet born => exact .inr ⟨born, .inr rfl⟩
  | @data timestamp incoming metrics changes born wellFormed familiar merged changed =>
    have hears := Device.Hears.data born wellFormed familiar merged changed
    obtain ⟨payload, hdata⟩ := hears.exists_data now
    right
    rw [Device.answerAll_singleton, ← hname, Device.answer_data hdata]
    exact ⟨born, .inl ⟨metrics, rfl⟩⟩

/-- What the plan means for a device and what the device answers make up the outcome. -/
theorem Fate.outcome {b : Bridge} {s : Step} {name : String} {before after : Option Device}
    {actions : List Action} (hfate : Fate b s name before actions after)
    (named : ∀ d, before = some d → d.telemetryName = name) (now : UInt64) :
    Outcome b s name before ((after.map fun d => (d.answerAll now actions).2).getD [])
      (after.map fun d => (d.answerAll now actions).1) := by
  cases hfate with
  | missing _ => exact .missing
  | @created app device d' _ alive hears =>
    rw [Option.map_some, Option.map_some, Option.getD_some]
    rcases Hears.answerAll hears now with ⟨metrics, hanswer⟩ | ⟨born, -⟩
    · rw [hanswer]
      exact .created alive app device metrics
    · simp [Device.ofVendor, Device.fresh, Device.needsBirth] at born
  | kept d => exact .kept d
  | reborn d =>
    rw [Option.map_some, Option.map_some, Option.getD_some, Device.answerAll_singleton]
    unfold Device.answer
    dsimp only
    split
    · next hlive =>
      simp only [Bool.and_eq_true, bne_iff_ne, ne_eq] at hlive
      exact .reborn hlive.1 hlive.2
    · exact .kept d
  | @heard d d' _ alive hears =>
    rw [Option.map_some, Option.map_some, Option.getD_some]
    rcases Hears.answerAll hears now with ⟨metrics, hanswer⟩ | ⟨born, ⟨metrics, hanswer⟩ | hanswer⟩
    · rw [hanswer]
      exact .born alive metrics
    · rw [hanswer]
      exact .updated alive born metrics
    · rw [hanswer]
      exact .unchanged alive born
  | @died d timestamp known =>
    rw [Option.map_some, Option.map_some, Option.getD_some]
    by_cases hup : d.published = .up
    · have hanswer := (d.markDead timestamp).answer_death now
      rw [show (d.markDead timestamp).telemetryName = name from named d rfl] at hanswer
      rw [if_pos hup, Device.answerAll_singleton, hanswer]
      exact .died timestamp known hup
    · rw [if_neg hup]
      exact .unborn timestamp known hup
  | @revived d listed known metrics =>
    have hanswer := d.markAlive.answer_birth now
    rw [show d.markAlive.telemetryName = name from named d rfl] at hanswer
    rw [Option.map_some, Option.map_some, Option.getD_some, Device.answerAll_singleton, hanswer]
    exact .revived listed known metrics

/-- What a call means for the device of a name. -/
theorem rendered_outcome {b : Bridge} (hs : b.Sorted) (henrolled : Enrolled b) (s : Step) (name : String) :
    Outcome b s name (b.device? name) ((b.rendered s).2.filterMap (Outbound.kindFor? name))
      ((b.rendered s).1.device? name) := by
  have hfate := plan_fate hs henrolled s name
  obtain ⟨hdevice, hkinds⟩ := rendered_answers hs s name
  rw [hdevice, hkinds]
  exact hfate.outcome (fun d hd => telemetryName_of_device? hd) s.now

/-- At the start nothing was published about any device, and nothing heard. -/
theorem start_unheard {settings : Settings} {now : UInt64} :
    ∀ d ∈ (start settings now).devices, d.published = .none ∧ d.known = .none := by
  refine start_induction (P := fun _ b => ∀ d ∈ b.devices, d.published = .none ∧ d.known = .none)
    (by simp [blank]) (fun _ _ _ hb _ => hb) ?_
  intro _ b c hb _ d hd
  rcases mem_insert hd with rfl | hd
  · rw [c.toDevice_frame now]
    exact ⟨rfl, rfl⟩
  · exact hb d hd

end Bridge

end ScadaBridge
