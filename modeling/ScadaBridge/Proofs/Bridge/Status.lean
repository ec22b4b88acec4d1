import ScadaBridge.Proofs.Bridge.Fate

/-!
# The two statuses of a device

What was published about a device and what is known of its source are recorded apart: the one when a message is
rendered, the other when a call decides what to render, and for a death only when that is rendered. Within a call
they may disagree. Between calls they go together (`Device.Settled`): nothing is known of a source but what was
published, and of a vendor device something always is.
-/

namespace ScadaBridge

open Ordered

namespace Device

/-- How the two statuses of a device go together between calls. -/
structure Settled (d : Device) : Prop where
  /-- A death leaves no trace in what was published. -/
  published : d.published ≠ .down
  known : d.known ≠ .none → d.published = .up
  /-- A vendor device is published as soon as it is heard of. -/
  external : d.isExternal = true → d.published = .up ∧ d.known ≠ .none

def statuses (d : Device) : Status × Status := (d.published, d.known)

/-- Four pairs of statuses are left, and a vendor device has one of the last two. -/
theorem settled_iff {d : Device} :
    d.Settled ↔ d.statuses ∈ [(.none, .none), (.up, .none), (.up, .up), (.up, .down)] ∧
      (d.isExternal = true → d.statuses ∈ [(.up, .up), (.up, .down)]) := by
  have hfields : d.Settled ↔ d.published ≠ .down ∧ (d.known ≠ .none → d.published = .up) ∧
      (d.isExternal = true → d.published = .up ∧ d.known ≠ .none) :=
    ⟨fun ⟨published, known, external⟩ => ⟨published, known, external⟩,
      fun ⟨published, known, external⟩ => ⟨published, known, external⟩⟩
  rw [hfields]
  unfold statuses
  cases d.published <;> cases d.known <;> simp

theorem Settled.of_up {d : Device} (published : d.published = .up) (known : d.known ≠ .none) : d.Settled where
  published := by simp [published]
  known := fun _ => published
  external := fun _ => ⟨published, known⟩

end Device

namespace Bridge

theorem Outcome.settled {b : Bridge} {s : Step} {name : String} {before after : Option Device}
    {kinds : List MessageKind} (h : Outcome b s name before kinds after)
    (hbefore : ∀ d, before = some d → d.Settled) : ∀ d, after = some d → d.Settled := by
  intro d hd
  cases h with
  | missing => simp at hd
  | kept d₀ => exact hbefore d hd
  | @reborn d₀ metrics known =>
    -- a birth may be rendered of a device of whose source nothing is known, but not of a vendor device
    cases hd
    obtain ⟨-, -, hexternal⟩ := hbefore d₀ rfl
    exact ⟨by simp, fun _ => rfl, fun hd => ⟨rfl, (hexternal hd).2⟩⟩
  | @unchanged d₀ _ born =>
    cases hd
    exact .of_up (Device.needsBirth_eq_false_iff.1 born).1 (by simp)
  | died timestamp known published =>
    cases hd
    exact .of_up published (by simp)
  | @unborn d₀ timestamp known published =>
    cases hd
    obtain ⟨hpublished, hknown, hexternal⟩ := hbefore d₀ rfl
    exact ⟨hpublished, hknown, hexternal⟩
  | created | born | updated | revived =>
    cases hd
    exact .of_up rfl (by simp)

/-- What is known of a source is never forgotten. -/
theorem Outcome.known_ne_none {b : Bridge} {s : Step} {name : String} {d : Device} {after : Option Device}
    {kinds : List MessageKind} (h : Outcome b s name (some d) kinds after) (known : d.known ≠ .none) :
    ∃ d', after = some d' ∧ d'.known ≠ .none := by
  cases h with
  | kept | reborn | unborn => exact ⟨_, rfl, known⟩
  | born | updated | unchanged | died | revived => exact ⟨_, rfl, by simp⟩

theorem start_catalog (settings : Settings) (now : UInt64) :
    ∀ d ∈ (start settings now).devices, d.isExternal = false := by
  refine start_induction (P := fun _ b => ∀ d ∈ b.devices, d.isExternal = false) (by simp [blank])
    (fun _ _ _ hb _ => hb) ?_
  intro _ b c hb _ d hd
  rcases mem_insert hd with rfl | hd
  · rw [c.toDevice_frame now]
    rfl
  · exact hb d hd

theorem settled_run (settings : Settings) (now : UInt64) (steps : List Step) :
    ∀ name d, ((start settings now).run steps).1.device? name = some d → d.Settled := by
  induction steps using List.reverseRecOn with
  | nil =>
    intro name d hd
    have hmem := mem_of_device? hd
    obtain ⟨hpublished, hknown⟩ := start_unheard d hmem
    exact ⟨by simp [hpublished], fun h => absurd hknown h, by simp [start_catalog settings now d hmem]⟩
  | append_singleton steps s ih =>
    intro name
    have hs := (run_online settings now steps).1
    have hnext := (rendered_outcome hs (enrolled_run settings now steps) s name).settled (ih name)
    rw [← (step_rendered hs s).1] at hnext
    rw [run_snoc]
    exact hnext

/-- Over every run, between any two calls, each registered device has one of four pairs of statuses; the pairs
in which nothing is known of the source occur for catalog devices alone. -/
theorem run_statuses (settings : Settings) (now : UInt64) (steps : List Step) :
    ∀ d ∈ ((start settings now).run steps).1.devices,
      d.Settled ∧ d.statuses ∈ [(.none, .none), (.up, .none), (.up, .up), (.up, .down)] ∧
        (d.statuses ∈ [(.none, .none), (.up, .none)] → ∃ device site, d.IsOf (.site device site)) := by
  intro d hd
  have hregistered := registered_run settings now steps
  have hfound := hregistered.sorted.device?_of_mem hd
  have hsettled := settled_run settings now steps d.telemetryName d hfound
  obtain ⟨hpairs, hexternal⟩ := Device.settled_iff.1 hsettled
  obtain ⟨source, -, hsource⟩ := hregistered.isOf hfound
  refine ⟨hsettled, hpairs, fun hunknown => ?_⟩
  cases source with
  | site device site => exact ⟨device, site, hsource⟩
  | vendor app device =>
    have hlast := hexternal hsource.1
    rcases List.mem_pair.1 hunknown with heq | heq
    · simp [heq] at hlast
    · simp [heq] at hlast

/-- A vendor device is announced, and its application dies. -/
theorem run_statuses_dead :
    ∃ d ∈ ((start {} 0).run
        [.take 0 0 (.bus "BIRTH/APP1/D1" (Utf8.encode "\x7b\"metrics\":[]\x7d")),
          .take 0 0 (.bus "DEATH/APP1" [])]).1.devices,
      d.Settled ∧ d.statuses = (.up, .down) := by
  have hdead : (((start {} 0).run
      [.take 0 0 (.bus "BIRTH/APP1/D1" (Utf8.encode "\x7b\"metrics\":[]\x7d")),
        .take 0 0 (.bus "DEATH/APP1" [])]).1.device? "APP1-D1").map Device.statuses = some (.up, .down) := by
    decide +kernel
  obtain ⟨d, hd, hstatuses⟩ := Option.map_eq_some_iff.1 hdead
  have hmem := mem_of_device? hd
  exact ⟨d, hmem, (run_statuses {} 0 _ d hmem).1, hstatuses⟩

end Bridge

end ScadaBridge
