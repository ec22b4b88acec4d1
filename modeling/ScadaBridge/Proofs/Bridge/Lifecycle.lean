import Mathlib.Computability.RegularExpressions
import ScadaBridge.Proofs.Bridge.Fate

/-!
# The lives of a device

What is rendered about a device, whether or not it is sent, comes in whole lives: a birth, births and data,
and a death. `run_lifecycle` says so of every run and every name. The invariant behind it is that a device
which owes no birth has a life that is not over (`Tracks`), and only such a device gives data or dies.
-/

namespace ScadaBridge

open Ordered
open RegularExpression (char)

/-- Any births and data. -/
def MessageKind.living : RegularExpression MessageKind := (char deviceBirth + char deviceData).star

/-- A life: a birth, then births and data, then a death. -/
def MessageKind.life : RegularExpression MessageKind := char deviceBirth * living * char deviceDeath

/-- Any number of lives, one after the other. -/
def MessageKind.lives : RegularExpression MessageKind := life.star

/-- The order of the messages about a device. -/
structure Lifecycle (kinds : List MessageKind) : Prop where
  /-- They begin a sequence of whole lives. -/
  lives : ∃ whole ∈ MessageKind.lives.matches', kinds <+: whole
  first : ∀ kind, kinds.head? = some kind → kind = .deviceBirth
  /-- What follows a death is a birth. -/
  afterDeath : ∀ early kind late, kinds = early ++ .deviceDeath :: kind :: late → kind = .deviceBirth
  /-- Between two deaths there is a birth. -/
  betweenDeaths : ∀ early middle late,
    kinds = early ++ .deviceDeath :: (middle ++ .deviceDeath :: late) → .deviceBirth ∈ middle

/-- Messages about a device, one after the other, and whether it is alive after them. -/
inductive Lived : Bool → List MessageKind → Prop where
  | unborn : Lived false []
  | birth {alive : Bool} {kinds : List MessageKind} (before : Lived alive kinds) :
      Lived true (kinds ++ [.deviceBirth])
  | data {kinds : List MessageKind} (before : Lived true kinds) : Lived true (kinds ++ [.deviceData])
  | death {kinds : List MessageKind} (before : Lived true kinds) : Lived false (kinds ++ [.deviceDeath])

namespace Lived

variable {alive : Bool} {kinds : List MessageKind}

theorem mem_lives_append {past more : List MessageKind} (hpast : past ∈ MessageKind.lives.matches')
    (hmore : more ∈ MessageKind.living.matches') :
    past ++ .deviceBirth :: more ++ [.deviceDeath] ∈ MessageKind.lives.matches' := by
  have hlife : .deviceBirth :: more ++ [.deviceDeath] ∈ MessageKind.life.matches' := by
    have hbegun : [MessageKind.deviceBirth] ++ more ∈ (char MessageKind.deviceBirth * MessageKind.living).matches' :=
      Language.append_mem_mul (Set.mem_singleton _) hmore
    exact Language.append_mem_mul hbegun (Set.mem_singleton _)
  obtain ⟨lives, rfl, hlives⟩ := Language.mem_kstar.1 hpast
  refine Language.mem_kstar.2 ⟨lives ++ [.deviceBirth :: more ++ [.deviceDeath]], by simp, fun y hy => ?_⟩
  rcases List.mem_append.1 hy with hy | hy
  · exact hlives y hy
  · rw [List.mem_singleton.1 hy]
    exact hlife

theorem mem_living_append {more : List MessageKind} {kind : MessageKind}
    (hmore : more ∈ MessageKind.living.matches')
    (hkind : kind = .deviceBirth ∨ kind = .deviceData) :
    more ++ [kind] ∈ MessageKind.living.matches' := by
  obtain ⟨words, rfl, hwords⟩ := Language.mem_kstar.1 hmore
  refine Language.mem_kstar.2 ⟨words ++ [[kind]], by simp, fun y hy => ?_⟩
  rcases List.mem_append.1 hy with hy | hy
  · exact hwords y hy
  · rw [List.mem_singleton.1 hy]
    rcases hkind with rfl | rfl
    · exact .inl rfl
    · exact .inr rfl

/-- Whole lives, followed by one that is not over if the device is alive. -/
theorem exists_lives (h : Lived alive kinds) : ∃ past ∈ MessageKind.lives.matches',
    match alive with
    | false => kinds = past
    | true => ∃ more ∈ MessageKind.living.matches',
        kinds = past ++ .deviceBirth :: more := by
  induction h with
  | unborn => exact ⟨[], Language.nil_mem_kstar _, rfl⟩
  | @birth alive kinds _ ih =>
    obtain ⟨past, hpast, hkinds⟩ := ih
    cases alive with
    | false =>
      obtain rfl : kinds = past := hkinds
      exact ⟨kinds, hpast, [], Language.nil_mem_kstar _, rfl⟩
    | true =>
      obtain ⟨more, hmore, rfl⟩ := hkinds
      exact ⟨past, hpast, _, mem_living_append hmore (.inl rfl), by simp⟩
  | data _ ih =>
    obtain ⟨past, hpast, more, hmore, rfl⟩ := ih
    exact ⟨past, hpast, _, mem_living_append hmore (.inr rfl), by simp⟩
  | death _ ih =>
    obtain ⟨past, hpast, more, hmore, rfl⟩ := ih
    exact ⟨_, mem_lives_append hpast hmore, rfl⟩

theorem prefix_lives (h : Lived alive kinds) : ∃ whole ∈ MessageKind.lives.matches', kinds <+: whole := by
  obtain ⟨past, hpast, hkinds⟩ := h.exists_lives
  cases alive with
  | false =>
    obtain rfl : kinds = past := hkinds
    exact ⟨kinds, hpast, List.prefix_refl kinds⟩
  | true =>
    obtain ⟨more, hmore, rfl⟩ := hkinds
    exact ⟨_, mem_lives_append hpast hmore, List.prefix_append _ _⟩

theorem of_death (h : Lived alive kinds) {early : List MessageKind} (heq : kinds = early ++ [.deviceDeath]) :
    alive = false := by
  cases h with
  | unborn => rfl
  | death _ => rfl
  | birth _ => simp at heq
  | data _ => simp at heq

theorem of_nil (h : Lived alive kinds) (heq : kinds = []) : alive = false := by
  cases h with
  | unborn => rfl
  | death _ => rfl
  | birth _ => simp at heq
  | data _ => simp at heq

theorem first (h : Lived alive kinds) : ∀ kind, kinds.head? = some kind → kind = .deviceBirth := by
  -- only a birth comes first, since everything else needs a device that is alive
  have hsnoc : ∀ {before : List MessageKind} {last : MessageKind},
      (∀ kind, before.head? = some kind → kind = .deviceBirth) → (before = [] → last = .deviceBirth) →
        ∀ kind, (before ++ [last]).head? = some kind → kind = .deviceBirth := by
    intro before last hbefore hlast kind hkind
    cases before with
    | nil =>
      have heq : last = kind := by simpa using hkind
      rw [← heq]
      exact hlast rfl
    | cons x rest => exact hbefore kind hkind
  induction h with
  | unborn => simp
  | birth _ ih => exact hsnoc ih fun _ => rfl
  | data before ih => exact hsnoc ih fun heq => absurd (before.of_nil heq) (by simp)
  | death before ih => exact hsnoc ih fun heq => absurd (before.of_nil heq) (by simp)

theorem afterDeath (h : Lived alive kinds) : ∀ early kind late,
    kinds = early ++ .deviceDeath :: kind :: late → kind = .deviceBirth := by
  have hsnoc : ∀ {before : List MessageKind} {last : MessageKind},
      (∀ early kind late, before = early ++ .deviceDeath :: kind :: late → kind = .deviceBirth) →
      (∀ early, before = early ++ [.deviceDeath] → last = .deviceBirth) →
        ∀ early kind late, before ++ [last] = early ++ .deviceDeath :: kind :: late → kind = .deviceBirth := by
    intro before last hbefore hlast early kind late heq
    rcases List.eq_nil_or_concat late with rfl | ⟨late, x, rfl⟩
    · have hsplit : before ++ [last] = (early ++ [.deviceDeath]) ++ [kind] := by simpa using heq
      obtain ⟨hearly, hkind⟩ := List.append_inj' hsplit rfl
      rw [← List.singleton_inj.1 hkind]
      exact hlast early hearly
    · have hsplit : before ++ [last] = (early ++ .deviceDeath :: kind :: late) ++ [x] := by simpa using heq
      exact hbefore early kind late (List.append_inj' hsplit rfl).1
  induction h with
  | unborn => simp
  | birth _ ih => exact hsnoc ih fun _ _ => rfl
  | data before ih => exact hsnoc ih fun _ heq => absurd (before.of_death heq) (by simp)
  | death before ih => exact hsnoc ih fun _ heq => absurd (before.of_death heq) (by simp)

theorem lifecycle (h : Lived alive kinds) : Lifecycle kinds where
  lives := h.prefix_lives
  first := h.first
  afterDeath := h.afterDeath
  betweenDeaths early middle late heq := by
    cases middle with
    | nil => exact absurd (h.afterDeath early _ late heq) (by simp)
    | cons kind rest =>
      rw [h.afterDeath early kind (rest ++ .deviceDeath :: late) heq]
      exact List.mem_cons_self

end Lived

namespace Bridge

/-- The messages about a name so far, and the device of that name if there is one: if it owes no birth, its
life is not over. -/
def Tracks (kinds : List MessageKind) : Option Device → Prop
  | none => kinds = []
  | some d => ∃ alive, Lived alive kinds ∧ (d.needsBirth = false → alive = true)

theorem tracks_idle {kinds : List MessageKind} {d d' : Device} (h : Tracks kinds (some d))
    (hbirth : d'.needsBirth = false → d.needsBirth = false) : Tracks (kinds ++ []) (some d') := by
  obtain ⟨alive, hlived, halive⟩ := h
  rw [List.append_nil]
  exact ⟨alive, hlived, fun hborn => halive (hbirth hborn)⟩

/-- One call goes on with the messages about a name. -/
theorem Tracks.outcome {kinds more : List MessageKind} {b : Bridge} {s : Step} {name : String}
    {before after : Option Device} (h : Tracks kinds before) (houtcome : Outcome b s name before more after) :
    Tracks (kinds ++ more) after := by
  have hbirth : ∀ d d', before = some d → Tracks (kinds ++ [.deviceBirth]) (some d') := by
    rintro d d' rfl
    obtain ⟨alive, hlived, -⟩ := h
    exact ⟨true, hlived.birth, fun _ => rfl⟩
  have hborn : ∀ d, before = some d → d.needsBirth = false → Lived true kinds := by
    rintro d rfl hborn
    obtain ⟨alive, hlived, halive⟩ := h
    rw [halive hborn] at hlived
    exact hlived
  cases houtcome with
  | missing =>
    obtain rfl : kinds = [] := h
    rfl
  | created _ app device metrics =>
    obtain rfl : kinds = [] := h
    exact ⟨true, Lived.unborn.birth, fun _ => rfl⟩
  | kept d => exact tracks_idle h id
  | reborn _ _ => exact hbirth _ _ rfl
  | born _ _ => exact hbirth _ _ rfl
  | revived _ _ _ => exact hbirth _ _ rfl
  | updated _ born _ => exact ⟨true, (hborn _ rfl born).data, fun _ => rfl⟩
  | unchanged _ born => exact tracks_idle h fun _ => born
  | unborn _ _ _ => exact tracks_idle h id
  | died timestamp known published =>
    have hlived := hborn _ rfl (Device.needsBirth_eq_false_iff.2 ⟨published, known⟩)
    refine ⟨false, hlived.death, fun hnot => ?_⟩
    exact absurd rfl (Device.needsBirth_eq_false_iff.1 hnot).2

theorem Tracks.lifecycle {kinds : List MessageKind} {found : Option Device} (h : Tracks kinds found) :
    Lifecycle kinds := by
  cases found with
  | none =>
    obtain rfl : kinds = [] := h
    exact Lived.unborn.lifecycle
  | some d =>
    obtain ⟨alive, hlived, -⟩ := h
    exact hlived.lifecycle

theorem tracks_start (settings : Settings) (now : UInt64) (name : String) :
    Tracks [] ((start settings now).device? name) := by
  cases hd : (start settings now).device? name with
  | none => rfl
  | some d => exact ⟨false, .unborn, by simp [Device.needsBirth, (start_unheard d (mem_of_device? hd)).1]⟩

theorem tracks_run (settings : Settings) (now : UInt64) (steps : List Step) (name : String) :
    Tracks (((start settings now).trace steps).filterMap (Outbound.kindFor? name))
      (((start settings now).run steps).1.device? name) := by
  induction steps using List.reverseRecOn with
  | nil => exact tracks_start settings now name
  | append_singleton steps s ih =>
    have hs := (run_online settings now steps).1
    have hnext := ih.outcome (rendered_outcome hs (enrolled_run settings now steps) s name)
    rw [run_snoc, trace_snoc, List.filterMap_append]
    rw [← (step_rendered hs s).1] at hnext
    exact hnext

/-- Over every run, what is rendered about a device comes in whole lives, the last of which may not be
over. -/
theorem run_lifecycle (settings : Settings) (now : UInt64) (steps : List Step) (name : String) :
    Lifecycle (((start settings now).trace steps).filterMap (Outbound.kindFor? name)) :=
  (tracks_run settings now steps name).lifecycle

-- the second report of the death tells nothing new, and what is heard after it is a birth, all of it offline
example :
    ((start {} 0).trace
      [.take 0 0 (.bus "BIRTH/APP1/D1"
          (Utf8.encode "\x7b\"metrics\":[\x7b\"name\":\"x\",\"dataType\":\"Int32\",\"value\":5\x7d]\x7d")),
        .take 0 0 (.bus "DATA/APP1/D1"
          (Utf8.encode "\x7b\"metrics\":[\x7b\"name\":\"x\",\"dataType\":\"Int32\",\"value\":6\x7d]\x7d")),
        .take 0 0 (.bus "DEATH/APP1" []), .take 0 0 (.bus "DEATH/APP1/D1" []),
        .take 0 0 (.bus "DATA/APP1/D1"
          (Utf8.encode "\x7b\"metrics\":[\x7b\"name\":\"x\",\"dataType\":\"Int32\",\"value\":7\x7d]\x7d"))]).filterMap
        (Outbound.kindFor? "APP1-D1") = [.deviceBirth, .deviceData, .deviceDeath, .deviceBirth] := by
  decide +kernel

end Bridge

end ScadaBridge
