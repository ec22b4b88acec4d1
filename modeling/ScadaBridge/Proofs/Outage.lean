import Mathlib.Data.List.DropRight
import Mathlib.Data.List.Induction
import ScadaBridge.Bridge.Outage

/-!
# Outages over time

An `Outage` keeps one instant and one mark of all that happened to the connection. Here its answers are compared with
the whole history of its calls: an outage expires at the first check that comes the timeout after the first loss since
the bus was connected, and only then; and when the bus is back, it tells whether there was such a check
(`answers_follow`). So an outage expires once, and losing the bus again does not put it off.
-/

namespace ScadaBridge.Outage

/-- One call. -/
inductive Call where
  | lost (instant : Nat)
  | connected
  | check (instant : Nat)
deriving DecidableEq

/-- What is seen of a call: with a connection whether the outage had expired, with a check whether it expires. -/
inductive Seen where
  | lost (instant : Nat)
  | connected (expired : Bool)
  | checked (instant : Nat) (expires : Bool)
deriving DecidableEq

namespace Seen

def call : Seen → Call
  | .lost instant => .lost instant
  | .connected _ => .connected
  | .checked instant _ => .check instant

def isConnection : Seen → Bool
  | .connected _ => true
  | .lost _ | .checked _ _ => false

/-- Whether a check let the outage expire. -/
def isExpiry : Seen → Bool
  | .checked _ expires => expires
  | .lost _ | .connected _ => false

def lostAt? : Seen → Option Nat
  | .lost instant => some instant
  | .connected _ | .checked _ _ => .none

end Seen

def answer (o : Outage) : Call → Outage × Seen
  | .lost instant => (o.lost instant, .lost instant)
  | .connected => (o.connected.1, .connected o.connected.2)
  | .check instant => ((o.check instant).1, .checked instant (o.check instant).2)

/-- The outage after a sequence of calls, and what is seen of them. -/
def answers (o : Outage) : List Call → Outage × List Seen
  | [] => (o, [])
  | c :: rest =>
    let (o, first) := o.answer c
    let (o, more) := o.answers rest
    (o, first :: more)

theorem answers_append (o : Outage) (first second : List Call) :
    o.answers (first ++ second) =
      (((o.answers first).1.answers second).1, (o.answers first).2 ++ ((o.answers first).1.answers second).2) := by
  induction first generalizing o with
  | nil => rfl
  | cons c rest ih =>
    have hrest := ih (o.answer c).1
    simp only [List.cons_append, answers, hrest]

theorem answers_snoc (o : Outage) (calls : List Call) (c : Call) :
    o.answers (calls ++ [c]) =
      (((o.answers calls).1.answer c).1, (o.answers calls).2 ++ [((o.answers calls).1.answer c).2]) := by
  rw [answers_append]
  rfl

theorem call_answer (o : Outage) (c : Call) : (o.answer c).2.call = c := by
  cases c <;> rfl

/-- Every call is seen, in its place. -/
theorem map_call_answers (o : Outage) (calls : List Call) : (o.answers calls).2.map Seen.call = calls := by
  induction calls generalizing o with
  | nil => rfl
  | cons c rest ih =>
    show (o.answer c).2.call :: ((o.answer c).1.answers rest).2.map Seen.call = _
    rw [call_answer, ih]

/-! ## What the history calls for -/

/-- What was seen since the bus was connected. -/
def latest (seen : List Seen) : List Seen := seen.rtakeWhile fun s => !s.isConnection

/-- When the bus was first lost since it was connected. -/
def began? (seen : List Seen) : Option Nat := (latest seen).findSome? Seen.lostAt?

/-- Whether the outage expired since the bus was connected. -/
def hasExpired (seen : List Seen) : Bool := (latest seen).any Seen.isExpiry

/-- An answer agrees with all that was seen before. -/
def Seen.Follows (timeout : Nat) (before : List Seen) : Seen → Prop
  | .lost _ => True
  | .connected expired => expired = hasExpired before
  | .checked instant expires =>
    expires = true ↔ hasExpired before = false ∧ ∃ began, began? before = some began ∧ began + timeout ≤ instant

section History

variable {seen : List Seen} {s : Seen}

theorem latest_snoc_of_connection (h : s.isConnection = true) : latest (seen ++ [s]) = [] :=
  List.rtakeWhile_concat_neg _ _ _ (by simp [h])

theorem latest_snoc (h : s.isConnection = false) : latest (seen ++ [s]) = latest seen ++ [s] :=
  List.rtakeWhile_concat_pos _ _ _ (by simp [h])

theorem began?_snoc (h : s.isConnection = false) : began? (seen ++ [s]) = (began? seen).or s.lostAt? := by
  unfold began?
  rw [latest_snoc h, List.findSome?_append, List.findSome?_singleton]

theorem hasExpired_snoc (h : s.isConnection = false) : hasExpired (seen ++ [s]) = (hasExpired seen || s.isExpiry) := by
  unfold hasExpired
  rw [latest_snoc h, List.any_append, List.any_cons, List.any_nil, Bool.or_false]

end History

/-! ## What is kept of the history -/

/-- The outage keeps when it began, until it expires, and then that it did. -/
structure Recalls (timeout : Nat) (o : Outage) (seen : List Seen) : Prop where
  timeout_eq : o.timeout = timeout
  expired : o.expired = hasExpired seen
  since : o.since = if hasExpired seen then .none else began? seen

namespace Recalls

variable {timeout : Nat} {o : Outage} {seen : List Seen}

theorem connected (h : Recalls timeout o seen) (expired : Bool) :
    Recalls timeout o.connected.1 (seen ++ [.connected expired]) := by
  have hlatest : latest (seen ++ [.connected expired]) = [] := latest_snoc_of_connection rfl
  refine ⟨h.timeout_eq, ?_, ?_⟩
  · rw [hasExpired, hlatest]
    rfl
  · rw [hasExpired, began?, hlatest]
    rfl

/-- Only the first loss counts. -/
theorem lost (h : Recalls timeout o seen) (instant : Nat) :
    Recalls timeout (o.lost instant) (seen ++ [.lost instant]) := by
  have hexpired : hasExpired (seen ++ [.lost instant]) = hasExpired seen := by
    rw [hasExpired_snoc rfl]
    exact Bool.or_false _
  have hbegan : began? (seen ++ [.lost instant]) = (began? seen).or (some instant) := began?_snoc rfl
  have hsince := h.since
  unfold Outage.lost
  cases hover : hasExpired seen with
  | true =>
    have hkept : o.expired = true := h.expired.trans hover
    rw [if_neg (by simp [hkept])]
    refine ⟨h.timeout_eq, hkept.trans (hexpired.trans hover).symm, ?_⟩
    rw [hexpired, hsince, hover]
    rfl
  | false =>
    have hkept : o.expired = false := h.expired.trans hover
    rw [hover] at hsince
    cases hfirst : began? seen with
    | none =>
      have hnone : o.since = .none := hsince.trans hfirst
      rw [if_pos (by simp [hnone, hkept])]
      refine ⟨h.timeout_eq, hkept.trans (hexpired.trans hover).symm, ?_⟩
      rw [hexpired, hover, hbegan, hfirst]
      rfl
    | some began =>
      have hsome : o.since = some began := hsince.trans hfirst
      rw [if_neg (by simp [hsome])]
      refine ⟨h.timeout_eq, hkept.trans (hexpired.trans hover).symm, ?_⟩
      rw [hexpired, hover, hbegan, hfirst]
      exact hsome

/-- A check expires if the timeout has passed since the beginning. -/
theorem check_eq_true_iff (h : Recalls timeout o seen) (positive : 0 < timeout) (instant : Nat) :
    (o.check instant).2 = true ↔
      hasExpired seen = false ∧ ∃ began, began? seen = some began ∧ began + timeout ≤ instant := by
  have hsince := h.since
  unfold check
  cases hover : hasExpired seen with
  | true =>
    rw [hover, if_pos rfl] at hsince
    simp [hsince]
  | false =>
    rw [hover, if_neg Bool.false_ne_true] at hsince
    rw [hsince, h.timeout_eq]
    cases began? seen with
    | none => simp
    | some began =>
      -- a check before the beginning comes too early only because the timeout is positive
      have hpassed : timeout ≤ instant - began ↔ began + timeout ≤ instant := by omega
      by_cases hlate : timeout ≤ instant - began
      · simp [hlate, hpassed.1 hlate]
      · simp [hlate, mt hpassed.2 hlate]

theorem check (h : Recalls timeout o seen) (instant : Nat) :
    Recalls timeout (o.check instant).1 (seen ++ [.checked instant (o.check instant).2]) := by
  have hexpired : ∀ expires, hasExpired (seen ++ [.checked instant expires]) = (hasExpired seen || expires) :=
    fun expires => hasExpired_snoc rfl
  have hbegan : ∀ expires, began? (seen ++ [.checked instant expires]) = began? seen := fun expires => by
    rw [began?_snoc rfl]
    exact Option.or_none
  rcases hanswer : o.check instant with ⟨o', expires⟩
  cases expires with
  | true =>
    have ho' : o' = { o with since := .none, expired := true } := by
      unfold Outage.check at hanswer
      split at hanswer
      · split at hanswer
        · exact (Prod.mk.inj hanswer).1.symm
        · simp at hanswer
      · simp at hanswer
    subst ho'
    refine ⟨h.timeout_eq, ?_, ?_⟩
    · rw [hexpired, Bool.or_true]
    · rw [hexpired, Bool.or_true]
      rfl
  | false =>
    have ho' : o' = o := by
      unfold Outage.check at hanswer
      split at hanswer
      · split at hanswer
        · simp at hanswer
        · exact (Prod.mk.inj hanswer).1.symm
      · exact (Prod.mk.inj hanswer).1.symm
    subst ho'
    refine ⟨h.timeout_eq, ?_, ?_⟩
    · rw [hexpired, Bool.or_false]
      exact h.expired
    · rw [hexpired, hbegan, Bool.or_false]
      exact h.since

theorem answer (h : Recalls timeout o seen) (c : Call) : Recalls timeout (o.answer c).1 (seen ++ [(o.answer c).2]) := by
  cases c with
  | lost instant => exact h.lost instant
  | connected => exact h.connected o.connected.2
  | check instant => exact h.check instant

theorem follows (h : Recalls timeout o seen) (positive : 0 < timeout) (c : Call) :
    (o.answer c).2.Follows timeout seen := by
  cases c with
  | lost instant => trivial
  | connected => exact h.expired
  | check instant => exact h.check_eq_true_iff positive instant

/-- What has expired does not go on. -/
theorem expired_eq_false (h : Recalls timeout o seen) {began : Nat} (since : o.since = some began) :
    o.expired = false := by
  rw [h.expired]
  cases hover : hasExpired seen with
  | false => rfl
  | true => simp [h.since, hover] at since

/-- Losing the bus once more changes nothing. -/
theorem lost_eq_self (h : Recalls timeout o seen) (lost : (began? seen).isSome) (instant : Nat) :
    o.lost instant = o := by
  unfold Outage.lost
  cases hover : hasExpired seen with
  | true =>
    have hexpired : o.expired = true := h.expired.trans hover
    exact if_neg (by simp [hexpired])
  | false =>
    obtain ⟨began, hbegan⟩ := Option.isSome_iff_exists.1 lost
    have hsince : o.since = some began := by rw [h.since, hover, ← hbegan]; rfl
    exact if_neg (by simp [hsince])

end Recalls

theorem recalls_answers (timeout : Nat) (calls : List Call) :
    Recalls timeout ((none timeout).answers calls).1 ((none timeout).answers calls).2 := by
  induction calls using List.reverseRecOn with
  | nil => exact ⟨rfl, rfl, rfl⟩
  | append_singleton calls c ih =>
    rw [answers_snoc]
    exact ih.answer c

/-! ## The answers -/

/-- A call among others is answered by the outage after those before it. -/
theorem exists_calls_of_seen {o : Outage} {calls : List Call} {before after : List Seen} {s : Seen}
    (h : (o.answers calls).2 = before ++ s :: after) :
    ∃ past, (o.answers past).2 = before ∧ s = ((o.answers past).1.answer s.call).2 := by
  induction calls using List.reverseRecOn generalizing after with
  | nil => simp [answers] at h
  | append_singleton calls c ih =>
    rw [answers_snoc] at h
    cases after using List.reverseRecOn with
    | nil =>
      obtain ⟨hbefore, hlast⟩ := List.append_inj' h rfl
      obtain rfl := (List.singleton_inj.1 hlast).symm
      exact ⟨calls, hbefore, by rw [call_answer]⟩
    | append_singleton after last =>
      rw [← List.cons_append, ← List.append_assoc] at h
      exact ih (List.append_inj' h rfl).1

/-- Since the bus was connected, an outage expires once. -/
theorem countP_isExpiry_latest {timeout : Nat} (positive : 0 < timeout) (calls : List Call) :
    (latest ((none timeout).answers calls).2).countP Seen.isExpiry =
      if hasExpired ((none timeout).answers calls).2 then 1 else 0 := by
  induction calls using List.reverseRecOn with
  | nil => rfl
  | append_singleton calls c ih =>
    have hfollows := (recalls_answers timeout calls).follows positive c
    rw [answers_snoc]
    generalize (((none timeout).answers calls).1.answer c).2 = s at hfollows ⊢
    generalize ((none timeout).answers calls).2 = seen at ih hfollows ⊢
    cases s with
    | lost instant =>
      rw [hasExpired_snoc rfl, latest_snoc rfl, List.countP_append, ih]
      simp [Seen.isExpiry]
    | connected expired =>
      rw [hasExpired, latest_snoc_of_connection rfl]
      rfl
    | checked instant expires =>
      rw [hasExpired_snoc rfl, latest_snoc rfl, List.countP_append, ih]
      cases expires with
      | false => simp [Seen.isExpiry]
      | true =>
        -- a second expiry does not follow
        obtain ⟨hnot, -⟩ := hfollows.1 rfl
        simp [Seen.isExpiry, hnot]

/-- Whatever the calls and their instants, every one is seen in its place, and its answer follows from what was seen
before: a check expires exactly if the bus was lost since it was connected, at least the timeout before by the first
such loss, and no check expired since; a connection tells whether a check did. So between two connections at most
one check expires, and losing the bus again changes nothing. -/
theorem answers_follow {timeout : Nat} (positive : 0 < timeout) (calls : List Call) :
    ((none timeout).answers calls).2.map Seen.call = calls ∧
      (∀ before s after, ((none timeout).answers calls).2 = before ++ s :: after → s.Follows timeout before) ∧
      (latest ((none timeout).answers calls).2).countP Seen.isExpiry ≤ 1 ∧
      ∀ instant, (began? ((none timeout).answers calls).2).isSome →
        ((none timeout).answers calls).1.lost instant = ((none timeout).answers calls).1 := by
  refine ⟨map_call_answers _ calls, ?_, ?_, ?_⟩
  · intro before s after h
    obtain ⟨past, rfl, hs⟩ := exists_calls_of_seen h
    rw [hs]
    exact (recalls_answers timeout past).follows positive s.call
  · rw [countP_isExpiry_latest positive]
    split <;> simp
  · intro instant lost
    exact (recalls_answers timeout calls).lost_eq_self lost instant

/-- A loss that is told twice expires a minute after it was told first, and once; a loss that ends in time does not
expire. -/
theorem answers_follow_sixty :
    ((none 60).answers [.check 120, .lost 0, .check 59, .lost 30, .check 60, .lost 61, .check 121, .connected,
        .connected, .lost 200, .connected, .check 300]).2 =
      [.checked 120 false, .lost 0, .checked 59 false, .lost 30, .checked 60 true, .lost 61, .checked 121 false,
        .connected true, .connected false, .lost 200, .connected false, .checked 300 false] ∧
    (Seen.checked 60 true).Follows 60 [.checked 120 false, .lost 0, .checked 59 false, .lost 30] :=
  ⟨by decide, (answers_follow (by decide) [.check 120, .lost 0, .check 59, .lost 30, .check 60]).2.1
    [.checked 120 false, .lost 0, .checked 59 false, .lost 30] (.checked 60 true) [] (by decide)⟩

end ScadaBridge.Outage
