import Mathlib.Data.List.Basic
import Mathlib.Data.List.Perm.Subperm
import ScadaBridge.Ordered

/-!
# Ordered collections through their lookup

A collection in strictly ascending order of names is determined by what is found under each name
(`Sorted.ext`), so collections are compared by lookups. The lemmas say what is found after an
insertion, after a whole list was inserted (`find?_foldl_insert`), and after every entry was changed
without changing its name (`find?_map`).
-/

namespace ScadaBridge.Ordered

variable {α : Type} {key : α → String}

/-! ## Lookup -/

theorem find?_insert (key : α → String) (a : α) (name : String) (entries : List α) :
    find? key name (insert key a entries) = if key a = name then some a else find? key name entries := by
  by_cases h : key a = name
  · subst h
    rw [find?_insert_self, if_pos rfl]
  · rw [find?_insert_of_ne key a h, if_neg h]

theorem find?_eq_none_iff {name : String} {entries : List α} :
    find? key name entries = none ↔ ∀ a ∈ entries, key a ≠ name := by
  induction entries with
  | nil => simp [find?]
  | cons b rest ih =>
    by_cases hb : key b = name
    · simp [find?, hb]
    · simp [find?, hb, ih]

theorem mem_map_key_iff {name : String} {entries : List α} :
    name ∈ entries.map key ↔ find? key name entries ≠ none := by
  rw [ne_eq, find?_eq_none_iff]
  simp

theorem find?_of_mem_of_nodup {entries : List α} (h : (entries.map key).Nodup) {a : α} (ha : a ∈ entries) :
    find? key (key a) entries = some a := by
  induction entries with
  | nil => simp at ha
  | cons b rest ih =>
    obtain ⟨hnew, hrest⟩ := List.nodup_cons.1 h
    rcases List.mem_cons.1 ha with rfl | ha
    · simp [find?]
    · have hne : key b ≠ key a := fun heq => hnew (heq ▸ List.mem_map_of_mem ha)
      simpa [find?, hne] using ih hrest ha

theorem find?_append (name : String) (first second : List α) :
    find? key name (first ++ second) = (find? key name first).or (find? key name second) := by
  induction first with
  | nil => simp [find?]
  | cons b rest ih =>
    by_cases hb : key b = name
    · simp [find?, hb]
    · simp [find?, hb, ih]

theorem find?_map {β : Type} {key' : β → String} {f : α → β} (hf : ∀ a, key' (f a) = key a)
    (name : String) (entries : List α) :
    find? key' name (entries.map f) = (find? key name entries).map f := by
  induction entries with
  | nil => simp [find?]
  | cons b rest ih =>
    by_cases hb : key b = name
    · simp [find?, hf, hb]
    · simp [find?, hf, hb, ih]

/-! ## Insertion -/

/-- Entries may be changed before or after an insertion, if the change keeps their names. -/
theorem map_insert {β : Type} {key' : β → String} {f : α → β} (hf : ∀ a, key' (f a) = key a) (a : α)
    (entries : List α) : (insert key a entries).map f = insert key' (f a) (entries.map f) := by
  induction entries with
  | nil => rfl
  | cons b rest ih =>
    rw [List.map_cons, insert, insert, hf, hf]
    split
    · rfl
    · split
      · rfl
      · rw [List.map_cons, ih]

/-- Of two insertions under one name only the later one counts. -/
theorem insert_insert {a b : α} (h : key a = key b) (entries : List α) :
    insert key a (insert key b entries) = insert key a entries := by
  induction entries with
  | nil => simp [insert, h]
  | cons c rest ih =>
    by_cases hlt : key b < key c
    · simp [insert, h, hlt]
    · by_cases heq : key b = key c
      · simp [insert, h, heq]
      · simp [insert, h, hlt, heq, ih]

theorem lt_of_not_lt_of_ne {s t : String} (h : ¬ s < t) (hne : s ≠ t) : t < s :=
  (Std.le_iff_lt_or_eq.1 (Std.not_lt.1 h)).resolve_right fun heq => hne heq.symm

theorem insert_of_lt {a b : α} {rest : List α} (h : key a < key b) :
    insert key a (b :: rest) = a :: b :: rest := if_pos h

theorem insert_of_gt {a b : α} {rest : List α} (h : key b < key a) :
    insert key a (b :: rest) = b :: insert key a rest := by
  have hne : key a ≠ key b := fun heq => String.lt_irrefl (key a) (by rwa [← heq] at h)
  rw [insert, if_neg (String.lt_asymm h), if_neg hne]

theorem insert_of_eq {a b : α} {rest : List α} (h : key a = key b) :
    insert key a (b :: rest) = a :: rest := by
  rw [insert, if_neg (h ▸ String.lt_irrefl _), if_pos h]

theorem insert_comm_of_lt {a b : α} (h : key a < key b) (entries : List α) :
    insert key b (insert key a entries) = insert key a (insert key b entries) := by
  induction entries with
  | nil => rw [insert, insert, insert_of_gt h, insert_of_lt h, insert]
  | cons c rest ih =>
    by_cases hac : key a < key c
    · -- `a` stays in front of `c`, wherever `b` goes
      rw [insert_of_lt hac, insert_of_gt h]
      by_cases hbc : key b < key c
      · rw [insert_of_lt hbc, insert_of_lt h]
      · by_cases hbc' : key b = key c
        · rw [insert_of_eq hbc', insert_of_lt h]
        · rw [insert_of_gt (lt_of_not_lt_of_ne hbc hbc'), insert_of_lt hac]
    · by_cases hac' : key a = key c
      · rw [insert_of_eq hac', insert_of_gt h, insert_of_gt (hac' ▸ h), insert_of_eq hac']
      · have hca : key c < key a := lt_of_not_lt_of_ne hac hac'
        have hcb : key c < key b := String.lt_trans hca h
        rw [insert_of_gt hca, insert_of_gt hcb, insert_of_gt hcb, insert_of_gt hca, ih]

/-- Insertions under different names can be made in either order, also into a list that is not sorted. -/
theorem insert_comm {a b : α} (h : key a ≠ key b) (entries : List α) :
    insert key b (insert key a entries) = insert key a (insert key b entries) := by
  by_cases hlt : key a < key b
  · exact insert_comm_of_lt hlt entries
  · exact (insert_comm_of_lt (lt_of_not_lt_of_ne hlt h) entries).symm

theorem mem_insert_self (a : α) (entries : List α) : a ∈ insert key a entries :=
  mem_of_find?_eq_some (find?_insert_self key a entries)

theorem mem_insert_id {a x : String} {entries : List String} :
    x ∈ insert id a entries ↔ x = a ∨ x ∈ entries := by
  induction entries with
  | nil => simp [insert]
  | cons b rest ih =>
    by_cases hlt : a < b
    · simp [insert, hlt]
    · by_cases heq : a = b
      · simp [insert, heq]
      · simp only [insert, id, hlt, heq, if_false, List.mem_cons, ih]
        exact or_left_comm

theorem contains_id {a : String} {entries : List String} : contains id a entries = true ↔ a ∈ entries := by
  cases hfound : find? id a entries with
  | none =>
    have hall := find?_eq_none_iff.1 hfound
    simp only [contains, hfound, Option.isSome_none, Bool.false_eq_true, false_iff]
    exact fun hmem => hall a hmem rfl
  | some b =>
    obtain rfl : b = a := key_of_find?_eq_some hfound
    simp only [contains, hfound, Option.isSome_some, true_iff]
    exact mem_of_find?_eq_some hfound

/-! ## Sorted collections -/

theorem Sorted.tail {a : α} {entries : List α} (h : Sorted key (a :: entries)) : Sorted key entries :=
  (List.pairwise_cons.1 h).2

theorem Sorted.head_lt {a b : α} {entries : List α} (h : Sorted key (a :: entries))
    (hb : b ∈ entries) : key a < key b := (List.pairwise_cons.1 h).1 b hb

theorem Sorted.head_ne {a b : α} {entries : List α} (h : Sorted key (a :: entries))
    (hb : b ∈ entries) : key a ≠ key b := fun he => by
  have hlt := h.head_lt hb
  rw [he] at hlt
  exact String.lt_irrefl _ hlt

/-- The name of the first entry does not occur among the others. -/
theorem Sorted.find?_head {a : α} {entries : List α} (h : Sorted key (a :: entries)) :
    find? key (key a) entries = none :=
  find?_eq_none_iff.2 fun _ hb he => h.head_ne hb he.symm

/-- No name occurs twice. -/
theorem Sorted.nodup {entries : List α} (h : Sorted key entries) : (entries.map key).Nodup := by
  have hnames : (entries.map key).Pairwise (· < ·) := List.pairwise_map.2 h
  refine hnames.imp fun hlt heq => ?_
  rw [heq] at hlt
  exact String.lt_irrefl _ hlt

theorem Sorted.find?_of_mem {entries : List α} (h : Sorted key entries) {a : α} (ha : a ∈ entries) :
    find? key (key a) entries = some a :=
  find?_of_mem_of_nodup h.nodup ha

theorem Sorted.map {β : Type} {key' : β → String} {f : α → β} (hf : ∀ a, key' (f a) = key a)
    {entries : List α} (h : Sorted key entries) : Sorted key' (entries.map f) := by
  unfold Sorted at *
  rw [List.pairwise_map]
  simpa only [hf] using h

/-- Entries whose names are among those of a sorted collection, in the same order, are sorted. -/
theorem Sorted.of_sublist {β : Type} {key' : β → String} {first : List β} {second : List α}
    (h : Sorted key second) (hsub : (first.map key').Sublist (second.map key)) : Sorted key' first := by
  have hnames : (second.map key).Pairwise (· < ·) := List.pairwise_map.2 h
  exact List.pairwise_map.1 (hnames.sublist hsub)

/-- Sorted collections in which the same is found under every name are equal. -/
theorem Sorted.ext {first second : List α} (h₁ : Sorted key first) (h₂ : Sorted key second)
    (h : ∀ name, find? key name first = find? key name second) : first = second := by
  induction first generalizing second with
  | nil =>
    cases second with
    | nil => rfl
    | cons b rest => exact absurd (h (key b)).symm (by simp [find?])
  | cons a rest ih =>
    cases second with
    | nil => exact absurd (h (key a)) (by simp [find?])
    | cons b rest' =>
      have hab : a = b := by
        have ha := h (key a)
        have hb := h (key b)
        simp only [find?, if_true] at ha hb
        by_cases hk : key b = key a
        · simpa [hk] using ha
        · rw [if_neg hk] at ha
          rw [if_neg (Ne.symm hk)] at hb
          have h1 : key b < key a := h₂.head_lt (mem_of_find?_eq_some ha.symm)
          have h2 : key a < key b := h₁.head_lt (mem_of_find?_eq_some hb)
          exact absurd (String.lt_trans h1 h2) (String.lt_irrefl _)
      subst hab
      congr 1
      refine ih h₁.tail h₂.tail fun name => ?_
      by_cases hn : key a = name
      · subst hn
        rw [h₁.find?_head, h₂.find?_head]
      · simpa [find?, hn] using h name

/-- Inserting an entry that is there already changes nothing. -/
theorem Sorted.insert_eq_self {entries : List α} (h : Sorted key entries) {a : α}
    (ha : find? key (key a) entries = some a) : Ordered.insert key a entries = entries := by
  refine (h.insert a).ext h fun name => ?_
  rw [find?_insert]
  split
  · next hname => rw [← hname, ha]
  · rfl

theorem Sorted.forall_mem_insert {entries : List α} (h : Sorted key entries) {a : α} {P : α → Prop} :
    (∀ x ∈ Ordered.insert key a entries, P x) ↔ P a ∧ ∀ x ∈ entries, key x ≠ key a → P x := by
  constructor
  · intro hall
    refine ⟨hall a (mem_insert_self a entries), fun x hx hne => hall x ?_⟩
    have hfound := h.find?_of_mem hx
    rw [← find?_insert_of_ne key a hne.symm] at hfound
    exact mem_of_find?_eq_some hfound
  · rintro ⟨ha, hrest⟩ x hx
    have hfound := (h.insert a).find?_of_mem hx
    rw [find?_insert] at hfound
    split at hfound
    · cases hfound
      exact ha
    · next hne => exact hrest x (mem_of_find?_eq_some hfound) (Ne.symm hne)

/-! ## Inserting a whole list -/

/-- Entries of different names come before those that were there. -/
theorem find?_foldl_insert {entries : List α} (h : (entries.map key).Nodup) (collected : List α) (name : String) :
    find? key name (entries.foldl (fun known a => Ordered.insert key a known) collected) =
      (find? key name entries).or (find? key name collected) := by
  induction entries generalizing collected with
  | nil => simp [find?]
  | cons a rest ih =>
    obtain ⟨hnew, hrest⟩ := List.nodup_cons.1 h
    rw [List.foldl_cons, ih hrest, find?_insert]
    by_cases ha : key a = name
    · subst ha
      have hnone : find? key (key a) rest = none :=
        find?_eq_none_iff.2 fun b hb heq => hnew (heq ▸ List.mem_map_of_mem hb)
      simp [find?, hnone]
    · simp [find?, ha]

theorem Sorted.find?_foldl_insert {entries : List α} (h : Sorted key entries) (collected : List α)
    (name : String) :
    find? key name (entries.foldl (fun known a => Ordered.insert key a known) collected) =
      (find? key name entries).or (find? key name collected) :=
  Ordered.find?_foldl_insert h.nodup collected name

theorem find?_ofList {entries : List α} (h : (entries.map key).Nodup) (name : String) :
    find? key name (ofList key entries) = find? key name entries := by
  rw [ofList, find?_foldl_insert h]
  simp [find?]

theorem Sorted.ofList_eq_self {entries : List α} (h : Sorted key entries) :
    Ordered.ofList key entries = entries := by
  have hsorted : Sorted key (Ordered.ofList key entries) := .ofList key entries
  refine hsorted.ext h fun name => ?_
  rw [Ordered.ofList, h.find?_foldl_insert]
  simp [find?]

theorem mem_foldl_insert {x : α} {entries collected : List α}
    (h : x ∈ entries.foldl (fun known a => insert key a known) collected) :
    x ∈ entries ∨ x ∈ collected := by
  induction entries generalizing collected with
  | nil => exact .inr h
  | cons a rest ih =>
    rcases ih h with h | h
    · exact .inl (List.mem_cons_of_mem _ h)
    · rcases mem_insert h with rfl | h
      · exact .inl List.mem_cons_self
      · exact .inr h

theorem mem_ofList {x : α} {entries : List α} (h : x ∈ ofList key entries) : x ∈ entries := by
  simpa using mem_foldl_insert h

/-! ## Names -/

/-- If each step adds the name of its entry, a fold adds the names of all entries. -/
theorem mem_names_foldl {β : Type} (names : β → List String) {step : β → α → β}
    (hstep : ∀ known a name, name ∈ names (step known a) ↔ name = key a ∨ name ∈ names known) {entries : List α}
    {known : β} {name : String} :
    name ∈ names (entries.foldl step known) ↔ name ∈ entries.map key ∨ name ∈ names known := by
  induction entries generalizing known with
  | nil => simp
  | cons a rest ih =>
    rw [List.foldl_cons, ih, hstep, List.map_cons, List.mem_cons, or_left_comm, or_assoc]

theorem mem_names_insert {a : α} {name : String} {entries : List α} :
    name ∈ (insert key a entries).map key ↔ name = key a ∨ name ∈ entries.map key := by
  rw [mem_map_key_iff, mem_map_key_iff, find?_insert]
  by_cases h : key a = name
  · simp [h]
  · simp [h, Ne.symm h]

theorem mem_names_ofList {name : String} {entries : List α} :
    name ∈ (ofList key entries).map key ↔ name ∈ entries.map key := by
  have hstep : ∀ (known : List α) a listed,
      listed ∈ (insert key a known).map key ↔ listed = key a ∨ listed ∈ known.map key :=
    fun _ _ _ => mem_names_insert
  rw [ofList, mem_names_foldl (List.map key) hstep]
  simp

/-! ## Collections with the same names -/

/-- Names that all occur in a list that is no longer are all the names of that list. -/
theorem perm_names {β : Type} {key' : β → String} {first : List α} {second : List β}
    (h : (first.map key).Nodup) (hsub : ∀ a ∈ first, key a ∈ second.map key') (hlen : second.length ≤ first.length) :
    (first.map key).Perm (second.map key') := by
  have hsubset : first.map key ⊆ second.map key' := fun name hname => by
    obtain ⟨a, ha, rfl⟩ := List.mem_map.1 hname
    exact hsub a ha
  exact (List.subperm_of_subset h hsubset).perm_of_length_le (by simpa using hlen)

theorem rel_swap {β : Type} {r : α → β → Prop} {x : Option α} {y : Option β} :
    Option.Rel (fun b a => r a b) y x ↔ Option.Rel r x y := by
  cases x <;> cases y <;> simp

/-- A relation that is symmetric at the entry found here is so of what is found on both sides. -/
theorem rel_symm {r : α → α → Prop} {x y : Option α} (hr : ∀ a, x = some a → ∀ b, r a b → r b a)
    (h : Option.Rel r x y) : Option.Rel r y x := by
  cases h with
  | none => exact .none
  | some h => exact .some (hr _ rfl _ h)

/-- A relation that is transitive from the entry found here is so of what is found on all sides. -/
theorem rel_trans {r : α → α → Prop} {x y z : Option α} (hr : ∀ a, x = some a → ∀ b c, r a b → r b c → r a c)
    (hxy : Option.Rel r x y) (hyz : Option.Rel r y z) : Option.Rel r x z := by
  cases hxy with
  | none => exact hyz
  | some hab =>
    cases hyz with
    | some hbc => exact .some (hr _ rfl _ _ hab hbc)

theorem rel_some_left_iff {β : Type} {r : α → β → Prop} {a : α} {y : Option β} :
    Option.Rel r (some a) y ↔ ∃ b, y = some b ∧ r a b := by
  constructor
  · rintro ⟨h⟩
    exact ⟨_, rfl, h⟩
  · rintro ⟨b, rfl, h⟩
    exact .some h

theorem rel_some_right_iff {β : Type} {r : α → β → Prop} {x : Option α} {b : β} :
    Option.Rel r x (some b) ↔ ∃ a, x = some a ∧ r a b := by
  constructor
  · rintro ⟨h⟩
    exact ⟨_, rfl, h⟩
  · rintro ⟨a, rfl, h⟩
    exact .some h

/-- Two collections of the same size, each entry of the first of which is related to one of the same name, agree
name by name. -/
theorem forall_rel_iff {β : Type} {key' : β → String} {r : α → β → Prop} {first : List α} {second : List β}
    (h₁ : (first.map key).Nodup) (h₂ : (second.map key').Nodup) :
    (∀ name, Option.Rel r (find? key name first) (find? key' name second)) ↔
      first.length = second.length ∧ ∀ a ∈ first, ∃ b, find? key' (key a) second = some b ∧ r a b := by
  constructor
  · intro h
    have hmem : ∀ name, name ∈ first.map key ↔ name ∈ second.map key' := by
      intro name
      rw [mem_map_key_iff, mem_map_key_iff]
      have hname := h name
      generalize find? key name first = x at hname ⊢
      generalize find? key' name second = y at hname ⊢
      cases hname <;> simp
    have hperm : (first.map key).Perm (second.map key') := (List.perm_ext_iff_of_nodup h₁ h₂).2 hmem
    refine ⟨by simpa using hperm.length_eq, fun a ha => ?_⟩
    have hrel := h (key a)
    rwa [find?_of_mem_of_nodup h₁ ha, rel_some_left_iff] at hrel
  · rintro ⟨hlen, hall⟩ name
    have hsub : ∀ a ∈ first, key a ∈ second.map key' := fun a ha => by
      obtain ⟨b, hb, -⟩ := hall a ha
      rw [mem_map_key_iff, hb]
      simp
    have hperm := perm_names h₁ hsub (Nat.le_of_eq hlen.symm)
    cases ha : find? key name first with
    | some a =>
      obtain rfl : key a = name := key_of_find?_eq_some ha
      obtain ⟨b, hb, hr⟩ := hall a (mem_of_find?_eq_some ha)
      rw [hb]
      exact .some hr
    | none =>
      have hnone : find? key' name second = none := by
        by_contra hne
        exact mem_map_key_iff.1 (hperm.mem_iff.2 (mem_map_key_iff.2 hne)) ha
      rw [hnone]
      exact .none

end ScadaBridge.Ordered
