/-!
# Lists kept in the order of a name

Devices, metrics, parameters, applications and change sets are collections with one entry per name,
listed in ascending order of the name (by code points). They are plain lists; the name of an entry
is given by a function `key`. This module holds insertion and lookup.

The main statements: looking up the name just inserted finds the new entry
(`find?_insert_self`), looking up any other name finds what was there before
(`find?_insert_of_ne`), and insertion keeps the order (`Sorted.insert`).
-/

namespace ScadaBridge.Ordered

variable {α : Type}

/-- The entry called `name`. -/
def find? (key : α → String) (name : String) : List α → Option α
  | [] => none
  | a :: rest => if key a = name then some a else find? key name rest

def contains (key : α → String) (name : String) (entries : List α) : Bool :=
  (find? key name entries).isSome

/-- Adds an entry at its place, or puts it in the place of the entry of the same name. -/
def insert (key : α → String) (a : α) : List α → List α
  | [] => [a]
  | b :: rest =>
    if key a < key b then a :: b :: rest
    else if key a = key b then a :: rest
    else b :: insert key a rest

/-- The collection that holds the given entries; of two entries with one name the later stays. -/
def ofList (key : α → String) (entries : List α) : List α :=
  entries.foldl (fun collected a => insert key a collected) []

/-- Names ascend strictly, so no name occurs twice. -/
def Sorted (key : α → String) (entries : List α) : Prop :=
  entries.Pairwise fun a b => key a < key b

/-! ## Lookup after insertion -/

theorem find?_insert_self (key : α → String) (a : α) (entries : List α) :
    find? key (key a) (insert key a entries) = some a := by
  induction entries with
  | nil => simp [insert, find?]
  | cons b rest ih =>
    by_cases hlt : key a < key b
    · simp [insert, find?, hlt]
    · by_cases heq : key a = key b
      · simp [insert, find?, heq]
      · simp [insert, find?, hlt, heq, ih, Ne.symm heq]

theorem find?_insert_of_ne (key : α → String) (a : α) {name : String} (h : key a ≠ name)
    (entries : List α) : find? key name (insert key a entries) = find? key name entries := by
  induction entries with
  | nil => simp [insert, find?, h]
  | cons b rest ih =>
    by_cases hlt : key a < key b
    · simp [insert, find?, hlt, h]
    · by_cases heq : key a = key b
      · simp [insert, find?, ← heq, h]
      · simp [insert, find?, hlt, heq, ih]

theorem key_of_find?_eq_some {key : α → String} {name : String} {a : α} {entries : List α}
    (h : find? key name entries = some a) : key a = name := by
  induction entries with
  | nil => simp [find?] at h
  | cons b rest ih =>
    by_cases hb : key b = name
    · simp only [find?, hb, if_true, Option.some.injEq] at h
      exact h ▸ hb
    · exact ih (by simpa [find?, hb] using h)

theorem mem_of_find?_eq_some {key : α → String} {name : String} {a : α} {entries : List α}
    (h : find? key name entries = some a) : a ∈ entries := by
  induction entries with
  | nil => simp [find?] at h
  | cons b rest ih =>
    by_cases hb : key b = name
    · simp only [find?, hb, if_true, Option.some.injEq] at h
      exact h ▸ List.mem_cons_self
    · exact List.mem_cons_of_mem _ (ih (by simpa [find?, hb] using h))

/-! ## The order is kept -/

theorem mem_insert {key : α → String} {a x : α} {entries : List α}
    (h : x ∈ insert key a entries) : x = a ∨ x ∈ entries := by
  induction entries with
  | nil => simpa [insert] using h
  | cons b rest ih =>
    by_cases hlt : key a < key b
    · simpa [insert, hlt] using h
    · by_cases heq : key a = key b
      · have h' : x = a ∨ x ∈ rest := by simpa [insert, heq, String.lt_irrefl] using h
        exact h'.imp_right (List.mem_cons_of_mem _)
      · have h' : x = b ∨ x ∈ insert key a rest := by simpa [insert, hlt, heq] using h
        rcases h' with rfl | h'
        · exact .inr List.mem_cons_self
        · exact (ih h').imp_right (List.mem_cons_of_mem _)

theorem Sorted.insert {key : α → String} {entries : List α} (h : Sorted key entries) (a : α) :
    Sorted key (insert key a entries) := by
  induction entries with
  | nil => simp [Ordered.insert, Sorted]
  | cons b rest ih =>
    have hb : ∀ x ∈ rest, key b < key x := (List.pairwise_cons.1 h).1
    have hrest : Sorted key rest := (List.pairwise_cons.1 h).2
    by_cases hlt : key a < key b
    · simp only [Ordered.insert, hlt, if_true]
      refine List.pairwise_cons.2 ⟨fun x hx => ?_, h⟩
      rcases List.mem_cons.1 hx with rfl | hx
      · exact hlt
      · exact String.lt_trans hlt (hb x hx)
    · by_cases heq : key a = key b
      · have hins : Ordered.insert key a (b :: rest) = a :: rest := by
          simp [Ordered.insert, heq]
        rw [hins]
        exact List.pairwise_cons.2 ⟨fun x hx => heq ▸ hb x hx, hrest⟩
      · have hins : Ordered.insert key a (b :: rest) = b :: Ordered.insert key a rest := by
          simp [Ordered.insert, hlt, heq]
        have hba : key b < key a :=
          (Std.le_iff_lt_or_eq.1 (Std.not_lt.1 hlt)).resolve_right fun e => heq e.symm
        rw [hins]
        refine List.pairwise_cons.2 ⟨fun x hx => ?_, ih hrest⟩
        rcases mem_insert hx with rfl | hx
        · exact hba
        · exact hb x hx

theorem sorted_nil (key : α → String) : Sorted key [] := List.Pairwise.nil

theorem Sorted.ofList (key : α → String) (entries : List α) : Sorted key (ofList key entries) := by
  suffices h : ∀ collected : List α, Sorted key collected →
      Sorted key (entries.foldl (fun collected a => Ordered.insert key a collected) collected) from
    h [] (sorted_nil key)
  induction entries with
  | nil => exact fun _ h => h
  | cons a rest ih => exact fun collected h => ih _ (h.insert a)

end ScadaBridge.Ordered
