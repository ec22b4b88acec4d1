import Mathlib.Data.List.Induction
import Mathlib.Data.List.Nodup
import ScadaBridge.Definitions

/-!
# The registered definitions

A definition is registered under its key: its definition name, for which the name of the metric stands in,
and its version. The keys of a registry stand in the order of their first registration, none of them twice
(`keys_registerAll`); a definition is found at the place of its key (`lookup?_eq_some_iff`), and what stands there
is the latest definition of that key (`get?_registerAll`). `registerAll_represents` says all of this of every
sequence of registrations.

The bridge looks definitions up by searching them. A registry that keeps an index of the keys beside the
definitions holds and finds the same (`IndexedDefinitions.Mirrors`).
-/

namespace ScadaBridge

namespace Udt

/-- The name and version under which a definition is registered. -/
def key (u : Udt) : String × String :=
  (if u.head.definition = "" then u.head.label.name else u.head.definition, u.head.version)

/-- The UDT as it is registered: a definition without a handle, under the name of its key. -/
def registered (u : Udt) : Udt :=
  ⟨{ u.head with isDefinition := true, handle := none, definition := u.key.1 }, u.children⟩

end Udt

namespace Definitions

/-- The definitions after further ones were registered. -/
def registerAll (definitions : Definitions) (announced : List Udt) : Definitions :=
  announced.foldl (fun known u => (known.register u).1) definitions

/-- The names and versions of the definitions. -/
def keys (d : Definitions) : List (String × String) :=
  d.entries.map fun u => (u.head.definition, u.head.version)

theorem lookup?_eq_idxOf? (d : Definitions) (name version : String) :
    d.lookup? name version = d.keys.idxOf? (name, version) := by
  have hcalled : isCalled name version =
      (· == (name, version)) ∘ fun u : Udt => (u.head.definition, u.head.version) := rfl
  rw [lookup?, hcalled, ← List.findIdx?_map]
  rfl

/-- Where no key stands twice, a definition is found at the place of its key. -/
theorem lookup?_eq_some_iff {d : Definitions} (h : d.keys.Nodup) {name version : String} {index : Nat} :
    d.lookup? name version = some index ↔ d.keys[index]? = some (name, version) := by
  rw [lookup?_eq_idxOf?, List.idxOf?_eq_some_iff, List.getElem?_eq_some_iff]
  refine ⟨fun ⟨hlt, hkey, _⟩ => ⟨hlt, hkey⟩, fun ⟨hlt, hkey⟩ => ⟨hlt, hkey, fun j hj hsame => ?_⟩⟩
  have heq : j = index := (List.Nodup.getElem_inj_iff h).1 (hsame.trans hkey.symm)
  omega

theorem idxOf?_concat {listed : List (String × String)} {added : String × String} (h : added ∉ listed)
    (key : String × String) :
    (listed ++ [added]).idxOf? key = if key = added then some listed.length else listed.idxOf? key := by
  have hsplit : (listed ++ [added]).idxOf? key =
      (listed.idxOf? key).or (([added].idxOf? key).map fun i => i + listed.length) := List.findIdx?_append
  rw [hsplit]
  by_cases hkey : key = added
  · subst hkey
    simp [List.idxOf?_eq_none_iff.2 h, List.idxOf?_cons]
  · simp [hkey, List.idxOf?_cons, Ne.symm hkey]

/-! ## One registration -/

/-- A known key keeps its place, where the definition is replaced; an unknown one gets the next place. -/
theorem register_eq (d : Definitions) (u : Udt) :
    d.register u =
      match d.keys.idxOf? u.key with
      | some index => (⟨d.entries.set index u.registered⟩, index)
      | none => (⟨d.entries ++ [u.registered]⟩, d.entries.length) := by
  have hkey : u.key = (u.head.asDefinition.definition, u.head.asDefinition.version) := rfl
  rw [hkey, ← lookup?_eq_idxOf?]
  rfl

theorem keys_register (d : Definitions) (u : Udt) :
    (d.register u).1.keys = if u.key ∈ d.keys then d.keys else d.keys ++ [u.key] := by
  rw [register_eq]
  cases hplace : d.keys.idxOf? u.key with
  | none =>
    rw [if_neg (List.idxOf?_eq_none_iff.1 hplace)]
    simp [keys, Udt.registered, Udt.key]
  | some index =>
    obtain ⟨hlt, hkey, -⟩ := List.idxOf?_eq_some_iff.1 hplace
    rw [if_pos (hkey ▸ List.getElem_mem hlt)]
    calc (d.entries.set index u.registered).map (fun u => (u.head.definition, u.head.version))
        = d.keys.set index u.key := List.map_set
      _ = d.keys.set index d.keys[index] := by rw [hkey]
      _ = d.keys := List.set_getElem_self hlt

/-- The answer to a registration is the place of its key. -/
theorem getElem?_keys_register (d : Definitions) (u : Udt) :
    (d.register u).1.keys[(d.register u).2]? = some u.key := by
  rw [keys_register, register_eq]
  cases hplace : d.keys.idxOf? u.key with
  | none =>
    rw [if_neg (List.idxOf?_eq_none_iff.1 hplace)]
    simp [keys]
  | some index =>
    obtain ⟨hlt, hkey, -⟩ := List.idxOf?_eq_some_iff.1 hplace
    rw [if_pos (hkey ▸ List.getElem_mem hlt)]
    exact List.getElem?_eq_some_iff.2 ⟨hlt, hkey⟩

/-- A registration puts the definition at its place and leaves the others alone. -/
theorem get?_register (d : Definitions) (u : Udt) (index : Nat) :
    (d.register u).1.get? index = if index = (d.register u).2 then some u.registered else d.get? index := by
  rw [register_eq]
  cases hplace : d.keys.idxOf? u.key with
  | none =>
    show (d.entries ++ [u.registered])[index]? =
      if index = d.entries.length then some u.registered else d.entries[index]?
    rw [List.getElem?_append]
    grind
  | some known =>
    obtain ⟨hlt, -, -⟩ := List.idxOf?_eq_some_iff.1 hplace
    have hbound : known < d.entries.length := by simpa [keys] using hlt
    show (d.entries.set known u.registered)[index]? =
      if index = known then some u.registered else d.entries[index]?
    rw [List.getElem?_set]
    simp [hbound, eq_comm]

/-! ## Sequences of registrations -/

theorem registerAll_append (d : Definitions) (before after : List Udt) :
    d.registerAll (before ++ after) = (d.registerAll before).registerAll after := List.foldl_append

theorem registerAll_cons (d : Definitions) (u : Udt) (after : List Udt) :
    d.registerAll (u :: after) = (d.register u).1.registerAll after := rfl

/-- A key stays at its place. -/
theorem getElem?_keys_registerAll {d : Definitions} {key : String × String} {index : Nat}
    (h : d.keys[index]? = some key) (announced : List Udt) :
    (d.registerAll announced).keys[index]? = some key := by
  induction announced generalizing d with
  | nil => exact h
  | cons u rest ih =>
    refine ih ?_
    obtain ⟨hlt, -⟩ := List.getElem?_eq_some_iff.1 h
    rw [keys_register]
    split
    · exact h
    · rw [List.getElem?_append_left hlt, h]

/-- What stands at the place of a key stays there as long as nothing is registered under that key. -/
theorem get?_registerAll {d : Definitions} {key : String × String} {index : Nat} (h : d.keys[index]? = some key)
    {announced : List Udt} (others : ∀ u ∈ announced, u.key ≠ key) :
    (d.registerAll announced).get? index = d.get? index := by
  induction announced generalizing d with
  | nil => rfl
  | cons u rest ih =>
    obtain ⟨hu, hrest⟩ := List.forall_mem_cons.1 others
    have hkept : (d.register u).1.keys[index]? = some key := getElem?_keys_registerAll h [u]
    have hne : index ≠ (d.register u).2 := by
      rintro rfl
      rw [getElem?_keys_register] at hkept
      exact hu (Option.some.inj hkept)
    calc ((d.register u).1.registerAll rest).get? index
        = (d.register u).1.get? index := ih hkept hrest
      _ = d.get? index := by rw [get?_register, if_neg hne]

theorem eraseDups_concat (listed : List (String × String)) (key : String × String) :
    (listed ++ [key]).eraseDups =
      if key ∈ listed.eraseDups then listed.eraseDups else listed.eraseDups ++ [key] := by
  rw [List.eraseDups_append]
  by_cases h : key ∈ listed
  · rw [if_pos (List.mem_eraseDups.2 h)]
    simp [List.removeAll, h]
  · rw [if_neg fun hmem => h (List.mem_eraseDups.1 hmem)]
    simp [List.removeAll, h, List.eraseDups_cons]

/-- No key stands twice. -/
theorem nodup_keys_registerAll {d : Definitions} (h : d.keys.Nodup) (announced : List Udt) :
    (d.registerAll announced).keys.Nodup := by
  induction announced generalizing d with
  | nil => exact h
  | cons u rest ih =>
    refine ih ?_
    rw [keys_register]
    split
    · exact h
    · next hnew => simpa [List.concat_eq_append] using List.Nodup.concat hnew h

/-- The keys stand in the order of their first registration. -/
theorem keys_registerAll (announced : List Udt) :
    (empty.registerAll announced).keys = (announced.map Udt.key).eraseDups := by
  induction announced using List.reverseRecOn with
  | nil => rfl
  | append_singleton before u ih =>
    have hlast : empty.registerAll (before ++ [u]) = ((empty.registerAll before).register u).1 :=
      registerAll_append _ _ _
    rw [hlast, keys_register, ih, List.map_append, List.map_singleton, eraseDups_concat]

theorem lookup?_registerAll_eq_some_iff {announced : List Udt} {name version : String} {index : Nat} :
    (empty.registerAll announced).lookup? name version = some index ↔
      (empty.registerAll announced).keys[index]? = some (name, version) := by
  have hempty : empty.keys.Nodup := List.nodup_nil
  exact lookup?_eq_some_iff (nodup_keys_registerAll hempty announced)

/-- A registration is answered with the place at which its key is found ever after. -/
theorem lookup?_registerAll (before : List Udt) (u : Udt) (after : List Udt) :
    (empty.registerAll (before ++ u :: after)).lookup? u.key.1 u.key.2 =
      some ((empty.registerAll before).register u).2 := by
  rw [lookup?_registerAll_eq_some_iff, registerAll_append]
  exact getElem?_keys_registerAll (getElem?_keys_register _ u) after

end Definitions

/-! ## An index beside the definitions -/

/-- A registry that finds definitions by an index of their keys. -/
structure IndexedDefinitions where
  /-- The keys with their places. -/
  index : List ((String × String) × Nat)
  /-- The definitions in the order of their first registration. -/
  entries : List Udt

namespace IndexedDefinitions

def empty : IndexedDefinitions := ⟨[], []⟩

def lookup? (r : IndexedDefinitions) (name version : String) : Option Nat := r.index.lookup (name, version)

/-- The index is asked for the place; a key that it does not have gets the next one. -/
def register (r : IndexedDefinitions) (u : Udt) : IndexedDefinitions × Nat :=
  let u' : Udt := { u with head := u.head.asDefinition }
  let key := (u'.head.definition, u'.head.version)
  match r.index.lookup key with
  | some place => ({ r with entries := r.entries.set place u' }, place)
  | none => (⟨(key, r.entries.length) :: r.index, r.entries ++ [u']⟩, r.entries.length)

def registerAll (r : IndexedDefinitions) (announced : List Udt) : IndexedDefinitions :=
  announced.foldl (fun known u => (known.register u).1) r

theorem register_eq (r : IndexedDefinitions) (u : Udt) :
    r.register u =
      match r.index.lookup u.key with
      | some place => ({ r with entries := r.entries.set place u.registered }, place)
      | none => (⟨(u.key, r.entries.length) :: r.index, r.entries ++ [u.registered]⟩, r.entries.length) := rfl

/-- The index leads to the places at which the definitions are found without it. -/
structure Mirrors (r : IndexedDefinitions) (d : Definitions) : Prop where
  entries : r.entries = d.entries
  index : ∀ name version, r.lookup? name version = d.lookup? name version

/-- A registration keeps the index right and is answered as without it. -/
theorem Mirrors.register {r : IndexedDefinitions} {d : Definitions} (h : r.Mirrors d) (u : Udt) :
    (r.register u).1.Mirrors (d.register u).1 ∧ (r.register u).2 = (d.register u).2 := by
  have hlookup : ∀ key, r.index.lookup key = d.keys.idxOf? key := fun (name, version) =>
    (h.index name version).trans (Definitions.lookup?_eq_idxOf? d name version)
  have hkeys := Definitions.keys_register d u
  rw [Definitions.register_eq] at hkeys ⊢
  rw [IndexedDefinitions.register_eq, hlookup, h.entries]
  cases hplace : d.keys.idxOf? u.key with
  | some place =>
    have hknown : u.key ∈ d.keys := List.isSome_idxOf?.1 (by rw [hplace]; rfl)
    rw [hplace, if_pos hknown] at hkeys
    refine ⟨⟨rfl, fun name version => ?_⟩, rfl⟩
    rw [Definitions.lookup?_eq_idxOf?, hkeys]
    exact hlookup (name, version)
  | none =>
    have hnew : u.key ∉ d.keys := List.idxOf?_eq_none_iff.1 hplace
    rw [hplace, if_neg hnew] at hkeys
    refine ⟨⟨rfl, fun name version => ?_⟩, rfl⟩
    have hlength : d.keys.length = d.entries.length := List.length_map _
    rw [Definitions.lookup?_eq_idxOf?, hkeys, Definitions.idxOf?_concat hnew, hlength, ← hlookup]
    show List.lookup (name, version) ((u.key, d.entries.length) :: r.index) = _
    rw [List.lookup_cons]
    by_cases hkey : (name, version) = u.key
    · rw [if_pos hkey, beq_iff_eq.2 hkey]
    · rw [if_neg hkey, beq_eq_false_iff_ne.2 hkey]

theorem Mirrors.registerAll {r : IndexedDefinitions} {d : Definitions} (h : r.Mirrors d) (announced : List Udt) :
    (r.registerAll announced).Mirrors (d.registerAll announced) := by
  induction announced generalizing r d with
  | nil => exact h
  | cons u rest ih => exact ih (h.register u).1

end IndexedDefinitions

/-! ## After any sequence of registrations -/

namespace Definitions

/-- What a registry holds after definitions were registered in an empty one, one after the other. -/
structure Represents (d : Definitions) (announced : List Udt) : Prop where
  /-- Exactly the keys that were registered are found. -/
  known : ∀ name version,
    (∃ index, d.lookup? name version = some index) ↔ ∃ u ∈ announced, u.key = (name, version)
  /-- Every registration, the first of its key or a later one, was answered with the place of the key. -/
  answered : ∀ before u after, announced = before ++ u :: after →
    d.lookup? u.key.1 u.key.2 = some ((empty.registerAll before).register u).2
  /-- The place that a key had at any time is the one that it has. -/
  stable : ∀ before after, announced = before ++ after → ∀ name version index,
    (empty.registerAll before).lookup? name version = some index → d.lookup? name version = some index
  /-- Different keys have different places. -/
  distinct : ∀ name version name' version' index, d.lookup? name version = some index →
    d.lookup? name' version' = some index → name = name' ∧ version = version'
  /-- The places are the numbers below the number of definitions. -/
  used : ∀ index, (∃ name version, d.lookup? name version = some index) ↔ index < d.entries.length
  /-- At the place of a key stands what was registered last under it. -/
  latest : ∀ before u after, announced = before ++ u :: after → (∀ later ∈ after, later.key ≠ u.key) →
    ∃ index, d.lookup? u.key.1 u.key.2 = some index ∧ d.get? index = some u.registered
  /-- There is one definition for each key, in the order of first registration. -/
  listed : d.entries.map (fun u => (u.head.definition, u.head.version)) = (announced.map Udt.key).eraseDups

theorem registerAll_represents (announced : List Udt) :
    (empty.registerAll announced).Represents announced ∧
      (IndexedDefinitions.empty.registerAll announced).Mirrors (empty.registerAll announced) := by
  have hempty : IndexedDefinitions.empty.Mirrors empty := ⟨rfl, fun _ _ => rfl⟩
  refine ⟨⟨?known, ?answered, ?stable, ?distinct, ?used, ?latest, keys_registerAll announced⟩,
    hempty.registerAll announced⟩
  case known =>
    intro name version
    rw [← Option.isSome_iff_exists, lookup?_eq_idxOf?, List.isSome_idxOf?, keys_registerAll, List.mem_eraseDups,
      List.mem_map]
  case answered =>
    rintro before u after rfl
    exact lookup?_registerAll before u after
  case stable =>
    rintro before after rfl name version index h
    rw [lookup?_registerAll_eq_some_iff] at h ⊢
    rw [registerAll_append]
    exact getElem?_keys_registerAll h after
  case distinct =>
    intro name version name' version' index h h'
    rw [lookup?_registerAll_eq_some_iff] at h h'
    exact Prod.mk.inj (Option.some.inj (h.symm.trans h'))
  case used =>
    intro index
    have hlength : (empty.registerAll announced).keys.length = (empty.registerAll announced).entries.length :=
      List.length_map _
    simp only [lookup?_registerAll_eq_some_iff, ← hlength]
    constructor
    · rintro ⟨name, version, h⟩
      exact (List.getElem?_eq_some_iff.1 h).1
    · intro h
      exact ⟨_, _, List.getElem?_eq_getElem h⟩
  case latest =>
    rintro before u after rfl others
    refine ⟨_, lookup?_registerAll before u after, ?_⟩
    rw [registerAll_append, registerAll_cons, get?_registerAll (getElem?_keys_register _ u) others, get?_register,
      if_pos rfl]

end Definitions

end ScadaBridge
