import ScadaBridge.Json.Record
import ScadaBridge.Proofs.Number.Binary
import ScadaBridge.Proofs.Ordered

/-!
# Records and their values

The value that a document stands for keeps, of an object without repeated names, what is found under each name
(`Json.member?_canonicalMembers`). So the fields of a record are read from the value as they were written, in
whatever order its members stand there: a document carries a record if it carries the fields
(`Json.Carries.record`).
-/

namespace ScadaBridge.Json

/-! ## Numbers -/

theorem natBelow?_ofNat {n bound : Nat} (h : n < bound) : (ofNat n).natBelow? bound = some n := by
  simp [ofNat, natBelow?, int?, h]

theorem uint64?_ofNat (n : UInt64) : (ofNat n.toNat).uint64? = some n := by
  unfold uint64?
  rw [natBelow?_ofNat n.toNat_lt, Option.map_some, UInt64.ofNat_toNat]

theorem uint32?_ofNat (n : UInt32) : (ofNat n.toNat).uint32? = some n := by
  unfold uint32?
  rw [natBelow?_ofNat n.toNat_lt, Option.map_some, UInt32.ofNat_toNat]

/-! ## Members -/

theorem member?_eq_find? (name : String) (members : List (String × Json)) :
    member? name members = (Ordered.find? Prod.fst name members).map Prod.snd := by
  induction members with
  | nil => rfl
  | cons m rest ih =>
    by_cases hname : m.1 = name
    · simp [member?, Ordered.find?, hname]
    · simp [member?, Ordered.find?, hname, ih]

@[simp] theorem member?_append (name : String) (first second : List (String × Json)) :
    member? name (first ++ second) = (member? name first).or (member? name second) := by
  rw [member?_eq_find?, Ordered.find?_append, member?_eq_find?, member?_eq_find?]
  cases Ordered.find? Prod.fst name first <;> rfl

/-- A member whose document is changed by its name is found changed. -/
theorem member?_map (f : String → Json → Json) (name : String) (members : List (String × Json)) :
    member? name (members.map fun m => (m.1, f m.1 m.2)) = (member? name members).map (f name) := by
  induction members with
  | nil => rfl
  | cons m rest ih =>
    rw [List.map_cons, member?, member?]
    split
    · next hname => rw [hname, Option.map_some]
    · exact ih

/-- The document with another member in the place of that of a name. -/
def setMember (j : Json) (name : String) (value : Json) : Json :=
  match j with
  | .obj members => .obj (members.map fun m => (m.1, if m.1 = name then value else m.2))
  | j => j

theorem get?_setMember (j : Json) (name : String) (value : Json) (asked : String) :
    (j.setMember name value).get? asked = (j.get? asked).map fun old => if asked = name then value else old := by
  cases j with
  | obj members => exact member?_map (fun key old => if key = name then value else old) asked members
  | _ => rfl

theorem hasRepeat_of_nodup {members : Fields} (h : (members.map Prod.fst).Nodup) : hasRepeat members = false := by
  induction members with
  | nil => rfl
  | cons m rest ih =>
    obtain ⟨hnew, hrest⟩ := List.nodup_cons.1 h
    simp only [hasRepeat, ih hrest, Bool.or_false, List.any_eq_false, beq_iff_eq]
    intro other hother heq
    exact hnew (heq ▸ List.mem_map_of_mem hother)

/-! ## Depth -/

theorem depth_le_of_member? {name : String} {j : Json} {members : List (String × Json)}
    (h : member? name members = some j) : j.depth ≤ depthMembers members := by
  induction members with
  | nil => simp [member?] at h
  | cons m rest ih =>
    rw [depthMembers]
    unfold member? at h
    split at h
    · cases h
      exact Nat.le_max_left _ _
    · exact Nat.le_trans (ih h) (Nat.le_max_right _ _)

/-! ## Values of documents -/

@[simp] theorem canonical_str (s : String) : canonical (.str s) = some (.str s) := rfl

@[simp] theorem canonical_bool (b : Bool) : canonical (.bool b) = some (.bool b) := rfl

@[simp] theorem canonical_ofNat (n : Nat) : canonical (ofNat n) = some (ofNat n) := rfl

theorem exists_canonicalMembers {members : List (String × Json)}
    (h : ∀ m ∈ members, ∃ j, canonical m.2 = some j) : ∃ values, canonicalMembers members = some values := by
  induction members with
  | nil => exact ⟨[], rfl⟩
  | cons m rest ih =>
    obtain ⟨hm, hrest⟩ := List.forall_mem_cons.1 h
    obtain ⟨j, hj⟩ := hm
    obtain ⟨values, hvalues⟩ := ih hrest
    exact ⟨(m.1, j) :: values, by simp [canonicalMembers, hj, hvalues]⟩

theorem canonicalMembers_cons_eq_some {m : String × Json} {rest values : List (String × Json)}
    (h : canonicalMembers (m :: rest) = some values) :
    ∃ j more, canonical m.2 = some j ∧ canonicalMembers rest = some more ∧ values = (m.1, j) :: more := by
  unfold canonicalMembers at h
  split at h
  · next j more hj hmore => exact ⟨j, more, hj, hmore, (Option.some.inj h).symm⟩
  · simp at h

theorem map_fst_canonicalMembers {members values : List (String × Json)} (h : canonicalMembers members = some values) :
    values.map Prod.fst = members.map Prod.fst := by
  induction members generalizing values with
  | nil =>
    cases h
    rfl
  | cons m rest ih =>
    obtain ⟨j, more, -, hmore, rfl⟩ := canonicalMembers_cons_eq_some h
    rw [List.map_cons, List.map_cons, ih hmore]

/-- Under each name stands the value of what was written there. -/
theorem member?_canonicalMembers {members values : List (String × Json)} (h : canonicalMembers members = some values)
    (name : String) : member? name values = (member? name members).bind canonical := by
  induction members generalizing values with
  | nil =>
    cases h
    rfl
  | cons m rest ih =>
    obtain ⟨j, more, hj, hmore, rfl⟩ := canonicalMembers_cons_eq_some h
    by_cases hname : m.1 = name
    · simp [member?, hname, hj]
    · simp [member?, hname, ih hmore]

theorem canonical_alternative {name : String} {written tree : Json} (h : canonical written = some tree) :
    canonical (.obj [(name, written)]) = some (.obj [(name, tree)]) := by
  simp [canonical, canonicalMembers, h, Ordered.ofList, Ordered.insert]

/-! ## Reading back

Readers are told how deep they may look, and have to succeed at every bound that is no less than the depth of
the value. So the reader of a record can hand its own bound on to the readers of the fields. -/

/-- From the value that the document stands for, `reader` reads `a`. -/
def Carries {α : Type} (reader : Nat → Json → Option α) (written : Json) (a : α) : Prop :=
  ∃ tree, canonical written = some tree ∧ ∀ levels, tree.depth ≤ levels → reader levels tree = some a

theorem carries_str (s : String) : Carries (fun _ => text?) (.str s) s := ⟨.str s, rfl, fun _ _ => rfl⟩

theorem carries_bool (b : Bool) : Carries (fun _ => bool?) (.bool b) b := ⟨.bool b, rfl, fun _ _ => rfl⟩

theorem carries_uint32 (n : UInt32) : Carries (fun _ => uint32?) (ofNat n.toNat) n :=
  ⟨ofNat n.toNat, rfl, fun _ _ => uint32?_ofNat n⟩

theorem carries_uint64 (n : UInt64) : Carries (fun _ => uint64?) (ofNat n.toNat) n :=
  ⟨ofNat n.toNat, rfl, fun _ _ => uint64?_ofNat n⟩

/-- A finite number of single precision is widened in the value, and narrowed back exactly. -/
theorem carries_single {bits : UInt32} (finite : BinaryFormat.single.isFinite bits.toNat = true) :
    Carries (fun _ => single?) (.num (.single bits)) bits :=
  ⟨.num (.double (BinaryFormat.widen bits)), by simp [canonical, ofSingle, finite],
    fun _ _ => congrArg some (BinaryFormat.narrow_widen finite)⟩

theorem carries_double {bits : UInt64} (finite : BinaryFormat.double.isFinite bits.toNat = true) :
    Carries (fun _ => double?) (.num (.double bits)) bits :=
  ⟨.num (.double bits), by simp [canonical, ofDouble, finite], fun _ _ => rfl⟩

namespace Carries

variable {α : Type} {reader : Nat → Json → Option α} {written : Json} {a : α}

theorem exists_canonical (h : Carries reader written a) : ∃ tree, canonical written = some tree := by
  obtain ⟨tree, htree, -⟩ := h
  exact ⟨tree, htree⟩

/-- A reader that carries a document may look as deep as the value itself is. -/
theorem ofDepth (h : Carries reader written a) : Carries (fun _ j => reader j.depth j) written a := by
  obtain ⟨tree, htree, hread⟩ := h
  exact ⟨tree, htree, fun _ _ => hread _ (Nat.le_refl _)⟩

theorem exists_canonicalItems {toJson : α → Json} {items : List α}
    (h : ∀ a ∈ items, Carries reader (toJson a) a) :
    ∃ trees, canonicalItems (items.map toJson) = some trees ∧
      ∀ levels, depthItems trees ≤ levels → trees.mapM (reader levels) = some items := by
  induction items with
  | nil => exact ⟨[], rfl, fun _ _ => rfl⟩
  | cons a rest ih =>
    obtain ⟨ha, hrest⟩ := List.forall_mem_cons.1 h
    obtain ⟨tree, htree, hread⟩ := ha
    obtain ⟨trees, htrees, hreads⟩ := ih hrest
    refine ⟨tree :: trees, by simp [canonicalItems, htree, htrees], fun levels hlevels => ?_⟩
    rw [depthItems, Nat.max_le] at hlevels
    simp [hread levels hlevels.1, hreads levels hlevels.2]

theorem list {toJson : α → Json} {items : List α} (h : ∀ a ∈ items, Carries reader (toJson a) a) :
    Carries (fun levels => listOf? (reader levels)) (.arr (items.map toJson)) items := by
  obtain ⟨trees, htrees, hreads⟩ := exists_canonicalItems h
  refine ⟨.arr trees, by rw [canonical, htrees, Option.map_some], fun levels hlevels => ?_⟩
  exact hreads levels (Nat.le_of_succ_le hlevels)

end Carries

/-! ## Fields -/

/-- The fields hold the values of the members, none of them deeper than `levels`. -/
structure Fields.Hold (fields : Fields) (members : List (String × Json)) (levels : Nat) : Prop where
  value : ∀ name, member? name fields = (member? name members).bind canonical
  depth : ∀ name j, member? name fields = some j → j.depth ≤ levels

/-- A record carries what it holds, if this is read from fields that hold the values of its members. -/
theorem Carries.record {α : Type} {reader : Nat → Fields → Option α} {members : List (String × Json)}
    {names : List String} {a : α} (values : ∀ m ∈ members, ∃ j, canonical m.2 = some j)
    (known : (members.map Prod.fst).Sublist names) (nodup : names.Nodup)
    (read : ∀ fields levels, fields.Hold members levels → reader levels fields = some a) :
    Carries (fun levels j => (fields? .exact names j).bind (reader levels)) (.obj members) a := by
  obtain ⟨written, hwritten⟩ := exists_canonicalMembers values
  have hnames := map_fst_canonicalMembers hwritten
  have hnodup : (written.map Prod.fst).Nodup := hnames ▸ nodup.sublist known
  have hsorted : Ordered.Sorted Prod.fst (Ordered.ofList Prod.fst written) := .ofList _ _
  have hall : (Ordered.ofList Prod.fst written).filter (fun m => names.contains m.1) =
      Ordered.ofList Prod.fst written := by
    refine List.filter_eq_self.2 fun m hm => ?_
    have hmem : m.1 ∈ members.map Prod.fst := hnames ▸ List.mem_map_of_mem (Ordered.mem_ofList hm)
    simpa using known.subset hmem
  have hfields : fields? .exact names (.obj (Ordered.ofList Prod.fst written)) =
      some (Ordered.ofList Prod.fst written) := by
    simp only [fields?, hall, hasRepeat_of_nodup hsorted.nodup, Bool.false_eq_true, if_false]
  refine ⟨.obj (Ordered.ofList Prod.fst written), by rw [canonical, hwritten, Option.map_some],
    fun levels hlevels => ?_⟩
  simp only [hfields, Option.bind_some]
  refine read _ levels ⟨fun name => ?_, fun name j hj => ?_⟩
  · rw [member?_eq_find?, Ordered.find?_ofList hnodup, ← member?_eq_find?, member?_canonicalMembers hwritten]
  · exact Nat.le_trans (depth_le_of_member? hj) (Nat.le_of_succ_le hlevels)

namespace Fields.Hold

variable {α : Type} {fields : Fields} {members : List (String × Json)} {levels : Nat}
  {reader : Nat → Json → Option α} {written : Json} {a : α} (h : fields.Hold members levels) (name : String)

include h

theorem read (hmember : member? name members = some written) (hcarries : Carries reader written a) :
    ∃ j, member? name fields = some j ∧ reader levels j = some a := by
  obtain ⟨tree, htree, hread⟩ := hcarries
  have hfield : member? name fields = some tree := by rw [h.value, hmember, Option.bind_some, htree]
  exact ⟨tree, hfield, hread levels (h.depth name tree hfield)⟩

theorem absent (hmember : member? name members = none) : member? name fields = none := by
  rw [h.value, hmember, Option.bind_none]

theorem required (hmember : member? name members = some written) (hcarries : Carries reader written a) :
    fields.required name (reader levels) = some a := by
  obtain ⟨j, hj, hread⟩ := h.read name hmember hcarries
  rw [Fields.required, hj, Option.bind_some, hread]

theorem defaulted (hmember : member? name members = some written) (hcarries : Carries reader written a)
    (default : α) : fields.defaulted name (reader levels) default = some a := by
  obtain ⟨j, hj, hread⟩ := h.read name hmember hcarries
  simp only [Fields.defaulted, hj, hread]

theorem defaulted_absent (hmember : member? name members = none) (reader : Json → Option α) (default : α) :
    fields.defaulted name reader default = some default := by
  rw [Fields.defaulted, h.absent name hmember]

/-- An optional field comes back as it was, if its reader takes no null for a value. -/
theorem optional {toJson : α → Json} (field : Option α) (hmember : member? name members = field.map toJson)
    (hcarries : ∀ a, Carries reader (toJson a) a) (hnull : reader levels .null = none) :
    fields.optional name (reader levels) = some field := by
  cases field with
  | none => rw [Fields.optional, h.absent name hmember]
  | some a =>
    obtain ⟨j, hj, hread⟩ := h.read name hmember (hcarries a)
    rw [Fields.optional, hj]
    split
    · next heq => cases heq
    · next heq =>
      cases heq
      rw [hnull] at hread
      cases hread
    · next heq =>
      cases heq
      rw [hread, Option.map_some]

end Fields.Hold

end ScadaBridge.Json
