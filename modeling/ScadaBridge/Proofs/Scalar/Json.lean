import ScadaBridge.Proofs.Metric.WellFormed
import ScadaBridge.Proofs.Number.Binary
import ScadaBridge.Scalar.Json

/-!
# Values in JSON

A value that is neither NaN nor infinite is read back from its document (`ofJson_toJson`). Documents have
truth values, texts and integers of their own: a value of such a type is read from one document only, the
one that it is written as (`ofJson_exact`). So an integer is read from an integer in the range of its type, over
all numbers of 64 bits, signed or not, and never from a number with a point or an exponent.
-/

namespace ScadaBridge

/-! ## Documents of one kind -/

namespace Json

theorem bool?_eq_some_iff {j : Json} {b : Bool} : j.bool? = some b ↔ j = .bool b := by
  cases j <;> simp [bool?]

theorem text?_eq_some_iff {j : Json} {s : String} : j.text? = some s ↔ j = .str s := by
  cases j <;> simp [text?]

theorem int?_eq_some_iff {j : Json} {n : Int} : j.int? = some n ↔ j = .ofInt n := by
  cases j with
  | num x => cases x <;> simp [int?, ofInt]
  | _ => simp [int?, ofInt]

end Json

namespace Scalar

/-! ## Reading back -/

/-- Whether the value is neither NaN nor infinite. -/
def isFinite : Scalar → Bool
  | .float bits => BinaryFormat.single.isFinite bits.toNat
  | .double bits => BinaryFormat.double.isFinite bits.toNat
  | _ => true

theorem ofJson?_toJson {v : Scalar} (h : v ≠ .unknown) (finite : v.isFinite = true) :
    ofJson? v.dataType v.toJson = some v := by
  cases v with
  | integer kind n fits => exact ofInt?_eq_some fits
  | float bits =>
    have hnarrow := BinaryFormat.narrow_widen finite
    simp only [isFinite] at finite
    simp [ofJson?, dataType, toJson, Json.ofSingle, finite, Json.double?, hnarrow]
  | double bits =>
    simp only [isFinite] at finite
    simp [ofJson?, dataType, toJson, Json.ofDouble, finite, Json.double?]
  | unknown => exact absurd rfl h
  | boolean | text => rfl

theorem ofJson_toJson {v : Scalar} (h : v ≠ .unknown) (finite : v.isFinite = true) :
    ofJson v.dataType v.toJson = .ok v :=
  ofJson_eq_ok_iff.2 (ofJson?_toJson h finite)

theorem toJson_eq_null_iff {v : Scalar} (h : v ≠ .unknown) :
    v.toJson = .null ↔ v.isFinite = false := by
  cases v with
  | float bits => simp [toJson, Json.ofSingle, isFinite]
  | double bits => simp [toJson, Json.ofDouble, isFinite]
  | unknown => exact absurd rfl h
  | _ => simp [toJson, isFinite, Json.ofInt]

theorem toOption_ofJson_null (type : DataType) : (ofJson type .null).toOption = none := by
  cases type <;> rfl

end Scalar

/-! ## Values that documents have themselves -/

/-- The types whose values are written in JSON as they are: truth values, texts and integers. -/
inductive DataType.IsDiscrete : DataType → Prop where
  | boolean : IsDiscrete .boolean
  | string : IsDiscrete .string
  | integer (kind : IntKind) : IsDiscrete (.integer kind)

namespace Scalar

theorem isFinite_of_isDiscrete {v : Scalar} (h : v.dataType.IsDiscrete) : v.isFinite = true := by
  cases v with
  | float bits => cases h
  | double bits => cases h
  | _ => rfl

theorem ne_unknown_of_isDiscrete {v : Scalar} (h : v.dataType.IsDiscrete) : v ≠ .unknown := by
  rintro rfl
  cases h

/-- The document from which a value is read is the one that it is written as. -/
theorem toJson_of_ofJson?_eq_some {type : DataType} (h : type.IsDiscrete) {j : Json} {v : Scalar}
    (hread : ofJson? type j = some v) : v.toJson = j := by
  cases h with
  | boolean =>
    obtain ⟨b, hb, rfl⟩ := Option.map_eq_some_iff.1 hread
    exact (Json.bool?_eq_some_iff.1 hb).symm
  | string =>
    obtain ⟨s, hs, rfl⟩ := Option.map_eq_some_iff.1 hread
    exact (Json.text?_eq_some_iff.1 hs).symm
  | integer kind =>
    obtain ⟨n, hn, hfits⟩ := Option.bind_eq_some_iff.1 hread
    obtain ⟨fits, rfl⟩ := ofInt?_eq_some_iff.1 hfits
    exact (Json.int?_eq_some_iff.1 hn).symm

/-- A document is read as a value of a discrete type exactly if it is the one that the value is written as.
An integer type takes the integers in its range, and no other document. -/
theorem ofJson_exact {type : DataType} (h : type.IsDiscrete) (j : Json) :
    (∀ v, ofJson type j = .ok v ↔ v.dataType = type ∧ v.toJson = j) ∧
      ∀ kind, type = .integer kind →
        ((∃ v, ofJson type j = .ok v) ↔ ∃ n, j = .ofInt n ∧ kind.Contains n) := by
  have hexact : ∀ v, ofJson type j = .ok v ↔ v.dataType = type ∧ v.toJson = j := by
    intro v
    constructor
    · intro hread
      exact ⟨ofJson_dataType hread, toJson_of_ofJson?_eq_some h (ofJson_eq_ok_iff.1 hread)⟩
    · rintro ⟨rfl, rfl⟩
      exact ofJson_toJson (ne_unknown_of_isDiscrete h) (isFinite_of_isDiscrete h)
  refine ⟨hexact, ?_⟩
  rintro kind rfl
  constructor
  · rintro ⟨v, hread⟩
    obtain ⟨n, hn, hfits⟩ := Option.bind_eq_some_iff.1 (ofJson_eq_ok_iff.1 hread)
    obtain ⟨fits, -⟩ := ofInt?_eq_some_iff.1 hfits
    exact ⟨n, Json.int?_eq_some_iff.1 hn, fits⟩
  · rintro ⟨n, rfl, fits⟩
    exact ⟨.integer kind n fits, (hexact _).2 ⟨rfl, rfl⟩⟩

/-- The greatest unsigned number of 64 bits is read, the next one is not, and `1.0` is no integer. -/
theorem ofJson_exact_uint64 :
    DataType.IsDiscrete .uint64 ∧ (∃ v, ofJson .uint64 (.ofInt 18446744073709551615) = .ok v) ∧
      (¬∃ v, ofJson .uint64 (.ofInt 18446744073709551616) = .ok v) ∧
      ¬∃ v, ofJson .uint64 (.num (.double 0x3FF0000000000000)) = .ok v := by
  have h : DataType.IsDiscrete .uint64 := .integer _
  refine ⟨h, ?_, ?_, ?_⟩
  · exact ((ofJson_exact h _).2 _ rfl).2 ⟨18446744073709551615, rfl, by decide⟩
  · rw [(ofJson_exact h _).2 _ rfl]
    rintro ⟨n, hn, fits⟩
    cases hn
    exact absurd fits (by decide)
  · rw [(ofJson_exact h _).2 _ rfl]
    rintro ⟨n, hn, -⟩
    cases hn

end Scalar

end ScadaBridge
