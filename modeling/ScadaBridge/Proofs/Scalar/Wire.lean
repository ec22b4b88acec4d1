import ScadaBridge.Proofs.Metric.WellFormed
import ScadaBridge.Scalar.Wire

/-!
# Values on the wire

A word carries exactly the numbers that have its bits: every number is read back from its lowest bits
(`ofWord_toNat`), and every word is the one that its number is written with (`toNat_ofWord`). So a datatype
code and a value field are read as a value exactly if they are the ones that the value is written with
(`ofWire_eq_ok_iff`).
-/

namespace ScadaBridge

/-! ## Datatype codes -/

namespace DataType

theorem ofCode_eq_ok_iff {code : UInt32} {type : DataType} :
    ofCode code = .ok type ↔ type ≠ .unknown ∧ code = type.code := by
  unfold ofCode
  constructor
  · intro h
    split at h
    · next hcode =>
      cases h
      obtain ⟨rfl, known⟩ := code_of_ofCode?_eq_some hcode
      exact ⟨known, rfl⟩
    · cases h
  · rintro ⟨known, rfl⟩
    rw [ofCode?_code known]

theorem ofCode_code {type : DataType} (h : type ≠ .unknown) : ofCode type.code = .ok type :=
  ofCode_eq_ok_iff.2 ⟨h, rfl⟩

end DataType

namespace Scalar

/-! ## Words -/

theorem toNat_emod_lt (v : Int) {size : Nat} (h : 0 < size) : (v % size).toNat < size := by
  have hnonneg := Int.emod_nonneg v (b := size) (by omega)
  have hlt := Int.emod_lt_of_pos v (b := size) (by omega)
  omega

/-- A number is read back from its lowest bits, as many as its type has or more. -/
theorem ofWord_toNat {kind : IntKind} {v : Int} (h : kind.Contains v) {size : Nat}
    (hsize : kind.width.size ≤ size) : ofWord kind size (v % size).toNat = v := by
  have hpos : 0 < size := Nat.lt_of_lt_of_le kind.width.size_pos hsize
  have hcast : ((v % size).toNat : Int) = v % size :=
    Int.toNat_of_nonneg (Int.emod_nonneg v (by omega))
  obtain ⟨hlow, hhigh⟩ := h
  unfold ofWord
  rw [hcast]
  unfold IntKind.least at hlow
  unfold IntKind.bound at hhigh
  split
  · next hsigned =>
    rw [if_pos hsigned] at hlow hhigh
    rw [Int.emod_bmod]
    exact Int.bmod_eq_of_le (by omega) (by omega)
  · next hsigned =>
    rw [if_neg hsigned] at hlow hhigh
    exact Int.emod_eq_of_lt hlow (by omega)

/-- The lowest bits of the number that a word stands for are the word. -/
theorem toNat_ofWord (kind : IntKind) {size pattern : Nat} (h : pattern < size) :
    (ofWord kind size pattern % size).toNat = pattern := by
  have hword : ofWord kind size pattern % size = pattern % size := by
    unfold ofWord
    split
    · exact Int.bmod_emod
    · rfl
  rw [hword, Int.emod_eq_of_lt (by omega) (by omega), Int.toNat_natCast]

theorem toNat_word32 (v : Int) : (word32 v).toNat = (v % UInt32.size).toNat :=
  UInt32.toNat_ofNat_of_lt (toNat_emod_lt v (by decide))

theorem toNat_word64 (v : Int) : (word64 v).toNat = (v % UInt64.size).toNat :=
  UInt64.toNat_ofNat_of_lt (toNat_emod_lt v (by decide))

theorem word32_ofWord (kind : IntKind) (word : UInt32) :
    word32 (ofWord kind UInt32.size word.toNat) = word := by
  apply UInt32.toNat_inj.1
  rw [toNat_word32, toNat_ofWord kind word.toNat_lt]

theorem word64_ofWord (kind : IntKind) (word : UInt64) :
    word64 (ofWord kind UInt64.size word.toNat) = word := by
  apply UInt64.toNat_inj.1
  rw [toNat_word64, toNat_ofWord kind word.toNat_lt]

/-! ## Value fields -/

theorem ofWireValue?_toWire {v : Scalar} (h : v ≠ .unknown) :
    ofWireValue? v.dataType v.toWire = some v := by
  cases v with
  | integer kind n fits =>
    unfold Scalar.dataType toWire
    dsimp only
    split
    · next hwide =>
      have hsize : kind.width.size ≤ UInt64.size := by
        rw [hwide]
        exact Nat.le_refl _
      have hword := ofWord_toNat fits hsize
      simp only [ofWireValue?, hwide, if_true, toNat_word64, hword, ofInt?_eq_some fits]
    · next hnarrow =>
      have hsize : kind.width.size ≤ UInt32.size := by
        cases hwidth : kind.width with
        | w64 => exact absurd hwidth hnarrow
        | _ => decide
      have hword := ofWord_toNat fits hsize
      simp only [ofWireValue?, hnarrow, if_false, toNat_word32, hword, ofInt?_eq_some fits]
  | unknown => exact absurd rfl h
  | _ => rfl

/-- What is read from a value field has the type that was asked for, and is written with that field. -/
theorem of_ofWireValue?_eq_some {type : DataType} {value : Wire.Value} {v : Scalar}
    (h : ofWireValue? type value = some v) : v.dataType = type ∧ v.toWire = value := by
  unfold ofWireValue? at h
  split at h
  · next kind word =>
    split at h
    · cases h
    · next hnarrow =>
      obtain ⟨fits, rfl⟩ := ofInt?_eq_some_iff.1 h
      refine ⟨rfl, ?_⟩
      rw [toWire, if_neg hnarrow, word32_ofWord]
  · next kind word =>
    split at h
    · next hwide =>
      obtain ⟨fits, rfl⟩ := ofInt?_eq_some_iff.1 h
      refine ⟨rfl, ?_⟩
      rw [toWire, if_pos hwide, word64_ofWord]
    · cases h
  · cases h
    exact ⟨rfl, rfl⟩
  · cases h
    exact ⟨rfl, rfl⟩
  · cases h
    exact ⟨rfl, rfl⟩
  · cases h
    exact ⟨rfl, rfl⟩
  · cases h

theorem isNull_toWire {v : Scalar} (h : v ≠ .unknown) : v.toWire.isNull = false := by
  cases v with
  | integer kind n fits =>
    simp only [toWire]
    split <;> rfl
  | unknown => exact absurd rfl h
  | _ => rfl

/-! ## Codes with value fields -/

/-- A value is read from the value field by the type of the code; templates have no values. -/
theorem ofWire_eq_ok_iff_exists {code : UInt32} {value : Wire.Value} {v : Scalar} :
    ofWire code value = .ok v ↔
      ∃ type, DataType.ofCode code = .ok type ∧ ofWireValue? type value = some v := by
  unfold ofWire
  split
  · next hcode => simp [hcode]
  · next hcode => simp [hcode, ofWireValue?]
  · next hcode =>
    split
    · next hvalue => simp [hcode, hvalue]
    · next hvalue => simp [hcode, hvalue]

/-- A value is read back from its code and its value field. -/
theorem ofWire_toWire {v : Scalar} (h : v ≠ .unknown) : ofWire v.dataType.code v.toWire = .ok v :=
  ofWire_eq_ok_iff_exists.2 ⟨v.dataType, DataType.ofCode_code (isScalar_dataType h).2, ofWireValue?_toWire h⟩

/-- The code of a value that was read is that of its type, and the field is the one that it is written with. -/
theorem of_ofWire_eq_ok {code : UInt32} {value : Wire.Value} {v : Scalar} (h : ofWire code value = .ok v) :
    DataType.ofCode code = .ok v.dataType ∧ v.toWire = value := by
  obtain ⟨type, hcode, hvalue⟩ := ofWire_eq_ok_iff_exists.1 h
  obtain ⟨rfl, hwire⟩ := of_ofWireValue?_eq_some hvalue
  exact ⟨hcode, hwire⟩

/-- A datatype code and a value field are read as a value exactly if the value is written with them. So a
value of any type is read back, two different forms are never read as the same value, and any other code
with any other field is refused. -/
theorem ofWire_eq_ok_iff (code : UInt32) (value : Wire.Value) (v : Scalar) :
    ofWire code value = .ok v ↔ v ≠ .unknown ∧ code = v.dataType.code ∧ value = v.toWire := by
  constructor
  · intro h
    obtain ⟨htype, hvalue⟩ := of_ofWire_eq_ok h
    obtain ⟨known, hcode⟩ := DataType.ofCode_eq_ok_iff.1 htype
    exact ⟨mt dataType_eq_unknown_iff.2 known, hcode, hvalue.symm⟩
  · rintro ⟨known, rfl, rfl⟩
    exact ofWire_toWire known

-- Negative numbers are extended by their sign: the word of `-100` is an 8-bit number, that of `300` is none.
example : ofWireValue? .int8 (.int 0xFFFFFF9C) = ofInt? ⟨true, .w8⟩ (-100) := by decide +kernel
example : ofWireValue? .int8 (.int 300) = none := by decide +kernel

end Scalar

end ScadaBridge
