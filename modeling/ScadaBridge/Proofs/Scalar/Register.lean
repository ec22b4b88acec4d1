import Mathlib.Data.List.DropRight
import ScadaBridge.Proofs.Scalar.Wire
import ScadaBridge.Proofs.Text
import ScadaBridge.Scalar.Register

/-!
# Values survive their registers

The registers of a number are brought to the width of its type byte by byte; seen through the number of the bytes
(`bigEndian`) that is a test of the number against the bound of the type (`fitted_eq`).

A value that is written to registers is read back in its own type (`ofRegisters_toRegisters`). Numbers come
back bit for bit; a text fills its registers up with zero bytes, so that it comes back without the NUL
characters at its end. Only texts can be too long for their registers (`toRegisters_isOk_iff`). Both together
are `registers_roundTrip`.
-/

namespace ScadaBridge

/-! ## Bytes of numbers -/

namespace Scalar

theorem bigEndian_concat (bytes : List UInt8) (b : UInt8) :
    bigEndian (bytes ++ [b]) = bigEndian bytes * 256 + b.toNat := by
  simp [bigEndian]

theorem bigEndian_append (first second : List UInt8) :
    bigEndian (first ++ second) = bigEndian first * 256 ^ second.length + bigEndian second := by
  induction second using List.reverseRecOn with
  | nil => simp [bigEndian]
  | append_singleton second b ih =>
    rw [← List.append_assoc, bigEndian_concat, ih, bigEndian_concat, List.length_append, List.length_singleton,
      Nat.pow_succ, Nat.add_mul, Nat.mul_assoc, Nat.add_assoc]

theorem bigEndian_cons (b : UInt8) (rest : List UInt8) :
    bigEndian (b :: rest) = b.toNat * 256 ^ rest.length + bigEndian rest := by
  rw [← List.singleton_append, bigEndian_append]
  simp [bigEndian]

/-- Zeros in front of bytes do not count. -/
theorem bigEndian_zeros_append (count : Nat) (bytes : List UInt8) :
    bigEndian (List.replicate count 0 ++ bytes) = bigEndian bytes := by
  induction count with
  | zero => rfl
  | succ count ih =>
    rw [List.replicate_succ, List.cons_append, bigEndian_cons, ih]
    simp

theorem bigEndian_lt (bytes : List UInt8) : bigEndian bytes < 256 ^ bytes.length := by
  induction bytes with
  | nil => simp [bigEndian]
  | cons b rest ih =>
    have hb : b.toNat + 1 ≤ 256 := b.toNat_lt
    calc bigEndian (b :: rest)
        = b.toNat * 256 ^ rest.length + bigEndian rest := bigEndian_cons b rest
      _ < b.toNat * 256 ^ rest.length + 256 ^ rest.length := Nat.add_lt_add_left ih _
      _ = (b.toNat + 1) * 256 ^ rest.length := (Nat.succ_mul _ _).symm
      _ ≤ 256 * 256 ^ rest.length := Nat.mul_le_mul_right _ hb
      _ = 256 ^ (b :: rest).length := by rw [List.length_cons, Nat.pow_succ']

/-- The number of bytes is zero only if all of them are. -/
theorem any_ne_zero (bytes : List UInt8) : bytes.any (· != 0) = (bigEndian bytes != 0) := by
  induction bytes with
  | nil => rfl
  | cons b rest ih =>
    have hpower : 256 ^ rest.length ≠ 0 := (Nat.pow_pos (by decide)).ne'
    have hzero : b.toNat = 0 ↔ b = 0 := by rw [← UInt8.toNat_inj, UInt8.toNat_zero]
    rw [List.any_cons, ih, bigEndian_cons, Bool.eq_iff_iff]
    simp only [Bool.or_eq_true, bne_iff_ne, ne_eq, Nat.add_eq_zero_iff, Nat.mul_eq_zero, hpower, or_false, hzero]
    exact not_and_or.symm

theorem bigEndian_bigEndianBytes (count n : Nat) : bigEndian (bigEndianBytes count n) = n % 256 ^ count := by
  induction count generalizing n with
  | zero => simp [bigEndianBytes, bigEndian, Nat.mod_one]
  | succ count ih =>
    have hlow : (UInt8.ofNat (n % 256)).toNat = n % 256 := by
      rw [UInt8.toNat_ofNat']
      omega
    rw [bigEndianBytes, bigEndian_concat, ih, hlow, Nat.pow_succ', Nat.mod_mul, Nat.mul_comm, Nat.add_comm]

theorem bigEndian_bigEndianBytes_of_lt {count n : Nat} (h : n < 256 ^ count) :
    bigEndian (bigEndianBytes count n) = n := by
  rw [bigEndian_bigEndianBytes, Nat.mod_eq_of_lt h]

theorem bigEndianBytes_bigEndian (bytes : List UInt8) : bigEndianBytes bytes.length (bigEndian bytes) = bytes := by
  induction bytes using List.reverseRecOn with
  | nil => rfl
  | append_singleton bytes b ih =>
    have hb : b.toNat < 256 := b.toNat_lt
    have hhigh : (bigEndian bytes * 256 + b.toNat) / 256 = bigEndian bytes := by omega
    have hlow : (bigEndian bytes * 256 + b.toNat) % 256 = b.toNat := by omega
    rw [List.length_append, List.length_singleton, bigEndianBytes, bigEndian_concat, hhigh, hlow, ih,
      UInt8.ofNat_toNat]

/-! ## The fit of bytes -/

theorem significant_cons (b : UInt8) (rest : List UInt8) :
    significant (b :: rest) = if b = 0 then significant rest else b :: rest := by
  unfold significant
  rw [List.findIdx_cons]
  by_cases hb : b = 0
  · simp [hb]
  · simp [hb, bne_iff_ne.2 hb]

theorem bigEndian_significant (bytes : List UInt8) : bigEndian (significant bytes) = bigEndian bytes := by
  induction bytes with
  | nil => rfl
  | cons b rest ih =>
    rw [significant_cons]
    split
    · next hb => rw [ih, bigEndian_cons, hb, UInt8.toNat_zero, Nat.zero_mul, Nat.zero_add]
    · rfl

/-- From the first byte on that is not zero there are no more bytes than the number needs. -/
theorem length_significant_le_iff (bytes : List UInt8) (count : Nat) :
    (significant bytes).length ≤ count ↔ bigEndian bytes < 256 ^ count := by
  induction bytes with
  | nil => simp [significant, bigEndian]
  | cons b rest ih =>
    rw [significant_cons]
    split
    · next hb => rw [ih, bigEndian_cons, hb, UInt8.toNat_zero, Nat.zero_mul, Nat.zero_add]
    · next hb =>
      constructor
      · intro hlength
        exact (bigEndian_lt (b :: rest)).trans_le (Nat.pow_le_pow_right (by decide) hlength)
      · intro hfits
        by_contra hlong
        have hshort : count ≤ rest.length := by simpa [Nat.lt_succ_iff] using hlong
        have hpositive : 0 < b.toNat := Nat.pos_of_ne_zero fun hzero => hb (UInt8.toNat_inj.1 hzero)
        have hlarge : 256 ^ count ≤ bigEndian (b :: rest) := calc
          256 ^ count ≤ 256 ^ rest.length := Nat.pow_le_pow_right (by decide) hshort
          _ ≤ b.toNat * 256 ^ rest.length := Nat.le_mul_of_pos_left _ hpositive
          _ ≤ b.toNat * 256 ^ rest.length + bigEndian rest := Nat.le_add_right _ _
          _ = bigEndian (b :: rest) := (bigEndian_cons b rest).symm
        omega

/-- Bytes fit exactly if their number does, and become the bytes of that number. -/
theorem fitted_eq (raw : String) (bytes : List UInt8) (count : Nat) :
    fitted raw bytes count =
      if bigEndian bytes < 256 ^ count then .ok (bigEndianBytes count (bigEndian bytes))
      else .error (.malformedRecord (.tooWide raw count)) := by
  obtain ⟨source, hsource, hnumber, hlength⟩ : ∃ source,
      source = (if bytes.length ≤ count then bytes else significant bytes) ∧
        bigEndian source = bigEndian bytes ∧ (source.length ≤ count ↔ bigEndian bytes < 256 ^ count) := by
    refine ⟨_, rfl, ?_⟩
    split
    · next hshort =>
      have hfits := (bigEndian_lt bytes).trans_le (Nat.pow_le_pow_right (by decide) hshort)
      exact ⟨rfl, iff_of_true hshort hfits⟩
    · exact ⟨bigEndian_significant bytes, length_significant_le_iff bytes count⟩
  unfold fitted
  dsimp only
  rw [← hsource]
  by_cases hfits : source.length ≤ count
  · have haligned : (List.replicate (count - source.length) 0 ++ source).length = count := by
      rw [List.length_append, List.length_replicate]
      omega
    have hbytes := bigEndianBytes_bigEndian (List.replicate (count - source.length) 0 ++ source)
    rw [haligned, bigEndian_zeros_append, hnumber] at hbytes
    rw [if_neg (Nat.not_lt.2 hfits), if_pos (hlength.1 hfits), hbytes]
  · rw [if_pos (Nat.not_le.1 hfits), if_neg (mt hlength.2 hfits)]

/-- Bytes that were made for a number fit as many bytes. -/
theorem fitted_bigEndianBytes (raw : String) {count n : Nat} (h : n < 256 ^ count) :
    fitted raw (bigEndianBytes count n) count = .ok (bigEndianBytes count n) := by
  rw [fitted_eq, bigEndian_bigEndianBytes_of_lt h, if_pos h]

end Scalar

namespace IntKind

theorem pow_bytes (kind : IntKind) : 256 ^ kind.width.bytes = kind.width.size := by
  cases kind.width <;> rfl

theorem pattern_lt (kind : IntKind) (v : Int) : kind.pattern v < 256 ^ kind.width.bytes := by
  rw [pow_bytes]
  exact Scalar.toNat_emod_lt v kind.width.size_pos

theorem ofPattern_pattern {kind : IntKind} {v : Int} (h : kind.Contains v) : kind.ofPattern (kind.pattern v) = v := by
  have hword := Scalar.ofWord_toNat h (Nat.le_refl kind.width.size)
  have hlt : kind.pattern v < kind.width.size := Scalar.toNat_emod_lt v kind.width.size_pos
  unfold ofPattern
  rw [Nat.mod_eq_of_lt hlt]
  exact hword

end IntKind

/-! ## Bytes of texts -/

/-- The character that fills up texts. -/
def nul : Char := Char.ofNat 0

namespace Utf8

theorem utf8EncodeChar_nul : String.utf8EncodeChar nul = [0] := rfl

/-- The last byte of any other character is not zero. -/
theorem exists_last {c : Char} (h : c ≠ nul) :
    ∃ front last, String.utf8EncodeChar c = front ++ [last] ∧ last ≠ 0 := by
  have hcontinuation : UInt8.ofNat (c.val.toNat % 0x40 + 0x80) ≠ 0 := by
    intro hzero
    have hnat := congrArg UInt8.toNat hzero
    rw [UInt8.toNat_ofNat'] at hnat
    simp only [UInt8.reduceToNat] at hnat
    omega
  unfold String.utf8EncodeChar
  dsimp only
  split
  · next hsmall =>
    refine ⟨[], _, rfl, fun hzero => h ?_⟩
    have hnat := congrArg UInt8.toNat hzero
    rw [UInt8.toNat_ofNat'] at hnat
    simp only [UInt8.reduceToNat] at hnat
    have hval : c.val.toNat = 0 := by omega
    exact Char.ext (UInt32.toNat_inj.1 hval)
  · split
    · exact ⟨[_], _, rfl, hcontinuation⟩
    · split
      · exact ⟨[_, _], _, rfl, hcontinuation⟩
      · exact ⟨[_, _, _], _, rfl, hcontinuation⟩

end Utf8

namespace Scalar

theorem dropZeros_eq (bytes : List UInt8) : dropZeros bytes = bytes.rdropWhile (· == 0) := rfl

theorem dropZeros_append_zeros (bytes : List UInt8) (count : Nat) :
    dropZeros (bytes ++ List.replicate count 0) = dropZeros bytes := by
  induction count with
  | zero => simp
  | succ count ih =>
    rw [List.replicate_succ', ← List.append_assoc, dropZeros_eq, List.rdropWhile_concat_pos _ _ _ (by simp)]
    exact ih

/-- The text without the NUL characters at its end. -/
def withoutNuls (s : String) : String := String.ofList (s.toList.rdropWhile (· == nul))

/-- The zero bytes at the end of a text are its NUL characters there. -/
theorem dropZeros_encode (s : String) : dropZeros (Utf8.encode s) = Utf8.encode (withoutNuls s) := by
  rw [withoutNuls, Utf8.encode_ofList, Utf8.encode_eq]
  generalize s.toList = cs
  induction cs using List.reverseRecOn with
  | nil => rfl
  | append_singleton cs c ih =>
    rw [List.flatMap_append, List.flatMap_singleton]
    by_cases hc : c = nul
    · subst hc
      rw [Utf8.utf8EncodeChar_nul, dropZeros_eq, List.rdropWhile_concat_pos _ _ _ (by simp), ← dropZeros_eq, ih,
        List.rdropWhile_concat_pos _ _ _ (by simp)]
    · obtain ⟨front, last, hbytes, hlast⟩ := Utf8.exists_last hc
      rw [hbytes, ← List.append_assoc, dropZeros_eq, List.rdropWhile_concat_neg _ _ _ (by simpa using hlast),
        List.rdropWhile_concat_neg _ _ _ (by simpa using hc), List.flatMap_append, List.flatMap_singleton, hbytes,
        List.append_assoc]

theorem withoutNuls_eq_self {s : String} (h : ∀ front, s.toList ≠ front ++ [nul]) : withoutNuls s = s := by
  have hkept : s.toList.rdropWhile (· == nul) = s.toList := by
    rw [List.rdropWhile_eq_self_iff]
    intro hne hlast
    have hnul : s.toList.getLast hne = nul := by simpa using hlast
    exact h s.toList.dropLast (by rw [← hnul, List.dropLast_append_getLast hne])
  rw [withoutNuls, hkept, String.ofList_toList]

end Scalar

/-! ## Register texts -/

namespace Hex

theorem digitChar_plain {n : UInt8} (h : n.toNat < 16) :
    Blank.isBlank (digitChar n) = false ∧ digitChar n ≠ 'x' ∧ digitChar n ≠ 'X' := by
  rw [← UInt8.ofNat_toNat (x := n)]
  generalize n.toNat = m at h
  interval_cases m <;> decide

theorem mem_encode {c : Char} {bytes : List UInt8} (h : c ∈ encode bytes) :
    Blank.isBlank c = false ∧ c ≠ 'x' ∧ c ≠ 'X' := by
  obtain ⟨b, -, hc⟩ := List.mem_flatMap.1 h
  have hbyte : b.toNat < 256 := b.toNat_lt
  have hquotient : (b / 16).toNat = b.toNat / 16 := UInt8.toNat_div b 16
  have hremainder : (b % 16).toNat = b.toNat % 16 := UInt8.toNat_mod b 16
  rcases List.mem_pair.1 hc with rfl | rfl
  · exact digitChar_plain (by omega)
  · exact digitChar_plain (by omega)

end Hex

namespace Scalar

theorem dropMarker_eq_self {marker : Char} {cs : List Char} (h : ¬['0', marker] <+: cs) :
    dropMarker marker cs = cs := by
  unfold dropMarker
  split
  · next c rest =>
    refine if_neg ?_
    rintro rfl
    exact h ⟨rest, rfl⟩
  · rfl

theorem dropMarker_of_not_mem {marker : Char} {cs : List Char} (h : marker ∉ cs) : dropMarker marker cs = cs :=
  dropMarker_eq_self fun hfront => h (hfront.subset (by simp))

theorem registerDigits_encode (bytes : List UInt8) :
    registerDigits (String.ofList ('0' :: 'x' :: Hex.encode bytes)) = Hex.encode bytes := by
  have hblank : ∀ c ∈ '0' :: 'x' :: Hex.encode bytes, Blank.isBlank c = false := by
    intro c hc
    rcases List.mem_cons.1 hc with rfl | hc
    · decide
    · rcases List.mem_cons.1 hc with rfl | hc
      · decide
      · exact (Hex.mem_encode hc).1
  have hlower : 'x' ∉ Hex.encode bytes := fun hmem => (Hex.mem_encode hmem).2.1 rfl
  have hupper : 'X' ∉ Hex.encode bytes := fun hmem => (Hex.mem_encode hmem).2.2 rfl
  unfold registerDigits
  rw [String.toList_ofList, Blank.trim_eq_self hblank, dropMarker, if_pos rfl, dropMarker_of_not_mem hlower,
    dropMarker_of_not_mem hupper]

theorem registerBytes_encode (bytes : List UInt8) :
    registerBytes (String.ofList ('0' :: 'x' :: Hex.encode bytes)) = .ok bytes := by
  have hlength := Hex.length_encode bytes
  unfold registerBytes evenDigits
  rw [registerDigits_encode]
  dsimp only
  rw [if_neg (by omega), Hex.decode_encode]

/-! ## Writing and reading -/

/-- The value as it comes back from its registers: a text has lost the NUL characters at its end. -/
def unpadded : Scalar → Scalar
  | .text s => .text (withoutNuls s)
  | v => v

/-- The value is a text with a NUL character at its end, which registers do not keep. -/
def EndsInNul (v : Scalar) : Prop := ∃ s front, v = .text s ∧ s.toList = front ++ [nul]

/-- A text has room in `width` registers of two bytes each. -/
def FitsRegisters (v : Scalar) (width : UInt32) : Prop :=
  ∀ s, v = .text s → s.utf8ByteSize ≤ 2 * width.toNat

theorem unpadded_eq_self {v : Scalar} (h : ¬v.EndsInNul) : v.unpadded = v := by
  cases v with
  | text s =>
    have hkept : withoutNuls s = s := withoutNuls_eq_self fun front hfront => h ⟨s, front, rfl, hfront⟩
    rw [unpadded, hkept]
  | _ => rfl

/-- The bytes of a value are read back in its own type. -/
theorem ofRegisters_of_content {v : Scalar} {width : UInt32} {raw : String} {bytes : List UInt8}
    (hraw : registerBytes raw = .ok bytes) (h : v.registerContent width = .ok bytes) :
    ofRegisters raw v.dataType = .ok v.unpadded := by
  unfold ofRegisters
  rw [hraw]
  cases v with
  | boolean b =>
    cases h
    cases b <;> rfl
  | integer kind n fits =>
    cases h
    have hfitted := fitted_bigEndianBytes raw (kind.pattern_lt n)
    have hnumber := bigEndian_bigEndianBytes_of_lt (kind.pattern_lt n)
    have hvalue : ofPattern kind (kind.pattern n) = .integer kind n fits := by
      simp only [ofPattern, IntKind.ofPattern_pattern fits]
    simp only [dataType, unpadded, bind, Except.bind, pure, Except.pure, hfitted, hnumber, hvalue]
  | float bits =>
    cases h
    have hbits : bits.toNat < 256 ^ 4 := bits.toNat_lt
    have hfitted := fitted_bigEndianBytes raw hbits
    have hnumber := bigEndian_bigEndianBytes_of_lt hbits
    simp only [dataType, unpadded, bind, Except.bind, pure, Except.pure, hfitted, hnumber, UInt32.ofNat_toNat]
  | double bits =>
    cases h
    have hbits : bits.toNat < 256 ^ 8 := bits.toNat_lt
    have hfitted := fitted_bigEndianBytes raw hbits
    have hnumber := bigEndian_bigEndianBytes_of_lt hbits
    simp only [dataType, unpadded, bind, Except.bind, pure, Except.pure, hfitted, hnumber, UInt64.ofNat_toNat]
  | text s =>
    unfold registerContent textRegisters at h
    dsimp only at h
    split at h
    · cases h
    · cases h
      have htext := dropZeros_append_zeros (Utf8.encode s) (2 * width.toNat - (Utf8.encode s).length)
      rw [dropZeros_encode] at htext
      simp only [dataType, unpadded, bind, Except.bind, pure, Except.pure, htext, Utf8.decode_encode]
  | unknown => cases h

/-- What was written is read back in its own type. -/
theorem ofRegisters_toRegisters {v : Scalar} {width : UInt32} {raw : String} (h : v.toRegisters width = .ok raw) :
    ofRegisters raw v.dataType = .ok v.unpadded := by
  unfold toRegisters at h
  split at h
  · next bytes hcontent =>
    cases h
    exact ofRegisters_of_content (registerBytes_encode bytes) hcontent
  · cases h

/-- Only a text can be too long for its registers. -/
theorem toRegisters_isOk_iff {v : Scalar} (h : v ≠ .unknown) (width : UInt32) :
    (∃ raw, v.toRegisters width = .ok raw) ↔ v.FitsRegisters width := by
  have hcontent : (∃ raw, v.toRegisters width = .ok raw) ↔ ∃ bytes, v.registerContent width = .ok bytes := by
    unfold toRegisters
    cases v.registerContent width <;> simp
  rw [hcontent]
  cases v with
  | text s =>
    simp only [FitsRegisters, registerContent, textRegisters, text.injEq, forall_eq', Utf8.length_encode]
    split
    · next hlong =>
      refine ⟨fun hok => ?_, fun hshort => absurd hlong (by omega)⟩
      obtain ⟨bytes, hbytes⟩ := hok
      cases hbytes
    · next hshort => exact ⟨fun _ => by omega, fun _ => ⟨_, rfl⟩⟩
  | unknown => exact absurd rfl h
  | _ => simp [FitsRegisters, registerContent]

/-- Writing fails for texts alone, and exactly for those that are longer than their registers. Whatever is
written is read back in its own type, bit for bit, but for the NUL characters at the end of a text. -/
theorem registers_roundTrip {v : Scalar} (known : v ≠ .unknown) (width : UInt32) :
    ((∃ fault, v.toRegisters width = .error fault) ↔ ∃ s, v = .text s ∧ 2 * width.toNat < s.utf8ByteSize) ∧
      ∀ raw, v.toRegisters width = .ok raw →
        ((∀ s, v ≠ .text s) → ofRegisters raw v.dataType = .ok v) ∧
          ∀ s, v = .text s → ofRegisters raw .string = .ok (.text (withoutNuls s)) ∧
            ((∀ front, s.toList ≠ front ++ [nul]) → withoutNuls s = s) := by
  constructor
  · have hfails : (∃ fault, v.toRegisters width = .error fault) ↔ ¬∃ raw, v.toRegisters width = .ok raw := by
      cases v.toRegisters width <;> simp
    rw [hfails, toRegisters_isOk_iff known]
    simp only [FitsRegisters, not_forall, Nat.not_le, exists_prop]
  · intro raw hwritten
    have hread := ofRegisters_toRegisters hwritten
    constructor
    · intro hkind
      have hplain : ¬v.EndsInNul := by
        rintro ⟨s, front, hs, -⟩
        exact hkind s hs
      rw [hread, unpadded_eq_self hplain]
    · rintro s rfl
      exact ⟨hread, withoutNuls_eq_self⟩

/-- The text `OK` with a NUL character behind it fills two registers and comes back without it. -/
theorem registers_roundTrip_padded :
    toRegisters (.text "OK\x00") 2 = .ok "0x4f4b0000" ∧
      ofRegisters "0x4f4b0000" .string = .ok (.text (withoutNuls "OK\x00")) := by
  have hbytes : Utf8.encode "OK\x00" = [0x4f, 0x4b, 0] := by
    rw [Utf8.encode_eq]
    decide
  have hcontent : registerContent (.text "OK\x00") 2 = .ok [0x4f, 0x4b, 0, 0] := by
    rw [registerContent, textRegisters, hbytes]
    rfl
  have hwritten : toRegisters (.text "OK\x00") 2 = .ok "0x4f4b0000" := by
    rw [toRegisters, hcontent]
    rfl
  exact ⟨hwritten, (((registers_roundTrip (by decide) 2).2 _ hwritten).2 _ rfl).1⟩

end Scalar

end ScadaBridge
