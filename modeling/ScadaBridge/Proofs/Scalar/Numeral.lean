import ScadaBridge.Proofs.Scalar.Register

/-!
# Register texts are numerals

A register text stands for a number (`Scalar.Denotes`): what is left of it without the blanks around it and the
markers in front is a numeral to base sixteen, of any length. Its bytes have the same number
(`number?_registerDigits`), however they were padded, and fit a type exactly if the number does (`fitted_eq`). So a
type of fixed width reads the value whose bits are the number, if it has such a value, and a register text with
anything but digits in it is refused (`ofRegisters_numeral`). The type of texts alone takes the bytes and not their number: zeros in front count.
-/

namespace ScadaBridge

/-! ## The digits of a register text -/

namespace Scalar

/-- `rest` is what follows the repetitions of `0` and `marker` in front of `cs`, and does not begin with
another one. -/
def DropsMarkers (marker : Char) (cs rest : List Char) : Prop :=
  ∃ count, cs = (List.replicate count ['0', marker]).flatten ++ rest ∧ ¬['0', marker] <+: rest

theorem dropMarker_append {marker : Char} (count : Nat) (rest : List Char) :
    dropMarker marker ((List.replicate count ['0', marker]).flatten ++ rest) = dropMarker marker rest := by
  induction count with
  | zero => rfl
  | succ count ih =>
    rw [List.replicate_succ, List.flatten_cons, List.append_assoc]
    exact (if_pos rfl).trans ih

theorem dropsMarkers_dropMarker (marker : Char) (cs : List Char) :
    DropsMarkers marker cs (dropMarker marker cs) := by
  fun_induction dropMarker marker cs with
  | case1 rest ih =>
    obtain ⟨count, hrest, hnone⟩ := ih
    refine ⟨count + 1, ?_, hnone⟩
    rw [List.replicate_succ, List.flatten_cons, List.append_assoc, ← hrest]
    rfl
  | case2 c rest hc =>
    refine ⟨0, rfl, ?_⟩
    rintro ⟨tail, htail⟩
    cases htail
    exact hc rfl
  | case3 cs hcs =>
    refine ⟨0, rfl, ?_⟩
    rintro ⟨tail, htail⟩
    exact hcs marker tail htail.symm

theorem dropMarker_eq_iff {marker : Char} {cs rest : List Char} :
    dropMarker marker cs = rest ↔ DropsMarkers marker cs rest := by
  constructor
  · rintro rfl
    exact dropsMarkers_dropMarker marker cs
  · rintro ⟨count, rfl, hnone⟩
    rw [dropMarker_append, dropMarker_eq_self hnone]

/-- What is left of a register text without the blanks around it, then without the repetitions of `0x` in
front, then without those of `0X`. -/
def HasDigits (raw : String) (digits : List Char) : Prop :=
  ∃ text rest, Blank.Trims raw.toList text ∧ DropsMarkers 'x' text rest ∧ DropsMarkers 'X' rest digits

theorem hasDigits_iff {raw : String} {digits : List Char} : HasDigits raw digits ↔ registerDigits raw = digits := by
  unfold HasDigits registerDigits
  simp only [← Blank.trim_eq_iff, ← dropMarker_eq_iff]
  constructor
  · rintro ⟨text, rest, rfl, rfl, rfl⟩
    rfl
  · rintro rfl
    exact ⟨_, _, rfl, rfl, rfl⟩

/-- The register text is a numeral of the number `n`. -/
def Denotes (raw : String) (n : Nat) : Prop :=
  ∃ digits, HasDigits raw digits ∧ Hex.number? digits = some n

theorem denotes_iff {raw : String} {n : Nat} : Denotes raw n ↔ Hex.number? (registerDigits raw) = some n := by
  unfold Denotes
  simp only [hasDigits_iff]
  constructor
  · rintro ⟨digits, rfl, hnumber⟩
    exact hnumber
  · intro hnumber
    exact ⟨_, rfl, hnumber⟩

/-! ## The number of its bytes -/

/-- An even number of digits spells the number of the bytes behind them; if one of them is no digit, there is
neither. -/
theorem valueFrom?_eq_decodeFrom (position n : Nat) :
    ∀ {digits : List UInt8}, digits.length % 2 = 0 →
      Hex.valueFrom? n digits = (Hex.decodeFrom position digits).toOption.map
        fun bytes => bytes.foldl (fun n b => n * 256 + b.toNat) n
  | [], _ => rfl
  | [_], h => by simp at h
  | high :: low :: rest, h => by
    have hrest : rest.length % 2 = 0 := by
      simp only [List.length_cons] at h
      omega
    rw [Hex.valueFrom?_cons, Hex.decodeFrom, Hex.digitAt]
    cases hhigh : Hex.digitValue? high with
    | none => rfl
    | some a =>
      rw [Option.bind_some, Hex.valueFrom?_cons, Hex.digitAt]
      cases hlow : Hex.digitValue? low with
      | none => rfl
      | some b =>
        have hpair : (n * 16 + a.toNat) * 16 + b.toNat = n * 256 + (a * 16 + b).toNat := by
          rw [Hex.toNat_pair hhigh hlow]
          omega
        have ih := valueFrom?_eq_decodeFrom (position + 2) (n * 256 + (a * 16 + b).toNat) hrest
        rw [Option.bind_some, hpair, ih]
        cases Hex.decodeFrom (position + 2) rest <;> rfl

theorem length_evenDigits (raw : String) : (evenDigits raw).length % 2 = 0 := by
  unfold evenDigits
  dsimp only
  split
  · rw [List.length_cons]
    omega
  · omega

/-- The zero in front of an odd number of digits does not count. -/
theorem valueFrom?_evenDigits (raw : String) :
    Hex.valueFrom? 0 (evenDigits raw) = Hex.number? (registerDigits raw) := by
  rw [Hex.number?_eq_valueFrom?, ← Utf8.encode_ofList]
  unfold evenDigits
  dsimp only
  split
  · rw [Hex.valueFrom?_cons]
    rfl
  · rfl

/-- The digits of a register text spell the number of its bytes; if one of them is no digit, there is
neither. -/
theorem number?_registerDigits (raw : String) :
    Hex.number? (registerDigits raw) = (registerBytes raw).toOption.map bigEndian := by
  rw [← valueFrom?_evenDigits, valueFrom?_eq_decodeFrom 0 0 (length_evenDigits raw)]
  unfold registerBytes Hex.decode
  cases Hex.decodeFrom 0 (evenDigits raw) <;> rfl

theorem registerBytes_of_number {raw : String} {n : Nat} (h : Hex.number? (registerDigits raw) = some n) :
    ∃ bytes, registerBytes raw = .ok bytes ∧ bigEndian bytes = n := by
  rw [number?_registerDigits] at h
  cases hbytes : registerBytes raw with
  | error fault =>
    rw [hbytes] at h
    cases h
  | ok bytes =>
    rw [hbytes] at h
    exact ⟨bytes, rfl, Option.some.inj h⟩

theorem registerBytes_of_no_number {raw : String} (h : Hex.number? (registerDigits raw) = none) :
    ∃ fault, registerBytes raw = .error fault := by
  rw [number?_registerDigits] at h
  cases hbytes : registerBytes raw with
  | error fault => exact ⟨fault, rfl⟩
  | ok bytes =>
    rw [hbytes] at h
    cases h

end Scalar

/-! ## Values and their bits -/

/-- How many bytes a value of the type takes, for types of numbers. -/
def DataType.bytes? : DataType → Option Nat
  | .integer kind => some kind.width.bytes
  | .float => some 4
  | .double => some 8
  | _ => none

theorem IntKind.pattern_ofPattern {kind : IntKind} {n : Nat} (h : n < 256 ^ kind.width.bytes) :
    kind.pattern (kind.ofPattern n) = n := by
  rw [pow_bytes] at h
  unfold pattern ofPattern
  split
  · rw [Int.bmod_emod, Int.emod_eq_of_lt (by omega) (by omega), Int.toNat_natCast]
  · rw [Int.natCast_mod, Int.emod_emod, Int.emod_eq_of_lt (by omega) (by omega), Int.toNat_natCast]

namespace Scalar

/-- The bits of a number, most significant first, as a natural number. -/
def pattern? : Scalar → Option Nat
  | .integer kind n _ => some (kind.pattern n)
  | .float bits => some bits.toNat
  | .double bits => some bits.toNat
  | _ => none

theorem pattern?_lt {v : Scalar} {n count : Nat} (hbits : v.pattern? = some n)
    (hbytes : v.dataType.bytes? = some count) : n < 256 ^ count := by
  cases v with
  | integer kind m fits =>
    cases hbits
    cases hbytes
    exact kind.pattern_lt m
  | float bits =>
    cases hbits
    cases hbytes
    exact bits.toNat_lt
  | double bits =>
    cases hbits
    cases hbytes
    exact bits.toNat_lt
  | _ => cases hbits

/-- A number is given by its type and its bits. -/
theorem eq_of_pattern?_eq {v w : Scalar} {n : Nat} (htype : v.dataType = w.dataType) (hv : v.pattern? = some n)
    (hw : w.pattern? = some n) : v = w := by
  cases v with
  | integer kind m fits =>
    cases w with
    | integer kind' m' fits' =>
      cases htype
      have hm : m = m' := by
        rw [← IntKind.ofPattern_pattern fits, ← IntKind.ofPattern_pattern fits', Option.some.inj hv,
          Option.some.inj hw]
      subst hm
      rfl
    | _ => cases htype
  | float bits =>
    cases w with
    | float bits' => rw [UInt32.toNat_inj.1 (Option.some.inj (hv.trans hw.symm))]
    | _ => cases htype
  | double bits =>
    cases w with
    | double bits' => rw [UInt64.toNat_inj.1 (Option.some.inj (hv.trans hw.symm))]
    | _ => cases htype
  | _ => cases hv

/-- The value of a type of numbers with the given bits. -/
def ofBits : DataType → Nat → Scalar
  | .integer kind, n => ofPattern kind n
  | .float, n => .float (.ofNat n)
  | .double, n => .double (.ofNat n)
  | _, _ => .unknown

theorem ofBits_spec {type : DataType} {count n : Nat} (hbytes : type.bytes? = some count) (h : n < 256 ^ count) :
    (ofBits type n).dataType = type ∧ (ofBits type n).pattern? = some n := by
  cases type with
  | integer kind =>
    cases hbytes
    exact ⟨rfl, congrArg some (IntKind.pattern_ofPattern h)⟩
  | float =>
    cases hbytes
    exact ⟨rfl, congrArg some (UInt32.toNat_ofNat_of_lt h)⟩
  | double =>
    cases hbytes
    exact ⟨rfl, congrArg some (UInt64.toNat_ofNat_of_lt h)⟩
  | _ => cases hbytes

/-! ## Reading numerals -/

theorem ofRegisters_of_error {raw : String} {fault : Fault} (h : registerBytes raw = .error fault)
    (type : DataType) : ofRegisters raw type = .error fault := by
  unfold ofRegisters
  rw [h]
  rfl

/-- A type of numbers reads the value whose bits are the bytes as they fit the type. -/
theorem ofRegisters_eq_fitted {raw : String} {bytes : List UInt8} (hraw : registerBytes raw = .ok bytes)
    {type : DataType} {count : Nat} (hbytes : type.bytes? = some count) :
    ofRegisters raw type = (fitted raw bytes count).map fun aligned => ofBits type (bigEndian aligned) := by
  unfold ofRegisters
  rw [hraw]
  cases type with
  | integer kind =>
    cases hbytes
    rfl
  | float =>
    cases hbytes
    rfl
  | double =>
    cases hbytes
    rfl
  | _ => cases hbytes

theorem ofRegisters_of_denotes {raw : String} {n : Nat} (h : Denotes raw n) {type : DataType} {count : Nat}
    (hbytes : type.bytes? = some count) :
    ofRegisters raw type =
      if n < 256 ^ count then .ok (ofBits type n) else .error (.malformedRecord (.tooWide raw count)) := by
  obtain ⟨bytes, hraw, rfl⟩ := registerBytes_of_number (denotes_iff.1 h)
  rw [ofRegisters_eq_fitted hraw hbytes, fitted_eq]
  split
  · next hfits => rw [Except.map, bigEndian_bigEndianBytes_of_lt hfits]
  · rfl

theorem isOk_ofRegisters_iff {raw : String} {n : Nat} (h : Denotes raw n) {type : DataType} {count : Nat}
    (hbytes : type.bytes? = some count) : (∃ v, ofRegisters raw type = .ok v) ↔ n < 256 ^ count := by
  rw [ofRegisters_of_denotes h hbytes]
  split <;> simp [*]

/-- What is read is the one value of the type with the bits of the number. -/
theorem ofRegisters_eq_ok_iff {raw : String} {n : Nat} (h : Denotes raw n) {type : DataType} {count : Nat}
    (hbytes : type.bytes? = some count) {v : Scalar} :
    ofRegisters raw type = .ok v ↔ v.dataType = type ∧ v.pattern? = some n := by
  constructor
  · intro hread
    have hfits : n < 256 ^ count := (isOk_ofRegisters_iff h hbytes).1 ⟨v, hread⟩
    rw [ofRegisters_of_denotes h hbytes, if_pos hfits] at hread
    cases hread
    exact ofBits_spec hbytes hfits
  · rintro ⟨rfl, hbits⟩
    have hfits : n < 256 ^ count := pattern?_lt hbits hbytes
    obtain ⟨htype, hpattern⟩ := ofBits_spec hbytes hfits
    rw [ofRegisters_of_denotes h hbytes, if_pos hfits, eq_of_pattern?_eq htype hpattern hbits]

theorem ofRegisters_boolean {raw : String} {n : Nat} (h : Denotes raw n) :
    ofRegisters raw .boolean = .ok (.boolean (n != 0)) := by
  obtain ⟨bytes, hraw, rfl⟩ := registerBytes_of_number (denotes_iff.1 h)
  rw [← any_ne_zero]
  unfold ofRegisters
  rw [hraw]
  rfl

/-- Two numerals of one number are read alike as any type but that of texts. -/
theorem toOption_ofRegisters_eq {raw raw' : String} {n : Nat} (h : Denotes raw n) (h' : Denotes raw' n)
    {type : DataType} (htype : type ≠ .string) :
    (ofRegisters raw type).toOption = (ofRegisters raw' type).toOption := by
  have hnumbers : ∀ {count : Nat}, type.bytes? = some count →
      (ofRegisters raw type).toOption = (ofRegisters raw' type).toOption := by
    intro count hbytes
    apply Option.ext
    intro v
    have hsome : ∀ result : Except Fault Scalar, result.toOption = some v ↔ result = .ok v := by
      intro result
      cases result <;> simp [Except.toOption]
    rw [hsome, hsome, ofRegisters_eq_ok_iff h hbytes, ofRegisters_eq_ok_iff h' hbytes]
  obtain ⟨bytes, hraw, -⟩ := registerBytes_of_number (denotes_iff.1 h)
  obtain ⟨bytes', hraw', -⟩ := registerBytes_of_number (denotes_iff.1 h')
  cases type with
  | integer kind => exact hnumbers rfl
  | float => exact hnumbers rfl
  | double => exact hnumbers rfl
  | boolean => rw [ofRegisters_boolean h, ofRegisters_boolean h']
  | string => exact absurd rfl htype
  | template =>
    unfold ofRegisters
    rw [hraw, hraw']
    rfl
  | unknown =>
    unfold ofRegisters
    rw [hraw, hraw']
    rfl

/-- Every register text has its digits. If one of them is no digit, the text is refused whatever the type.
Otherwise it is a numeral of some number, the empty one of zero. A type of numbers reads it exactly if the
number fits its bytes, and then as the value with these bits; as a truth value it is true unless the number is
zero. So it does not matter how a number is written. -/
theorem ofRegisters_numeral (raw : String) :
    (∃! digits, HasDigits raw digits) ∧
      (∀ digits, HasDigits raw digits →
        ((∃ c ∈ digits, Hex.digit? c = none) → ∀ type, ∃ fault, ofRegisters raw type = .error fault) ∧
          ((∀ c ∈ digits, Hex.digit? c ≠ none) → ∃ n, Hex.number? digits = some n ∧ Denotes raw n)) ∧
      ∀ n, Denotes raw n →
        (∀ type count, type.bytes? = some count →
          ((∃ v, ofRegisters raw type = .ok v) ↔ n < 2 ^ (8 * count)) ∧
            ∀ v, ofRegisters raw type = .ok v ↔ v.dataType = type ∧ v.pattern? = some n) ∧
          ofRegisters raw .boolean = .ok (.boolean (n != 0)) ∧
            ∀ raw', Denotes raw' n → ∀ type, type ≠ .string →
              (ofRegisters raw type).toOption = (ofRegisters raw' type).toOption := by
  refine ⟨?_, ?_, ?_⟩
  · refine ⟨registerDigits raw, hasDigits_iff.2 rfl, ?_⟩
    intro digits hdigits
    exact (hasDigits_iff.1 hdigits).symm
  · intro digits hdigits
    have hregister := hasDigits_iff.1 hdigits
    constructor
    · intro hnone type
      have hnumber : Hex.number? (registerDigits raw) = none := by
        rw [hregister]
        exact Hex.number?_eq_none_iff.2 hnone
      obtain ⟨fault, hfault⟩ := registerBytes_of_no_number hnumber
      exact ⟨fault, ofRegisters_of_error hfault type⟩
    · intro hall
      have hnumber : Hex.number? digits ≠ none := by
        intro hnone
        obtain ⟨c, hc, hdigit⟩ := Hex.number?_eq_none_iff.1 hnone
        exact hall c hc hdigit
      obtain ⟨n, hn⟩ := Option.ne_none_iff_exists'.1 hnumber
      exact ⟨n, hn, digits, hdigits, hn⟩
  · intro n hdenotes
    refine ⟨?_, ofRegisters_boolean hdenotes, fun raw' hdenotes' type => toOption_ofRegisters_eq hdenotes hdenotes'⟩
    intro type count hbytes
    have hpower : 256 ^ count = 2 ^ (8 * count) := (Nat.pow_mul 2 8 count).symm
    rw [← hpower]
    exact ⟨isOk_ofRegisters_iff hdenotes hbytes, fun v => ofRegisters_eq_ok_iff hdenotes hbytes⟩

/-- A padded numeral of the greatest 16-bit pattern, with both markers in front, is the signed number `-1`. -/
theorem ofRegisters_numeral_int16 :
    Denotes " 0x0X0000fFFf\n" 65535 ∧
      ofRegisters " 0x0X0000fFFf\n" .int16 = .ok (.integer ⟨true, .w16⟩ (-1) (by decide)) := by
  have hdenotes : Denotes " 0x0X0000fFFf\n" 65535 := denotes_iff.2 (by decide +kernel)
  exact ⟨hdenotes, ((((ofRegisters_numeral _).2.2 _ hdenotes).1 .int16 2 rfl).2 _).2 ⟨rfl, by decide⟩⟩

-- A text is the bytes and not their number, so that a zero in front is one more character of it.
example : (ofRegisters "0x41" .string).toOption = some (.text "A") := by decide +kernel
example : (ofRegisters "0x0041" .string).toOption = some (.text "\x00A") := by decide +kernel

end Scalar

end ScadaBridge
