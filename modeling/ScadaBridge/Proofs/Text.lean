import Mathlib.Data.List.DropRight
import Mathlib.Tactic.IntervalCases
import ScadaBridge.Text.Blank
import ScadaBridge.Text.Hex
import ScadaBridge.Text.Utf8

/-!
# Texts as bytes

The bytes of a text are those of its characters one after the other (`Utf8.encode_eq`), and reading them
gives the text back. Hexadecimal digits are one byte each, and a pair of them gives its byte back
(`Hex.decode_encode`); a numeral spells the same number by its characters as by its bytes
(`Hex.number?_eq_valueFrom?`). Trimming a text leaves what stands between the blanks at its ends
(`Blank.trim_eq_iff`).
-/

namespace ScadaBridge

namespace Utf8

theorem toList_loop (bytes : ByteArray) (i : Nat) (seen : List UInt8) :
    ByteArray.toList.loop bytes i seen = seen.reverse ++ bytes.data.toList.drop i := by
  fun_induction ByteArray.toList.loop bytes i seen with
  | case1 i seen h ih =>
    have hi : i < bytes.data.toList.length := by simpa using h
    rw [ih, List.drop_eq_getElem_cons hi]
    simp [ByteArray.get!, h]
  | case2 i seen h =>
    rw [List.drop_eq_nil_of_le (by simpa using Nat.le_of_not_lt h)]
    simp

theorem toList_eq_data (bytes : ByteArray) : bytes.toList = bytes.data.toList := by
  simp [ByteArray.toList, toList_loop]

theorem toByteArray_encode (text : String) : (encode text).toByteArray = text.toByteArray := by
  apply ByteArray.ext
  rw [encode, toList_eq_data, List.data_toByteArray]

/-- A text is read back from its bytes. -/
theorem decode_encode (text : String) : decode (encode text) = .ok text := by
  have hvalid : text.toByteArray.IsValidUTF8 := text.isValidUTF8
  unfold decode
  rw [toByteArray_encode, String.fromUTF8?, dif_pos hvalid]
  rfl

/-- The bytes of a text are those of its characters. -/
theorem encode_eq (text : String) : encode text = text.toList.flatMap String.utf8EncodeChar := by
  have hbytes : text.toByteArray = (text.toList.flatMap String.utf8EncodeChar).toByteArray := by
    rw [← String.utf8Encode_toList, List.utf8Encode]
  rw [encode, hbytes, toList_eq_data, List.data_toByteArray]

theorem encode_ofList (cs : List Char) : encode (String.ofList cs) = cs.flatMap String.utf8EncodeChar := by
  rw [encode_eq, String.toList_ofList]

/-- A text has as many bytes as it occupies. -/
theorem length_encode (text : String) : (encode text).length = text.utf8ByteSize := by
  have hsize : text.toByteArray.size = text.utf8ByteSize := String.size_toByteArray
  rw [encode, toList_eq_data, Array.length_toList, ByteArray.size_data, hsize]

end Utf8

namespace Hex

/-- A digit that is written is one byte, from which its value is read. -/
theorem exists_digit {n : UInt8} (h : n.toNat < 16) :
    ∃ b, String.utf8EncodeChar (digitChar n) = [b] ∧ digitValue? b = some n := by
  rw [← UInt8.ofNat_toNat (x := n)]
  generalize n.toNat = m at h
  interval_cases m <;> exact ⟨_, rfl, rfl⟩

/-- A byte is written as the digits of its two halves. -/
theorem exists_pair (b : UInt8) (rest : List UInt8) :
    ∃ high low, digitValue? high = some (b / 16) ∧ digitValue? low = some (b % 16) ∧
      (encode (b :: rest)).flatMap String.utf8EncodeChar =
        high :: low :: (encode rest).flatMap String.utf8EncodeChar := by
  have hbyte : b.toNat < 256 := b.toNat_lt
  have hquotient : (b / 16).toNat = b.toNat / 16 := UInt8.toNat_div b 16
  have hremainder : (b % 16).toNat = b.toNat % 16 := UInt8.toNat_mod b 16
  obtain ⟨high, hhigh, hhighValue⟩ := exists_digit (n := b / 16) (by omega)
  obtain ⟨low, hlow, hlowValue⟩ := exists_digit (n := b % 16) (by omega)
  exact ⟨high, low, hhighValue, hlowValue, by simp [encode, hhigh, hlow]⟩

theorem join_halves (b : UInt8) : b / 16 * 16 + b % 16 = b := by
  have hbyte : b.toNat < 256 := b.toNat_lt
  apply UInt8.toNat_inj.1
  rw [UInt8.toNat_add, UInt8.toNat_mul, UInt8.toNat_div, UInt8.toNat_mod]
  simp only [UInt8.reduceToNat]
  omega

theorem length_encode (bytes : List UInt8) :
    (Utf8.encode (String.ofList (encode bytes))).length = 2 * bytes.length := by
  rw [Utf8.encode_ofList]
  induction bytes with
  | nil => rfl
  | cons b rest ih =>
    obtain ⟨high, low, -, -, hbytes⟩ := exists_pair b rest
    rw [hbytes, List.length_cons, List.length_cons, ih, List.length_cons]
    omega

theorem decodeFrom_encode (bytes : List UInt8) (position : Nat) :
    decodeFrom position ((encode bytes).flatMap String.utf8EncodeChar) = .ok bytes := by
  induction bytes generalizing position with
  | nil => rfl
  | cons b rest ih =>
    obtain ⟨high, low, hhigh, hlow, hbytes⟩ := exists_pair b rest
    rw [hbytes, decodeFrom, digitAt, digitAt, hhigh, hlow, ih]
    simp only [bind, Except.bind, pure, Except.pure, join_halves]

/-- Bytes are read back from their digits. -/
theorem decode_encode (bytes : List UInt8) : decode (Utf8.encode (String.ofList (encode bytes))) = .ok bytes := by
  rw [Utf8.encode_ofList]
  exact decodeFrom_encode bytes 0

end Hex

/-! ## Numerals -/

namespace Utf8

theorem utf8EncodeChar_of_small {c : Char} (h : c.toNat < 0x80) :
    String.utf8EncodeChar c = [.ofNat c.toNat] := by
  have hcode : c.val.toNat ≤ 127 := Nat.le_of_lt_succ h
  unfold String.utf8EncodeChar
  exact if_pos hcode

/-- The first byte of a character beyond ASCII is beyond ASCII. -/
theorem exists_first {c : Char} (h : 0x80 ≤ c.toNat) :
    ∃ first rest, String.utf8EncodeChar c = first :: rest ∧ 0x80 ≤ first.toNat := by
  have hcode : c.toNat = c.val.toNat := rfl
  unfold String.utf8EncodeChar
  dsimp only
  split
  · omega
  · split
    · exact ⟨_, _, rfl, by rw [UInt8.toNat_ofNat']; omega⟩
    · split
      · exact ⟨_, _, rfl, by rw [UInt8.toNat_ofNat']; omega⟩
      · exact ⟨_, _, rfl, by rw [UInt8.toNat_ofNat']; omega⟩

end Utf8

namespace Hex

/-- A digit is an ASCII character, and its value is below sixteen. -/
theorem digitValue?_bounds {b v : UInt8} (h : digitValue? b = some v) : b.toNat < 0x80 ∧ v.toNat < 16 := by
  unfold digitValue? at h
  simp only [Bool.and_eq_true, decide_eq_true_eq, UInt8.le_iff_toNat_le, UInt8.reduceToNat] at h
  split at h
  · cases h
    simp only [UInt8.toNat_sub, UInt8.reduceToNat]
    omega
  · split at h
    · cases h
      simp only [UInt8.toNat_sub, UInt8.reduceToNat]
      omega
    · split at h
      · cases h
        simp only [UInt8.toNat_sub, UInt8.reduceToNat]
        omega
      · cases h

theorem digitValue?_of_large {b : UInt8} (h : 0x80 ≤ b.toNat) : digitValue? b = none := by
  cases hdigit : digitValue? b with
  | none => rfl
  | some v =>
    have hsmall := (digitValue?_bounds hdigit).1
    omega

/-- The number that digits given as bytes spell after digits that spell `n`. -/
def valueFrom? (n : Nat) (digits : List UInt8) : Option Nat :=
  digits.foldlM (fun n b => (digitValue? b).map fun d => n * 16 + d.toNat) n

theorem valueFrom?_cons (n : Nat) (b : UInt8) (rest : List UInt8) :
    valueFrom? n (b :: rest) = (digitValue? b).bind fun d => valueFrom? (n * 16 + d.toNat) rest := by
  rw [valueFrom?, List.foldlM_cons]
  cases digitValue? b <;> rfl

theorem valueFrom?_append (n : Nat) (front rest : List UInt8) :
    valueFrom? n (front ++ rest) = (valueFrom? n front).bind fun m => valueFrom? m rest :=
  List.foldlM_append

theorem valueFrom?_utf8EncodeChar (n : Nat) (c : Char) :
    valueFrom? n (String.utf8EncodeChar c) = (digit? c).map fun d => n * 16 + d := by
  by_cases hsmall : c.toNat < 0x80
  · rw [Utf8.utf8EncodeChar_of_small hsmall, valueFrom?_cons, digit?, if_pos hsmall]
    cases digitValue? (.ofNat c.toNat) <;> rfl
  · obtain ⟨first, rest, hbytes, hfirst⟩ := Utf8.exists_first (Nat.le_of_not_lt hsmall)
    rw [hbytes, valueFrom?_cons, digitValue?_of_large hfirst, digit?, if_neg hsmall]
    rfl

/-- A numeral spells the number that its bytes spell. -/
theorem number?_eq_valueFrom? (digits : List Char) :
    number? digits = valueFrom? 0 (digits.flatMap String.utf8EncodeChar) := by
  unfold number?
  generalize 0 = n
  induction digits generalizing n with
  | nil => rfl
  | cons c rest ih =>
    rw [List.foldlM_cons, List.flatMap_cons, valueFrom?_append, valueFrom?_utf8EncodeChar]
    cases digit? c with
    | none => rfl
    | some d => exact ih (n * 16 + d)

theorem number?_eq_none_iff {digits : List Char} : number? digits = none ↔ ∃ c ∈ digits, digit? c = none := by
  unfold number?
  generalize 0 = n
  induction digits generalizing n with
  | nil => simp
  | cons c rest ih =>
    rw [List.foldlM_cons, List.exists_mem_cons_iff]
    cases hdigit : digit? c with
    | none => simp
    | some d => simpa using ih (n * 16 + d)

/-- The byte behind a pair of digits does not overflow. -/
theorem toNat_pair {high low h l : UInt8} (hhigh : digitValue? high = some h) (hlow : digitValue? low = some l) :
    (h * 16 + l).toNat = h.toNat * 16 + l.toNat := by
  have hh := (digitValue?_bounds hhigh).2
  have hl := (digitValue?_bounds hlow).2
  rw [UInt8.toNat_add, UInt8.toNat_mul]
  simp only [UInt8.reduceToNat]
  omega

end Hex

/-! ## Blanks -/

namespace Blank

/-- `text` stands in `cs` between blanks, and neither begins nor ends with one. -/
def Trims (cs text : List Char) : Prop :=
  ∃ lead trail, cs = lead ++ text ++ trail ∧ (∀ c ∈ lead ++ trail, isBlank c = true) ∧
    (∀ c ∈ text.head?, isBlank c = false) ∧ ∀ c ∈ text.getLast?, isBlank c = false

theorem dropWhile_eq_self {cs : List Char} (h : ∀ c ∈ cs.head?, isBlank c = false) :
    cs.dropWhile isBlank = cs := by
  cases cs with
  | nil => rfl
  | cons c rest => exact List.dropWhile_cons_of_neg (by simp [h c rfl])

theorem isBlank_head?_dropWhile (cs : List Char) : ∀ c ∈ (cs.dropWhile isBlank).head?, isBlank c = false := by
  intro c hc
  have hnot := List.head?_dropWhile_not isBlank cs
  rw [hc] at hnot
  exact hnot

theorem trims_trim (cs : List Char) : Trims cs (trim cs) := by
  have hfront : cs.takeWhile isBlank ++ cs.dropWhile isBlank = cs := List.takeWhile_append_dropWhile
  have hback : trim cs ++ ((cs.dropWhile isBlank).reverse.takeWhile isBlank).reverse = cs.dropWhile isBlank := by
    rw [trim, ← List.reverse_append, List.takeWhile_append_dropWhile, List.reverse_reverse]
  refine ⟨cs.takeWhile isBlank, ((cs.dropWhile isBlank).reverse.takeWhile isBlank).reverse, ?_, ?_, ?_, ?_⟩
  · rw [List.append_assoc, hback, hfront]
  · intro c hc
    rcases List.mem_append.1 hc with hlead | htrail
    · exact List.mem_takeWhile_imp hlead
    · exact List.mem_takeWhile_imp (List.mem_reverse.1 htrail)
  · intro c hc
    have hhead := isBlank_head?_dropWhile cs
    rw [← hback, List.head?_append_of_ne_nil] at hhead
    · exact hhead c hc
    · intro hnil
      rw [hnil] at hc
      cases hc
  · intro c hc
    rw [trim, List.getLast?_reverse] at hc
    exact isBlank_head?_dropWhile _ c hc

theorem trim_of_trims {cs text : List Char} (h : Trims cs text) : trim cs = text := by
  obtain ⟨lead, trail, rfl, hblank, hhead, hlast⟩ := h
  have hlead : ∀ c ∈ lead, isBlank c = true := fun c hc => hblank c (List.mem_append_left _ hc)
  have htrail : ∀ c ∈ trail, isBlank c = true := fun c hc => hblank c (List.mem_append_right _ hc)
  rw [trim, List.append_assoc, List.dropWhile_append_of_pos hlead]
  cases text with
  | nil =>
    rw [List.nil_append, List.dropWhile_eq_nil_iff.2 htrail]
    rfl
  | cons first rest =>
    have hback : ∀ c ∈ (first :: rest).reverse.head?, isBlank c = false := by
      intro c hc
      exact hlast c (by rwa [List.head?_reverse] at hc)
    have hfront : ∀ c ∈ (first :: rest ++ trail).head?, isBlank c = false := hhead
    rw [dropWhile_eq_self hfront, List.reverse_append, List.dropWhile_append_of_pos (by simpa using htrail),
      dropWhile_eq_self hback, List.reverse_reverse]

/-- Trimming finds the one text that stands between the blanks. -/
theorem trim_eq_iff {cs text : List Char} : trim cs = text ↔ Trims cs text :=
  ⟨fun h => h ▸ trims_trim cs, trim_of_trims⟩

theorem trim_eq_self {cs : List Char} (h : ∀ c ∈ cs, isBlank c = false) : trim cs = cs := by
  refine trim_eq_iff.2 ⟨[], [], by simp, by simp, ?_, ?_⟩
  · intro c hc
    exact h c (List.mem_of_mem_head? hc)
  · intro c hc
    exact h c (List.mem_of_mem_getLast? hc)

end Blank

end ScadaBridge
