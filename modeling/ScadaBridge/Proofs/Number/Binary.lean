import Mathlib.Algebra.Order.Field.Rat
import Mathlib.Tactic.FieldSimp
import Mathlib.Tactic.Positivity
import ScadaBridge.Number.Binary

/-!
# Rounding and conversion

A finite number is kept with all bits of its mantissa in use unless its exponent is the least one
(`Canonical`), and is read back from its pattern. A ratio that is such a number is rounded to it
(`Canonical.roundRatio_eq`), so that conversion to a wider format is exact and conversion back gives the
first pattern (`convert_convert`).
-/

namespace ScadaBridge.BinaryFormat

variable {f : BinaryFormat}

/-! ## Patterns and their fields -/

/-- The pattern without a sign whose fields are given. -/
def fields (f : BinaryFormat) (biased fraction : Nat) : Nat := biased * 2 ^ f.fractionBits + fraction

theorem fields_lt {biased fraction bound : Nat} (hb : biased < bound)
    (hf : fraction < 2 ^ f.fractionBits) : f.fields biased fraction < bound * 2 ^ f.fractionBits := by
  have hmul : (biased + 1) * 2 ^ f.fractionBits ≤ bound * 2 ^ f.fractionBits :=
    Nat.mul_le_mul_right _ hb
  unfold fields
  rw [Nat.add_mul] at hmul
  omega

theorem signWeight_eq (f : BinaryFormat) :
    f.signWeight = 2 ^ f.exponentBits * 2 ^ f.fractionBits := by
  unfold signWeight
  rw [Nat.pow_eq, Nat.pow_add, Nat.mul_comm]

section Fields

variable (negative : Bool) {biased fraction : Nat} (hb : biased < 2 ^ f.exponentBits)
  (hf : fraction < 2 ^ f.fractionBits)

include hf in
theorem withSign_mod : f.withSign negative (f.fields biased fraction) % 2 ^ f.fractionBits = fraction := by
  have hfields : f.fields biased fraction % 2 ^ f.fractionBits = fraction := by
    unfold fields
    rw [Nat.mul_add_mod_self_right, Nat.mod_eq_of_lt hf]
  cases negative with
  | false => exact hfields
  | true =>
    show (f.signWeight + f.fields biased fraction) % _ = _
    rw [signWeight_eq, Nat.mul_add_mod_self_right, hfields]

include hb hf in
theorem withSign_div :
    f.withSign negative (f.fields biased fraction) / 2 ^ f.fractionBits % 2 ^ f.exponentBits = biased := by
  have hfields : f.fields biased fraction / 2 ^ f.fractionBits = biased := by
    unfold fields
    rw [Nat.mul_comm, Nat.mul_add_div (Nat.two_pow_pos _), Nat.div_eq_of_lt hf, Nat.add_zero]
  cases negative with
  | false =>
    show f.fields biased fraction / _ % _ = _
    rw [hfields, Nat.mod_eq_of_lt hb]
  | true =>
    show (f.signWeight + f.fields biased fraction) / _ % _ = _
    rw [signWeight_eq, Nat.mul_comm, Nat.mul_add_div (Nat.two_pow_pos _), hfields, Nat.add_mod_left,
      Nat.mod_eq_of_lt hb]

include hb hf in
theorem withSign_sign :
    (f.withSign negative (f.fields biased fraction) / f.signWeight % 2 == 1) = negative := by
  have hlt : f.fields biased fraction < f.signWeight := by
    rw [signWeight_eq]
    exact fields_lt hb hf
  have hpos : 0 < f.signWeight := Nat.two_pow_pos _
  cases negative with
  | false =>
    show (f.fields biased fraction / f.signWeight % 2 == 1) = false
    rw [Nat.div_eq_of_lt hlt]
    rfl
  | true =>
    show ((f.signWeight + f.fields biased fraction) / f.signWeight % 2 == 1) = true
    rw [Nat.add_div_left _ hpos, Nat.div_eq_of_lt hlt]
    rfl

include hb hf in
/-- The number behind the pattern with the given fields. -/
theorem decode_fields :
    f.decode (f.withSign negative (f.fields biased fraction)) =
      if biased = 2 ^ f.exponentBits - 1 then if fraction = 0 then .infinite negative else .nan
      else if biased = 0 then .finite negative fraction f.leastExponent
      else .finite negative (2 ^ f.fractionBits + fraction) (f.leastExponent + biased - 1) := by
  have hmod : f.withSign negative (f.fields biased fraction) % 2 ^ f.fractionBits = fraction :=
    withSign_mod negative hf
  have hdiv := withSign_div negative hb hf
  have hsign := withSign_sign negative hb hf
  simp only [decode, Nat.pow_eq, hmod, hdiv, hsign]

include hb hf in
theorem isFinite_fields :
    f.isFinite (f.withSign negative (f.fields biased fraction)) = (biased != 2 ^ f.exponentBits - 1) := by
  have hdiv := withSign_div negative hb hf
  simp only [isFinite, Nat.pow_eq, hdiv]

end Fields

theorem exists_fields {bits : Nat} (h : bits < 2 * f.signWeight) :
    ∃ negative biased fraction, biased < 2 ^ f.exponentBits ∧ fraction < 2 ^ f.fractionBits ∧
      bits = f.withSign negative (f.fields biased fraction) := by
  have hsplit : ∀ magnitude < f.signWeight, ∃ biased fraction, biased < 2 ^ f.exponentBits ∧
      fraction < 2 ^ f.fractionBits ∧ magnitude = f.fields biased fraction := by
    intro magnitude hlt
    rw [signWeight_eq, Nat.mul_comm] at hlt
    exact ⟨magnitude / 2 ^ f.fractionBits, magnitude % 2 ^ f.fractionBits, Nat.div_lt_of_lt_mul hlt,
      Nat.mod_lt _ (Nat.two_pow_pos _), (Nat.div_add_mod' _ _).symm⟩
  by_cases hsign : f.signWeight ≤ bits
  · obtain ⟨biased, fraction, hb, hf, heq⟩ := hsplit (bits - f.signWeight) (by omega)
    refine ⟨true, biased, fraction, hb, hf, ?_⟩
    rw [← heq]
    exact (Nat.add_sub_cancel' hsign).symm
  · obtain ⟨biased, fraction, hb, hf, heq⟩ := hsplit bits (by omega)
    exact ⟨false, biased, fraction, hb, hf, heq⟩

/-! ## Canonical numbers -/

/-- The pattern of `m * 2 ^ e` as the format keeps it, without a sign. -/
def encode (f : BinaryFormat) (m : Nat) (e : Int) : Nat :=
  (e - f.leastExponent).toNat * 2 ^ f.fractionBits + m

/-- The number `m * 2 ^ e` is as the format keeps it: all bits of the mantissa are used, unless the exponent is
the least one, and the pattern is below that of the infinities. -/
structure Canonical (f : BinaryFormat) (m : Nat) (e : Int) : Prop where
  least : f.leastExponent ≤ e
  lt : m < 2 ^ (f.fractionBits + 1)
  full : 2 ^ f.fractionBits ≤ m ∨ e = f.leastExponent
  below : f.encode m e < f.infinity

theorem encode_fields (f : BinaryFormat) (n fraction : Nat) :
    f.encode (2 ^ f.fractionBits + fraction) (f.leastExponent + n) = f.fields (n + 1) fraction := by
  have hn : (f.leastExponent + n - f.leastExponent).toNat = n := by omega
  unfold encode fields
  rw [hn, Nat.add_mul, Nat.one_mul, Nat.add_assoc]

/-- A pattern of a finite number is that of a canonical number. -/
theorem exists_canonical {bits : Nat} (h : bits < 2 * f.signWeight) (finite : f.isFinite bits = true) :
    ∃ negative m e, f.Canonical m e ∧ f.decode bits = .finite negative m e ∧
      bits = f.withSign negative (f.encode m e) := by
  obtain ⟨negative, biased, fraction, hb, hf, rfl⟩ := exists_fields h
  rw [isFinite_fields negative hb hf] at finite
  have hfinite : biased ≠ 2 ^ f.exponentBits - 1 := by simpa using finite
  have hbelow : f.fields biased fraction < f.infinity :=
    fields_lt (show biased < 2 ^ f.exponentBits - 1 by omega) hf
  cases biased with
  | zero =>
    -- subnormal: the least exponent, and no leading bit
    have hencode : f.encode fraction f.leastExponent = f.fields 0 fraction := by simp [encode, fields]
    refine ⟨negative, fraction, f.leastExponent, ⟨Int.le_refl _, ?_, .inr rfl, ?_⟩, ?_, ?_⟩
    · rw [Nat.pow_succ]
      omega
    · rw [hencode]
      exact hbelow
    · rw [decode_fields negative hb hf, if_neg hfinite, if_pos rfl]
    · rw [hencode]
  | succ n =>
    -- the leading bit, which the pattern leaves out, carries into the exponent of `encode`
    refine ⟨negative, 2 ^ f.fractionBits + fraction, f.leastExponent + n,
      ⟨by omega, ?_, .inl (Nat.le_add_right _ _), ?_⟩, ?_, ?_⟩
    · rw [Nat.pow_succ]
      omega
    · rw [encode_fields]
      exact hbelow
    · rw [decode_fields negative hb hf, if_neg hfinite, if_neg n.succ_ne_zero, Int.natCast_succ,
        ← Int.add_assoc, Int.add_sub_cancel]
    · rw [encode_fields]

namespace Canonical

variable {m : Nat} {e : Int}

/-- The number is read back from its pattern, with either sign. -/
theorem decode_encode (h : f.Canonical m e) (negative : Bool) :
    f.decode (f.withSign negative (f.encode m e)) = .finite negative m e := by
  obtain ⟨hleast, hlt, hfull, hbelow⟩ := h
  have hpos : 0 < 2 ^ f.fractionBits := Nat.two_pow_pos _
  by_cases hsmall : m < 2 ^ f.fractionBits
  · obtain rfl : e = f.leastExponent := hfull.resolve_left (by omega)
    have hencode : f.encode m f.leastExponent = f.fields 0 m := by simp [encode, fields]
    have hb : 0 < 2 ^ f.exponentBits - 1 := Nat.pos_of_mul_pos_right (Nat.zero_lt_of_lt hbelow)
    rw [hencode, decode_fields negative (by omega) hsmall, if_neg (by omega), if_pos rfl]
  · obtain ⟨n, rfl⟩ : ∃ n : Nat, e = f.leastExponent + n := Int.exists_add_of_le hleast
    obtain ⟨fraction, rfl⟩ : ∃ fraction, m = 2 ^ f.fractionBits + fraction :=
      Nat.exists_eq_add_of_le (by omega)
    have hf : fraction < 2 ^ f.fractionBits := by
      rw [Nat.pow_succ] at hlt
      omega
    rw [encode_fields] at hbelow ⊢
    have hb : n + 1 < 2 ^ f.exponentBits - 1 := by
      refine Nat.lt_of_mul_lt_mul_right (Nat.lt_of_le_of_lt ?_ hbelow)
      exact Nat.le_add_right _ _
    rw [decode_fields negative (by omega) hf, if_neg (by omega), if_neg n.succ_ne_zero, Int.natCast_succ,
      ← Int.add_assoc, Int.add_sub_cancel]

theorem withSign_lt (h : f.Canonical m e) (negative : Bool) :
    f.withSign negative (f.encode m e) < 2 * f.signWeight := by
  have hle : f.infinity ≤ f.signWeight := by
    rw [signWeight_eq]
    exact Nat.mul_le_mul_right _ (Nat.sub_le _ _)
  have hbelow := h.below
  unfold withSign
  split <;> omega

end Canonical

/-! ## Rounding -/

/-- A power of two as a ratio of natural numbers, one of which is one. -/
theorem zpow_eq_div (e : Int) : (2 : ℚ) ^ e = (2 ^ e.toNat : Nat) / (2 ^ (-e).toNat : Nat) := by
  push_cast
  rw [← zpow_natCast, ← zpow_natCast, ← zpow_sub₀ two_ne_zero, Int.toNat_sub_toNat_neg]

theorem zpow_mul_eq_iff (e : Int) (a b : Nat) :
    (2 : ℚ) ^ e * a = b ↔ a * 2 ^ e.toNat = b * 2 ^ (-e).toNat := by
  rw [zpow_eq_div, div_mul_eq_mul_div, div_eq_iff (by positivity), mul_comm]
  exact_mod_cast Iff.rfl

theorem zpow_mul_le_iff (e : Int) (a b : Nat) :
    (2 : ℚ) ^ e * a ≤ b ↔ if 0 ≤ e then a * 2 ^ e.toNat ≤ b else a ≤ b * 2 ^ (-e).toNat := by
  have hscaled : (2 : ℚ) ^ e * a ≤ b ↔ a * 2 ^ e.toNat ≤ b * 2 ^ (-e).toNat := by
    rw [zpow_eq_div, div_mul_eq_mul_div, div_le_iff₀ (by positivity), mul_comm]
    exact_mod_cast Iff.rfl
  rw [hscaled]
  split
  · next hnonneg => rw [Int.toNat_of_nonpos (show -e ≤ 0 by omega), Nat.pow_zero, Nat.mul_one]
  · next hneg => rw [Int.toNat_of_nonpos (show e ≤ 0 by omega), Nat.pow_zero, Nat.mul_one]

theorem log2_bounds {n : Nat} (h : 0 < n) :
    (2 : ℚ) ^ (n.log2 : Int) ≤ n ∧ (n : ℚ) < 2 ^ ((n.log2 : Int) + 1) := by
  have hlow : 2 ^ n.log2 ≤ n := Nat.log2_self_le (Nat.ne_of_gt h)
  have hhigh : n < 2 ^ (n.log2 + 1) := Nat.lt_log2_self
  exact ⟨by exact_mod_cast hlow, by exact_mod_cast hhigh⟩

theorem floorLog2_eq {num den : Nat} {k : Int} (hnum : 0 < num) (hden : 0 < den)
    (hlow : (2 : ℚ) ^ k * den ≤ num) (hhigh : (num : ℚ) < 2 ^ (k + 1) * den) :
    floorLog2 num den = k := by
  have one_lt : (1 : ℚ) < 2 := by norm_num
  have two_ne : (2 : ℚ) ≠ 0 := by norm_num
  have hpos : ∀ e : Int, (0 : ℚ) < 2 ^ e := zpow_pos (by norm_num)
  obtain ⟨hnumlow, hnumhigh⟩ := log2_bounds hnum
  obtain ⟨hdenlow, hdenhigh⟩ := log2_bounds hden
  have hbelow : (num.log2 : Int) < k + 1 + (den.log2 + 1) := by
    refine (zpow_lt_zpow_iff_right₀ one_lt).1 ?_
    calc (2 : ℚ) ^ (num.log2 : Int) ≤ num := hnumlow
      _ < 2 ^ (k + 1) * den := hhigh
      _ < 2 ^ (k + 1) * 2 ^ ((den.log2 : Int) + 1) := mul_lt_mul_of_pos_left hdenhigh (hpos _)
      _ = 2 ^ (k + 1 + (den.log2 + 1)) := (zpow_add₀ two_ne _ _).symm
  have habove : k + den.log2 < num.log2 + 1 := by
    refine (zpow_lt_zpow_iff_right₀ one_lt).1 ?_
    calc (2 : ℚ) ^ (k + den.log2) = 2 ^ k * 2 ^ (den.log2 : Int) := zpow_add₀ two_ne _ _
      _ ≤ 2 ^ k * den := mul_le_mul_of_nonneg_left hdenlow (hpos _).le
      _ ≤ num := hlow
      _ < 2 ^ ((num.log2 : Int) + 1) := hnumhigh
  -- so the estimate is the logarithm or one more, and the test tells which
  have hreached := zpow_mul_le_iff ((num.log2 : Int) - den.log2) den num
  unfold floorLog2
  simp only [Nat.pow_eq]
  by_cases hk : (num.log2 : Int) - den.log2 = k
  · rw [hk] at hreached ⊢
    rw [if_pos (hreached.1 hlow)]
  · obtain hk : (num.log2 : Int) - den.log2 = k + 1 := by omega
    rw [hk] at hreached ⊢
    rw [if_neg (mt hreached.2 (not_le.2 hhigh)), Int.add_sub_cancel]

theorem roundDiv_mul (q : Nat) {den : Nat} (hden : 0 < den) : roundDiv (q * den) den = q := by
  unfold roundDiv
  simp [Nat.mul_div_cancel _ hden, hden]

namespace Canonical

variable {m : Nat} {e : Int}

theorem max_log2 (h : f.Canonical m e) (hm : 0 < m) :
    max ((m.log2 : Int) + e - f.fractionBits) f.leastExponent = e := by
  have hlog : m.log2 < f.fractionBits + 1 := (Nat.log2_lt (Nat.ne_of_gt hm)).2 h.lt
  have hleast := h.least
  rcases h.full with hfull | rfl
  · have hge : f.fractionBits ≤ m.log2 := (Nat.le_log2 (Nat.ne_of_gt hm)).2 hfull
    omega
  · omega

/-- A ratio that is a canonical number is rounded to it, however it is written. -/
theorem roundRatio_eq (h : f.Canonical m e) {num den : Nat} (hden : 0 < den)
    (hvalue : (num : ℚ) = 2 ^ e * (m * den : Nat)) : f.roundRatio num den = f.encode m e := by
  have hpos : ∀ e : Int, (0 : ℚ) < 2 ^ e := zpow_pos (by norm_num)
  have two_ne : (2 : ℚ) ≠ 0 := by norm_num
  have hden' : (0 : ℚ) < den := by exact_mod_cast hden
  rcases Nat.eq_zero_or_pos m with rfl | hm
  · have hnum : num = 0 := by
      rw [Nat.zero_mul, Nat.cast_zero, mul_zero] at hvalue
      exact_mod_cast hvalue
    have he : e = f.leastExponent := h.full.resolve_left (Nat.not_le.2 (Nat.two_pow_pos _))
    simp [roundRatio, encode, hnum, he]
  · have hnum : 0 < num := by
      have hmul : (0 : ℚ) < (m * den : Nat) := by exact_mod_cast Nat.mul_pos hm hden
      have hnum' : (0 : ℚ) < num := by
        rw [hvalue]
        exact mul_pos (hpos e) hmul
      exact_mod_cast hnum'
    -- the exponent that rounding picks is the one that the number has, and nothing is cut off
    have hlog : floorLog2 num den = m.log2 + e := by
      obtain ⟨hlow, hhigh⟩ := log2_bounds hm
      have hscaled : (num : ℚ) = 2 ^ e * m * den := by
        rw [hvalue, Nat.cast_mul, mul_assoc]
      refine floorLog2_eq hnum hden ?_ ?_
      · rw [hscaled, zpow_add₀ two_ne, mul_comm ((2 : ℚ) ^ (m.log2 : Int))]
        exact mul_le_mul_of_nonneg_right (mul_le_mul_of_nonneg_left hlow (hpos e).le) hden'.le
      · rw [hscaled, add_right_comm, add_comm, zpow_add₀ two_ne]
        exact mul_lt_mul_of_pos_right (mul_lt_mul_of_pos_left hhigh (hpos e)) hden'
    have hmantissa : (if 0 ≤ e then roundDiv num (den * 2 ^ e.toNat)
        else roundDiv (num * 2 ^ (-e).toNat) den) = m := by
      have hexact := (zpow_mul_eq_iff e (m * den) num).1 hvalue.symm
      split
      · next hnonneg =>
        rw [Int.toNat_of_nonpos (show -e ≤ 0 by omega), Nat.pow_zero, Nat.mul_one, Nat.mul_assoc] at hexact
        rw [← hexact]
        exact roundDiv_mul m (Nat.mul_pos hden (Nat.two_pow_pos _))
      · next hneg =>
        rw [Int.toNat_of_nonpos (show e ≤ 0 by omega), Nat.pow_zero, Nat.mul_one] at hexact
        rw [← hexact]
        exact roundDiv_mul m hden
    have hbelow := h.below
    unfold roundRatio
    simp only [Nat.pow_eq]
    rw [if_neg (Nat.ne_of_gt hnum), hlog, h.max_log2 hm, hmantissa]
    exact Nat.min_eq_left hbelow.le

/-- A canonical number that is given by another mantissa and exponent is rounded to itself. -/
theorem roundScaled_eq (h : f.Canonical m e) {m' : Nat} {e' : Int}
    (hvalue : (2 : ℚ) ^ e' * m' = 2 ^ e * m) : f.roundScaled m' e' = f.encode m e := by
  unfold roundScaled
  simp only [Nat.pow_eq]
  split
  · next hnonneg =>
    obtain ⟨n, rfl⟩ := Int.eq_ofNat_of_zero_le hnonneg
    refine h.roundRatio_eq Nat.one_pos ?_
    rw [Nat.mul_one, ← hvalue, Int.toNat_natCast, zpow_natCast, mul_comm]
    push_cast
    rfl
  · next hneg =>
    obtain ⟨n, hn⟩ := Int.eq_ofNat_of_zero_le (show 0 ≤ -e' by omega)
    obtain rfl : e' = -n := by omega
    refine h.roundRatio_eq (Nat.two_pow_pos _) ?_
    rw [neg_neg, Int.toNat_natCast, Nat.cast_mul, ← mul_assoc, ← hvalue, zpow_neg, zpow_natCast]
    push_cast
    field_simp

end Canonical

/-! ## Conversion -/

/-- The numbers of one format are numbers of another one, which has longer mantissas and exponents that reach
further on both sides. -/
structure Within (source target : BinaryFormat) : Prop where
  fraction : source.fractionBits ≤ target.fractionBits
  least : target.leastExponent + target.fractionBits ≤ source.leastExponent
  greatest : source.leastExponent + (2 ^ source.exponentBits : Nat) <
    target.leastExponent + (2 ^ target.exponentBits : Nat)

theorem single_within_double : single.Within double := ⟨by decide, by decide, by decide⟩

/-- A canonical number of a format is one of any format that it lies within, with another mantissa and
exponent. -/
theorem Canonical.exists_within {source target : BinaryFormat} (hwithin : source.Within target) {m : Nat}
    {e : Int} (h : source.Canonical m e) :
    ∃ m' e', target.Canonical m' e' ∧ (2 : ℚ) ^ e * m = 2 ^ e' * m' := by
  obtain ⟨hfraction, hleast, hgreatest⟩ := hwithin
  have hsource : 0 < 2 ^ source.exponentBits := Nat.two_pow_pos _
  rcases Nat.eq_zero_or_pos m with rfl | hm
  · refine ⟨0, target.leastExponent, ⟨Int.le_refl _, Nat.two_pow_pos _, .inr rfl, ?_⟩, ?_⟩
    · have htwo : 0 < 2 ^ target.exponentBits - 1 := by omega
      have hzero : target.encode 0 target.leastExponent = 0 := by simp [encode]
      rw [hzero]
      exact Nat.mul_pos htwo (Nat.two_pow_pos _)
    · rw [Nat.cast_zero, mul_zero, mul_zero]
  · -- the mantissa is shifted until it fills the wider one
    have hlog : m.log2 < source.fractionBits + 1 := (Nat.log2_lt (Nat.ne_of_gt hm)).2 h.lt
    obtain ⟨shift, hshift⟩ : ∃ shift, target.fractionBits = m.log2 + shift :=
      Nat.exists_eq_add_of_le (by omega)
    have hfull : 2 ^ target.fractionBits ≤ m * 2 ^ shift := by
      rw [hshift, Nat.pow_add]
      exact Nat.mul_le_mul_right _ (Nat.log2_self_le (Nat.ne_of_gt hm))
    have hlt : m * 2 ^ shift < 2 ^ (target.fractionBits + 1) := by
      rw [hshift, Nat.add_right_comm, Nat.pow_add]
      exact Nat.mul_lt_mul_of_pos_right Nat.lt_log2_self (Nat.two_pow_pos _)
    have hexponent : (e - source.leastExponent).toNat < 2 ^ source.exponentBits - 1 :=
      Nat.lt_of_mul_lt_mul_right (Nat.lt_of_le_of_lt (Nat.le_add_right _ m) h.below)
    have hsourceLeast := h.least
    refine ⟨m * 2 ^ shift, e - shift, ⟨by omega, hlt, .inl hfull, ?_⟩, ?_⟩
    · have hroom : (e - shift - target.leastExponent).toNat + 2 ≤ 2 ^ target.exponentBits - 1 := by
        omega
      have hmul := Nat.mul_le_mul_right (2 ^ target.fractionBits) hroom
      rw [Nat.add_mul] at hmul
      rw [Nat.pow_succ] at hlt
      show _ < (2 ^ target.exponentBits - 1) * 2 ^ target.fractionBits
      unfold encode
      omega
    · rw [zpow_sub₀ two_ne_zero, zpow_natCast]
      push_cast
      field_simp

section Conversion

variable {source target : BinaryFormat} (hwithin : source.Within target) {bits : Nat}
  (h : bits < 2 * source.signWeight) (finite : source.isFinite bits = true)

include hwithin h finite

/-- Conversion to a wider format is exact: source and target pattern are of one canonical number. -/
theorem exists_convert :
    ∃ negative m e m' e', source.Canonical m e ∧ bits = source.withSign negative (source.encode m e) ∧
      target.Canonical m' e' ∧ convert source target bits = target.withSign negative (target.encode m' e') ∧
      (2 : ℚ) ^ e * m = 2 ^ e' * m' := by
  obtain ⟨negative, m, e, hcanonical, hdecode, hbits⟩ := exists_canonical h finite
  obtain ⟨m', e', hwide, hvalue⟩ := hcanonical.exists_within hwithin
  refine ⟨negative, m, e, m', e', hcanonical, hbits, hwide, ?_, hvalue⟩
  unfold convert
  rw [hdecode]
  dsimp only
  rw [hwide.roundScaled_eq hvalue]

theorem convert_lt : convert source target bits < 2 * target.signWeight := by
  obtain ⟨negative, m, e, m', e', -, -, hwide, hconvert, -⟩ := exists_convert hwithin h finite
  rw [hconvert]
  exact hwide.withSign_lt negative

/-- A number that is carried to a wider format and back is the same. -/
theorem convert_convert : convert target source (convert source target bits) = bits := by
  obtain ⟨negative, m, e, m', e', hcanonical, hbits, hwide, hconvert, hvalue⟩ :=
    exists_convert hwithin h finite
  rw [hconvert]
  unfold convert
  rw [hwide.decode_encode]
  dsimp only
  rw [hcanonical.roundScaled_eq hvalue.symm, hbits]

end Conversion

/-- A finite single-precision number is the same after it was carried in double precision. -/
theorem narrow_widen {bits : UInt32} (finite : single.isFinite bits.toNat = true) :
    narrow (widen bits) = bits := by
  have h : bits.toNat < 2 * single.signWeight := bits.toNat_lt
  have hwide : (widen bits).toNat = convert single double bits.toNat :=
    UInt64.toNat_ofNat_of_lt' (convert_lt single_within_double h finite)
  unfold narrow
  rw [hwide, convert_convert single_within_double h finite, UInt32.ofNat_toNat]

end ScadaBridge.BinaryFormat
