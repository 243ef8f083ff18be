import CarCleaner.Foundation.Formatted
import Mathlib.Algebra.Order.Group.Unbundled.Int

/-!
# Decimal texts read back

A buffer keeps the front of a decimal text that is too long for it.  The number that is
read from there is not the one that was printed, but it is large whenever something was
cut off, so limits that fit into the buffer are exceeded on the same side.
-/

namespace CarCleaner
namespace Foundation

/-!
# Digits
-/

theorem digitsValue_snoc (digits : List UInt8) (b : UInt8) :
    digitsValue (digits ++ [b]) = 10 * digitsValue digits + (b.toNat - 48) :=
  List.foldl_concat _ _ _ _

theorem toNat_digit_sub {d : Nat} (h : d < 10) : (UInt8.ofNat (48 + d)).toNat - 48 = d := by
  rw [UInt8.toNat_ofNat']
  omega

/-- The front of a decimal text is the quotient by a power of ten. -/
theorem digitsValue_take_decimal (n k : Nat) :
    digitsValue ((decimal n).take k) = n / 10 ^ ((decimal n).length - k) := by
  induction n using Nat.strong_induction_on generalizing k with
  | h n ih =>
      rcases Nat.lt_or_ge n 10 with hlt | hge
      · rw [decimal_of_lt hlt, List.length_singleton]
        cases k with
        | zero =>
            exact (Nat.div_eq_of_lt hlt).symm
        | succ k =>
            have hdigit := digitsValue_snoc [] (UInt8.ofNat (48 + n))
            rw [toNat_digit_sub hlt] at hdigit
            rw [List.take_succ_cons, List.take_nil, Nat.sub_eq_zero_of_le (by omega), pow_zero,
              Nat.div_one]
            exact hdigit.trans (Nat.zero_add n)
      · rw [decimal_of_le hge, List.length_append, List.length_singleton]
        rcases Nat.lt_or_ge (decimal (n / 10)).length k with hall | hfront
        · have hquotient := ih (n / 10) (by omega) (decimal (n / 10)).length
          rw [List.take_length, Nat.sub_self, pow_zero, Nat.div_one] at hquotient
          rw [List.take_of_length_le (by rw [List.length_append, List.length_singleton]; omega),
            digitsValue_snoc, hquotient, toNat_digit_sub (Nat.mod_lt n (by decide)),
            Nat.sub_eq_zero_of_le (by omega), pow_zero, Nat.div_one]
          exact Nat.div_add_mod n 10
        · rw [List.take_append_of_le_length hfront, ih (n / 10) (by omega) k,
            Nat.div_div_eq_div_mul, <- pow_succ', Nat.sub_add_comm hfront]

/-- A number is read back, or it was cut and both numbers are large. -/
theorem digitsValue_take_decimal_eq_or {k : Nat} (hk : 0 < k) (n : Nat) :
    digitsValue ((decimal n).take k) = n ∨
      10 ^ (k - 1) ≤ digitsValue ((decimal n).take k) ∧ 10 ^ (k - 1) ≤ n := by
  rw [digitsValue_take_decimal]
  rcases Nat.lt_or_ge k (decimal n).length with hcut | hall
  · right
    have hlarge : 10 ^ ((decimal n).length - 1) ≤ n :=
      not_lt.mp fun h => absurd ((length_decimal_le_iff (by omega)).mpr h) (by omega)
    have hpow : 10 ^ ((decimal n).length - 1) = 10 ^ (k - 1) * 10 ^ ((decimal n).length - k) := by
      rw [<- pow_add, show k - 1 + ((decimal n).length - k) = (decimal n).length - 1 by omega]
    rw [hpow] at hlarge
    constructor
    · exact (Nat.le_div_iff_mul_le (by positivity)).mpr hlarge
    · exact le_trans (Nat.le_mul_of_pos_right _ (by positivity)) hlarge
  · left
    rw [Nat.sub_eq_zero_of_le hall, pow_zero, Nat.div_one]

/-!
# Signs
-/

theorem takeWhile_isDigit {digits : List UInt8} (h : forall b, b ∈ digits -> isDigit b) :
    digits.takeWhile isDigit = digits :=
  List.takeWhile_eq_self_iff.mpr h

theorem signedPrefix_minus {digits : List UInt8} (h : forall b, b ∈ digits -> isDigit b) :
    signedPrefix (45 :: digits) = -(digitsValue digits : Int) := by
  have hspace : (45 :: digits).dropWhile isSpace = 45 :: digits := rfl
  rw [signedPrefix, hspace]
  simp only [if_true, takeWhile_isDigit h]

theorem digit_not_special {b : UInt8} (h : isDigit b) :
    isSpace b = false ∧ b ≠ 45 ∧ b ≠ 43 := by
  refine ⟨?_, ?_, ?_⟩
  · rw [isDigit, Bool.and_eq_true, decide_eq_true_iff, decide_eq_true_iff,
      UInt8.le_iff_toNat_le] at h
    rw [isSpace, Bool.or_eq_false_iff, Bool.and_eq_false_iff, beq_eq_false_iff_ne]
    constructor
    · intro heq
      subst heq
      exact absurd h.1 (by decide)
    · right
      rw [decide_eq_false_iff_not, UInt8.le_iff_toNat_le]
      exact fun hle => absurd (h.1.trans hle) (by decide)
  · intro heq
    subst heq
    exact absurd h (by decide)
  · intro heq
    subst heq
    exact absurd h (by decide)

theorem signedPrefix_digits {digits : List UInt8} (h : forall b, b ∈ digits -> isDigit b) :
    signedPrefix digits = digitsValue digits := by
  cases digits with
  | nil =>
      rfl
  | cons b rest =>
      rcases digit_not_special (h b List.mem_cons_self) with ⟨hspace, hminus, hplus⟩
      rw [signedPrefix, List.dropWhile_cons_of_neg (by rw [hspace]; decide)]
      simp only [if_neg hminus, if_neg hplus, takeWhile_isDigit h]

/-- An integer that is printed into a buffer and read back, or one with many digits. -/
theorem signedPrefix_snprintfBytes {size : Nat} (hsize : 3 ≤ size) (x : Int) :
    signedPrefix (snprintfBytes size (signedDecimal x)) = x ∨
      10 ^ (size - 3) ≤ signedPrefix (snprintfBytes size (signedDecimal x)) ∧
        10 ^ (size - 3) ≤ x ∨
      signedPrefix (snprintfBytes size (signedDecimal x)) ≤ -10 ^ (size - 3) ∧
        x ≤ -10 ^ (size - 3) := by
  have hdigits : forall k, forall b, b ∈ (decimal x.natAbs).take k -> isDigit b :=
    fun k b hb => isDigit_of_mem_decimal (List.mem_of_mem_take hb)
  rw [snprintfBytes_of_nul_free (zero_not_mem_signedDecimal x), signedDecimal]
  rcases lt_or_ge x 0 with hneg | hnonneg
  · have hfront : (45 :: decimal x.natAbs).take (size - 1) =
        45 :: (decimal x.natAbs).take (size - 2) := by
      rw [show size - 1 = size - 2 + 1 by omega, List.take_succ_cons]
    rw [if_pos hneg, hfront, signedPrefix_minus (hdigits _)]
    rcases digitsValue_take_decimal_eq_or (by omega : 0 < size - 2) x.natAbs with
      hsame | ⟨hread, hprinted⟩
    · left
      omega
    · right
      right
      rw [show size - 2 - 1 = size - 3 by omega] at hread hprinted
      zify at hread hprinted
      rw [abs_of_neg hneg] at hprinted
      constructor
      · exact neg_le_neg hread
      · omega
  · rw [if_neg (not_lt.mpr hnonneg), signedPrefix_digits (hdigits _)]
    rcases digitsValue_take_decimal_eq_or (by omega : 0 < size - 1) x.natAbs with
      hsame | ⟨hread, hprinted⟩
    · left
      omega
    · right
      left
      have hpow : 10 ^ (size - 3) ≤ 10 ^ (size - 1 - 1) :=
        Nat.pow_le_pow_right (by decide) (by omega)
      have hread' := hpow.trans hread
      have hprinted' := hpow.trans hprinted
      zify at hread' hprinted'
      rw [abs_of_nonneg hnonneg] at hprinted'
      exact ⟨hread', hprinted'⟩

/-- Limits that fit into the buffer and into a `long` see the number that was printed. -/
theorem saturate_atoi_snprintfBytes {size : Nat} (hsize : 3 ≤ size) {low high : Int}
    (h : low ≤ high) (hlow : -2147483648 ≤ low) (hhigh : high ≤ 2147483647)
    (hlow' : -10 ^ (size - 3) ≤ low) (hhigh' : high ≤ 10 ^ (size - 3)) (x : Int) :
    saturate low high (atoi (snprintfBytes size (signedDecimal x))) = saturate low high x := by
  rw [atoi, saturate_saturate h hlow hhigh]
  rcases signedPrefix_snprintfBytes hsize x with hsame | ⟨hread, hx⟩ | ⟨hread, hx⟩
  · rw [hsame]
  · rw [saturate_of_high_le h (hhigh'.trans hread), saturate_of_high_le h (hhigh'.trans hx)]
  · rw [saturate_of_le_low h (hread.trans hlow'), saturate_of_le_low h (hx.trans hlow')]

end Foundation
end CarCleaner
