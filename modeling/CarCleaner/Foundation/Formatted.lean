import CarCleaner.Foundation.CString
import CarCleaner.Foundation.Rounding
import Mathlib.Data.Rat.Floor

/-!
# Formatted numbers

The conversions of `printf` for numbers.  Integers are printed in decimal without
leading zeros, fractions with a fixed number of places behind the point.
-/

namespace CarCleaner
namespace Foundation

/-- `%u`. -/
def decimal (n : Nat) : List UInt8 :=
  (Nat.toDigits 10 n).map fun c => UInt8.ofNat c.toNat

/-- `%d`. -/
def signedDecimal (x : Int) : List UInt8 :=
  if x < 0 then 45 :: decimal x.natAbs else decimal x.natAbs

/-- A field of at least `width` characters, filled up on the left. -/
def padded (width : Nat) (fill : UInt8) (text : List UInt8) : List UInt8 :=
  List.replicate (width - text.length) fill ++ text

/-- `%.*f` with at least one place. -/
def fixedPoint (places : Nat) (x : Rat) : List UInt8 :=
  let scaled := (roundHalfEven (|x| * 10 ^ places)).toNat
  (if x < 0 then [45] else []) ++ decimal (scaled / 10 ^ places) ++
    46 :: padded places 48 (decimal (scaled % 10 ^ places))

/-!
# Digits

The last digit of a decimal text is the remainder by ten, and the text in front of it is
the one of the quotient.
-/

theorem digit_of_lt {d : Nat} (h : d < 10) :
    UInt8.ofNat d.digitChar.toNat = UInt8.ofNat (48 + d) := by
  rw [Nat.toNat_digitChar_of_lt_ten h]

theorem decimal_of_lt {n : Nat} (h : n < 10) : decimal n = [UInt8.ofNat (48 + n)] := by
  rw [decimal, Nat.toDigits_of_lt_base h, List.map_singleton, digit_of_lt h]

theorem decimal_of_le {n : Nat} (h : 10 ≤ n) :
    decimal n = decimal (n / 10) ++ [UInt8.ofNat (48 + n % 10)] := by
  rw [decimal, Nat.toDigits_of_base_le (by decide) h, List.map_append, List.map_singleton,
    digit_of_lt (Nat.mod_lt n (by decide))]
  rfl

theorem isDigit_digit {d : Nat} (h : d < 10) : isDigit (UInt8.ofNat (48 + d)) := by
  revert d
  decide

theorem isDigit_of_mem_decimal {n : Nat} {b : UInt8} (h : b ∈ decimal n) : isDigit b := by
  induction n using Nat.strong_induction_on with
  | h n ih =>
      rcases Nat.lt_or_ge n 10 with hlt | hge
      · rw [decimal_of_lt hlt, List.mem_singleton] at h
        rw [h]
        exact isDigit_digit hlt
      · rw [decimal_of_le hge, List.mem_append, List.mem_singleton] at h
        rcases h with hfront | rfl
        · exact ih (n / 10) (by omega) hfront
        · exact isDigit_digit (Nat.mod_lt n (by decide))

/-!
# No terminators
-/

theorem zero_not_mem_decimal (n : Nat) : 0 ∉ decimal n := by
  intro h
  exact absurd (isDigit_of_mem_decimal h) (by decide)

theorem zero_not_mem_signedDecimal (x : Int) : 0 ∉ signedDecimal x := by
  unfold signedDecimal
  split
  · rw [List.mem_cons, not_or]
    exact ⟨by decide, zero_not_mem_decimal _⟩
  · exact zero_not_mem_decimal _

theorem zero_not_mem_padded {width : Nat} {fill : UInt8} {text : List UInt8}
    (hfill : fill ≠ 0) (h : 0 ∉ text) : 0 ∉ padded width fill text := by
  rw [padded, List.mem_append, not_or]
  exact ⟨fun hmem => hfill (List.eq_of_mem_replicate hmem).symm, h⟩

theorem zero_not_mem_fixedPoint (places : Nat) (x : Rat) : 0 ∉ fixedPoint places x := by
  rw [fixedPoint, List.mem_append, List.mem_append, List.mem_cons, not_or, not_or, not_or]
  refine ⟨⟨?_, zero_not_mem_decimal _⟩, by decide,
    zero_not_mem_padded (by decide) (zero_not_mem_decimal _)⟩
  split
  · decide
  · exact List.not_mem_nil

/-!
# Lengths
-/

theorem length_decimal_pos (n : Nat) : 0 < (decimal n).length := by
  rw [decimal, List.length_map]
  exact Nat.length_toDigits_pos

theorem length_decimal_le_iff {n k : Nat} (hk : 0 < k) :
    (decimal n).length ≤ k <-> n < 10 ^ k := by
  rw [decimal, List.length_map]
  exact Nat.length_toDigits_le_iff (by decide) hk

theorem signedDecimal_natCast (n : Nat) : signedDecimal n = decimal n := by
  rw [signedDecimal, if_neg (by omega), Int.natAbs_natCast]

theorem length_padded {width : Nat} {text : List UInt8} (h : text.length ≤ width)
    (fill : UInt8) : (padded width fill text).length = width := by
  rw [padded, List.length_append, List.length_replicate, Nat.sub_add_cancel h]

theorem length_fixedPoint {places : Nat} (hplaces : 0 < places) (x : Rat) :
    (fixedPoint places x).length =
      (if x < 0 then 1 else 0) +
        (decimal ((roundHalfEven (|x| * 10 ^ places)).toNat / 10 ^ places)).length +
        1 + places := by
  have hfraction : (decimal ((roundHalfEven (|x| * 10 ^ places)).toNat % 10 ^ places)).length ≤
      places :=
    (length_decimal_le_iff hplaces).mpr (Nat.mod_lt _ (by positivity))
  rw [fixedPoint, List.length_append, List.length_append, List.length_cons,
    length_padded hfraction, apply_ite List.length, List.length_singleton, List.length_nil]
  omega

theorem length_padded_le {width n : Nat} {text : List UInt8} (hwidth : width ≤ n)
    (h : text.length ≤ n) (fill : UInt8) : (padded width fill text).length ≤ n := by
  rw [padded, List.length_append, List.length_replicate]
  omega

example : fixedPoint 2 (3251 / 20) = literal "162.55" := by
  decide +kernel

end Foundation
end CarCleaner
