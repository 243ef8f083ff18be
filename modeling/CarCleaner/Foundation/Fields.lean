import CarCleaner.Foundation.ReadBack
import Mathlib.Data.List.Basic

/-!
# Texts that determine their fields

A field ends at the first character that cannot belong to it, and a number in decimal
does not depend on how many zeros are in front of it.  Codes of one length can be told
apart when they are put one behind the other.
-/

namespace CarCleaner
namespace Foundation

universe u v

variable {alpha : Type u} {beta : Type v}

/-!
# Splitting
-/

theorem takeWhile_append_cons {p : alpha -> Bool} {xs r : List alpha} {a : alpha}
    (hxs : forall x, x ∈ xs -> p x) (ha : ¬ p a) : (xs ++ a :: r).takeWhile p = xs := by
  rw [List.takeWhile_append_of_pos hxs, List.takeWhile_cons_of_neg ha, List.append_nil]

/-- The first character that cannot belong to a field ends it. -/
theorem append_cons_inj {p : alpha -> Bool} {xs ys r s : List alpha} {a b : alpha}
    (hxs : forall x, x ∈ xs -> p x) (hys : forall y, y ∈ ys -> p y) (ha : ¬ p a)
    (hb : ¬ p b) (h : xs ++ a :: r = ys ++ b :: s) : xs = ys ∧ a = b ∧ r = s := by
  have hfront := congrArg (List.takeWhile p) h
  rw [takeWhile_append_cons hxs ha, takeWhile_append_cons hys hb] at hfront
  subst hfront
  have hrest := List.append_cancel_left h
  rw [List.cons.injEq] at hrest
  exact ⟨rfl, hrest.1, hrest.2⟩

theorem flatMap_inj {code : alpha -> List beta} {size : Nat}
    (hlength : forall x, (code x).length = size) {xs ys : List alpha}
    (hcode : forall x y, x ∈ xs -> y ∈ ys -> code x = code y -> x = y)
    (hsame : xs.length = ys.length) (h : xs.flatMap code = ys.flatMap code) : xs = ys := by
  induction xs generalizing ys with
  | nil =>
      exact (List.length_eq_zero_iff.mp hsame.symm).symm
  | cons x xs ih =>
      cases ys with
      | nil => cases hsame
      | cons y ys =>
          rw [List.flatMap_cons, List.flatMap_cons] at h
          rcases List.append_inj h (by rw [hlength, hlength]) with ⟨hfirst, hrest⟩
          rw [hcode x y List.mem_cons_self List.mem_cons_self hfirst]
          congr 1
          apply ih _ (Nat.succ.inj hsame) hrest
          intro x' y' hx' hy'
          exact hcode x' y' (List.mem_cons_of_mem x hx') (List.mem_cons_of_mem y hy')

/-- Blanks behind a text that does not end in one can be told from the text. -/
theorem append_replicate_inj {blank : alpha} {xs ys : List alpha} {m n : Nat}
    (hxs : xs.getLast? ≠ some blank) (hys : ys.getLast? ≠ some blank)
    (h : xs ++ List.replicate m blank = ys ++ List.replicate n blank) : xs = ys := by
  induction m generalizing n with
  | zero =>
      cases n with
      | zero =>
          rwa [List.replicate_zero, List.append_nil, List.append_nil] at h
      | succ n =>
          rw [List.replicate_zero, List.append_nil, List.replicate_succ', <- List.append_assoc]
            at h
          rw [h, List.getLast?_concat] at hxs
          exact absurd rfl hxs
  | succ m ih =>
      cases n with
      | zero =>
          rw [List.replicate_zero, List.append_nil, List.replicate_succ', <- List.append_assoc]
            at h
          rw [<- h, List.getLast?_concat] at hys
          exact absurd rfl hys
      | succ n =>
          rw [List.replicate_succ', List.replicate_succ', <- List.append_assoc,
            <- List.append_assoc] at h
          exact ih (List.append_cancel_right h)

/-!
# Decimal fields
-/

theorem digitsValue_decimal (n : Nat) : digitsValue (decimal n) = n := by
  have htake := digitsValue_take_decimal n (decimal n).length
  rwa [List.take_length, Nat.sub_self, pow_zero, Nat.div_one] at htake

theorem decimal_injective {m n : Nat} (h : decimal m = decimal n) : m = n := by
  rw [<- digitsValue_decimal m, h, digitsValue_decimal]

theorem decimal_append_inj {m n : Nat} {r s : List UInt8} {a b : UInt8} (ha : ¬ isDigit a)
    (hb : ¬ isDigit b) (h : decimal m ++ a :: r = decimal n ++ b :: s) :
    m = n ∧ a = b ∧ r = s := by
  have hparts := append_cons_inj (p := isDigit) (fun _ => isDigit_of_mem_decimal)
    (fun _ => isDigit_of_mem_decimal) ha hb h
  exact ⟨decimal_injective hparts.1, hparts.2⟩

theorem digitsValue_padded (width : Nat) (digits : List UInt8) :
    digitsValue (padded width 48 digits) = digitsValue digits := by
  rw [padded]
  induction width - digits.length with
  | zero =>
      rfl
  | succ k ih =>
      rw [<- ih, List.replicate_succ, List.cons_append]
      rfl

/-- What a number with a fixed number of places shows: its sign and its rounded amount. -/
def shownAs (places : Nat) (x : Rat) : Bool × Nat :=
  (decide (x < 0), (roundHalfEven (|x| * 10 ^ places)).toNat)

theorem mem_fixedPoint {places : Nat} {x : Rat} {b : UInt8} (h : b ∈ fixedPoint places x) :
    isDigit b ∨ b = 45 ∨ b = 46 := by
  rw [fixedPoint, List.mem_append, List.mem_append, List.mem_cons] at h
  rcases h with (hsign | hwhole) | rfl | hplaces
  · split at hsign
    · exact Or.inr (Or.inl (List.mem_singleton.mp hsign))
    · cases hsign
  · exact Or.inl (isDigit_of_mem_decimal hwhole)
  · exact Or.inr (Or.inr rfl)
  · rw [padded, List.mem_append] at hplaces
    rcases hplaces with hfill | hdigit
    · rw [List.eq_of_mem_replicate hfill]
      exact Or.inl (by decide)
    · exact Or.inl (isDigit_of_mem_decimal hdigit)

theorem unsigned_fixedPoint_inj {places m n : Nat}
    (h : decimal (m / 10 ^ places) ++ 46 :: padded places 48 (decimal (m % 10 ^ places)) =
      decimal (n / 10 ^ places) ++ 46 :: padded places 48 (decimal (n % 10 ^ places))) :
    m = n := by
  rcases decimal_append_inj (by decide) (by decide) h with ⟨hwhole, _, hplaces⟩
  have hfraction := congrArg digitsValue hplaces
  rw [digitsValue_padded, digitsValue_padded, digitsValue_decimal, digitsValue_decimal]
    at hfraction
  rw [<- Nat.div_add_mod m (10 ^ places), hwhole, hfraction, Nat.div_add_mod]

theorem head?_decimal_ne {n : Nat} {r : List UInt8} : (decimal n ++ r).head? ≠ some 45 := by
  have hpos := List.ne_nil_of_length_pos (length_decimal_pos n)
  rw [List.head?_append_of_ne_nil _ hpos, List.head?_eq_some_head hpos]
  intro h
  have hdigit := isDigit_of_mem_decimal (List.head_mem hpos)
  rw [Option.some.inj h] at hdigit
  exact absurd hdigit (by decide)

/-- The text of a number shows its sign and its rounded amount, and nothing else. -/
theorem fixedPoint_eq_iff {places : Nat} {x y : Rat} :
    fixedPoint places x = fixedPoint places y <-> shownAs places x = shownAs places y := by
  rw [shownAs, shownAs, Prod.mk.injEq, decide_eq_decide]
  constructor
  · intro h
    rw [fixedPoint, fixedPoint, List.append_assoc, List.append_assoc] at h
    by_cases hx : x < 0
    · by_cases hy : y < 0
      · rw [if_pos hx, if_pos hy] at h
        exact ⟨iff_of_true hx hy, unsigned_fixedPoint_inj (List.append_cancel_left h)⟩
      · rw [if_pos hx, if_neg hy, List.nil_append] at h
        exact absurd (congrArg List.head? h).symm head?_decimal_ne
    · by_cases hy : y < 0
      · rw [if_neg hx, if_pos hy, List.nil_append] at h
        exact absurd (congrArg List.head? h) head?_decimal_ne
      · rw [if_neg hx, if_neg hy] at h
        exact ⟨iff_of_false hx hy, unsigned_fixedPoint_inj h⟩
  · intro h
    rw [fixedPoint, fixedPoint, h.2, if_congr h.1 rfl rfl]

end Foundation
end CarCleaner
