import CarCleaner.Foundation.MachineNumbers
import Mathlib.Data.List.TakeWhile

/-!
# Strings of the C library

A C string is the list of the bytes in front of its terminator.  Bytes that come
with a length become one by a formatted copy, which stops at the first NUL and
at the end of the buffer.  Numbers are read from the front of a string with
saturation at the limits of a 32-bit `long`.
-/

namespace CarCleaner
namespace Foundation

def literal (s : String) : List UInt8 :=
  s.toList.map fun c => UInt8.ofNat c.toNat

/-- The string that starts at the first of the given bytes. -/
def cString (bytes : List UInt8) : List UInt8 :=
  bytes.takeWhile fun b => b != 0

/-- Content of a buffer after `snprintf(buf, size, "%.*s", length, bytes)`. -/
def snprintfBytes (size : Nat) (bytes : List UInt8) : List UInt8 :=
  (cString bytes).take (size - 1)

/-!
# Character arrays

A formatted print into an array leaves the bytes behind its terminator as they
were.  Who reads the array as a string does not see them.
-/

/-- A C array of `size` characters. -/
structure CharArray (size : Nat) where
  bytes : List UInt8
  length_eq : bytes.length = size
deriving DecidableEq

namespace CharArray

variable {size : Nat}

def zeros (size : Nat) : CharArray size where
  bytes := List.replicate size 0
  length_eq := List.length_replicate

/-- `vsnprintf` of a formatted text into an array of its own size. -/
def vsnprintf (a : CharArray size) (text : List UInt8) : CharArray size where
  bytes :=
    (text.take (size - 1) ++ [0]).take size ++
      a.bytes.drop ((text.take (size - 1)).length + 1)
  length_eq := by
    simp only [List.length_append, List.length_take, List.length_drop,
      List.length_singleton, a.length_eq]
    omega

/-- The string in the array. -/
def text (a : CharArray size) : List UInt8 :=
  cString a.bytes

end CharArray

theorem cString_append_zero (xs ys : List UInt8) :
    cString (xs ++ 0 :: ys) = cString xs := by
  unfold cString
  induction xs with
  | nil =>
      rfl
  | cons x xs ih =>
      rw [List.cons_append, List.takeWhile_cons, List.takeWhile_cons, ih]

theorem cString_take (n : Nat) (xs : List UInt8) :
    cString (xs.take n) = (cString xs).take n :=
  List.take_takeWhile.symm

theorem cString_cString (xs : List UInt8) : cString (cString xs) = cString xs :=
  List.takeWhile_idem

theorem zero_not_mem_cString (xs : List UInt8) : 0 ∉ cString xs := by
  intro hmem
  have hne := List.mem_takeWhile_imp (p := fun b : UInt8 => b != 0) hmem
  exact absurd rfl (bne_iff_ne.mp hne)

theorem cString_of_nul_free {text : List UInt8} (h : 0 ∉ text) : cString text = text := by
  refine List.takeWhile_eq_self_iff.mpr ?_
  intro b hb
  exact bne_iff_ne.mpr (ne_of_mem_of_not_mem hb h)

theorem snprintfBytes_of_nul_free {size : Nat} {text : List UInt8} (h : 0 ∉ text) :
    snprintfBytes size text = text.take (size - 1) := by
  rw [snprintfBytes, cString_of_nul_free h]

theorem length_snprintfBytes_le (size : Nat) (text : List UInt8) :
    (snprintfBytes size text).length ≤ text.length :=
  (List.length_take_le' _ _).trans (List.takeWhile_prefix _).length_le

theorem CharArray.bytes_vsnprintf {size : Nat} (hpos : 0 < size) (a : CharArray size)
    (text : List UInt8) :
    (a.vsnprintf text).bytes =
      text.take (size - 1) ++ 0 :: a.bytes.drop ((text.take (size - 1)).length + 1) := by
  have hfits : (text.take (size - 1) ++ [0]).length ≤ size := by
    simp only [List.length_append, List.length_take, List.length_singleton]
    omega
  change (text.take (size - 1) ++ [0]).take size ++ _ = _
  rw [List.take_of_length_le hfits, List.append_assoc, List.singleton_append]

theorem CharArray.text_vsnprintf {size : Nat} (hpos : 0 < size) (a : CharArray size)
    (text : List UInt8) : (a.vsnprintf text).text = snprintfBytes size text := by
  rw [CharArray.text, CharArray.bytes_vsnprintf hpos, cString_append_zero, cString_take,
    snprintfBytes]

/-!
# Comparisons

Bytes that come with a length compare equal to every text that ends at their first NUL
or, without one, is all of them.
-/

/-- The bytes are `text`, alone or with a terminator behind it. -/
def ReadsAs (text bytes : List UInt8) : Prop :=
  bytes = text ∨ exists rest, bytes = text ++ 0 :: rest

theorem ReadsAs.eq_of_nul_free {text bytes : List UInt8} (h : ReadsAs text bytes)
    (hfree : 0 ∉ bytes) : bytes = text := by
  rcases h with heq | ⟨rest, rfl⟩
  · exact heq
  · exact absurd (List.mem_append_right text List.mem_cons_self) hfree

theorem readsAs_cString (bytes : List UInt8) : ReadsAs (cString bytes) bytes := by
  induction bytes with
  | nil =>
      exact Or.inl rfl
  | cons b bytes ih =>
      rcases eq_or_ne b 0 with rfl | hb
      · exact Or.inr ⟨bytes, rfl⟩
      · have hcons : cString (b :: bytes) = b :: cString bytes :=
          List.takeWhile_cons_of_pos (bne_iff_ne.mpr hb)
        rw [hcons]
        rcases ih with heq | ⟨rest, heq⟩
        · exact Or.inl (congrArg (List.cons b) heq)
        · exact Or.inr ⟨rest, congrArg (List.cons b) heq⟩

theorem cString_eq_iff {text : List UInt8} (hfree : 0 ∉ text) (bytes : List UInt8) :
    cString bytes = text <-> ReadsAs text bytes := by
  constructor
  · intro h
    subst h
    exact readsAs_cString bytes
  · intro h
    rcases h with rfl | ⟨rest, rfl⟩
    · exact cString_of_nul_free hfree
    · rw [cString_append_zero, cString_of_nul_free hfree]

/-- A copy into a buffer with room to spare compares like the bytes themselves. -/
theorem snprintfBytes_eq_iff {size : Nat} {text : List UInt8} (hfree : 0 ∉ text)
    (hroom : text.length + 1 < size) (bytes : List UInt8) :
    snprintfBytes size bytes = text <-> ReadsAs text bytes := by
  rw [<- cString_eq_iff hfree, snprintfBytes]
  constructor
  · intro h
    have hlength := congrArg List.length h
    rw [List.length_take] at hlength
    rw [<- h, List.take_of_length_le (by omega)]
  · intro h
    rw [h, List.take_of_length_le (by omega)]

/-!
# Decimal numbers
-/

/-- `isspace` in the C locale. -/
def isSpace (b : UInt8) : Bool :=
  b == 32 || (9 ≤ b && b ≤ 13)

def isDigit (b : UInt8) : Bool :=
  48 ≤ b && b ≤ 57

/-- Value of a list of decimal digits, the most significant one first. -/
def digitsValue (digits : List UInt8) : Nat :=
  digits.foldl (fun value b => 10 * value + (b.toNat - 48)) 0

def signedPrefix (text : List UInt8) : Int :=
  match text.dropWhile isSpace with
  | [] => 0
  | b :: rest =>
      if b = 45 then
        -(digitsValue (rest.takeWhile isDigit) : Int)
      else if b = 43 then
        digitsValue (rest.takeWhile isDigit)
      else
        digitsValue ((b :: rest).takeWhile isDigit)

/-- `atoi` by way of `strtol` with base 10 on a 32-bit `long`. -/
def atoi (text : List UInt8) : Int :=
  saturate (-2147483648) 2147483647 (signedPrefix text)

example : atoi (literal " -042x7") = -42 := by
  decide

end Foundation
end CarCleaner
