import CarCleaner.Foundation.CString
import CarCleaner.Foundation.Histories
import Mathlib.Data.List.GetD

/-!
# Leftovers of earlier prints

A formatted print into a character array writes the text and its terminator only.  An
array that is printed into again and again therefore holds, behind the last text, what
the latest print that reached so far has left there.
-/

namespace CarCleaner
namespace Foundation

variable {size : Nat}

/-- Number of bytes that a print into an array writes in front of the terminator. -/
def printedLength (size : Nat) (text : List UInt8) : Nat :=
  (text.take (size - 1)).length

theorem printedLength_lt (hpos : 0 < size) (text : List UInt8) :
    printedLength size text < size := by
  rw [printedLength, List.length_take]
  omega

/-- An array that holds the printed text and NULs behind it. -/
def paddedText (size : Nat) (text : List UInt8) : List UInt8 :=
  snprintfBytes size text ++ List.replicate (size - (snprintfBytes size text).length) 0

namespace CharArray

/-- All bytes behind index `last` are NULs. -/
def ZeroBeyond (a : CharArray size) (last : Nat) : Prop :=
  forall p, last < p -> a.bytes.getD p 0 = 0

theorem zeroBeyond_zeros (last : Nat) : (zeros size).ZeroBeyond last := by
  intro p _
  rw [zeros, List.getD_eq_getElem?_getD, List.getElem?_replicate]
  split
  · rfl
  · rfl

theorem drop_bytes_eq_replicate_iff (a : CharArray size) (last : Nat) :
    a.bytes.drop (last + 1) = List.replicate (size - (last + 1)) 0 <->
      a.ZeroBeyond last := by
  constructor
  · intro h p hp
    have hget := congrArg (fun bytes => bytes.getD (p - (last + 1)) 0) h
    simp only [List.getD_eq_getElem?_getD, List.getElem?_drop, List.getElem?_replicate,
      Nat.add_sub_cancel' hp] at hget
    rw [List.getD_eq_getElem?_getD, hget]
    split
    · rfl
    · rfl
  · intro h
    refine List.eq_replicate_iff.mpr ⟨by rw [List.length_drop, a.length_eq], ?_⟩
    intro b hb
    rcases List.mem_iff_getElem.mp hb with ⟨k, hk, rfl⟩
    rw [List.getElem_drop, <- h (last + 1 + k) (by omega)]
    exact (List.getD_eq_getElem _ _ _).symm

/-- A print leaves no trace of the old content when there was nothing behind its text. -/
theorem bytes_vsnprintf_eq_paddedText_iff (hpos : 0 < size) (a : CharArray size)
    {text : List UInt8} (hfree : 0 ∉ text) :
    (a.vsnprintf text).bytes = paddedText size text <->
      a.ZeroBeyond (printedLength size text) := by
  have hlt := printedLength_lt hpos text
  have hsucc : size - printedLength size text = size - (printedLength size text + 1) + 1 := by
    omega
  rw [bytes_vsnprintf hpos, paddedText, snprintfBytes_of_nul_free hfree, <- printedLength,
    hsucc, List.replicate_succ, List.append_cancel_left_eq, List.cons.injEq,
    drop_bytes_eq_replicate_iff]
  exact and_iff_right rfl

theorem getD_vsnprintf (hpos : 0 < size) (a : CharArray size) (text : List UInt8) (p : Nat) :
    (a.vsnprintf text).bytes.getD p 0 =
      if p < printedLength size text then text.getD p 0
      else if p = printedLength size text then 0
      else a.bytes.getD p 0 := by
  rw [bytes_vsnprintf hpos, List.getD_eq_getElem?_getD, List.getElem?_append, <- printedLength]
  split
  · next hp =>
      have hp' : p < size - 1 := hp.trans_le (List.length_take_le _ _)
      rw [List.getElem?_take_of_lt hp', List.getD_eq_getElem?_getD]
  · next hp =>
      rw [List.getElem?_cons, List.getElem?_drop]
      split
      · next heq => rw [if_pos (by omega), Option.getD_some]
      · next hne =>
          rw [if_neg (by omega), List.getD_eq_getElem?_getD]
          congr 2
          omega

theorem zeroBeyond_vsnprintf_iff (hpos : 0 < size) (a : CharArray size) {text : List UInt8}
    (hfree : 0 ∉ text) (last : Nat) :
    (a.vsnprintf text).ZeroBeyond last <->
      printedLength size text ≤ last + 1 ∧
        a.ZeroBeyond (max last (printedLength size text)) := by
  constructor
  · intro h
    constructor
    · by_contra hlong
      have hnext := h (last + 1) (by omega)
      rw [getD_vsnprintf hpos, if_pos (by omega)] at hnext
      have hlen : last + 1 < text.length :=
        (not_le.mp hlong).trans_le (List.length_take_le' _ _)
      rw [List.getD_eq_getElem _ _ hlen] at hnext
      exact hfree (hnext ▸ List.getElem_mem hlen)
    · intro p hp
      have hbehind := h p (by omega)
      rwa [getD_vsnprintf hpos, if_neg (by omega), if_neg (by omega)] at hbehind
  · intro hslots p hp
    rcases hslots with ⟨hlength, h⟩
    rw [getD_vsnprintf hpos, if_neg (by omega)]
    split
    · rfl
    · exact h p (by omega)

/-- The array after prints into a zeroed one, oldest first. -/
def printed (size : Nat) (texts : List (List UInt8)) : CharArray size :=
  stateAfter vsnprintf (zeros size) texts

end CharArray

/-!
# Which texts leave something behind

A text is gone behind the last one once a later text that is at most a byte shorter has
been printed over it.
-/

/-- Some later length is smaller by at most one. -/
def Outlasted (l : Nat) (later : List Nat) : Prop :=
  exists m, m ∈ later ∧ l ≤ m + 1

instance (l : Nat) (later : List Nat) : Decidable (Outlasted l later) :=
  inferInstanceAs (Decidable (exists m, m ∈ later ∧ l ≤ m + 1))

/-- Nothing behind index `last` is left of texts of these lengths, printed in turn. -/
def NothingLeft (last : Nat) : List Nat -> Prop
  | [] => True
  | l :: later => (l ≤ last + 1 ∨ Outlasted l later) ∧ NothingLeft last later

/-- Every text but the last is at most a byte longer than some later one. -/
def Covered : List Nat -> Prop
  | [] => True
  | l :: later => (later = [] ∨ Outlasted l later) ∧ Covered later

def decideCovered : (lengths : List Nat) -> Decidable (Covered lengths)
  | [] => isTrue trivial
  | _ :: later =>
      have : Decidable (Covered later) := decideCovered later
      inferInstanceAs (Decidable (_ ∧ _))

instance (lengths : List Nat) : Decidable (Covered lengths) :=
  decideCovered lengths

theorem outlasted_snoc (l : Nat) (later : List Nat) (m : Nat) :
    Outlasted l (later ++ [m]) <-> Outlasted l later ∨ l ≤ m + 1 := by
  simp [Outlasted, or_and_right, exists_or]

theorem nothingLeft_snoc (last : Nat) (lengths : List Nat) (l : Nat) :
    NothingLeft last (lengths ++ [l]) <-> l ≤ last + 1 ∧ NothingLeft (max last l) lengths := by
  induction lengths with
  | nil =>
      simp [NothingLeft, Outlasted]
  | cons first later ih =>
      have hmax : first ≤ max last l + 1 <-> first ≤ last + 1 ∨ first ≤ l + 1 := by
        omega
      rw [List.cons_append, NothingLeft, NothingLeft, ih, outlasted_snoc, hmax]
      tauto

theorem covered_snoc (lengths : List Nat) (l : Nat) :
    Covered (lengths ++ [l]) <-> NothingLeft l lengths := by
  induction lengths with
  | nil =>
      simp [Covered, NothingLeft]
  | cons first later ih =>
      have hne : later ++ [l] ≠ [] := by
        simp
      rw [List.cons_append, Covered, NothingLeft, ih, outlasted_snoc]
      tauto

theorem zeroBeyond_printed_iff (hpos : 0 < size) {texts : List (List UInt8)}
    (hfree : forall text, text ∈ texts -> 0 ∉ text) (last : Nat) :
    (CharArray.printed size texts).ZeroBeyond last <->
      NothingLeft last (texts.map (printedLength size)) := by
  induction texts using List.reverseRecOn generalizing last with
  | nil =>
      exact iff_of_true (CharArray.zeroBeyond_zeros last) trivial
  | append_singleton older text ih =>
      have holder : forall t, t ∈ older -> 0 ∉ t := fun t ht =>
        hfree t (List.mem_append_left _ ht)
      rw [CharArray.printed, stateAfter_snoc, <- CharArray.printed,
        CharArray.zeroBeyond_vsnprintf_iff hpos _ (hfree text (by simp)), List.map_append,
        List.map_singleton, nothingLeft_snoc, ih holder]

/-- The array holds its last text alone exactly when the others are covered. -/
theorem bytes_printed_eq_paddedText_iff (hpos : 0 < size) {older : List (List UInt8)}
    {text : List UInt8} (hfree : forall t, t ∈ older ++ [text] -> 0 ∉ t) :
    (CharArray.printed size (older ++ [text])).bytes = paddedText size text <->
      Covered ((older ++ [text]).map (printedLength size)) := by
  have holder : forall t, t ∈ older -> 0 ∉ t := fun t ht =>
    hfree t (List.mem_append_left _ ht)
  rw [CharArray.printed, stateAfter_snoc, <- CharArray.printed,
    CharArray.bytes_vsnprintf_eq_paddedText_iff hpos _ (hfree text (by simp)),
    zeroBeyond_printed_iff hpos holder, List.map_append, List.map_singleton, covered_snoc]

end Foundation
end CarCleaner
