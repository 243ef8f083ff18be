import CarCleaner.Oled.Screen
import Mathlib.Algebra.Group.Nat.Even

/-!
# Centred strings

A string can be centred between the sides of its page or between the pages.  The start
index counts from 1 and the margins count from 0.  The index of a page that is centred
across is computed without the 1, and the first page is chosen by a truncating division
that is corrected by one page for every length.
-/

namespace CarCleaner
namespace Oled

open Foundation

/-- The cell of a column of a page. -/
def cellAt (page column : Nat) : Nat :=
  1 + 128 * page + column

/-- The number of pages that a string of `n` characters needs. -/
def pagesOf (n : Nat) : Nat :=
  (5 * n + 127) / 128

/-- An operation shows the columns of `c` from a cell on and draws nothing else. -/
structure Occupies (fb : Framebuffer) (op : DrawOp) (c : List UInt8) (first : Nat) : Prop where
  cells : forall cell, cell ∈ cellsDrawn fb op <-> first ≤ cell ∧ cell < first + 5 * c.length
  shown : forall (k : Nat) (hk : k < (c.flatMap columns).length),
    (draw fb op).oledFullBuffer (first + k) = (c.flatMap columns).get ⟨k, hk⟩

/-- The string stands on the page with margins that differ by at most one column. -/
def CentredAcross (fb : Framebuffer) (c : List UInt8) (page : UInt32) : Prop :=
  exists left right, left + 5 * c.length + right = 128 ∧ left ≤ right + 1 ∧ right ≤ left + 1 ∧
    Occupies fb (.string c true false 0 page) c (cellAt page.toNat left)

/-- The string stands at the left of its pages, with one empty page more at most on a side. -/
def CentredBetween (fb : Framebuffer) (c : List UInt8) : Prop :=
  exists above below, above + pagesOf c.length + below = 8 ∧ above ≤ below + 1 ∧
    below ≤ above + 1 ∧ Occupies fb (.string c false true 0 0) c (cellAt above 0)

/-!
# Start indices
-/

theorem toNat_columnsOf {n : Nat} (hn : 5 * n ≤ 1024) :
    (5 * UInt32.ofNat n).toNat = 5 * n := by
  have hsize : 1024 < UInt32.size := by
    decide
  have hfive : (5 : UInt32).toNat = 5 := rfl
  have htext : (UInt32.ofNat n).toNat = n := UInt32.toNat_ofNat_of_lt' (by omega)
  rw [UInt32.toNat_mul, htext, hfive, Nat.mod_eq_of_lt (by omega)]

theorem toNat_startIndex_across {n : Nat} (hn : 5 * n ≤ 128) {page : UInt32}
    (hpage : page < 8) :
    (Framebuffer.startIndex (UInt32.ofNat n) true false 0 page).toNat =
      (128 - 5 * n) / 2 + 128 * page.toNat := by
  have hpage' : page.toNat < 8 := UInt32.lt_iff_toNat_lt.mp hpage
  have hcols : oledCols.toNat = 128 := rfl
  have hlen := toNat_columnsOf (hn.trans (by decide : 128 ≤ 1024))
  have hle : 5 * UInt32.ofNat n ≤ oledCols := by
    rw [UInt32.le_iff_toNat_le, hlen, hcols]
    exact hn
  have hmargin : ((oledCols - 5 * UInt32.ofNat n) / 2).toNat = (128 - 5 * n) / 2 := by
    rw [UInt32.toNat_div, UInt32.toNat_sub_of_le _ _ hle, hlen, hcols]
    rfl
  simp only [Framebuffer.startIndex, if_true, Bool.false_eq_true, if_false, UInt32.toNat_add,
    hmargin, UInt32.toNat_mul, UInt32.toNat_zero, hcols]
  omega

/-- The page in which a string that is centred between the pages begins. -/
def centredPage (n : Nat) : Nat :=
  (8 - (1 + 5 * n / 128)) / 2 + 1

theorem toNat_centredPage {n : Nat} (hn : 5 * n ≤ 1024) :
    ((oledPage - (1 + 5 * UInt32.ofNat n / oledCols)) / 2 + 1).toNat = centredPage n := by
  have hcols : oledCols.toNat = 128 := rfl
  have hpage : oledPage.toNat = 8 := rfl
  have hlen : (1 + 5 * UInt32.ofNat n / oledCols).toNat = 1 + 5 * n / 128 := by
    rw [UInt32.toNat_add, UInt32.toNat_div, toNat_columnsOf hn, hcols, UInt32.toNat_one]
    omega
  have hle : 1 + 5 * UInt32.ofNat n / oledCols ≤ oledPage := by
    rw [UInt32.le_iff_toNat_le, hlen, hpage]
    omega
  rw [UInt32.toNat_add, UInt32.toNat_div, UInt32.toNat_sub_of_le _ _ hle, hlen, hpage]
  simp only [UInt32.reduceToNat, centredPage]
  omega

theorem toNat_startIndex_between {n : Nat} (hn : 5 * n ≤ 1024) {x : UInt32} (hx : x < 128) :
    (Framebuffer.startIndex (UInt32.ofNat n) false true x 0).toNat =
      cellAt (centredPage n) x.toNat := by
  have hx' : x.toNat < 128 := UInt32.lt_iff_toNat_lt.mp hx
  have hcols : oledCols.toNat = 128 := rfl
  have hpage : ((oledPage - (1 + 5 * UInt32.ofNat n / oledCols)) / 2 + 1).toNat =
      (8 - (1 + 5 * n / 128)) / 2 + 1 :=
    toNat_centredPage hn
  simp only [Framebuffer.startIndex, Bool.false_eq_true, if_false, if_true]
  rw [UInt32.toNat_add, UInt32.toNat_add, UInt32.toNat_mul, hpage, UInt32.toNat_add,
    UInt32.toNat_mul, UInt32.toNat_zero, UInt32.toNat_one, hcols, cellAt, centredPage]
  omega

/-!
# Occupied cells

A string leaves at least one cell of the ring out, so it occupies cells in a row only
behind its start index, and only if the ring does not wrap below it.
-/

theorem occupies_iff {c : List UInt8} {xCenter yCenter : Bool} {x page : UInt32}
    {start : Nat} (hne : c ≠ []) (hlen : 5 * c.length ≤ 1024)
    (hstart : (Framebuffer.startIndex (UInt32.ofNat c.length) xCenter yCenter x page).toNat =
      start)
    (hpos : 1 ≤ start) (hle : start ≤ 1024) (fb : Framebuffer) (first : Nat) :
    Occupies fb (.string c xCenter yCenter x page) c first <->
      start = first ∧ first + 5 * c.length ≤ 1025 := by
  rcases writeString_blits_of_le hne hlen hstart hpos hle fb with ⟨hblit, hcells⟩
  have hlength := length_flatMap_columns c
  have hcolumns : c.flatMap columns ≠ [] := by
    have hpositive := List.length_pos_of_ne_nil hne
    exact List.ne_nil_of_length_pos (by omega)
  have hfill := ringWrites_fill_iff hpos hle hcolumns (by omega) first
  rw [hlength] at hfill
  constructor
  · intro h
    apply hfill.mp
    rw [<- hcells]
    exact h.cells
  · intro hplace
    rcases hplace with ⟨rfl, hend⟩
    constructor
    · rw [hcells]
      exact hfill.mpr ⟨rfl, hend⟩
    · intro k hk
      exact hblit.inside hpos (by omega) hk

/-- The left margin of a string that is centred across, at least two less than the right. -/
theorem occupies_across_iff {c : List UInt8} (hne : c ≠ []) (hlen : 5 * c.length ≤ 128)
    {page : UInt32} (hpage : page < 8) (fb : Framebuffer) (left : Nat) :
    Occupies fb (.string c true false 0 page) c (cellAt page.toNat left) <->
      (128 - 5 * c.length) / 2 = left + 1 := by
  have hpage' : page.toNat < 8 := UInt32.lt_iff_toNat_lt.mp hpage
  rw [occupies_iff hne (by omega) (toNat_startIndex_across hlen hpage) (by omega) (by omega),
    cellAt]
  omega

theorem occupies_between_iff {c : List UInt8} (hne : c ≠ []) (hlen : 5 * c.length ≤ 1024)
    (fb : Framebuffer) (above : Nat) :
    Occupies fb (.string c false true 0 0) c (cellAt above 0) <->
      centredPage c.length = above ∧ above + pagesOf c.length ≤ 8 := by
  have hpage : centredPage c.length ≤ 4 := by
    unfold centredPage
    omega
  rw [occupies_iff hne hlen (toNat_startIndex_between hlen (by decide))
    (by unfold cellAt; omega) (by unfold cellAt; rw [UInt32.toNat_zero]; omega), cellAt, cellAt,
    pagesOf, UInt32.toNat_zero]
  omega

/-!
# Margins

A text that fills its last page counts one page too many, which changes nothing: only
five pages can be filled to the last column, and six pages begin in the same one.
-/

theorem pageLen_eq {n : Nat} (hpos : 0 < n) (hn : 5 * n ≤ 1024) :
    1 + 5 * n / 128 = pagesOf n ∨ 1 + 5 * n / 128 = 6 ∧ pagesOf n = 5 := by
  unfold pagesOf
  rcases eq_or_ne (5 * n % 128) 0 with hfull | hrest
  · have hdvd : 128 ∣ n :=
      Nat.Coprime.dvd_of_dvd_mul_left (by decide) (Nat.dvd_of_mod_eq_zero hfull)
    omega
  · omega

theorem centredPage_eq {n : Nat} (hpos : 0 < n) (hn : 5 * n ≤ 1024) :
    centredPage n = (8 - pagesOf n) / 2 + 1 := by
  unfold centredPage
  rcases pageLen_eq hpos hn with hsame | ⟨hmore, hfive⟩
  · rw [hsame]
  · rw [hmore, hfive]

theorem not_centredAcross {c : List UInt8} (hne : c ≠ []) (hlen : 5 * c.length ≤ 128)
    {page : UInt32} (hpage : page < 8) (fb : Framebuffer) : ¬ CentredAcross fb c page := by
  intro h
  rcases h with ⟨left, right, hsum, -, hright, hcells⟩
  have hleft := (occupies_across_iff hne hlen hpage fb left).mp hcells
  omega

theorem centredBetween_iff {c : List UInt8} (hne : c ≠ []) (hlen : 5 * c.length ≤ 1024)
    (fb : Framebuffer) : CentredBetween fb c <-> Odd (pagesOf c.length) := by
  have hpage := centredPage_eq (List.length_pos_of_ne_nil hne) hlen
  rw [Nat.odd_iff]
  constructor
  · intro h
    rcases h with ⟨above, below, hsum, habove, -, hcells⟩
    have hfirst := ((occupies_between_iff hne hlen fb above).mp hcells).1
    omega
  · intro hodd
    have hle : pagesOf c.length ≤ 8 := by
      unfold pagesOf
      omega
    refine ⟨centredPage c.length, (8 - pagesOf c.length) / 2, ?_, ?_, ?_, ?_⟩
    · omega
    · omega
    · omega
    · rw [occupies_between_iff hne hlen]
      omega

/-- A string is never centred across, and between the pages exactly on an odd number of them. -/
theorem centred_iff {c : List UInt8} (hne : c ≠ []) (fb : Framebuffer) :
    (5 * c.length ≤ 128 -> forall page, page < 8 -> ¬ CentredAcross fb c page) ∧
      (5 * c.length ≤ 1024 -> (CentredBetween fb c <-> Odd (pagesOf c.length))) := by
  constructor
  · intro hlen page hpage
    exact not_centredAcross hne hlen hpage fb
  · intro hlen
    exact centredBetween_iff hne hlen fb

/-- The title of an update is centred between the pages and not across its own one. -/
theorem centred_iff_otaTitle :
    ¬ CentredAcross Framebuffer.boot (literal "OTA update") 6 ∧
      CentredBetween Framebuffer.boot (literal "OTA update") := by
  have h := centred_iff (by decide : literal "OTA update" ≠ []) Framebuffer.boot
  constructor
  · exact h.1 (by decide) 6 (by decide)
  · exact (h.2 (by decide)).mpr (by decide)

/--
The title has 38 columns on its left and 40 on its right, and a text of two pages has four
pages above and two below.
-/
theorem otaTitle_not_centred :
    (5 * (literal "OTA update").length ≤ 128 ∧
        ¬ CentredAcross Framebuffer.boot (literal "OTA update") 6) ∧
      5 * (List.replicate 26 (0x41 : UInt8)).length ≤ 1024 ∧
        ¬ CentredBetween Framebuffer.boot (List.replicate 26 0x41) := by
  have hlen : 5 * (List.replicate 26 (0x41 : UInt8)).length ≤ 1024 := by
    decide
  refine ⟨⟨by decide, ?_⟩, hlen, ?_⟩
  · exact not_centredAcross (by decide) (by decide) (by decide) Framebuffer.boot
  · rw [centredBetween_iff (by decide) hlen]
    decide

end Oled
end CarCleaner
