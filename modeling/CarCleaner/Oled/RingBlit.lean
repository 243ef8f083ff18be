import CarCleaner.Foundation.Writes
import CarCleaner.Oled.Framebuffer

/-!
# Strings as consecutive writes

The cursor and the wrap in front of each byte make the columns of a string go to
consecutive cells of the ring of 1024 cells, whichever glyph the wrap falls into.
-/

namespace CarCleaner
namespace Oled

open Foundation

/-!
# Glyphs
-/

def space : CharMap :=
  glyph ' ' 0x00 0x00 0x00 0x00 0x00

/-- The columns of the first entry for the character, or of the space without one. -/
def columns (c : UInt8) : List UInt8 :=
  ((font5x7.find? fun entry => entry.ascii == c).getD space).bitMap.toList

theorem toList_getBitmap (c : UInt8) : (getBitmap c).toList = columns c := by
  unfold getBitmap columns
  cases font5x7.find? fun entry => entry.ascii == c with
  | none => rfl
  | some entry => rfl

theorem length_columns (c : UInt8) : (columns c).length = 5 := by
  rw [<- toList_getBitmap, Vector.length_toList]

theorem length_flatMap_columns (c : List UInt8) :
    (c.flatMap columns).length = 5 * c.length := by
  induction c with
  | nil =>
      rfl
  | cons b rest ih =>
      rw [List.flatMap_cons, List.length_append, length_columns, ih, List.length_cons]
      omega

namespace Framebuffer

variable {fb : Framebuffer}

/-!
# Bytes at the cursor
-/

theorem toNat_nextCell (idx : UInt32) :
    (nextCell idx).toNat = if 1024 < idx.toNat then 1 else idx.toNat := by
  have hsize : oledSize.toNat = 1024 := rfl
  unfold nextCell
  split
  · next h =>
      rw [gt_iff_lt, UInt32.lt_iff_toNat_lt, hsize] at h
      rw [if_pos h]
      rfl
  · next h =>
      rw [gt_iff_lt, UInt32.lt_iff_toNat_lt, hsize] at h
      rw [if_neg h]

/-- The step that the ring takes with each byte. -/
theorem toNat_nextCell_writeByte (h : fb.oledFullBufferIdx ≠ 0) (byte : UInt8) :
    (nextCell (fb.writeByte byte).oledFullBufferIdx).toNat =
      if 1024 < (nextCell fb.oledFullBufferIdx).toNat + 1 then 1
      else (nextCell fb.oledFullBufferIdx).toNat + 1 := by
  rw [toNat_nextCell]
  change (if 1024 < (nextCell fb.oledFullBufferIdx + 1).toNat then 1
    else (nextCell fb.oledFullBufferIdx + 1).toNat) = _
  rw [toNat_nextCell_succ h]

theorem writeByte_cursor_ne_zero (h : fb.oledFullBufferIdx ≠ 0) (byte : UInt8) :
    (fb.writeByte byte).oledFullBufferIdx ≠ 0 := by
  intro hzero
  have hsucc := toNat_nextCell_succ h
  change nextCell fb.oledFullBufferIdx + 1 = 0 at hzero
  rw [hzero, UInt32.toNat_zero] at hsucc
  omega

theorem foldl_writeByte (h : fb.oledFullBufferIdx ≠ 0) (bytes : List UInt8) :
    (bytes.foldl writeByte fb).oledFullBuffer =
        writeAll fb.oledFullBuffer
          (ringWrites 1024 (nextCell fb.oledFullBufferIdx).toNat bytes) ∧
      (bytes.foldl writeByte fb).written =
        fb.written ++
          (ringWrites 1024 (nextCell fb.oledFullBufferIdx).toNat bytes).map Prod.fst := by
  induction bytes generalizing fb with
  | nil =>
      exact ⟨rfl, (List.append_nil _).symm⟩
  | cons byte bytes ih =>
      have hcell := nextCell_mem h
      have hrest := ih (writeByte_cursor_ne_zero h byte)
      rw [toNat_nextCell_writeByte h byte] at hrest
      rw [List.foldl_cons, ringWrites_cons hcell.1 hcell.2, writeAll_cons, List.map_cons]
      refine ⟨hrest.1, hrest.2.trans ?_⟩
      exact List.append_assoc fb.written [_] _

/-!
# Strings
-/

/-- The framebuffer with the cursor at the given index. -/
def setCursor (fb : Framebuffer) (index : UInt32) : Framebuffer :=
  { fb with oledFullBufferIdx := index }

theorem writeChar_zero (fb : Framebuffer) (c : UInt8) :
    fb.writeChar c 0 = (columns c).foldl writeByte fb := by
  rw [writeChar, if_neg (not_not_intro rfl), toList_getBitmap]

theorem writeChar_of_ne_zero {startIdx : UInt32} (h : startIdx ≠ 0) (fb : Framebuffer)
    (c : UInt8) :
    fb.writeChar c startIdx = (columns c).foldl writeByte (fb.setCursor startIdx) := by
  rw [writeChar, if_pos h, toList_getBitmap]
  rfl

/-- A string is its columns, written from the start index on. -/
theorem writeString_eq_foldl {c : List UInt8} {len : UInt32} (hlen : c.length = len.toNat)
    (hne : c ≠ []) {xCenter yCenter : Bool} {x page : UInt32}
    (hstart : startIndex len xCenter yCenter x page ≠ 0) (fb : Framebuffer) :
    fb.writeString c len xCenter yCenter x page =
      (c.flatMap columns).foldl writeByte
        (fb.setCursor (startIndex len xCenter yCenter x page)) := by
  cases c with
  | nil =>
      exact absurd rfl hne
  | cons b rest =>
      have hrest : (fun (fb : Framebuffer) c => fb.writeChar c 0) =
          fun fb c => (columns c).foldl writeByte fb := by
        funext fb c
        exact writeChar_zero fb c
      rw [writeString, <- hlen, List.take_length, List.tail_cons, List.headD_cons, hrest,
        writeChar_of_ne_zero hstart, List.flatMap_cons, List.foldl_append, List.foldl_flatMap]

theorem writeString_blits {c : List UInt8} {len : UInt32} (hlen : c.length = len.toNat)
    (hne : c ≠ []) {xCenter yCenter : Bool} {x page : UInt32} {start : Nat}
    (hstart : (startIndex len xCenter yCenter x page).toNat = start) (hpos : 1 ≤ start)
    (hle : start ≤ 1024) (fb : Framebuffer) :
    RingBlit 1024 start (c.flatMap columns) fb.oledFullBuffer
        (fb.writeString c len xCenter yCenter x page).oledFullBuffer ∧
      (fb.writeString c len xCenter yCenter x page).written =
        fb.written ++ (ringWrites 1024 start (c.flatMap columns)).map Prod.fst := by
  have hzero : startIndex len xCenter yCenter x page ≠ 0 := by
    intro h
    rw [h, UInt32.toNat_zero] at hstart
    omega
  have hcell : (nextCell (startIndex len xCenter yCenter x page)).toNat = start := by
    rw [toNat_nextCell, hstart, if_neg (by omega)]
  have hcursor : (fb.setCursor (startIndex len xCenter yCenter x page)).oledFullBufferIdx ≠ 0 :=
    hzero
  have hbytes := foldl_writeByte hcursor (c.flatMap columns)
  have hring : (nextCell
      (fb.setCursor (startIndex len xCenter yCenter x page)).oledFullBufferIdx).toNat = start :=
    hcell
  rw [hring] at hbytes
  rw [writeString_eq_foldl hlen hne hzero]
  refine ⟨?_, hbytes.2⟩
  rw [hbytes.1]
  exact ringBlit_writeAll 1024 start _ _

/-!
# The bar
-/

theorem foldl_store_bar {n : Nat} (hn : n ≤ 100) (fb : Framebuffer) :
    ((List.range n).foldl (fun fb i => fb.store (otaScaleOffsetIdx + UInt32.ofNat i) 0xff)
        fb).oledFullBuffer =
        writeAll fb.oledFullBuffer (ringWrites 1024 906 (List.replicate n 0xff)) ∧
      ((List.range n).foldl (fun fb i => fb.store (otaScaleOffsetIdx + UInt32.ofNat i) 0xff)
        fb).written =
        fb.written ++ (ringWrites 1024 906 (List.replicate n (0xff : UInt8))).map Prod.fst := by
  induction n with
  | zero =>
      exact ⟨rfl, (List.append_nil _).symm⟩
  | succ n ih =>
      have hpast := ih (Nat.le_of_succ_le hn)
      have hcell : (otaScaleOffsetIdx + UInt32.ofNat n).toNat = ringCell 1024 906 n := by
        rw [toNat_otaScale (by omega), ringCell_of_le (by decide) (by omega)]
      rw [List.range_succ, List.foldl_concat, List.replicate_succ', ringWrites_snoc,
        List.length_replicate, writeAll_snoc, List.map_append, <- List.append_assoc, <- hpast.1,
        <- hpast.2, <- hcell]
      exact ⟨rfl, rfl⟩

theorem writeOtaBar_blits {percent : UInt32} (hpercent : percent.toNat ≤ 100)
    (fb : Framebuffer) :
    RingBlit 1024 906 (List.replicate percent.toNat 0xff) fb.oledFullBuffer
        (fb.writeOtaBar percent).oledFullBuffer ∧
      (fb.writeOtaBar percent).written =
        fb.written ++
          (ringWrites 1024 906 (List.replicate percent.toNat (0xff : UInt8))).map Prod.fst := by
  have hbar := foldl_store_bar hpercent fb
  refine ⟨?_, hbar.2⟩
  rw [writeOtaBar, hbar.1]
  exact ringBlit_writeAll 1024 906 _ _

/-!
# The ring
-/

theorem toNat_startIndex {x page : UInt32} (hx : x < 128) (hpage : page < 8) (len : UInt32) :
    (startIndex len false false x page).toNat = 1 + x.toNat + 128 * page.toNat := by
  have hcols : oledCols.toNat = 128 := rfl
  have hx' : x.toNat < 128 := UInt32.lt_iff_toNat_lt.mp hx
  have hpage' : page.toNat < 8 := UInt32.lt_iff_toNat_lt.mp hpage
  simp only [startIndex, Bool.false_eq_true, if_false, UInt32.toNat_add, UInt32.toNat_mul,
    UInt32.toNat_one, hcols]
  omega

/--
A string without centring is written to the consecutive cells of the ring that begin at
its column and page, whatever the buffer and the cursor were.
-/
theorem writeString_ringBlit {c : List UInt8} {len : UInt32} (hlen : c.length = len.toNat)
    (hne : c ≠ []) {x page : UInt32} (hx : x < 128) (hpage : page < 8) (fb : Framebuffer) :
    (c.flatMap columns).length = 5 * len.toNat ∧
      RingBlit 1024 (1 + x.toNat + 128 * page.toNat) (c.flatMap columns) fb.oledFullBuffer
        (fb.writeString c len false false x page).oledFullBuffer ∧
      forall cursor,
        ((fb.setCursor cursor).writeString c len false false x page).oledFullBuffer =
          (fb.writeString c len false false x page).oledFullBuffer := by
  have hx' : x.toNat < 128 := UInt32.lt_iff_toNat_lt.mp hx
  have hpage' : page.toNat < 8 := UInt32.lt_iff_toNat_lt.mp hpage
  have hblit : forall fb : Framebuffer, RingBlit 1024 (1 + x.toNat + 128 * page.toNat)
      (c.flatMap columns) fb.oledFullBuffer
      (fb.writeString c len false false x page).oledFullBuffer := fun fb =>
    (writeString_blits hlen hne (toNat_startIndex hx hpage len) (by omega) (by omega) fb).1
  refine ⟨by rw [length_flatMap_columns, hlen], hblit fb, ?_⟩
  intro cursor
  exact RingBlit.unique (by decide) (hblit (fb.setCursor cursor)) (hblit fb)

/-- A string of 210 letters from the last columns of the screen covers cells twice. -/
theorem writeString_ringBlit_twice :
    RingBlit 1024 1021 ((List.replicate 210 0x41).flatMap columns)
      Framebuffer.boot.oledFullBuffer
      (Framebuffer.boot.writeString (List.replicate 210 0x41) 210 false false 124
        7).oledFullBuffer := by
  have hlen : (List.replicate 210 (0x41 : UInt8)).length = (210 : UInt32).toNat :=
    List.length_replicate
  have hne : List.replicate 210 (0x41 : UInt8) ≠ [] :=
    List.ne_nil_of_length_eq_add_one List.length_replicate
  have hx : (124 : UInt32) < 128 := by
    decide
  have hpage : (7 : UInt32) < 8 := by
    decide
  exact (writeString_ringBlit hlen hne hx hpage Framebuffer.boot).2.1

end Framebuffer

end Oled
end CarCleaner
