import CarCleaner.Foundation.Histories
import CarCleaner.Oled.Font
import Mathlib.Logic.Function.Basic

/-!
# The framebuffer

The display is drawn into a buffer of one control byte and 1024 cells.  Characters
are written at a cursor that wraps from the last cell to the first one.  A string
starts at a computed index, in unsigned 32-bit arithmetic; the index 0 means that the
cursor stays where it is.
-/

namespace CarCleaner
namespace Oled

open Foundation

def oledSize : UInt32 := 1024

def oledPage : UInt32 := 8

def oledCols : UInt32 := 128

def oledFullBufferSize : Nat := 1025

/-- The static buffer and cursor, and the indices that drawing has written. -/
structure Framebuffer where
  oledFullBuffer : Nat -> UInt8
  oledFullBufferIdx : UInt32
  written : List Nat

def Framebuffer.boot : Framebuffer where
  oledFullBuffer := fun _ => 0
  oledFullBufferIdx := 1
  written := []

namespace Framebuffer

def store (fb : Framebuffer) (index : UInt32) (byte : UInt8) : Framebuffer :=
  { fb with
    oledFullBuffer := Function.update fb.oledFullBuffer index.toNat byte
    written := fb.written ++ [index.toNat] }

def clearBuffer (fb : Framebuffer) : Framebuffer :=
  { fb with
    oledFullBuffer := fun index =>
      if index = 0 then 0x40
      else if index ≤ oledSize.toNat then 0
      else fb.oledFullBuffer index }

/-- The cell for the next byte: behind the last cell the cursor returns to the first. -/
def nextCell (idx : UInt32) : UInt32 :=
  if idx > oledSize then 1 else idx

/-- One pass of the loop in `write_char`. -/
def writeByte (fb : Framebuffer) (byte : UInt8) : Framebuffer :=
  let index := nextCell fb.oledFullBufferIdx
  { fb.store index byte with oledFullBufferIdx := index + 1 }

def writeChar (fb : Framebuffer) (c : UInt8) (startIdx : UInt32) : Framebuffer :=
  let fb := if startIdx ≠ 0 then { fb with oledFullBufferIdx := startIdx } else fb
  (getBitmap c).toList.foldl writeByte fb

def startIndex (len : UInt32) (xCenter yCenter : Bool) (x page : UInt32) : UInt32 :=
  let startIdx := if xCenter then (oledCols - 5 * len) / 2 else 1
  let startIdx :=
    if yCenter then
      let pageLen := 1 + (5 * len) / oledCols
      startIdx + ((oledPage - pageLen) / 2 + 1) * oledCols
    else
      startIdx
  startIdx + (x + page * oledCols)

/-- `write_string`; reading `c` at its end gives the terminator. -/
def writeString (fb : Framebuffer) (c : List UInt8) (len : UInt32) (xCenter yCenter : Bool)
    (x page : UInt32) : Framebuffer :=
  let startIdx := startIndex len xCenter yCenter x page
  (c.take len.toNat).tail.foldl (fun fb c => fb.writeChar c 0)
    (fb.writeChar (c.headD 0) startIdx)

def otaScaleOffsetIdx : UInt32 := 7 * oledCols + 10

def writeOtaBar (fb : Framebuffer) (percent : UInt32) : Framebuffer :=
  (List.range percent.toNat).foldl
    (fun fb i => fb.store (otaScaleOffsetIdx + UInt32.ofNat i) 0xff) fb

end Framebuffer

inductive DrawOp where
  | clear
  | string (c : List UInt8) (xCenter yCenter : Bool) (x page : UInt32)
  | otaBar (percent : UInt32)
deriving DecidableEq

def draw (fb : Framebuffer) : DrawOp -> Framebuffer
  | .clear => fb.clearBuffer
  | .string c xCenter yCenter x page =>
      fb.writeString c (UInt32.ofNat c.length) xCenter yCenter x page
  | .otaBar percent => fb.writeOtaBar percent

def drawnBy (ops : List DrawOp) : Framebuffer :=
  stateAfter draw Framebuffer.boot ops

/-!
# Cells and cursor

A byte is written to a cell between 1 and 1024 as long as the cursor is not 0, whatever
else it is, and the cursor ends next to that cell.
-/

namespace Framebuffer

/-- No write has gone past the end of `oled_full_buffer`. -/
def InBuffer (fb : Framebuffer) : Prop :=
  forall index, index ∈ fb.written -> index < oledFullBufferSize

instance (fb : Framebuffer) : Decidable fb.InBuffer :=
  inferInstanceAs (Decidable (forall index, index ∈ fb.written -> index < oledFullBufferSize))

def InScreen (fb : Framebuffer) : Prop :=
  forall index, index ∈ fb.written -> 1 ≤ index ∧ index ≤ 1024

structure Safe (control : UInt8) (fb : Framebuffer) : Prop where
  in_screen : fb.InScreen
  control_eq : fb.oledFullBuffer 0 = control
  cursor_mem : 1 ≤ fb.oledFullBufferIdx.toNat ∧ fb.oledFullBufferIdx.toNat ≤ 1025

variable {control : UInt8} {fb : Framebuffer}

theorem store_inScreen {index : UInt32} (h : fb.InScreen)
    (hindex : 1 ≤ index.toNat ∧ index.toNat ≤ 1024) (byte : UInt8) :
    (fb.store index byte).InScreen := by
  intro i hi
  rcases List.mem_append.mp hi with hold | hnew
  · exact h i hold
  · rw [List.mem_singleton.mp hnew]
    exact hindex

theorem store_control {index : UInt32} (hindex : 1 ≤ index.toNat) (byte : UInt8) :
    (fb.store index byte).oledFullBuffer 0 = fb.oledFullBuffer 0 :=
  Function.update_of_ne (by omega) _ _

theorem nextCell_mem {idx : UInt32} (h : idx ≠ 0) :
    1 ≤ (nextCell idx).toNat ∧ (nextCell idx).toNat ≤ 1024 := by
  have hzero : idx.toNat ≠ 0 := fun hz => h (UInt32.toNat_inj.mp hz)
  have hsize : oledSize.toNat = 1024 := rfl
  unfold nextCell
  split
  · decide
  · next hle =>
      rw [gt_iff_lt, UInt32.lt_iff_toNat_lt] at hle
      omega

theorem toNat_nextCell_succ {idx : UInt32} (h : idx ≠ 0) :
    (nextCell idx + 1).toNat = (nextCell idx).toNat + 1 := by
  have hmem := nextCell_mem h
  rw [UInt32.toNat_add, UInt32.toNat_one]
  omega

theorem Safe.cursor_ne_zero (h : fb.Safe control) : fb.oledFullBufferIdx ≠ 0 := by
  intro hzero
  have hmem := h.cursor_mem.1
  rw [hzero] at hmem
  exact absurd hmem (by decide)

theorem writeByte_safe (h : fb.InScreen) (hcontrol : fb.oledFullBuffer 0 = control)
    (hcursor : fb.oledFullBufferIdx ≠ 0) (byte : UInt8) :
    (fb.writeByte byte).Safe control := by
  have hcell := nextCell_mem hcursor
  constructor
  · exact store_inScreen h hcell byte
  · rw [<- hcontrol]
    exact store_control hcell.1 byte
  · change 1 ≤ (nextCell fb.oledFullBufferIdx + 1).toNat ∧
      (nextCell fb.oledFullBufferIdx + 1).toNat ≤ 1025
    rw [toNat_nextCell_succ hcursor]
    omega

theorem Safe.writeByte (h : fb.Safe control) (byte : UInt8) :
    (fb.writeByte byte).Safe control :=
  writeByte_safe h.in_screen h.control_eq h.cursor_ne_zero byte

/-!
# Drawing

A character has five columns, so even a start index behind the screen leaves the
cursor behind a cell of the screen.
-/

theorem foldl_safe_of_mem {alpha : Type} {step : Framebuffer -> alpha -> Framebuffer}
    {as : List alpha} (hstep : forall fb a, a ∈ as -> Safe control fb -> (step fb a).Safe control)
    (h : fb.Safe control) : (as.foldl step fb).Safe control := by
  induction as generalizing fb with
  | nil =>
      exact h
  | cons a as ih =>
      apply ih
      · intro fb b hb
        exact hstep fb b (List.mem_cons_of_mem a hb)
      · exact hstep fb a List.mem_cons_self h

theorem foldl_safe {alpha : Type} {step : Framebuffer -> alpha -> Framebuffer}
    (hstep : forall fb a, Safe control fb -> (step fb a).Safe control) (as : List alpha)
    (h : fb.Safe control) : (as.foldl step fb).Safe control :=
  foldl_safe_of_mem (fun fb a _ => hstep fb a) h

theorem foldl_writeByte_safe (h : fb.InScreen) (hcontrol : fb.oledFullBuffer 0 = control)
    (hcursor : fb.oledFullBufferIdx ≠ 0) {bytes : List UInt8} (hbytes : bytes ≠ []) :
    (bytes.foldl Framebuffer.writeByte fb).Safe control := by
  cases bytes with
  | nil =>
      exact absurd rfl hbytes
  | cons byte bytes =>
      exact foldl_safe (fun fb b hfb => hfb.writeByte b) bytes
        (writeByte_safe h hcontrol hcursor byte)

theorem toList_getBitmap_ne_nil (c : UInt8) : (getBitmap c).toList ≠ [] := by
  intro h
  have hlength := congrArg List.length h
  rw [Vector.length_toList] at hlength
  cases hlength

theorem Safe.writeChar (h : fb.Safe control) (c : UInt8) (startIdx : UInt32) :
    (fb.writeChar c startIdx).Safe control := by
  unfold Framebuffer.writeChar
  have hbytes := toList_getBitmap_ne_nil c
  split
  · next hstart =>
      apply foldl_writeByte_safe
      · exact h.in_screen
      · exact h.control_eq
      · exact hstart
      · exact hbytes
  · exact foldl_writeByte_safe h.in_screen h.control_eq h.cursor_ne_zero hbytes

theorem Safe.writeString (h : fb.Safe control) (c : List UInt8) (len : UInt32)
    (xCenter yCenter : Bool) (x page : UInt32) :
    (fb.writeString c len xCenter yCenter x page).Safe control :=
  foldl_safe (fun _ c hfb => hfb.writeChar c 0) _ (h.writeChar _ _)

theorem Safe.clearBuffer (h : fb.Safe control) : fb.clearBuffer.Safe 0x40 where
  in_screen := h.in_screen
  control_eq := rfl
  cursor_mem := h.cursor_mem

/-!
# The bar

The bar starts at cell 906 and has one cell for each percent, so a bar of at most 119
percent ends with the buffer, and a longer one runs past it.  It leaves the cursor alone.
-/

theorem toNat_otaScale {i : Nat} (h : i < 120) :
    (otaScaleOffsetIdx + UInt32.ofNat i).toNat = 906 + i := by
  have hoffset : otaScaleOffsetIdx.toNat = 906 := rfl
  rw [UInt32.toNat_add, UInt32.toNat_ofNat', hoffset]
  omega

theorem Safe.store {index : UInt32} (h : fb.Safe control)
    (hindex : 1 ≤ index.toNat ∧ index.toNat ≤ 1024) (byte : UInt8) :
    (fb.store index byte).Safe control where
  in_screen := store_inScreen h.in_screen hindex byte
  control_eq := (store_control hindex.1 byte).trans h.control_eq
  cursor_mem := h.cursor_mem

theorem Safe.writeOtaBar (h : fb.Safe control) {percent : UInt32}
    (hpercent : percent.toNat ≤ 119) : (fb.writeOtaBar percent).Safe control := by
  apply foldl_safe_of_mem
  · intro fb i hi hfb
    have hlt := List.mem_range.mp hi
    have hcell := toNat_otaScale (show i < 120 by omega)
    apply hfb.store
    rw [hcell]
    omega
  · exact h

theorem InScreen.inBuffer (h : fb.InScreen) : fb.InBuffer :=
  fun index hindex => Nat.lt_succ_of_le (h index hindex).2

theorem written_writeOtaBar (fb : Framebuffer) (percent : UInt32) :
    (fb.writeOtaBar percent).written =
      fb.written ++
        (List.range percent.toNat).map fun i => (otaScaleOffsetIdx + UInt32.ofNat i).toNat := by
  unfold Framebuffer.writeOtaBar
  generalize List.range percent.toNat = cells
  induction cells generalizing fb with
  | nil =>
      exact (List.append_nil _).symm
  | cons i cells ih =>
      rw [List.foldl_cons, ih, store, List.append_assoc]
      rfl

/-- A bar of more than 119 percent runs past the buffer. -/
theorem Safe.inBuffer_writeOtaBar_iff (h : fb.Safe control) {percent : UInt32} :
    (fb.writeOtaBar percent).InBuffer <-> percent.toNat ≤ 119 := by
  constructor
  · intro hin
    by_contra hlong
    have hcell : (otaScaleOffsetIdx + UInt32.ofNat 119).toNat ∈ (fb.writeOtaBar percent).written := by
      rw [written_writeOtaBar]
      exact List.mem_append_right _
        (List.mem_map.mpr ⟨119, List.mem_range.mpr (not_le.mp hlong), rfl⟩)
    exact absurd (hin _ hcell) (by decide)
  · intro hpercent
    exact (h.writeOtaBar hpercent).in_screen.inBuffer

end Framebuffer

/-!
# Whole runs

The control byte is 0 until the first clearing of the buffer.
-/

def DrawOp.Proper : DrawOp -> Prop
  | .otaBar percent => percent.toNat ≤ 100
  | _ => True

instance : DecidablePred DrawOp.Proper
  | .clear => inferInstanceAs (Decidable True)
  | .string _ _ _ _ _ => inferInstanceAs (Decidable True)
  | .otaBar percent => inferInstanceAs (Decidable (percent.toNat ≤ 100))

def controlByte (ops : List DrawOp) : UInt8 :=
  if .clear ∈ ops then 0x40 else 0

theorem controlByte_clear (past : List DrawOp) : controlByte (past ++ [.clear]) = 0x40 :=
  if_pos List.mem_concat_self

theorem controlByte_snoc {op : DrawOp} (h : op ≠ .clear) (past : List DrawOp) :
    controlByte (past ++ [op]) = controlByte past := by
  unfold controlByte
  apply if_congr
  · rw [List.mem_append, List.mem_singleton]
    exact or_iff_left h.symm
  · rfl
  · rfl

theorem safe_boot : Framebuffer.boot.Safe (controlByte []) where
  in_screen := fun _ h => absurd h List.not_mem_nil
  control_eq := rfl
  cursor_mem := by decide

theorem safe_draw {past : List DrawOp} {op : DrawOp} {fb : Framebuffer} (hop : op.Proper)
    (h : fb.Safe (controlByte past)) : (draw fb op).Safe (controlByte (past ++ [op])) := by
  cases op with
  | clear =>
      rw [controlByte_clear]
      exact h.clearBuffer
  | string c xCenter yCenter x page =>
      rw [controlByte_snoc (by intro h; cases h)]
      exact h.writeString c _ xCenter yCenter x page
  | otaBar percent =>
      rw [controlByte_snoc (by intro h; cases h)]
      exact h.writeOtaBar (Nat.le_trans hop (by decide))

theorem safe_drawnBy (ops : List DrawOp) :
    (forall op, op ∈ ops -> op.Proper) -> (drawnBy ops).Safe (controlByte ops) := by
  refine stateAfter_invariant
    (fun (ops : List DrawOp) (fb : Framebuffer) =>
      (forall op, op ∈ ops -> op.Proper) -> fb.Safe (controlByte ops)) ?_ ?_ ops
  · intro _
    exact safe_boot
  · intro past op ih hops
    apply safe_draw
    · exact hops op List.mem_concat_self
    · apply ih
      intro op hop
      exact hops op (List.mem_append_left _ hop)

/-- No drawing writes outside the cells, and the control byte stays in front of them. -/
theorem drawing_in_screen {ops : List DrawOp} (hops : forall op, op ∈ ops -> op.Proper) :
    (forall index, index ∈ (drawnBy ops).written -> 1 ≤ index ∧ index ≤ 1024) ∧
      (.clear ∈ ops -> (drawnBy ops).oledFullBuffer 0 = 0x40) ∧
      1 ≤ (drawnBy ops).oledFullBufferIdx ∧ (drawnBy ops).oledFullBufferIdx ≤ 1025 := by
  have h := safe_drawnBy ops hops
  constructor
  · exact h.in_screen
  · constructor
    · intro hclear
      exact h.control_eq.trans (if_pos hclear)
    · exact h.cursor_mem

/-- The label at the last page and the full bar, behind a string whose centred index wraps. -/
def wrappedDrawing : List DrawOp :=
  [.clear, .string (List.replicate 40 0x41) true true 0 6,
    .string [0x31, 0x30, 0x30, 0x25] false false 110 7, .otaBar 100]

theorem drawing_in_screen_wrapped :
    (forall index, index ∈ (drawnBy wrappedDrawing).written -> 1 ≤ index ∧ index ≤ 1024) ∧
      (.clear ∈ wrappedDrawing -> (drawnBy wrappedDrawing).oledFullBuffer 0 = 0x40) ∧
      1 ≤ (drawnBy wrappedDrawing).oledFullBufferIdx ∧
      (drawnBy wrappedDrawing).oledFullBufferIdx ≤ 1025 :=
  drawing_in_screen (by decide)

end Oled
end CarCleaner
