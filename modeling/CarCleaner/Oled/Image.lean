import CarCleaner.Foundation.Picture
import CarCleaner.Oled.Centring

/-!
# Drawings as pictures

Every drawing operation paints one region of the buffer, so what a sequence of operations
leaves is the picture of their regions.  Clearing paints all of the buffer: a frame shows
nothing of the frames in front of it.
-/

namespace CarCleaner
namespace Oled

open Foundation
open Firmware

/-!
# Regions of the operations
-/

/-- The columns of a string; an empty string is drawn as its terminator. -/
def shownColumns (c : List UInt8) : List UInt8 :=
  if c = [] then columns 0 else c.flatMap columns

theorem length_shownColumns (c : List UInt8) :
    (shownColumns c).length = 5 * max 1 c.length := by
  unfold shownColumns
  split
  · next hnil =>
      rw [length_columns, hnil]
      rfl
  · next hne =>
      rw [length_flatMap_columns, max_eq_right (List.length_pos_of_ne_nil hne)]

/-- The cells that an operation writes, with the bytes that it leaves there. -/
def DrawOp.region : DrawOp -> Region UInt8
  | .clear => { start := 0, values := 0x40 :: List.replicate 1024 0 }
  | .string c xCenter yCenter x page =>
      { start :=
          (Framebuffer.startIndex (UInt32.ofNat c.length) xCenter yCenter x page).toNat
        values := shownColumns c }
  | .otaBar percent => { start := 906, values := List.replicate percent.toNat 0xff }

/-- The operation stays on the screen without a wrap, and a bar shows a percentage. -/
def DrawOp.Fits : DrawOp -> Prop
  | .clear => True
  | .string c xCenter yCenter x page =>
      1 ≤ (DrawOp.string c xCenter yCenter x page).region.start ∧
        (DrawOp.string c xCenter yCenter x page).region.start + (shownColumns c).length ≤ 1025
  | .otaBar percent => percent.toNat ≤ 100

instance : DecidablePred DrawOp.Fits
  | .clear => inferInstanceAs (Decidable True)
  | .string _ _ _ _ _ => inferInstanceAs (Decidable (_ ∧ _))
  | .otaBar percent => inferInstanceAs (Decidable (percent.toNat ≤ 100))

theorem writeString_eq_foldl_shownColumns {c : List UInt8} {len : UInt32}
    (hlen : c.length = len.toNat) {xCenter yCenter : Bool} {x page : UInt32}
    (hstart : Framebuffer.startIndex len xCenter yCenter x page ≠ 0) (fb : Framebuffer) :
    fb.writeString c len xCenter yCenter x page =
      (shownColumns c).foldl Framebuffer.writeByte
        (fb.setCursor (Framebuffer.startIndex len xCenter yCenter x page)) := by
  unfold shownColumns
  split
  · next hnil =>
      have hempty : fb.writeString [] len xCenter yCenter x page =
          fb.writeChar 0 (Framebuffer.startIndex len xCenter yCenter x page) := by
        simp only [Framebuffer.writeString, List.take_nil, List.tail_nil, List.foldl_nil,
          List.headD_nil]
      rw [hnil, hempty, Framebuffer.writeChar_of_ne_zero hstart]
  · next hne =>
      exact Framebuffer.writeString_eq_foldl hlen hne hstart fb

theorem buffer_clearBuffer (fb : Framebuffer) :
    fb.clearBuffer.oledFullBuffer = Region.paint fb.oledFullBuffer DrawOp.clear.region := by
  have hsize : oledSize.toNat = 1024 := rfl
  funext c
  have hvalue : DrawOp.clear.region.valueAt c =
      ((0x40 : UInt8) :: List.replicate 1024 0)[c]? :=
    if_pos (Nat.zero_le c)
  change (if c = 0 then 0x40 else if c ≤ oledSize.toNat then 0 else fb.oledFullBuffer c) = _
  rw [Region.paint, hvalue, hsize]
  cases c with
  | zero =>
      rfl
  | succ c =>
      rw [List.getElem?_cons_succ, List.getElem?_replicate, if_neg (Nat.succ_ne_zero c)]
      split
      · rw [if_pos (by omega), Option.getD_some]
      · rw [if_neg (by omega), Option.getD_none]

theorem writeString_writes_region {c : List UInt8} {xCenter yCenter : Bool} {x page : UInt32}
    (h : (DrawOp.string c xCenter yCenter x page).Fits) (fb : Framebuffer) :
    (draw fb (.string c xCenter yCenter x page)).oledFullBuffer =
        Region.paint fb.oledFullBuffer (DrawOp.string c xCenter yCenter x page).region ∧
      (draw fb (.string c xCenter yCenter x page)).written =
        fb.written ++
          (ringWrites 1024 (DrawOp.string c xCenter yCenter x page).region.start
            (shownColumns c)).map Prod.fst := by
  rcases h with ⟨hpos, hend⟩
  change 1 ≤ (Framebuffer.startIndex _ xCenter yCenter x page).toNat at hpos
  change (Framebuffer.startIndex _ xCenter yCenter x page).toNat + _ ≤ 1025 at hend
  rw [DrawOp.region]
  generalize hstart : Framebuffer.startIndex (UInt32.ofNat c.length) xCenter yCenter x page =
    start at hpos hend
  have hlength := length_shownColumns c
  have hsize : 1024 < UInt32.size := by
    decide
  have htext : c.length = (UInt32.ofNat c.length).toNat :=
    (UInt32.toNat_ofNat_of_lt' (by omega)).symm
  have hcursor : (fb.setCursor start).oledFullBufferIdx ≠ 0 := by
    intro hzero
    change start = 0 at hzero
    rw [hzero, UInt32.toNat_zero] at hpos
    omega
  have hcell : (Framebuffer.nextCell (fb.setCursor start).oledFullBufferIdx).toNat =
      start.toNat := by
    change (Framebuffer.nextCell start).toNat = _
    rw [Framebuffer.toNat_nextCell, if_neg (by omega)]
  have hbytes := Framebuffer.foldl_writeByte hcursor (shownColumns c)
  rw [hcell] at hbytes
  rw [draw, writeString_eq_foldl_shownColumns htext (by rw [hstart]; exact hcursor), hstart]
  refine ⟨?_, hbytes.2⟩
  rw [hbytes.1]
  exact (ringBlit_writeAll 1024 start.toNat (shownColumns c) _).eq_paint hpos hend

theorem buffer_draw {op : DrawOp} (h : op.Fits) (fb : Framebuffer) :
    (draw fb op).oledFullBuffer = Region.paint fb.oledFullBuffer op.region := by
  cases op with
  | clear =>
      exact buffer_clearBuffer fb
  | string c xCenter yCenter x page =>
      exact (writeString_writes_region h fb).1
  | otaBar percent =>
      have hpercent : percent.toNat ≤ 100 := h
      refine (Framebuffer.writeOtaBar_blits hpercent fb).1.eq_paint (by decide) ?_
      rw [List.length_replicate]
      omega

/-- What any sequence of drawings leaves: the last one that covers a cell decides. -/
theorem buffer_stateAfter_draw {ops : List DrawOp} (h : forall op, op ∈ ops -> op.Fits)
    (fb : Framebuffer) :
    (stateAfter draw fb ops).oledFullBuffer =
      picture fb.oledFullBuffer (ops.map DrawOp.region) := by
  induction ops generalizing fb with
  | nil =>
      rfl
  | cons op later ih =>
      have hlater := ih (fun q hq => h q (List.mem_cons_of_mem op hq)) (draw fb op)
      rw [buffer_draw (h op List.mem_cons_self)] at hlater
      exact hlater

/-!
# Frames
-/

/-- What `oled_task` draws for one frame. -/
def frameOps (input : FrameInput) : List DrawOp :=
  .clear :: (frame input).map Prod.snd

/-- A cleared buffer. -/
def blank (c : Nat) : UInt8 :=
  if c = 0 then 0x40 else 0

/-- The image of a frame: its parts over a cleared buffer. -/
def image (input : FrameInput) : Nat -> UInt8 :=
  picture blank ((frame input).map fun part => part.2.region)

/-- The string of the angles ends in its array, and a running update shows a percentage. -/
def FrameInput.Valid (input : FrameInput) : Prop :=
  input.angleTimeChar.length ≤ 63 ∧
    (EventBit.otaBitInProgress ∈ input.bits -> input.otaPercentUint.toNat ≤ 100)

instance (input : FrameInput) : Decidable input.Valid :=
  inferInstanceAs (Decidable (_ ∧ _))

theorem fits_string {c : List UInt8} {xCenter yCenter : Bool} {x page : UInt32} {start : Nat}
    (hstart : (Framebuffer.startIndex (UInt32.ofNat c.length) xCenter yCenter x page).toNat =
      start)
    (hpos : 1 ≤ start) (hend : start + 5 * max 1 c.length ≤ 1025) :
    (DrawOp.string c xCenter yCenter x page).Fits := by
  rw [DrawOp.Fits, DrawOp.region, hstart, length_shownColumns]
  exact ⟨hpos, hend⟩

theorem fits_between {c : List UInt8} (hlength : c.length ≤ 63) {x : UInt32} (hx : x < 128) :
    (DrawOp.string c false true x 0).Fits := by
  have hx' : x.toNat < 128 := UInt32.lt_iff_toNat_lt.mp hx
  have hpage : centredPage c.length ≤ 4 := by
    unfold centredPage
    omega
  apply fits_string (toNat_startIndex_between (by omega) hx)
  · unfold cellAt
    omega
  · unfold cellAt
    omega

theorem length_snprintfBytes_lt {size : Nat} (hsize : 0 < size) (text : List UInt8) :
    (snprintfBytes size text).length < size :=
  (List.length_take_le _ _).trans_lt (Nat.sub_lt hsize Nat.one_pos)

theorem fits_writeOtaUpdate {percent : UInt32} (hpercent : percent.toNat ≤ 100)
    {part : Part × DrawOp} (hpart : part ∈ writeOtaUpdate percent) : part.2.Fits := by
  have hlength := length_snprintfBytes_lt (by decide : 0 < 4)
    (signedDecimal ((percent.toNat : Int).bmod 4294967296) ++ literal "%")
  rw [<- otaPercentBuf] at hlength
  rcases List.mem_cons.mp hpart with rfl | htail
  · exact fits_string rfl (by decide) (by decide)
  · rcases List.mem_cons.mp htail with rfl | hbar
    · apply fits_string (Framebuffer.toNat_startIndex (by decide) (by decide) _)
      · decide
      · change 1007 + _ ≤ 1025
        omega
    · rw [List.mem_singleton.mp hbar]
      exact hpercent

theorem fits_mqttIcon (bits : EventGroup) : (mqttIcon bits).Fits := by
  unfold mqttIcon
  split
  · exact fits_string rfl (by decide) (by decide)
  · exact fits_string rfl (by decide) (by decide)

theorem fits_writeTime {timeinfo : Tm} {part : Part × DrawOp}
    (hpart : part ∈ writeTime timeinfo) : part.2.Fits := by
  have hlength : (timeBuf timeinfo).length < 64 := length_snprintfBytes_lt (by decide) _
  unfold writeTime at hpart
  split at hpart
  · rw [List.mem_singleton.mp hpart]
    apply fits_string (Framebuffer.toNat_startIndex (by decide) (by decide) _)
    · decide
    · change 129 + _ ≤ 1025
      omega
  · cases hpart

theorem fits_frame {input : FrameInput} (h : input.Valid) {part : Part × DrawOp}
    (hpart : part ∈ frame input) : part.2.Fits := by
  have hdistance : (distanceChar input.distanceCm).length < 10 :=
    length_snprintfBytes_lt (by decide) _
  simp only [frame, List.mem_append] at hpart
  rcases hpart with (((((hversion | hdist) | hwifi) | hota) | hmqtt) | htime) | hcord
  · rw [List.mem_singleton.mp hversion]
    exact fits_string rfl (by decide) (by decide)
  · rcases List.mem_cons.mp hdist with rfl | hvalue
    · exact fits_string rfl (by decide) (by decide)
    · rw [List.mem_singleton.mp hvalue]
      exact fits_between (by omega) (by decide)
  · split at hwifi
    · rw [List.mem_singleton.mp hwifi]
      exact fits_string rfl (by decide) (by decide)
    · cases hwifi
  · split at hota
    · next hbit =>
        exact fits_writeOtaUpdate (h.2 hbit) hota
    · cases hota
  · rw [List.mem_singleton.mp hmqtt]
    exact fits_mqttIcon input.bits
  · exact fits_writeTime htime
  · rw [List.mem_singleton.mp hcord]
    exact fits_between h.1 (by decide)

theorem paint_clear {c : Nat} (hc : c ≤ 1024) (old : Nat -> UInt8) :
    Region.paint old DrawOp.clear.region c = blank c := by
  have hvalue : DrawOp.clear.region.valueAt c =
      ((0x40 : UInt8) :: List.replicate 1024 0)[c]? :=
    if_pos (Nat.zero_le c)
  rw [Region.paint, hvalue, blank]
  cases c with
  | zero =>
      rfl
  | succ c =>
      rw [List.getElem?_cons_succ, List.getElem?_replicate, if_pos (by omega),
        if_neg (Nat.succ_ne_zero c), Option.getD_some]

/--
Every frame shows its image, the last part that covers a cell deciding, and nothing of
what was drawn before it.
-/
theorem buffer_frame {input : FrameInput} (h : input.Valid) (fb : Framebuffer) {c : Nat}
    (hc : c ≤ 1024) :
    (stateAfter draw fb (frameOps input)).oledFullBuffer c = image input c := by
  have hfits : forall op, op ∈ frameOps input -> op.Fits := by
    intro op hop
    rcases List.mem_cons.mp hop with rfl | hpart
    · trivial
    · rcases List.mem_map.mp hpart with ⟨part, hmem, rfl⟩
      exact fits_frame h hmem
  rw [buffer_stateAfter_draw hfits, frameOps, List.map_cons, List.map_map]
  exact picture_congr (paint_clear hc fb.oledFullBuffer) _

end Oled
end CarCleaner
