import CarCleaner.Firmware.EventGroup
import CarCleaner.Foundation.Formatted
import CarCleaner.Oled.RingBlit

/-!
# The parts of a screen

`oled_task` clears the buffer and draws up to ten parts into it, each at an offset that
is computed by hand.  A frame is the list of its parts with their drawing operations, in
the order in which the task performs them.
-/

namespace CarCleaner
namespace Oled

open Foundation
open Firmware

/-!
# Texts
-/

/-- `set_version` with the version of `main.c`. -/
def versionOnScreen : List UInt8 :=
  snprintfBytes 32 (literal "Version: 1.5.1")

/-- `distance_char` of `write_distance`. -/
def distanceChar (distanceCm : Rat) : List UInt8 :=
  snprintfBytes 10 (fixedPoint 2 distanceCm)

/-- The fields of `struct tm` that the screen shows, within the limits of `localtime_r`. -/
structure Tm where
  tmYear : Int
  tmMon : Nat
  tmMday : Nat
  tmHour : Nat
  tmMin : Nat
  tmSec : Nat
  tmMon_le : tmMon ≤ 11
  tmMday_le : tmMday ≤ 31
  tmHour_le : tmHour ≤ 23
  tmMin_le : tmMin ≤ 59
  tmSec_le : tmSec ≤ 60
deriving DecidableEq

/-- `time_buf` of `write_time`. -/
def timeBuf (timeinfo : Tm) : List UInt8 :=
  snprintfBytes 64
    (signedDecimal (timeinfo.tmYear + 1900) ++ literal "." ++ decimal (timeinfo.tmMon + 1) ++
      literal "." ++ decimal timeinfo.tmMday ++ literal " " ++ decimal timeinfo.tmHour ++
      literal ":" ++ decimal timeinfo.tmMin ++ literal ":" ++ decimal timeinfo.tmSec)

/-- `ota_percent_buf` of `write_ota_update`; `%ld` prints the unsigned value as a `long`. -/
def otaPercentBuf (otaPercentUint : UInt32) : List UInt8 :=
  snprintfBytes 4
    (signedDecimal ((otaPercentUint.toNat : Int).bmod 4294967296) ++ literal "%")

/-!
# Frames
-/

inductive Part where
  | version
  | wifiIcon
  | mqttIcon
  | time
  | distanceLabel
  | distance
  | angles
  | otaTitle
  | otaPercent
  | otaBar
deriving DecidableEq, Repr

/-- What the queues, the clock and the event group give to the task for one frame. -/
structure FrameInput where
  distanceCm : Rat
  angleTimeChar : List UInt8
  timeinfo : Tm
  otaPercentUint : UInt32
  bits : EventGroup
deriving DecidableEq

def writeDistance (distanceCm : Rat) : List (Part × DrawOp) :=
  [(.distanceLabel, .string (literal "dist") false false 0 3),
    (.distance, .string (distanceChar distanceCm) false true 0 0)]

def writeCord (angleTimeChar : List UInt8) : List (Part × DrawOp) :=
  [(.angles, .string angleTimeChar false true 30 0)]

def writeOtaUpdate (otaPercentUint : UInt32) : List (Part × DrawOp) :=
  [(.otaTitle, .string (literal "OTA update") true false 0 6),
    (.otaPercent, .string (otaPercentBuf otaPercentUint) false false 110 7),
    (.otaBar, .otaBar otaPercentUint)]

def writeTime (timeinfo : Tm) : List (Part × DrawOp) :=
  if 0 < (timeBuf timeinfo).length then
    [(.time, .string (timeBuf timeinfo) false false 0 1)]
  else
    []

def wifiIcon : DrawOp :=
  .string [0x7b, 0x7c, 0x7d] false false (oledCols - 15) 0

/-- The second icon is written with its terminator. -/
def mqttIcon (bits : EventGroup) : DrawOp :=
  if .mqttSubscribe ∈ bits then
    .string (literal "[") false false (oledCols - 5) 1
  else
    .string (literal "]" ++ [0]) false false (oledCols - 5) 1

/-- What `oled_task` draws behind `clear_buffer`. -/
def frame (input : FrameInput) : List (Part × DrawOp) :=
  [(.version, .string versionOnScreen false false 0 0)] ++
    writeDistance input.distanceCm ++
    (if .wifiBitGotIp ∈ input.bits then [(.wifiIcon, wifiIcon)] else []) ++
    (if .otaBitInProgress ∈ input.bits then writeOtaUpdate input.otaPercentUint else []) ++
    [(.mqttIcon, mqttIcon input.bits)] ++
    writeTime input.timeinfo ++
    writeCord input.angleTimeChar

def drawParts (fb : Framebuffer) (parts : List (Part × DrawOp)) : Framebuffer :=
  stateAfter (fun fb part => draw fb part.2) fb parts

/-!
# Cells
-/

def cellsDrawn (fb : Framebuffer) (op : DrawOp) : List Nat :=
  (draw { fb with written := [] } op).written

/-- The cells that are written for a part while the others are drawn as well. -/
def cellsOf (part : Part) (fb : Framebuffer) : List (Part × DrawOp) -> List Nat
  | [] => []
  | (p, op) :: later =>
      (if p = part then cellsDrawn fb op else []) ++ cellsOf part (draw fb op) later

def PartsDisjoint (fb : Framebuffer) (parts : List (Part × DrawOp)) : Prop :=
  forall p q, p ≠ q -> List.Disjoint (cellsOf p fb parts) (cellsOf q fb parts)

theorem exists_of_mem_cellsOf {part : Part} {fb : Framebuffer}
    {parts : List (Part × DrawOp)} {cell : Nat} (h : cell ∈ cellsOf part fb parts) :
    exists op fb', (part, op) ∈ parts ∧ cell ∈ cellsDrawn fb' op := by
  induction parts generalizing fb with
  | nil =>
      cases h
  | cons first later ih =>
      rcases List.mem_append.mp h with hfirst | hlater
      · split at hfirst
        · next heq =>
            exact ⟨first.2, fb, heq ▸ List.mem_cons_self, hfirst⟩
        · cases hfirst
      · rcases ih hlater with ⟨op, fb', hmem, hcell⟩
        exact ⟨op, fb', List.mem_cons_of_mem first hmem, hcell⟩

theorem mem_cellsOf {part : Part} {op : DrawOp} {parts : List (Part × DrawOp)} {cell : Nat}
    (hmem : (part, op) ∈ parts) (h : forall fb, cell ∈ cellsDrawn fb op) (fb : Framebuffer) :
    cell ∈ cellsOf part fb parts := by
  induction parts generalizing fb with
  | nil =>
      cases hmem
  | cons first later ih =>
      rcases List.mem_cons.mp hmem with rfl | hlater
      · rw [cellsOf, if_pos rfl]
        exact List.mem_append_left _ (h fb)
      · exact List.mem_append_right _ (ih hlater _)

theorem writeString_blits_of_le {c : List UInt8} {xCenter yCenter : Bool} {x page : UInt32}
    {start : Nat} (hne : c ≠ []) (hlen : 5 * c.length ≤ 1024)
    (hstart : (Framebuffer.startIndex (UInt32.ofNat c.length) xCenter yCenter x page).toNat =
      start)
    (hpos : 1 ≤ start) (hle : start ≤ 1024) (fb : Framebuffer) :
    RingBlit 1024 start (c.flatMap columns) fb.oledFullBuffer
        (draw fb (.string c xCenter yCenter x page)).oledFullBuffer ∧
      cellsDrawn fb (.string c xCenter yCenter x page) =
        (ringWrites 1024 start (c.flatMap columns)).map Prod.fst := by
  have hsize : 1024 < UInt32.size := by
    decide
  have htext : c.length = (UInt32.ofNat c.length).toNat :=
    (UInt32.toNat_ofNat_of_lt' (by omega)).symm
  have hblits := Framebuffer.writeString_blits htext hne hstart hpos hle
  exact ⟨(hblits fb).1, (hblits { fb with written := [] }).2⟩

/-- A string that ends in front of the last cell covers the cells between its ends. -/
theorem mem_cellsDrawn_string {c : List UInt8} {xCenter yCenter : Bool} {x page : UInt32}
    {start : Nat} (hne : c ≠ [])
    (hstart : (Framebuffer.startIndex (UInt32.ofNat c.length) xCenter yCenter x page).toNat =
      start)
    (hpos : 1 ≤ start) (hend : start + 5 * c.length ≤ 1025) (fb : Framebuffer) (cell : Nat) :
    cell ∈ cellsDrawn fb (.string c xCenter yCenter x page) <->
      start ≤ cell ∧ cell < start + 5 * c.length := by
  have hlength := List.length_pos_of_ne_nil hne
  have hcells := (writeString_blits_of_le hne (by omega) hstart hpos (by omega) fb).2
  rw [<- length_flatMap_columns] at hend ⊢
  rw [hcells, mem_map_ringWrites_of_le hpos hend]

theorem length_otaBarBytes (percent : UInt32) :
    (List.replicate percent.toNat (0xff : UInt8)).length = percent.toNat :=
  List.length_replicate

theorem mem_cellsDrawn_otaBar {percent : UInt32} (hpercent : percent.toNat ≤ 100)
    (fb : Framebuffer) (cell : Nat) :
    cell ∈ cellsDrawn fb (.otaBar percent) <-> 906 ≤ cell ∧ cell < 906 + percent.toNat := by
  have hwritten := (Framebuffer.writeOtaBar_blits hpercent { fb with written := [] }).2
  have hlength := length_otaBarBytes percent
  rw [cellsDrawn, draw, hwritten, List.nil_append,
    mem_map_ringWrites_of_le (by decide) (by omega), hlength]

end Oled
end CarCleaner
