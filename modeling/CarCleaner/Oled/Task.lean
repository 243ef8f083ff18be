import CarCleaner.Oled.Image
import CarCleaner.Oled.Layout

/-!
# The display task

`oled_task` draws each frame in several steps, and at each of them it looks at another of
the objects that it shares with the rest of the firmware.  What it sends to the display
is the image of the values that it has found there: neither the static buffer nor the
cursor carries anything from one frame to the next.
-/

namespace CarCleaner
namespace Oled

open Foundation
open Firmware

/-!
# The loop
-/

inductive OledPoint where
  | drawingDistance
  | readingBits
  | updating
  | readingTime
  | drawingAngles
  | transmitting
deriving DecidableEq, Repr

/--
The static variables of the drawing functions, the bits of the current frame, the buffer,
and everything that has been transmitted.
-/
structure OledTask extends FrameInput where
  point : OledPoint
  framebuffer : Framebuffer
  transmitted : List (List UInt8)

structure OledSource where
  qDistance : Option Rat
  eTasks : EventGroup
  qOtaLevel : Option UInt32
  timeinfo : Tm
  qAngle : Option (List UInt8)
deriving DecidableEq

def screenBytes (cells : Nat -> UInt8) : List UInt8 :=
  (List.range 1025).map cells

def initCmd : List UInt8 :=
  [0x00, 0xae, 0xd5, 0x80, 0xa8, 0x3f, 0xd3, 0x00, 0x40, 0x8d, 0x14, 0x20, 0x00, 0xa1, 0xc8,
    0xda, 0x12, 0x81, 0xcf, 0xa4, 0xa6, 0xaf]

def resetCursor : List UInt8 :=
  [0x00, 0x21, 0, 127, 0x22, 0, 7]

def Tm.zero : Tm where
  tmYear := 0
  tmMon := 0
  tmMday := 0
  tmHour := 0
  tmMin := 0
  tmSec := 0
  tmMon_le := newYear.tmMon_le
  tmMday_le := Nat.zero_le _
  tmHour_le := newYear.tmHour_le
  tmMin_le := newYear.tmMin_le
  tmSec_le := newYear.tmSec_le

def FrameInput.zero : FrameInput where
  distanceCm := 0
  angleTimeChar := []
  timeinfo := .zero
  otaPercentUint := 0
  bits := ∅

def OledTask.beforeInit : OledTask where
  toFrameInput := .zero
  point := .drawingDistance
  framebuffer := Framebuffer.boot
  transmitted := []

def oledInit (s : OledTask) : OledTask :=
  { s with
    framebuffer := s.framebuffer.clearBuffer
    transmitted :=
      s.transmitted ++ [initCmd, screenBytes s.framebuffer.clearBuffer.oledFullBuffer] }

def OledTask.boot : OledTask where
  toFrameInput := .zero
  point := .drawingDistance
  framebuffer := Framebuffer.boot.clearBuffer
  transmitted := [initCmd, screenBytes Framebuffer.boot.clearBuffer.oledFullBuffer]

theorem oledInit_beforeInit : oledInit .beforeInit = .boot :=
  rfl

def versionPart : Part × DrawOp :=
  (.version, .string versionOnScreen false false 0 0)

def wifiParts (bits : EventGroup) : List (Part × DrawOp) :=
  if .wifiBitGotIp ∈ bits then [(.wifiIcon, wifiIcon)] else []

def otaTitle : Part × DrawOp :=
  (.otaTitle, .string (literal "OTA update") true false 0 6)

/-- What `write_ota_update` draws behind its receive. -/
def otaLevelParts (otaPercentUint : UInt32) : List (Part × DrawOp) :=
  [(.otaPercent, .string (otaPercentBuf otaPercentUint) false false 110 7),
    (.otaBar, .otaBar otaPercentUint)]

/-- One step of `oled_task`; it waits for nothing but its mutex. -/
def oledTask (s : OledTask) (source : OledSource) : OledTask :=
  match s.point with
  | .drawingDistance =>
      let distanceCm := source.qDistance.getD s.distanceCm
      { s with
        distanceCm := distanceCm
        framebuffer :=
          drawParts s.framebuffer.clearBuffer (versionPart :: writeDistance distanceCm)
        point := .readingBits }
  | .readingBits =>
      let framebuffer := drawParts s.framebuffer (wifiParts source.eTasks)
      if .otaBitInProgress ∈ source.eTasks then
        { s with
          bits := source.eTasks
          framebuffer := drawParts framebuffer [otaTitle]
          point := .updating }
      else
        { s with bits := source.eTasks, framebuffer := framebuffer, point := .readingTime }
  | .updating =>
      let otaPercentUint := source.qOtaLevel.getD s.otaPercentUint
      { s with
        otaPercentUint := otaPercentUint
        framebuffer := drawParts s.framebuffer (otaLevelParts otaPercentUint)
        point := .readingTime }
  | .readingTime =>
      { s with
        timeinfo := source.timeinfo
        framebuffer :=
          drawParts s.framebuffer ((.mqttIcon, mqttIcon s.bits) :: writeTime source.timeinfo)
        point := .drawingAngles }
  | .drawingAngles =>
      let angleTimeChar := source.qAngle.getD s.angleTimeChar
      { s with
        angleTimeChar := angleTimeChar
        framebuffer := drawParts s.framebuffer (writeCord angleTimeChar)
        point := .transmitting }
  | .transmitting =>
      { s with
        transmitted :=
          s.transmitted ++ [resetCursor, screenBytes s.framebuffer.oledFullBuffer]
        point := .drawingDistance }

/-- None of the writes of the step goes past the end of the buffer. -/
def OledTask.StaysInBuffer (s : OledTask) (source : OledSource) : Prop :=
  (oledTask { s with framebuffer := { s.framebuffer with written := [] } }
    source).framebuffer.InBuffer

instance (s : OledTask) (source : OledSource) : Decidable (s.StaysInBuffer source) :=
  inferInstanceAs (Decidable (Framebuffer.InBuffer _))

def oledAfter (history : List OledSource) : OledTask :=
  stateAfter oledTask .boot history

/-!
# The display without its buffer
-/

structure Display where
  input : FrameInput
  point : OledPoint
  shown : List FrameInput
deriving DecidableEq

def Display.boot : Display where
  input := .zero
  point := .drawingDistance
  shown := []

def Display.withInput (d : Display) (input : FrameInput) (point : OledPoint) : Display :=
  { d with input := input, point := point }

/-- A frame is made of the values found at its steps, or of older ones where there is none. -/
def displayStep (d : Display) (source : OledSource) : Display :=
  match d.point with
  | .drawingDistance =>
      d.withInput { d.input with distanceCm := source.qDistance.getD d.input.distanceCm }
        .readingBits
  | .readingBits =>
      d.withInput { d.input with bits := source.eTasks }
        (if .otaBitInProgress ∈ source.eTasks then .updating else .readingTime)
  | .updating =>
      d.withInput
        { d.input with otaPercentUint := source.qOtaLevel.getD d.input.otaPercentUint }
        .readingTime
  | .readingTime => d.withInput { d.input with timeinfo := source.timeinfo } .drawingAngles
  | .drawingAngles =>
      d.withInput
        { d.input with angleTimeChar := source.qAngle.getD d.input.angleTimeChar }
        .transmitting
  | .transmitting => { d with shown := d.shown ++ [d.input], point := .drawingDistance }

/-- The time of a frame is read in front of the angles, and then it stays. -/
theorem timed_displayStep (d : Display) (source : OledSource)
    (h : (displayStep d source).point = .drawingAngles ∨
      (displayStep d source).point = .transmitting) :
    d.point = .readingTime ∨ d.point = .drawingAngles := by
  unfold displayStep at h
  cases hpoint : d.point with
  | readingTime => exact Or.inl rfl
  | drawingAngles => exact Or.inr rfl
  | readingBits =>
      simp only [hpoint, Display.withInput] at h
      split at h
      · simp at h
      · simp at h
  | _ => simp [hpoint, Display.withInput] at h

def displayAfter (history : List OledSource) : Display :=
  stateAfter displayStep .boot history

def frameTransfers (input : FrameInput) : List (List UInt8) :=
  [resetCursor, screenBytes (image input)]

/-- Texts end in their array, and a percent is one. -/
def OledSource.Valid (source : OledSource) : Prop :=
  (forall text, text ∈ source.qAngle -> text.length ≤ 63) ∧
    (forall percent, percent ∈ source.qOtaLevel -> percent.toNat ≤ 100)

instance (source : OledSource) : Decidable source.Valid :=
  @instDecidableAnd _ _ (Option.decidableForallMem source.qAngle)
    (Option.decidableForallMem source.qOtaLevel)

/-!
# The buffer of a frame
-/

theorem screenBytes_congr {cells cells' : Nat -> UInt8}
    (h : forall c, c ≤ 1024 -> cells c = cells' c) : screenBytes cells = screenBytes cells' := by
  rw [screenBytes, screenBytes]
  exact List.map_congr_left fun c hc => h c (Nat.le_of_lt_succ (List.mem_range.mp hc))

theorem drawParts_append (fb : Framebuffer) (parts later : List (Part × DrawOp)) :
    drawParts fb (parts ++ later) = drawParts (drawParts fb parts) later :=
  List.foldl_append

theorem drawParts_clearBuffer (fb : Framebuffer) (input : FrameInput) :
    drawParts fb.clearBuffer (frame input) = stateAfter draw fb (frameOps input) := by
  rw [frameOps, drawParts, stateAfter, stateAfter, List.foldl_cons, List.foldl_map, draw]

def partsDrawn (input : FrameInput) : OledPoint -> List (Part × DrawOp)
  | .drawingDistance => []
  | .readingBits => versionPart :: writeDistance input.distanceCm
  | .updating =>
      versionPart :: writeDistance input.distanceCm ++ wifiParts input.bits ++ [otaTitle]
  | .readingTime =>
      versionPart :: writeDistance input.distanceCm ++ wifiParts input.bits ++
        if .otaBitInProgress ∈ input.bits then writeOtaUpdate input.otaPercentUint else []
  | .drawingAngles =>
      versionPart :: writeDistance input.distanceCm ++ wifiParts input.bits ++
        (if .otaBitInProgress ∈ input.bits then writeOtaUpdate input.otaPercentUint else []) ++
        ((.mqttIcon, mqttIcon input.bits) :: writeTime input.timeinfo)
  | .transmitting => frame input

theorem partsDrawn_readingTime (input : FrameInput) :
    partsDrawn input .readingTime =
      if .otaBitInProgress ∈ input.bits then
        partsDrawn input .updating ++ otaLevelParts input.otaPercentUint
      else
        partsDrawn input .readingBits ++ wifiParts input.bits := by
  simp only [partsDrawn]
  split
  · rw [List.append_assoc _ [otaTitle]]
    rfl
  · rw [List.append_nil]

theorem partsDrawn_transmitting (input : FrameInput) :
    partsDrawn input .transmitting =
      partsDrawn input .drawingAngles ++ writeCord input.angleTimeChar := by
  simp only [partsDrawn, frame, wifiParts, versionPart, List.append_assoc, List.cons_append,
    List.nil_append]

/-- The task and the display agree, and the buffer holds the frame as far as it is drawn. -/
structure Shows (s : OledTask) (d : Display) : Prop where
  input_eq : s.toFrameInput = d.input
  point_eq : s.point = d.point
  valid : d.input.angleTimeChar.length ≤ 63 ∧ d.input.otaPercentUint.toNat ≤ 100
  updating : d.point = .updating -> .otaBitInProgress ∈ d.input.bits
  drawn : d.point ≠ .drawingDistance ->
    exists fb : Framebuffer,
      s.framebuffer = drawParts fb.clearBuffer (partsDrawn d.input d.point)
  transmitted :
    s.transmitted = OledTask.boot.transmitted ++ d.shown.flatMap frameTransfers

theorem shows_boot : Shows .boot .boot where
  input_eq := rfl
  point_eq := rfl
  valid := by decide
  updating h := nomatch h
  drawn h := absurd rfl h
  transmitted := (List.append_nil _).symm

theorem Shows.draws {s s' : OledTask} {d : Display} (h : Shows s d) {input : FrameInput}
    {point : OledPoint} {parts : List (Part × DrawOp)}
    (hs : s' = { s with
      toFrameInput := input
      framebuffer := drawParts s.framebuffer parts
      point := point })
    (hvalid : input.angleTimeChar.length ≤ 63 ∧ input.otaPercentUint.toNat ≤ 100)
    (hupdating : point = .updating -> .otaBitInProgress ∈ input.bits)
    (hdrawing : d.point ≠ .drawingDistance)
    (hparts : partsDrawn input point = partsDrawn d.input d.point ++ parts) :
    Shows s' (d.withInput input point) := by
  rcases h.drawn hdrawing with ⟨fb, hfb⟩
  subst hs
  refine ⟨rfl, rfl, hvalid, hupdating, fun _ => ⟨fb, ?_⟩, h.transmitted⟩
  change drawParts s.framebuffer parts = drawParts fb.clearBuffer (partsDrawn input point)
  rw [hparts, drawParts_append, hfb]

theorem Shows.transmit {s : OledTask} {d : Display} (h : Shows s d)
    (hpoint : d.point = .transmitting) :
    Shows
      { s with
        transmitted :=
          s.transmitted ++ [resetCursor, screenBytes s.framebuffer.oledFullBuffer]
        point := .drawingDistance }
      { d with shown := d.shown ++ [d.input], point := .drawingDistance } := by
  rcases h.drawn (by simp [hpoint]) with ⟨fb, hfb⟩
  rw [hpoint, partsDrawn, drawParts_clearBuffer] at hfb
  have hvalid : d.input.Valid := ⟨h.valid.1, fun _ => h.valid.2⟩
  have hscreen : screenBytes s.framebuffer.oledFullBuffer = screenBytes (image d.input) := by
    rw [hfb]
    exact screenBytes_congr fun c hc => buffer_frame hvalid fb hc
  refine ⟨h.input_eq, rfl, h.valid, (fun h => nomatch h), fun h => absurd rfl h, ?_⟩
  change s.transmitted ++ _ = _ ++ (d.shown ++ [d.input]).flatMap frameTransfers
  rw [hscreen, h.transmitted, List.flatMap_append, List.flatMap_singleton, frameTransfers,
    List.append_assoc]

theorem Shows.step {s : OledTask} {d : Display} (h : Shows s d) {source : OledSource}
    (hsource : source.Valid) : Shows (oledTask s source) (displayStep d source) := by
  rcases s with ⟨input, point, framebuffer, transmitted⟩
  cases h.input_eq
  cases h.point_eq
  rcases hsource with ⟨hangle, hpercent⟩
  cases hpoint : d.point with
  | drawingDistance =>
      simp only [oledTask, displayStep, hpoint]
      exact ⟨rfl, rfl, h.valid, (fun h => nomatch h), fun _ => ⟨framebuffer, rfl⟩,
        h.transmitted⟩
  | readingBits =>
      have hdrawing : d.point ≠ .drawingDistance := by
        simp [hpoint]
      simp only [oledTask, displayStep, hpoint]
      split
      · next hbit =>
          rw [<- drawParts_append]
          refine h.draws rfl h.valid (fun _ => hbit) hdrawing ?_
          rw [hpoint, partsDrawn, partsDrawn, List.append_assoc]
      · next hbit =>
          refine h.draws rfl h.valid (fun h => nomatch h) hdrawing ?_
          rw [hpoint, partsDrawn_readingTime, if_neg hbit, partsDrawn]
          rfl
  | updating =>
      have hdrawing : d.point ≠ .drawingDistance := by
        simp [hpoint]
      simp only [oledTask, displayStep, hpoint]
      refine h.draws rfl ⟨h.valid.1, ?_⟩ (fun h => nomatch h) hdrawing ?_
      · cases hreceived : source.qOtaLevel with
        | none => exact h.valid.2
        | some percent => exact hpercent percent hreceived
      · rw [hpoint, partsDrawn_readingTime, if_pos (h.updating hpoint)]
        rfl
  | readingTime =>
      have hdrawing : d.point ≠ .drawingDistance := by
        simp [hpoint]
      simp only [oledTask, displayStep, hpoint]
      refine h.draws rfl h.valid (fun h => nomatch h) hdrawing ?_
      rw [hpoint]
      rfl
  | drawingAngles =>
      have hdrawing : d.point ≠ .drawingDistance := by
        simp [hpoint]
      simp only [oledTask, displayStep, hpoint]
      refine h.draws rfl ⟨?_, h.valid.2⟩ (fun h => nomatch h) hdrawing ?_
      · cases hreceived : source.qAngle with
        | none => exact h.valid.1
        | some text => exact hangle text hreceived
      · rw [hpoint, partsDrawn_transmitting]
        rfl
  | transmitting =>
      simp only [oledTask, displayStep, hpoint]
      exact h.transmit hpoint

theorem shows_oledAfter {history : List OledSource}
    (h : forall source, source ∈ history -> source.Valid) :
    Shows (oledAfter history) (displayAfter history) := by
  induction history using List.reverseRecOn with
  | nil =>
      exact shows_boot
  | append_singleton past source ih =>
      rw [oledAfter, displayAfter, stateAfter_snoc, stateAfter_snoc]
      exact (ih fun q hq => h q (List.mem_append_left _ hq)).step (h source (by simp))

theorem transmitted_boot : OledTask.boot.transmitted = [initCmd, screenBytes blank] := by
  have hboot : screenBytes Framebuffer.boot.clearBuffer.oledFullBuffer = screenBytes blank := by
    apply screenBytes_congr
    intro c hc
    rw [buffer_clearBuffer]
    exact paint_clear hc _
  rw [OledTask.boot, hboot]

/--
Behind the transfers of `oled_init`, the display receives the image of every frame in
turn, and nothing else.
-/
theorem transmitted_eq_images {history : List OledSource}
    (h : forall source, source ∈ history -> source.Valid) :
    (oledAfter history).transmitted =
      [initCmd, screenBytes blank] ++ (displayAfter history).shown.flatMap frameTransfers := by
  rw [(shows_oledAfter h).transmitted, transmitted_boot]

def busySource : OledSource where
  qDistance := some 25
  eTasks := {.wifiBitGotIp, .otaBitInProgress}
  qOtaLevel := some 40
  timeinfo := .zero
  qAngle := some (literal "P:-1 R:2 Y:179")

theorem busySource_eq_images :
    (oledAfter (List.replicate 9 busySource)).transmitted =
      [initCmd, screenBytes blank] ++
        (displayAfter (List.replicate 9 busySource)).shown.flatMap frameTransfers := by
  have hvalid : busySource.Valid := by
    decide +kernel
  have hsources : forall source, source ∈ List.replicate 9 busySource -> source.Valid := by
    intro source hsource
    rw [List.eq_of_mem_replicate hsource]
    exact hvalid
  exact transmitted_eq_images hsources

end Oled
end CarCleaner
