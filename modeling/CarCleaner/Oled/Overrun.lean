import CarCleaner.Oled.Task

/-!
# The end of the buffer

Texts wrap at the last cell, wherever they start and however long they are.  Nothing
wraps the bar of an update, and nothing limits the percent that `write_ota_update`
takes from its queue, so the bar is all that can run past `oled_full_buffer`.
-/

namespace CarCleaner
namespace Oled

open Foundation

/-- The drawing ends with the buffer. -/
def DrawOp.EndsInBuffer : DrawOp -> Prop
  | .otaBar percent => percent.toNat ≤ 119
  | _ => True

/-- Nothing has been written outside the screen, and the cursor is next to one of its cells. -/
def Framebuffer.Sound (fb : Framebuffer) : Prop :=
  exists control, fb.Safe control

theorem sound_boot : Framebuffer.boot.Sound :=
  ⟨_, safe_boot⟩

theorem Framebuffer.Sound.unwritten {fb : Framebuffer} (h : fb.Sound) :
    Framebuffer.Sound { fb with written := [] } := by
  rcases h with ⟨control, hsafe⟩
  exact ⟨control, fun _ hmem => absurd hmem List.not_mem_nil, hsafe.control_eq,
    hsafe.cursor_mem⟩

theorem Framebuffer.Sound.clearBuffer {fb : Framebuffer} (h : fb.Sound) :
    fb.clearBuffer.Sound := by
  rcases h with ⟨control, hsafe⟩
  exact ⟨_, hsafe.clearBuffer⟩

theorem Framebuffer.Sound.inBuffer {fb : Framebuffer} (h : fb.Sound) : fb.InBuffer := by
  rcases h with ⟨control, hsafe⟩
  exact hsafe.in_screen.inBuffer

theorem Framebuffer.Sound.draw {fb : Framebuffer} (h : fb.Sound) {op : DrawOp}
    (hop : op.EndsInBuffer) : (draw fb op).Sound := by
  rcases h with ⟨control, hsafe⟩
  cases op with
  | clear => exact ⟨_, hsafe.clearBuffer⟩
  | string c xCenter yCenter x page =>
      exact ⟨_, hsafe.writeString c _ xCenter yCenter x page⟩
  | otaBar percent => exact ⟨_, hsafe.writeOtaBar hop⟩

theorem Framebuffer.Sound.drawParts {fb : Framebuffer} (h : fb.Sound)
    {parts : List (Part × DrawOp)} (hparts : forall part, part ∈ parts -> part.2.EndsInBuffer) :
    (drawParts fb parts).Sound := by
  induction parts generalizing fb with
  | nil =>
      exact h
  | cons part parts ih =>
      apply ih
      · exact h.draw (hparts part List.mem_cons_self)
      · intro later hlater
        exact hparts later (List.mem_cons_of_mem part hlater)

/-!
# Steps of the task
-/

theorem endsInBuffer_wifiParts (bits : Firmware.EventGroup) :
    forall part, part ∈ wifiParts bits -> part.2.EndsInBuffer := by
  unfold wifiParts
  split
  · simp [wifiIcon, DrawOp.EndsInBuffer]
  · simp

theorem endsInBuffer_mqttIcon (bits : Firmware.EventGroup) : (mqttIcon bits).EndsInBuffer := by
  unfold mqttIcon
  split
  · trivial
  · trivial

theorem endsInBuffer_timeParts (bits : Firmware.EventGroup) (timeinfo : Tm) :
    forall part, part ∈ (Part.mqttIcon, mqttIcon bits) :: writeTime timeinfo ->
      part.2.EndsInBuffer := by
  intro part hmem
  rcases List.mem_cons.mp hmem with rfl | htime
  · exact endsInBuffer_mqttIcon bits
  · unfold writeTime at htime
    split at htime
    · rw [List.mem_singleton.mp htime]
      trivial
    · cases htime

theorem sound_oledInit {s : OledTask} (h : s.framebuffer.Sound) :
    (oledInit s).framebuffer.Sound :=
  h.clearBuffer

/-- The percent that a step draws its bar for. -/
def OledTask.levelDrawn (s : OledTask) (source : OledSource) : UInt32 :=
  source.qOtaLevel.getD s.otaPercentUint

theorem sound_oledTask {s : OledTask} (h : s.framebuffer.Sound) {source : OledSource}
    (hlevel : s.point = .updating -> (s.levelDrawn source).toNat ≤ 119) :
    (oledTask s source).framebuffer.Sound := by
  cases hpoint : s.point with
  | drawingDistance =>
      simp only [oledTask, hpoint]
      exact h.clearBuffer.drawParts (by simp [versionPart, writeDistance, DrawOp.EndsInBuffer])
  | readingBits =>
      have hdrawn := h.drawParts (endsInBuffer_wifiParts source.eTasks)
      simp only [oledTask, hpoint]
      split
      · exact hdrawn.drawParts (by simp [otaTitle, DrawOp.EndsInBuffer])
      · exact hdrawn
  | updating =>
      have hle := hlevel hpoint
      rw [OledTask.levelDrawn] at hle
      simp only [oledTask, hpoint]
      exact h.drawParts (by simp [otaLevelParts, DrawOp.EndsInBuffer, hle])
  | readingTime =>
      simp only [oledTask, hpoint]
      exact h.drawParts (endsInBuffer_timeParts s.bits source.timeinfo)
  | drawingAngles =>
      simp only [oledTask, hpoint]
      exact h.drawParts (by simp [writeCord, DrawOp.EndsInBuffer])
  | transmitting =>
      simp only [oledTask, hpoint]
      exact h

/-- A step stays in the buffer unless it draws the bar of more than 119 percent. -/
theorem staysInBuffer_iff {s : OledTask} (h : s.framebuffer.Sound) {source : OledSource} :
    s.StaysInBuffer source <->
      (s.point = .updating -> (s.levelDrawn source).toNat ≤ 119) := by
  have hfresh := h.unwritten
  constructor
  · intro hin hpoint
    rcases hfresh with ⟨control, hsafe⟩
    have htext := hsafe.writeString (otaPercentBuf (s.levelDrawn source))
      (UInt32.ofNat (otaPercentBuf (s.levelDrawn source)).length) false false 110 7
    simp only [OledTask.StaysInBuffer, oledTask, hpoint] at hin
    exact htext.inBuffer_writeOtaBar_iff.mp hin
  · intro hlevel
    exact (@sound_oledTask { s with framebuffer := { s.framebuffer with written := [] } }
      hfresh source hlevel).inBuffer

end Oled
end CarCleaner
