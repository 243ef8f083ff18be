import CarCleaner.Tasks.Parts.Boot

/-!
# The display inside the firmware

`oled_init` clears the screen towards the end of the boot, and the task that draws on it is
created behind it.
-/

namespace CarCleaner
namespace Tasks

open Foundation
open Firmware
open Oled

def oledInputs (s : FirmwareState) : FirmwareInput -> List OledSource
  | .oled => [s.oledSource]
  | _ => []

/-- `oled_init` has returned. -/
def OledReady (board : Board) (s : FirmwareState) : Prop :=
  .call "oled_init" ∈ s.boot.done board.branches

instance (board : Board) (s : FirmwareState) : Decidable (OledReady board s) :=
  inferInstanceAs (Decidable (_ ∈ _))

/-- Behind `oled_init` the display is that of its own model, and before it nothing is sent. -/
inductive SameOled (board : Board) (s : FirmwareState) (o : OledTask) : Prop where
  | before (hready : ¬ OledReady board s) (holed : s.oled = .beforeInit) (hboot : o = .boot)
  | behind (hready : OledReady board s) (holed : s.oled = o)

theorem oledInit_once (branches : BootBranches) :
    (appMain branches).count (.call "oled_init") = 1 := by
  rcases branches with ⟨_ | _, _ | _⟩ <;> decide

section

variable {board : Board} {s s' : FirmwareState} {i : FirmwareInput}

theorem oledReady_of_oledTask (h : s.Running board .oledTask) : OledReady board s := by
  refine mem_done_of_before ?_ ?_ h
  · exact List.count_pos_iff.mp (oledInit_once board.branches).symm.le
  · rcases board.branches with ⟨_ | _, _ | _⟩ <;> decide

theorem oledReady_appMainStep_iff :
    OledReady board (s.appMainStep board) <->
      OledReady board s ∨ (appMain board.branches)[s.pc]? = some (.call "oled_init") :=
  mem_done_appMainStep_iff (by decide)

theorem oledReady_iff_of_pc (hpc : s'.pc = s.pc) : OledReady board s' <-> OledReady board s := by
  rw [OledReady, OledReady, done_eq_of_pc hpc]

theorem oled_oledStep (board : Board) (s : FirmwareState) :
    (s.oledStep board).oled = oledTask s.oled s.oledSource := by
  unfold FirmwareState.oledStep
  cases s.oled.point with
  | _ => rfl

theorem oled_appMainStep_of_at
    (h : (appMain board.branches)[s.pc]? = some (.call "oled_init")) :
    (s.appMainStep board).oled = oledInit s.oled := by
  simp only [FirmwareState.appMainStep, h]
  rfl

theorem oled_appMainStep_of_not_at
    (h : (appMain board.branches)[s.pc]? ≠ some (.call "oled_init")) :
    (s.appMainStep board).oled = s.oled := by
  simp only [FirmwareState.appMainStep, if_neg h]
  split
  · rfl
  · rfl

/-!
# Steps
-/

theorem SameOled.appMain {o : OledTask} (h : SameOled board s o) :
    SameOled board (s.appMainStep board) o := by
  by_cases hat : (Tasks.appMain board.branches)[s.pc]? = some (.call "oled_init")
  · have hnot : ¬ OledReady board s := not_mem_done_of_at (oledInit_once board.branches) hat
    cases h with
    | before _ holed hboot =>
        refine .behind (oledReady_appMainStep_iff.mpr (Or.inr hat)) ?_
        rw [oled_appMainStep_of_at hat, holed, hboot, oledInit_beforeInit]
    | behind hready _ => exact absurd hready hnot
  · have hready : OledReady board (s.appMainStep board) <-> OledReady board s := by
      rw [oledReady_appMainStep_iff, or_iff_left hat]
    have hsame := oled_appMainStep_of_not_at hat
    cases h with
    | before hnot holed hboot =>
        exact .before (fun h => hnot (hready.mp h)) (hsame.trans holed) hboot
    | behind hdone holed => exact .behind (hready.mpr hdone) (hsame.trans holed)

theorem SameOled.of_untouched {o : OledTask} (h : SameOled board s o)
    (hacted : Acted board s i s') (hpc : writesPart i .pc = false)
    (holed : writesPart i .oled = false) : SameOled board s' o := by
  have hready := @oledReady_iff_of_pc board s s' (samePart_of_acted .pc hacted hpc)
  have hsame : s'.oled = s.oled := samePart_of_acted .oled hacted holed
  cases h with
  | before hnot holed hboot =>
      exact .before (fun h => hnot (hready.mp h)) (hsame.trans holed) hboot
  | behind hdone holed => exact .behind (hready.mpr hdone) (hsame.trans holed)

theorem SameOled.oled {o : OledTask} (h : SameOled board s o)
    (hrunning : s.Running board .oledTask) (hacted : Acted board s .oled s') :
    SameOled board s' (oledTask o s.oledSource) := by
  have hready := oledReady_of_oledTask hrunning
  have hready' := @oledReady_iff_of_pc board s s' (samePart_of_acted .pc hacted rfl)
  cases hacted
  cases h with
  | before hnot _ _ => exact absurd hready hnot
  | behind _ holed =>
      refine .behind (hready'.mpr hready) ?_
      rw [oled_oledStep, holed]

end

theorem sameOled_of_run {board : Board} {history : List FirmwareInput} {s : FirmwareState}
    (hs : firmwareAfter board history = .ok s) :
    SameOled board s (oledAfter (seenBy board oledInputs history)) := by
  refine firmware_invariant
    (fun past s => SameOled board s (oledAfter (seenBy board oledInputs past))) ?_ ?_ ?_ hs
  · exact .before List.not_mem_nil rfl rfl
  · intro past i s hpast hidle hsame
    rw [seenBy_idle oledInputs hpast hidle]
    exact hsame
  · intro past i s s' hpast henabled hacted hsame
    rw [seenBy_enabled oledInputs hpast henabled]
    cases i with
    | oled =>
        rw [oledInputs, oledAfter, stateAfter_snoc]
        exact hsame.oled henabled.2 hacted
    | appMain =>
        rw [oledInputs, List.append_nil]
        · cases hacted
          exact hsame.appMain
        · exact fun h => by cases h
    | _ =>
        rw [oledInputs, List.append_nil]
        · exact hsame.of_untouched hacted rfl rfl
        · exact fun h => by cases h

theorem oled_run {board : Board} {history : List FirmwareInput} {s : FirmwareState}
    (hs : firmwareAfter board history = .ok s) :
    s.oled =
      if OledReady board s then oledAfter (seenBy board oledInputs history)
      else .beforeInit := by
  cases sameOled_of_run hs with
  | before hnot holed _ => rw [if_neg hnot, holed]
  | behind hready holed => rw [if_pos hready, holed]

end Tasks
end CarCleaner
