import CarCleaner.Tasks.Parts

/-!
# What drives the car

The motors look at the distances and at their own clock, and they start behind the boot,
which waits for an address.  Messages of the broker, the angles, the display, the logs and
the clock can be deleted from a run without any effect on the motors, as long as no
update restarts the board.
-/

namespace CarCleaner
namespace Tasks

open Foundation
open Firmware
open Wifi
open Motors
open Distance
open Ota
open Logs

/-- The steps that have a say in how the car drives. -/
def drives : FirmwareInput -> Bool
  | .appMain => true
  | .logs (.wifi _ _) => true
  | .uart => true
  | .sensor => true
  | .motor _ => true
  | _ => false

/-- The distances without those for the display. -/
def withoutDisplay (u : UartSystem) : UartSystem :=
  { u with qDistance := .empty }

/-- States that the motors cannot tell apart, now or later. -/
structure SameDrive (s t : FirmwareState) : Prop where
  running : t.ota.point ≠ .restarted
  pc : t.pc = s.pc
  gotIp : EventBit.wifiBitGotIp ∈ s.eTasks <-> EventBit.wifiBitGotIp ∈ t.eTasks
  uart : withoutDisplay t.uart = withoutDisplay s.uart
  motors : t.motors = s.motors

/-!
# Hidden steps
-/

theorem withoutDisplay_oledStep (board : Board) (s : FirmwareState) :
    withoutDisplay (s.oledStep board).uart = withoutDisplay s.uart := by
  unfold FirmwareState.oledStep
  cases s.oled.point with
  | _ => rfl

theorem SameDrive.hidden {board : Board} {s t s' : FirmwareState} {i : FirmwareInput}
    (h : SameDrive s t) (hacted : Acted board s i s') (hi : drives i = false) :
    SameDrive s' t := by
  have hpc : writesPart i .pc = false ∧ writesPart i .motors = false ∧
      writesBit i .wifiBitGotIp = false := by
    cases i with
    | logs input =>
        cases input with
        | wifi event driver => cases hi
        | log text stack => exact ⟨rfl, rfl, rfl⟩
        | sender socket => exact ⟨rfl, rfl, rfl⟩
    | appMain => cases hi
    | motor clock => cases hi
    | _ => exact ⟨rfl, rfl, rfl⟩
  have huart : withoutDisplay s'.uart = withoutDisplay s.uart := by
    by_cases holed : i = .oled
    · subst holed
      cases hacted
      exact withoutDisplay_oledStep board s
    · have hwrites : writesPart i .uart = false := by
        cases i with
        | oled => exact absurd rfl holed
        | uart => cases hi
        | sensor => cases hi
        | motor clock => cases hi
        | _ => rfl
      have hsame : s'.uart = s.uart := samePart_of_acted .uart hacted hwrites
      rw [hsame]
  constructor
  · exact h.running
  · exact h.pc.trans (samePart_of_acted .pc hacted hpc.1).symm
  · rw [mem_eTasks_of_acted hacted hpc.2.2]
    exact h.gotIp
  · rw [huart]
    exact h.uart
  · exact h.motors.trans (samePart_of_acted .motors hacted hpc.2.1).symm

/-!
# Driving steps
-/

/-- Whether a driving step may happen depends on the boot alone. -/
theorem SameDrive.enabled_iff {board : Board} {s t : FirmwareState} {i : FirmwareInput}
    (h : SameDrive s t) (hrunning : s.ota.point ≠ .restarted) (hi : drives i = true) :
    s.Enabled board i <-> t.Enabled board i := by
  have hdone : t.boot.done board.branches = s.boot.done board.branches :=
    congrArg (List.take · _) h.pc
  cases i with
  | appMain => exact iff_of_true ⟨hrunning, trivial⟩ ⟨h.running, trivial⟩
  | sensor => exact iff_of_true ⟨hrunning, trivial⟩ ⟨h.running, trivial⟩
  | logs input =>
      cases input with
      | wifi event driver =>
          simp only [FirmwareState.Enabled, BootState.Exposed, hdone]
          exact and_congr_left' (iff_of_true hrunning h.running)
      | log text stack => cases hi
      | sender socket => cases hi
  | uart =>
      simp only [FirmwareState.Enabled, FirmwareState.Running, hdone]
      exact and_congr_left' (iff_of_true hrunning h.running)
  | motor clock =>
      simp only [FirmwareState.Enabled, FirmwareState.Running, hdone]
      exact and_congr_left' (iff_of_true hrunning h.running)
  | _ => cases hi

/-- The queue of the display has no influence on the others. -/
theorem withoutDisplay_uartStep (answers : Nat -> Answer) (u : UartSystem) (i : UartInput) :
    withoutDisplay (uartStep answers u i) =
      withoutDisplay (uartStep answers (withoutDisplay u) i) := by
  rcases u with ⟨point, rxBuf, mm, qPid, q, received, requests, arrived, flushedAt, puts⟩
  cases i with
  | task =>
      cases point with
      | flushing => rfl
      | requesting => rfl
      | reading =>
          match received with
          | [] => rfl
          | [byte] => rfl
          | high :: low :: rest => rfl
  | sensor =>
      by_cases howed : arrived < 2 * requests
      · have hsend : forall q,
            sensorSends answers
                ⟨point, rxBuf, mm, qPid, q, received, requests, arrived, flushedAt, puts⟩ =
              ⟨point, rxBuf, mm, qPid, q, received ++ [sensorByte answers arrived], requests,
                arrived + 1, flushedAt, puts⟩ :=
          fun _ => if_pos howed
        simp only [Distance.uartStep, withoutDisplay, hsend]
      · have hsend : forall q,
            sensorSends answers
                ⟨point, rxBuf, mm, qPid, q, received, requests, arrived, flushedAt, puts⟩ =
              ⟨point, rxBuf, mm, qPid, q, received, requests, arrived, flushedAt, puts⟩ :=
          fun _ => if_neg howed
        simp only [Distance.uartStep, withoutDisplay, hsend]
  | motorReceives => rfl
  | oledReceives => rfl

theorem SameDrive.uartStep {s t : FirmwareState} (h : SameDrive s t)
    (answers : Nat -> Answer) (i : UartInput) :
    withoutDisplay (uartStep answers t.uart i) =
      withoutDisplay (uartStep answers s.uart i) := by
  rw [withoutDisplay_uartStep, h.uart, <- withoutDisplay_uartStep]

theorem SameDrive.appMain {board : Board} {s t : FirmwareState} (h : SameDrive s t) :
    SameDrive (s.appMainStep board) (t.appMainStep board) := by
  have hgot : t.boot.gotIp = s.boot.gotIp := decide_eq_decide.mpr h.gotIp.symm
  have hpc : (bootStep board.branches t.boot .boot).pc =
      (bootStep board.branches s.boot .boot).pc := by
    have hboot : t.boot.pc = s.boot.pc := h.pc
    simp only [bootStep, hboot, hgot]
    split
    · exact hboot
    · split
      · rfl
      · exact hboot
    · rfl
  simp only [FirmwareState.appMainStep, hpc, h.pc]
  split
  · exact ⟨h.running, rfl,
      (mem_setBit_of_ne (by decide) _).trans (h.gotIp.trans (mem_setBit_of_ne (by decide) _).symm),
      h.uart, h.motors⟩
  · split
    · exact ⟨h.running, rfl, h.gotIp, h.uart, h.motors⟩
    · exact ⟨h.running, rfl, h.gotIp, h.uart, h.motors⟩

theorem SameDrive.visible {board : Board} {s t s' : FirmwareState} {i : FirmwareInput}
    (h : SameDrive s t) (hacted : Acted board s i s') (hi : drives i = true) :
    exists t', t.act board i = .ok t' ∧ SameDrive s' t' := by
  cases hacted with
  | appMain => exact ⟨_, rfl, h.appMain⟩
  | @logs input next hlogs hhandle =>
      cases input with
      | wifi event driver =>
          rcases bind_eq_ok hlogs with ⟨⟨eTasks, calls⟩, hdeliver, hpure⟩
          cases hpure
          rcases deliver_ok_of_ok hdeliver t.eTasks with ⟨other, hother⟩
          refine ⟨t.storeLogs { t.logSystem with eTasks := other }, ?_, ?_⟩
          · have hstep : logStep t.logSystem (.wifi event driver) =
                .ok { t.logSystem with eTasks := other } := by
              change (deliver driver t.eTasks event >>= _) = _
              rw [hother]
              rfl
            rw [FirmwareState.act, if_neg (fun hlog => Bool.false_ne_true hlog.1), hstep]
            rfl
          · constructor
            · exact h.running
            · exact h.pc
            · exact (mem_deliver_iff hdeliver).trans
                ((or_congr_right h.gotIp).trans (mem_deliver_iff hother).symm)
            · exact h.uart
            · exact h.motors
      | log text stack => cases hi
      | sender socket => cases hi
  | uart =>
      exact ⟨_, rfl, h.running, h.pc, h.gotIp, h.uartStep _ _, h.motors⟩
  | sensor =>
      exact ⟨_, rfl, h.running, h.pc, h.gotIp, h.uartStep _ _, h.motors⟩
  | @motor clock next hnext =>
      have hqueue : (withoutDisplay t.uart).qDistancePid = (withoutDisplay s.uart).qDistancePid :=
        congrArg UartSystem.qDistancePid h.uart
      change t.uart.qDistancePid = s.uart.qDistancePid at hqueue
      have hinput : t.motorInput clock = s.motorInput clock := by
        rw [FirmwareState.motorInput, hqueue, FirmwareState.motorInput]
      have hnext' : motorLoop t.motors (t.motorInput clock) = .ok next := by
        rw [h.motors, hinput]
        exact hnext
      have hact : t.act board (.motor clock) =
          .ok
            { t with
              motors := next.1
              uart := Distance.uartStep board.answers t.uart .motorReceives } := by
        simp only [FirmwareState.act, hnext']
        rfl
      exact ⟨_, hact, h.running, h.pc, h.gotIp, h.uartStep _ _, rfl⟩
  | _ => cases hi

/-!
# Runs
-/

/-- What is left of a run that has no restart behind it. -/
def driveInputs (s : FirmwareState) (i : FirmwareInput) : List FirmwareInput :=
  if s.ota.point = .restarted then [] else if drives i then [i] else []

theorem drive_contained (board : Board) :
    Contains (firmwareStep board) (firmwareStep board) driveInputs SameDrive := by
  intro s t i s' h hstep
  unfold driveInputs
  by_cases hrestarted : s.ota.point = .restarted
  · rw [if_pos hrestarted]
    rw [firmwareStep, if_neg fun henabled => henabled.1 hrestarted] at hstep
    cases hstep
    exact ⟨t, rfl, h⟩
  · rw [if_neg hrestarted]
    unfold firmwareStep at hstep
    cases hi : drives i with
    | true =>
        rw [if_pos rfl, outcomeAfter_singleton, firmwareStep]
        by_cases henabled : s.Enabled board i
        · rw [if_pos henabled] at hstep
          rw [if_pos ((h.enabled_iff hrestarted hi).mp henabled)]
          exact h.visible (acted_of_act hstep) hi
        · rw [if_neg henabled] at hstep
          rw [if_neg fun h' => henabled ((h.enabled_iff hrestarted hi).mpr h')]
          cases hstep
          exact ⟨t, rfl, h⟩
    | false =>
        rw [if_neg Bool.false_ne_true]
        refine ⟨t, rfl, ?_⟩
        by_cases henabled : s.Enabled board i
        · rw [if_pos henabled] at hstep
          exact h.hidden (acted_of_act hstep) hi
        · rw [if_neg henabled] at hstep
          cases hstep
          exact h

/-- Nothing happens behind a restart. -/
theorem firmwareStep_of_restarted (board : Board) {s : FirmwareState}
    (h : s.ota.point = .restarted) (i : FirmwareInput) : firmwareStep board s i = .ok s :=
  if_neg fun henabled => henabled.1 h

theorem observations_drive {board : Board} {history : List FirmwareInput}
    {s : FirmwareState} (hs : firmwareAfter board history = .ok s)
    (hrunning : s.ota.point ≠ .restarted) :
    observations (firmwareStep board) driveInputs (.start board) history =
      history.filter drives := by
  induction history using List.reverseRecOn generalizing s with
  | nil => rfl
  | append_singleton past i ih =>
      rcases outcomeAfter_snoc_ok hs with ⟨mid, hmid, hstep⟩
      have hrunning' : mid.ota.point ≠ .restarted := by
        intro hrestarted
        rw [firmwareStep_of_restarted board hrestarted] at hstep
        cases hstep
        exact hrunning hrestarted
      rw [observations_snoc i _ hmid, ih hmid hrunning', List.filter_append,
        List.filter_singleton, driveInputs, if_neg hrunning']
      cases drives i with
      | true => rfl
      | false => rfl

/-- The other steps can be deleted from a run without any effect on the motors. -/
theorem motors_depend_on_drives {board : Board} {history : List FirmwareInput}
    {s : FirmwareState} (hs : firmwareAfter board history = .ok s)
    (hrunning : s.ota.point ≠ .restarted) :
    exists t, firmwareAfter board (history.filter drives) = .ok t ∧
      t.motors = s.motors ∧ withoutDisplay t.uart = withoutDisplay s.uart := by
  have hstart : SameDrive (.start board) (.start board) :=
    ⟨nofun, rfl, Iff.rfl, rfl, rfl⟩
  rcases (drive_contained board).run hstart hs with ⟨t, ht, hsame⟩
  rw [observations_drive hs hrunning] at ht
  exact ⟨t, ht, hsame.motors, hsame.uart⟩

theorem quietRun_motors_depend_on_drives :
    exists s t, firmwareAfter quietBoard quietRun = .ok s ∧ s.ota.point ≠ .restarted ∧
      firmwareAfter quietBoard (quietRun.filter drives) = .ok t ∧ t.motors = s.motors ∧
      withoutDisplay t.uart = withoutDisplay s.uart := by
  rcases quietRun_ok with ⟨s, hs, hrunning, _⟩
  rcases motors_depend_on_drives hs hrunning with ⟨t, ht, hmotors, huart⟩
  exact ⟨s, t, hs, hrunning, ht, hmotors, huart⟩

end Tasks
end CarCleaner
