import CarCleaner.Tasks.Parts

/-!
# Waiting for an address

`app_main` waits for an address in front of everything that moves, measures or draws.
Until the driver reports one, nothing changes but the progress of `app_main` and the logs
that are kept for later.
-/

namespace CarCleaner
namespace Tasks

open Foundation
open Firmware
open Wifi
open Distance
open Logs

/-- The start, with the progress of `app_main` and the logs of another state. -/
def stillAtStart (board : Board) (s : FirmwareState) : FirmwareState :=
  { FirmwareState.start board with pc := s.pc, logs := s.logs }

/-- `app_main` has not come past its wait, and no datagram has left the board. -/
structure Waits (board : Board) (s : FirmwareState) : Prop where
  still : s = stillAtStart board s
  pc_le : s.pc ≤ (appMain board.branches).idxOf .waitGotIp
  sent : s.logs.sent = []

def reportsAddress : FirmwareInput -> Bool
  | .logs (.wifi event _) => isGotIp event
  | _ => false

/-!
# What comes behind the wait
-/

theorem createTask_behind (branches : BootBranches) (task : TaskName) :
    (appMain branches).idxOf .waitGotIp < (appMain branches).idxOf (.createTask task) := by
  rcases branches with ⟨_ | _, _ | _⟩ <;> cases task <;> decide

theorem handler_behind (branches : BootBranches) :
    (appMain branches).idxOf .waitGotIp <
      (appMain branches).idxOf (.expose .mqttsHiveMQHandler) := by
  rcases branches with ⟨_ | _, _ | _⟩ <;> decide

theorem timeSync_behind (branches : BootBranches) :
    (appMain branches).idxOf .waitGotIp < (appMain branches).idxOf (.call "time_sync") := by
  rcases branches with ⟨_ | _, _ | _⟩ <;> decide

theorem oledInit_behind (branches : BootBranches) :
    (appMain branches).idxOf .waitGotIp < (appMain branches).idxOf (.call "oled_init") := by
  rcases branches with ⟨_ | _, _ | _⟩ <;> decide

theorem waitGotIp_mem (branches : BootBranches) : .waitGotIp ∈ appMain branches := by
  rcases branches with ⟨_ | _, _ | _⟩ <;> decide

namespace Waits

variable {board : Board} {s : FirmwareState}

theorem start (board : Board) : Waits board (.start board) where
  still := rfl
  pc_le := Nat.zero_le _
  sent := rfl

theorem not_done (h : Waits board s) {action : BootAction}
    (hbehind : (appMain board.branches).idxOf .waitGotIp <
      (appMain board.branches).idxOf action) :
    action ∉ s.boot.done board.branches := by
  intro hmem
  have hlt : (appMain board.branches).idxOf action < s.pc :=
    (mem_done_iff (List.mem_of_mem_take hmem)).mp hmem
  have hle := h.pc_le
  omega

theorem not_running (h : Waits board s) (task : TaskName) : ¬ s.Running board task :=
  h.not_done (createTask_behind board.branches task)

theorem not_gotIp (h : Waits board s) : EventBit.wifiBitGotIp ∉ s.eTasks := by
  rw [h.still]
  exact Finset.notMem_empty _

/-!
# Steps
-/

/-- The wait itself is the last action that is tried. -/
theorem bootStep_pc_le (h : Waits board s) :
    (bootStep board.branches s.boot .boot).pc ≤
      (Tasks.appMain board.branches).idxOf .waitGotIp := by
  have hle : s.boot.pc ≤ _ := h.pc_le
  rcases Nat.lt_or_eq_of_le hle with hlt | heq
  · simp only [bootStep]
    split
    · exact hle
    · split
      · exact hlt
      · exact hle
    · exact hlt
  · have hwait : (Tasks.appMain board.branches)[s.boot.pc]? = some .waitGotIp := by
      rw [heq]
      exact List.getElem?_idxOf (waitGotIp_mem board.branches)
    have hgot : s.boot.gotIp = false := decide_eq_false h.not_gotIp
    simp only [bootStep, hwait, hgot]
    exact hle

theorem not_at (h : Waits board s) {action : BootAction}
    (hbehind : (Tasks.appMain board.branches).idxOf .waitGotIp <
      (Tasks.appMain board.branches).idxOf action) :
    (Tasks.appMain board.branches)[s.pc]? ≠ some action := by
  intro hat
  have hle := h.pc_le
  have hmem : action ∈ (Tasks.appMain board.branches).take (s.pc + 1) := by
    rw [List.take_add_one, hat]
    exact List.mem_append_right _ (List.mem_singleton_self _)
  have hlt := (List.mem_take_iff_idxOf_lt (List.mem_of_mem_take hmem)).mp hmem
  omega

theorem appMain (h : Waits board s) : Waits board (s.appMainStep board) := by
  simp only [FirmwareState.appMainStep, if_neg (h.not_at (timeSync_behind board.branches)),
    if_neg (h.not_at (oledInit_behind board.branches))]
  refine ⟨?_, h.bootStep_pc_le, h.sent⟩
  have hstill := h.still
  rw [stillAtStart] at hstill ⊢
  rw [hstill]

theorem storeLogs (h : Waits board s) {logs : LogSystem} (hbits : logs.eTasks = s.eTasks)
    (hsent : logs.sent = s.logs.sent) : Waits board (s.storeLogs logs) := by
  refine ⟨?_, h.pc_le, hsent.trans h.sent⟩
  rw [FirmwareState.storeLogs, hbits, h.still]
  rfl

theorem step (h : Waits board s) {s' : FirmwareState} {i : FirmwareInput}
    (henabled : s.Enabled board i) (hacted : Acted board s i s')
    (hno : reportsAddress i = false) : Waits board s' := by
  cases hacted with
  | appMain => exact h.appMain
  | @logs input next hlogs hhandle =>
      cases input with
      | wifi event driver =>
          rcases bind_eq_ok hlogs with ⟨⟨eTasks, calls⟩, hdeliver, hpure⟩
          cases hpure
          rcases deliver_eTasks hdeliver with ⟨hgot, _⟩ | ⟨_, rfl⟩
          · rw [reportsAddress, (isGotIp_iff event).mpr hgot] at hno
            cases hno
          · exact h.storeLogs rfl rfl
      | log text stack =>
          cases hlogs
          refine h.storeLogs (eTasks_newHookPapertrailFunction _ _ _) ?_
          by_cases honline : s.logSystem.Online
          · rw [newHookPapertrailFunction_of_online honline]
            rfl
          · rw [newHookPapertrailFunction_of_not_online honline]
            rfl
      | sender socket => exact absurd henabled.2 (h.not_running _)
  | mqtt event => exact absurd henabled.2 (h.not_done (handler_behind board.branches))
  | servo _ => exact absurd henabled.2 (h.not_running _)
  | ota _ => exact absurd henabled.2 (h.not_running _)
  | oled => exact absurd henabled.2 (h.not_running _)
  | uart => exact absurd henabled.2 (h.not_running _)
  | sensor =>
      have hnone : uartStep board.answers s.uart .sensor = s.uart := by
        rw [h.still]
        rfl
      rw [hnone]
      exact h
  | motor _ => exact absurd henabled.2 (h.not_running _)
  | imu attempt => exact absurd henabled.2 (h.not_running _)
  | alarm => exact absurd henabled.2 (h.not_done (timeSync_behind board.branches))

end Waits

/-- Without an address nothing changes but the progress of the boot and the kept logs. -/
theorem waits_without_address {board : Board} {history : List FirmwareInput}
    {s : FirmwareState} (hs : firmwareAfter board history = .ok s)
    (hno : forall i, i ∈ history -> reportsAddress i = false) : Waits board s := by
  refine firmware_invariant
    (fun past s => (forall i, i ∈ past -> reportsAddress i = false) -> Waits board s) ?_ ?_ ?_ hs
    hno
  · intro _
    exact .start board
  · intro past i s _ _ ih hpast
    exact ih fun j hj => hpast j (List.mem_append_left _ hj)
  · intro past i s s' _ henabled hacted ih hpast
    have hwaits := ih fun j hj => hpast j (List.mem_append_left _ hj)
    exact hwaits.step henabled hacted (hpast i (by simp))

theorem quietRun_waits_without_address :
    exists s, firmwareAfter quietBoard (quietRun.filter fun i => ! reportsAddress i) = .ok s ∧
      Waits quietBoard s := by
  have hok : (firmwareAfter quietBoard
      (quietRun.filter fun i => ! reportsAddress i)).isOk = true := by
    decide +kernel
  rcases exists_ok_of_isOk hok with ⟨s, hs⟩
  refine ⟨s, hs, waits_without_address hs ?_⟩
  intro i hi
  have hkept := (List.mem_filter.mp hi).2
  rw [Bool.not_eq_true'] at hkept
  exact hkept

end Tasks
end CarCleaner
