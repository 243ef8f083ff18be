import CarCleaner.Ota.Accounts
import CarCleaner.Tasks.Parts

/-!
# Downloads of the whole firmware

A download begins only for a message that asked for it, and once the bit is set one does
begin, as long as the library ends the download that is running.
-/

namespace CarCleaner
namespace Tasks

open Foundation
open Firmware
open Mqtt
open Ota

/-- A message of the broker that asks for an update. -/
def asksForUpdate : FirmwareInput -> Bool
  | .mqtt event => requestsUpdate event
  | _ => false

theorem requests_otaInputs (s : FirmwareState) (i : FirmwareInput) :
    (otaInputs s i).countP OtaInput.isRequest ≤ if asksForUpdate i then 1 else 0 := by
  cases i with
  | mqtt event =>
      rw [otaInputs, asksForUpdate]
      split
      · exact le_rfl
      · exact le_rfl
  | ota answer => exact Nat.zero_le _
  | oled =>
      rw [otaInputs]
      split
      · exact Nat.zero_le _
      · exact Nat.zero_le _
      · exact Nat.zero_le _
  | _ => exact Nat.zero_le _

theorem begun_owed_le {board : Board} {history : List FirmwareInput}
    {o : OtaSystem} (ho : otaAfter ∅ (seenBy board otaInputs history) = .ok o) :
    begun o + owed o ≤ history.countP asksForUpdate := by
  refine (begun_le_requests ho).trans (countP_observations_le _ ?_ _ _)
  intro s i
  split
  · exact requests_otaInputs s i
  · exact Nat.zero_le _

/--
There are no more downloads than messages that ask for one, and a board that nobody asks
to update never leaves its wait for a request.
-/
theorem downloads_le_requests {board : Board} {history : List FirmwareInput}
    {s : FirmwareState} (hs : firmwareAfter board history = .ok s) :
    s.ota.trace.countP OtaEvent.isBegin ≤ history.countP asksForUpdate ∧
      (history.countP asksForUpdate = 0 -> s.ota.point = .waiting) := by
  rcases ota_run hs with ⟨o, ho, hsame, _⟩
  have hle := begun_owed_le ho
  have hbegun : begun o = s.ota.trace.countP OtaEvent.isBegin := by
    rw [hsame]
    rfl
  have hpoint : o.point = s.ota.point := by
    rw [hsame]
    rfl
  constructor
  · rw [<- hbegun]
    exact (Nat.le_add_right _ _).trans hle
  · intro hnone
    rw [<- hpoint]
    by_contra hwaiting
    by_cases hbeginning : o.point = .beginning
    · simp only [owed, hbeginning, if_true] at hle
      omega
    · have hpos := begunOnce_otaAfter ho hwaiting hbeginning
      omega

theorem quietRun_downloads_le_requests :
    exists s, firmwareAfter quietBoard quietRun = .ok s ∧
      s.ota.trace.countP OtaEvent.isBegin ≤ quietRun.countP asksForUpdate ∧
      (quietRun.countP asksForUpdate = 0 -> s.ota.point = .waiting) := by
  rcases quietRun_ok with ⟨s, hs, _⟩
  exact ⟨s, hs, downloads_le_requests hs⟩

/-!
# Requests are answered
-/

theorem SameOta.begun_eq {s : FirmwareState} {o : OtaSystem} (h : SameOta s o) :
    begun o = begun s.otaSystem ∧ owed o = owed s.otaSystem := by
  rcases h with ⟨hsame, hupdate, _⟩
  have hbit : (.mqttGotUpdate ∈ s.otaSystem.eTasks) = (.mqttGotUpdate ∈ o.eTasks) :=
    propext hupdate
  have hpoint : o.point = s.otaSystem.point := by
    rw [hsame]
    rfl
  constructor
  · rw [hsame]
    rfl
  · simp only [owed, hbit, hpoint]

/--
What is owed to the requests has been answered, or the board has restarted, after six steps
of `ota_task` and two more for each time that the library goes on with a download.
-/
theorem requests_answered {board : Board} {past later : List FirmwareInput}
    {s s' : FirmwareState} {seen : List OtaInput} (hs : firmwareAfter board past = .ok s)
    (hs' : firmwareAfter board (past ++ later) = .ok s')
    (hseen : seenBy board otaInputs (past ++ later) = seenBy board otaInputs past ++ seen)
    (henough : 6 + 2 * seen.countP OtaInput.goesOn ≤ seen.countP OtaInput.isStep) :
    s'.ota.point = .restarted ∨
      begun s.otaSystem + owed s.otaSystem ≤ begun s'.otaSystem := by
  rcases ota_run hs with ⟨o, ho, hsame⟩
  rcases ota_run hs' with ⟨o', ho', hsame'⟩
  rw [hseen, otaAfter, outcomeAfter_append ho] at ho'
  have hpoint : o'.point = s'.ota.point := by
    rw [hsame'.1]
    rfl
  have hanswered := owed_answered ho' henough
  rw [Answered, hpoint, hsame.begun_eq.1, hsame.begun_eq.2, hsame'.begun_eq.1] at hanswered
  exact hanswered

/-- Another message asks for an update while one is running. -/
def askedAgain : List FirmwareInput :=
  quietRun ++ [.mqtt (.data (literal "car/ota") (literal "true"))]

theorem requests_answered_askedAgain :
    exists s s', firmwareAfter quietBoard askedAgain = .ok s ∧
      firmwareAfter quietBoard
        (askedAgain ++ List.replicate 6 (.ota ⟨.other 1, 0, 0, 0⟩)) = .ok s' ∧
      (s'.ota.point = .restarted ∨
        begun s.otaSystem + owed s.otaSystem ≤ begun s'.otaSystem) := by
  have hfailed : exists s', firmwareAfter quietBoard
      (askedAgain ++ List.replicate 6 (.ota ⟨.other 1, 0, 0, 0⟩)) = .ok s' :=
    exists_ok_of_isOk (by decide +kernel)
  have hseen : seenBy quietBoard otaInputs
      (askedAgain ++ List.replicate 6 (.ota ⟨.other 1, 0, 0, 0⟩)) =
        seenBy quietBoard otaInputs askedAgain ++
          List.replicate 6 (.ota ⟨.other 1, 0, 0, 0⟩) := by
    decide +kernel
  rcases hfailed with ⟨s', hs'⟩
  rcases outcomeAfter_ok_of_past (List.prefix_append _ _) hs' with ⟨s, hs⟩
  exact ⟨s, s', hs, hs', requests_answered hs hs' hseen (by decide)⟩

end Tasks
end CarCleaner
