import CarCleaner.Tasks.Faults
import CarCleaner.Tasks.Screen

/-!
# When the measured values arrive

A value that a queue has accepted does not wait for ever.  The controller asks its queue in
every iteration, and the display asks its queues once in a frame, which takes six steps at
most.  Whoever asks as often as the queue has room has taken everything that was waiting.
-/

namespace CarCleaner
namespace Tasks

open Foundation
open Firmware
open Motors
open Oled

variable {board : Board} {elem : Type} {capacity : Nat}

/-!
# Receivers that ask often enough
-/

/-- The steps of a run that ask the queue for an element. -/
def Channel.asked (c : Channel board elem capacity) (s : FirmwareState) (i : FirmwareInput) :
    List FirmwareInput :=
  if c.asks s i then [i] else []

/-- All that waits is taken by as many attempts to receive, in the order of the queue. -/
theorem Channel.served (c : Channel board elem capacity) {past later : List FirmwareInput}
    {s s' : FirmwareState} (hs : firmwareAfter board past = .ok s)
    (hs' : firmwareAfter board (past ++ later) = .ok s')
    (henough : (seenBy board c.asked past).length + (c.queue s).items.length ≤
      (seenBy board c.asked (past ++ later)).length) :
    seenBy board c.takes past ++ (c.queue s).items <+: seenBy board c.takes (past ++ later) := by
  have hserves : exists n,
      (seenBy board c.asked (past ++ later)).length = (seenBy board c.asked past).length + n ∧
        Serves (seenBy board c.takes past ++ (c.queue s).items)
          ((seenBy board c.takes past).length + n) (seenBy board c.takes (past ++ later))
          (c.queue s') := by
    refine firmware_invariant_from hs (fun later s' => exists n,
      (seenBy board c.asked (past ++ later)).length = (seenBy board c.asked past).length + n ∧
        Serves (seenBy board c.takes past ++ (c.queue s).items)
          ((seenBy board c.takes past).length + n) (seenBy board c.takes (past ++ later))
          (c.queue s')) ?_ ?_ ?_ hs'
    · refine ⟨0, ?_, ?_⟩
      · rw [List.append_nil, Nat.add_zero]
      · rw [List.append_nil, Nat.add_zero]
        exact serves_start _ _
    · intro later i t ht hidle hinv
      rw [<- List.append_assoc, seenBy_idle _ ht hidle, seenBy_idle _ ht hidle]
      exact hinv
    · intro later i t t' ht henabled hacted hinv
      rcases hinv with ⟨n, hasked, hserves⟩
      refine ⟨n + (c.asks t i).toNat, ?_, ?_⟩
      · rw [<- List.append_assoc, seenBy_enabled _ ht henabled, List.length_append, hasked,
          Channel.asked, Nat.add_assoc]
        cases c.asks t i with
        | true => rfl
        | false => rfl
      · rw [<- List.append_assoc, seenBy_enabled _ ht henabled, <- Nat.add_assoc]
        exact hserves.step (c.step hacted)
  rcases hserves with ⟨n, hasked, hserves⟩
  apply hserves.prefix_taken
  rw [List.length_append]
  omega

/-!
# The frames of the display
-/

/-- The place of a point in a frame. -/
def placeOf : OledPoint -> Nat
  | .drawingDistance => 0
  | .readingBits => 1
  | .updating => 2
  | .readingTime => 3
  | .drawingAngles => 4
  | .transmitting => 5

/-- The task takes at most so many steps to `target`. -/
def stepsUntil (target point : OledPoint) : Nat :=
  (placeOf target + 6 - placeOf point) % 6

theorem stepsUntil_le (target point : OledPoint) : stepsUntil target point ≤ 5 :=
  Nat.le_of_lt_succ (Nat.mod_lt _ (by decide))

def nextPoint (inProgress : Bool) : OledPoint -> OledPoint
  | .drawingDistance => .readingBits
  | .readingBits => if inProgress then .updating else .readingTime
  | .updating => .readingTime
  | .readingTime => .drawingAngles
  | .drawingAngles => .transmitting
  | .transmitting => .drawingDistance

theorem point_oledTask (d : OledTask) (source : OledSource) :
    (oledTask d source).point =
      nextPoint (decide (.otaBitInProgress ∈ source.eTasks)) d.point := by
  cases hpoint : d.point with
  | readingBits =>
      by_cases hbit : .otaBitInProgress ∈ source.eTasks
      · simp [oledTask, nextPoint, hpoint, hbit]
      · simp [oledTask, nextPoint, hpoint, hbit]
  | _ =>
      simp only [oledTask, hpoint]
      rfl

/-- Of the points, only `updating` is left out of some frames. -/
theorem stepsUntil_nextPoint {target : OledPoint} (htarget : target ≠ .updating)
    (inProgress : Bool) (point : OledPoint) :
    stepsUntil target (nextPoint inProgress point) + 1 ≤
      stepsUntil target point + if point = target then 6 else 0 := by
  cases target with
  | updating => exact absurd rfl htarget
  | _ => cases inProgress <;> cases point <;> decide

/-- The steps of the display task that begin at the point. -/
def displayAt (target : OledPoint) (s : FirmwareState) : FirmwareInput -> List FirmwareInput
  | .oled => if s.oled.point = target then [.oled] else []
  | _ => []

theorem point_appMainStep (board : Board) (s : FirmwareState) :
    (s.appMainStep board).oled.point = s.oled.point := by
  by_cases hat : (appMain board.branches)[s.pc]? = some (.call "oled_init")
  · rw [oled_appMainStep_of_at hat]
    rfl
  · rw [oled_appMainStep_of_not_at hat]

/-- Of six steps in a row one begins at the point. -/
theorem displayAt_often (target : OledPoint) (htarget : target ≠ .updating)
    {past later : List FirmwareInput} {s s' : FirmwareState}
    (hs : firmwareAfter board past = .ok s)
    (hs' : firmwareAfter board (past ++ later) = .ok s') :
    (seenBy board oledInputs (past ++ later)).length +
        6 * (seenBy board (displayAt target) past).length + stepsUntil target s'.oled.point ≤
      (seenBy board oledInputs past).length +
        6 * (seenBy board (displayAt target) (past ++ later)).length +
        stepsUntil target s.oled.point := by
  refine firmware_invariant_from hs (fun later s' =>
    (seenBy board oledInputs (past ++ later)).length +
        6 * (seenBy board (displayAt target) past).length + stepsUntil target s'.oled.point ≤
      (seenBy board oledInputs past).length +
        6 * (seenBy board (displayAt target) (past ++ later)).length +
        stepsUntil target s.oled.point) ?_ ?_ ?_ hs'
  · rw [List.append_nil]
  · intro later i t ht hidle hinv
    rw [<- List.append_assoc, seenBy_idle _ ht hidle, seenBy_idle _ ht hidle]
    exact hinv
  · intro later i t t' ht henabled hacted hinv
    rw [<- List.append_assoc, seenBy_enabled _ ht henabled, seenBy_enabled _ ht henabled,
      List.length_append, List.length_append]
    cases i with
    | oled =>
        cases hacted
        have hstep := stepsUntil_nextPoint htarget
          (decide (.otaBitInProgress ∈ t.oledSource.eTasks)) t.oled.point
        rw [<- point_oledTask, <- oled_oledStep board] at hstep
        rw [oledInputs, displayAt, List.length_singleton]
        split at hstep
        · next hat =>
            rw [if_pos hat, List.length_singleton]
            omega
        · next hat =>
            rw [if_neg hat, List.length_nil]
            omega
    | appMain =>
        cases hacted
        rw [point_appMainStep]
        exact hinv
    | _ =>
        have hsame : t'.oled = t.oled := samePart_of_acted .oled hacted rfl
        rw [hsame]
        exact hinv

/-!
# Within a bounded number of steps
-/

theorem length_asked_qDistancePid (board : Board) (history : List FirmwareInput) :
    (seenBy board (qDistancePidChannel board).asked history).length =
      (seenBy board motorInputs history).length := by
  refine length_observations_congr _ ?_ _ history
  intro s i
  split
  · cases i with
    | _ => rfl
  · rfl

theorem asked_qDistance (board : Board) :
    (qDistanceChannel board).asked = displayAt .drawingDistance := by
  funext s i
  cases i with
  | oled => simp [Channel.asked, qDistanceChannel, displayAt]
  | _ => rfl

theorem asked_qAngle (board : Board) :
    (qAngleChannel board).asked = displayAt .drawingAngles := by
  funext s i
  cases i with
  | oled => simp [Channel.asked, qAngleChannel, displayAt]
  | _ => rfl

/--
The values that wait in a queue are taken, in their order and in front of all later ones,
within ten iterations of `motor_task`, and within 65 or 35 steps of `oled_task`.
-/
theorem accepted_values_taken {past later : List FirmwareInput} {s s' : FirmwareState}
    (hs : firmwareAfter board past = .ok s)
    (hs' : firmwareAfter board (past ++ later) = .ok s') :
    ((seenBy board motorInputs past).length + 10 ≤
          (seenBy board motorInputs (past ++ later)).length ->
        seenBy board controllerTakes past ++ s.uart.qDistancePid.items <+:
          seenBy board controllerTakes (past ++ later)) ∧
      ((seenBy board oledInputs past).length + 65 ≤
          (seenBy board oledInputs (past ++ later)).length ->
        seenBy board displayTakesDistance past ++ s.uart.qDistance.items <+:
          seenBy board displayTakesDistance (past ++ later)) ∧
      ((seenBy board oledInputs past).length + 35 ≤
          (seenBy board oledInputs (past ++ later)).length ->
        seenBy board displayTakesAngles past ++ s.qAngle.items <+:
          seenBy board displayTakesAngles (past ++ later)) := by
  refine ⟨fun henough => ?_, fun henough => ?_, fun henough => ?_⟩
  · apply (qDistancePidChannel board).served hs hs'
    rw [length_asked_qDistancePid, length_asked_qDistancePid]
    exact (Nat.add_le_add_left s.uart.qDistancePid.length_le _).trans henough
  · apply (qDistanceChannel board).served hs hs'
    have hoften := displayAt_often .drawingDistance nofun hs hs'
    have hwait := stepsUntil_le .drawingDistance s.oled.point
    have hroom : ((qDistanceChannel board).queue s).items.length ≤ 10 :=
      s.uart.qDistance.length_le
    rw [asked_qDistance]
    omega
  · apply (qAngleChannel board).served hs hs'
    have hoften := displayAt_often .drawingAngles nofun hs hs'
    have hwait := stepsUntil_le .drawingAngles s.oled.point
    have hroom : ((qAngleChannel board).queue s).items.length ≤ 5 := s.qAngle.length_le
    rw [asked_qAngle]
    omega

/-!
# Receivers alone
-/

def receives : FirmwareInput -> Bool
  | .oled => true
  | .motor _ => true
  | _ => false

theorem enabled_of_receives {s : FirmwareState} {i : FirmwareInput} (hbooted : s.Booted board)
    (hrunning : s.ota.point ≠ .restarted) (hi : receives i = true) : s.Enabled board i := by
  cases i with
  | oled => exact ⟨hrunning, hbooted.running .oledTask⟩
  | motor clock => exact ⟨hrunning, hbooted.running .motorTask⟩
  | _ => cases hi

/-- A receiver does not fault as long as the percents of the download are right. -/
theorem receives_ok {past : List FirmwareInput} {s : FirmwareState} {i : FirmwareInput}
    (hs : firmwareAfter board past = .ok s) (hcounts : EveryInput (CountsBytes board) past)
    (hbooted : s.Booted board) (hrunning : s.ota.point ≠ .restarted)
    (hi : receives i = true) :
    exists s', firmwareAfter board (past ++ [i]) = .ok s' ∧ s'.Booted board ∧
      s'.ota.point ≠ .restarted := by
  have henabled := enabled_of_receives hbooted hrunning hi
  cases hstep : firmwareStep board s i with
  | error fault =>
      cases ((firmwareStep_error_iff hs).mp ⟨fault, hstep⟩).2 with
      | bar _ hlong => exact absurd (levelDrawn_le hs hcounts) (by omega)
      | _ => cases hi
  | ok s' =>
      have hafter : firmwareAfter board (past ++ [i]) = .ok s' := by
        rw [firmwareAfter, outcomeAfter_snoc]
        change (firmwareAfter board past >>= _) = _
        rw [hs]
        exact hstep
      rw [firmwareStep, if_pos henabled] at hstep
      have hacted := acted_of_act hstep
      have hpc : s'.pc = s.pc := by
        refine pc_of_acted ?_ hacted
        intro heq
        rw [heq] at hi
        cases hi
      refine ⟨s', hafter, ?_, ?_⟩
      · rw [FirmwareState.Booted, hpc]
        exact hbooted
      · cases hacted with
        | oled _ =>
            rw [point_oledStep]
            exact hrunning
        | motor _ => exact hrunning
        | _ => cases hi

/-- The receivers alone never stop a run, and each of their steps counts. -/
theorem receivers_run {past later : List FirmwareInput} {s : FirmwareState}
    (hs : firmwareAfter board past = .ok s) (hcounts : EveryInput (CountsBytes board) past)
    (hbooted : s.Booted board) (hrunning : s.ota.point ≠ .restarted)
    (hlater : forall i, i ∈ later -> receives i = true) :
    exists s', firmwareAfter board (past ++ later) = .ok s' ∧
      (seenBy board oledInputs (past ++ later)).length =
        (seenBy board oledInputs past).length + later.count .oled ∧
      (seenBy board motorInputs (past ++ later)).length + later.count .oled =
        (seenBy board motorInputs past).length + later.length := by
  have hall : exists s', firmwareAfter board (past ++ later) = .ok s' ∧
      EveryInput (CountsBytes board) (past ++ later) ∧ s'.Booted board ∧
      s'.ota.point ≠ .restarted ∧
      (seenBy board oledInputs (past ++ later)).length =
        (seenBy board oledInputs past).length + later.count .oled ∧
      (seenBy board motorInputs (past ++ later)).length + later.count .oled =
        (seenBy board motorInputs past).length + later.length := by
    induction later using List.reverseRecOn with
    | nil =>
        rw [List.append_nil]
        exact ⟨s, hs, hcounts, hbooted, hrunning, rfl, rfl⟩
    | append_singleton older i ih =>
        have hi := hlater i (by simp)
        rcases ih fun j hj => hlater j (List.mem_append_left _ hj) with
          ⟨t, ht, hcounted, hbooted', hrunning', hframes, hloops⟩
        rcases receives_ok ht hcounted hbooted' hrunning' hi with
          ⟨s', hs', hbooted'', hrunning''⟩
        have henabled := enabled_of_receives hbooted' hrunning' hi
        rw [<- List.append_assoc, seenBy_enabled _ ht henabled, seenBy_enabled _ ht henabled,
          List.length_append, List.length_append, List.count_append, List.length_append]
        refine ⟨s', hs', everyInput_snoc.mpr ⟨hcounted, ?_⟩, hbooted'', hrunning'', ?_, ?_⟩
        · cases i with
          | ota answer => cases hi
          | _ => exact trivial
        · cases i with
          | oled =>
              rw [hframes, Nat.add_assoc]
              rfl
          | motor clock =>
              rw [hframes, Nat.add_assoc]
              rfl
          | _ => cases hi
        · cases i with
          | oled =>
              change _ + 0 + (_ + 1) = _ + (_ + 1)
              omega
          | motor clock =>
              change _ + 1 + (_ + 0) = _ + (_ + 1)
              omega
          | _ => cases hi
  rcases hall with ⟨s', hs', _, _, _, hframes, hloops⟩
  exact ⟨s', hs', hframes, hloops⟩

/-- Enough steps of the receivers behind `quietRun`. -/
def quietFollow : List FirmwareInput :=
  List.replicate 65 .oled ++ List.replicate 10 (.motor ⟨0, 0, 0, 0⟩)

theorem quietRun_accepted_values_taken :
    exists s s', firmwareAfter quietBoard quietRun = .ok s ∧
      firmwareAfter quietBoard (quietRun ++ quietFollow) = .ok s' ∧
      seenBy quietBoard controllerTakes quietRun ++ s.uart.qDistancePid.items <+:
        seenBy quietBoard controllerTakes (quietRun ++ quietFollow) ∧
      seenBy quietBoard displayTakesDistance quietRun ++ s.uart.qDistance.items <+:
        seenBy quietBoard displayTakesDistance (quietRun ++ quietFollow) ∧
      seenBy quietBoard displayTakesAngles quietRun ++ s.qAngle.items <+:
        seenBy quietBoard displayTakesAngles (quietRun ++ quietFollow) := by
  rcases quietRun_ok with ⟨s, hs, hrunning, hbooted⟩
  have hreceives : forall i, i ∈ quietFollow -> receives i = true := by
    decide
  rcases receivers_run hs quietRun_counts hbooted hrunning hreceives with
    ⟨s', hs', hframes, hloops⟩
  have hcount : quietFollow.count .oled = 65 ∧ quietFollow.length = 75 := by
    decide
  rcases accepted_values_taken hs hs' with ⟨hcontroller, hdistance, hangles⟩
  exact ⟨s, s', hs, hs', hcontroller (by omega), hdistance (by omega), hangles (by omega)⟩

end Tasks
end CarCleaner
