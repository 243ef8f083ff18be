import CarCleaner.Motors.Bridge
import CarCleaner.Motors.Pid
import CarCleaner.Motors.StuckDetector

/-!
# The motor task

`motor_task` repeats one loop: it takes a distance from the queue if there is
one and then either drives by the controller or rotates.  Everything the loop
gets from outside is one input: the queue result and the clock at the program
points of the loop, in program order.
-/

namespace CarCleaner
namespace Motors

open Foundation
open Firmware

structure LoopInput where
  /-- Element taken by `xQueueReceive(q_distance_pid, &distance_cm, 0)`. -/
  received : Option Rat
  /-- Clock at the first `esp_timer_get_time` of `check_distance`, in either branch. -/
  checkFirst : Int
  /-- Clock at the last `esp_timer_get_time` of `check_distance`. -/
  checkSecond : Int
  /-- Clock at the `esp_timer_get_time` of `pid_controler_update`, if it runs. -/
  pidTime : Int
  /-- Clock when `vTaskDelay(xFrequency)` returns and the iteration ends. -/
  loopEnd : Int
deriving DecidableEq, Repr

/-- `Main_motors_state`, the static variables of the task, and the motor registers. -/
structure MotorTask where
  mainMotorsState : MotorsState
  stuckTimer : StuckTimer
  pid : PidControler
  distanceCm : Rat
  regs : Mcpwm
deriving DecidableEq, Repr

inductive SpeedSource where
  | pid
  | rotation
deriving DecidableEq, Repr

structure MotorsCall where
  source : SpeedSource
  percentIn255 : Int
  state : MotorsState
  regs : Mcpwm
deriving DecidableEq, Repr

structure LoopRecord where
  stuck : Bool
  call : MotorsCall
deriving DecidableEq, Repr

def bootTask (initTime : Int) : MotorTask where
  mainMotorsState := .forwardBackward
  stuckTimer := StuckTimer.boot
  pid := pidControlerInit initTime
  distanceCm := 0
  regs := dcMotorInit

def distanceUsed (task : MotorTask) (i : LoopInput) : Rat :=
  i.received.getD task.distanceCm

def forwardBranch (task : MotorTask) (i : LoopInput) :
    Except Fault (MotorTask × LoopRecord) := do
  let distanceCm := distanceUsed task i
  let check := checkDistance task.stuckTimer i.checkFirst i.checkSecond
    task.pid.prevMeasurement distanceCm
  let state := if check.1 then MotorsState.rotate else MotorsState.forwardBackward
  let update := pidControlerUpdate task.pid i.pidTime distanceCm wallSetpoint
  let regs <- motorsControl state update.2 task.regs
  pure
    ({ mainMotorsState := state, stuckTimer := check.2, pid := update.1,
       distanceCm := distanceCm, regs := regs },
     { stuck := check.1,
       call := { source := .pid, percentIn255 := update.2, state := state,
                 regs := regs } })

def rotateBranch (task : MotorTask) (i : LoopInput) :
    Except Fault (MotorTask × LoopRecord) := do
  let regs <- motorsControl .rotate 80 task.regs
  let check := checkDistance task.stuckTimer i.checkFirst i.checkSecond 1 (3 / 2)
  pure
    ({ mainMotorsState := .forwardBackward, stuckTimer := check.2, pid := task.pid,
       distanceCm := distanceUsed task i, regs := regs },
     { stuck := check.1,
       call := { source := .rotation, percentIn255 := 80, state := .rotate,
                 regs := regs } })

def motorLoop (task : MotorTask) (i : LoopInput) :
    Except Fault (MotorTask × LoopRecord) :=
  match task.mainMotorsState with
  | .forwardBackward => forwardBranch task i
  | .rotate => rotateBranch task i

/-!
# Runs

A run starts at boot and repeats the loop.  No iteration faults: the result of
the controller stays within its limits, and so does every compare value.
-/

structure Outside where
  /-- Clock at `pid_controler_init`. -/
  initTime : Int
  loop : Nat -> LoopInput

/-- The clock counts from boot and never goes back. -/
structure Outside.Nondecreasing (out : Outside) : Prop where
  init_nonneg : 0 ≤ out.initTime
  init_le : out.initTime ≤ (out.loop 0).checkFirst
  first_le : forall n, (out.loop n).checkFirst ≤ (out.loop n).checkSecond
  second_le : forall n, (out.loop n).checkSecond ≤ (out.loop n).pidTime
  pid_le : forall n, (out.loop n).pidTime ≤ (out.loop n).loopEnd
  end_le : forall n, (out.loop n).loopEnd ≤ (out.loop (n + 1)).checkFirst

/-- The loop at its nominal 20 ms, in code that takes no time, from `start` on. -/
def everyTwentyMs (start : Int) (received : Nat -> Option Rat) : Outside where
  initTime := start
  loop := fun n =>
    { received := received n
      checkFirst := start + 20000 * n
      checkSecond := start + 20000 * n
      pidTime := start + 20000 * n
      loopEnd := start + 20000 * (n + 1) }

theorem everyTwentyMs_nondecreasing {start : Int} (hstart : 0 ≤ start)
    (received : Nat -> Option Rat) : (everyTwentyMs start received).Nondecreasing where
  init_nonneg := hstart
  init_le := by
    simp [everyTwentyMs]
  first_le := by
    intro n
    exact le_rfl
  second_le := by
    intro n
    exact le_rfl
  pid_le := by
    intro n
    simp only [everyTwentyMs]
    omega
  end_le := by
    intro n
    simp only [everyTwentyMs]
    omega

def silentSensor : Outside :=
  everyTwentyMs 10000000 fun _ => none

/-- A run of `motor_task`, with the task in front of each iteration. -/
structure MotorRun where
  outside : Outside
  task : Nat -> MotorTask
  record : Nat -> LoopRecord
  task_zero : task 0 = bootTask outside.initTime
  loop_ok : forall n,
    motorLoop (task n) (outside.loop n) = .ok (task (n + 1), record n)

def taskAt (out : Outside) (n : Nat) : Except Fault MotorTask :=
  outcomeAt (fun task i => do let next <- motorLoop task i; pure next.1)
    (bootTask out.initTime) out.loop n

theorem forwardBranch_ok {task : MotorTask} (h : Tuned task.pid) (i : LoopInput) :
    exists next, forwardBranch task i = .ok next ∧ Tuned next.1.pid := by
  have hmem := h.result_mem i.pidTime (distanceUsed task i) wallSetpoint
  have hlow : -255 ≤ (pidControlerUpdate task.pid i.pidTime
      (distanceUsed task i) wallSetpoint).2 := by omega
  rcases motorsControl_ok _ hlow (by omega) task.regs with ⟨regs, hregs, _⟩
  rw [forwardBranch, hregs, ok_bind]
  exact ⟨_, rfl, h.update _ _ _⟩

theorem rotateBranch_ok {task : MotorTask} (h : Tuned task.pid) (i : LoopInput) :
    exists next, rotateBranch task i = .ok next ∧ Tuned next.1.pid := by
  rcases motorsControl_ok .rotate (show -255 ≤ (80 : Int) by decide) (by decide)
    task.regs with ⟨regs, hregs, _⟩
  rw [rotateBranch, hregs, ok_bind]
  exact ⟨_, rfl, h⟩

theorem motorLoop_ok {task : MotorTask} (h : Tuned task.pid) (i : LoopInput) :
    exists next, motorLoop task i = .ok next ∧ Tuned next.1.pid := by
  unfold motorLoop
  cases task.mainMotorsState with
  | forwardBackward => exact forwardBranch_ok h i
  | rotate => exact rotateBranch_ok h i

theorem taskAt_ok (out : Outside) (n : Nat) :
    exists task, taskAt out n = .ok task ∧ Tuned task.pid := by
  refine outcomeAt_total (fun _ (task : MotorTask) => Tuned task.pid)
    (tuned_pidControlerInit out.initTime) ?_ n
  intro k task htuned
  rcases motorLoop_ok htuned (out.loop k) with ⟨next, hnext, htuned'⟩
  exact ⟨next.1, by rw [hnext]; rfl, htuned'⟩

theorem taskAt_loop_ok (out : Outside) (n : Nat) :
    exists next, (taskAt out n >>= fun task => motorLoop task (out.loop n)) =
      .ok next := by
  rcases taskAt_ok out n with ⟨task, htask, htuned⟩
  rcases motorLoop_ok htuned (out.loop n) with ⟨next, hnext, _⟩
  exact ⟨next, by rw [htask, ok_bind, hnext]⟩

def MotorRun.ofOutside (out : Outside) : MotorRun where
  outside := out
  task := fun n => valueOf (taskAt out n) ((taskAt_ok out n).imp fun _ h => h.1)
  record := fun n =>
    (valueOf (taskAt out n >>= fun task => motorLoop task (out.loop n))
      (taskAt_loop_ok out n)).2
  task_zero := rfl
  loop_ok := by
    intro n
    have htask := eq_ok_valueOf (taskAt out n) ((taskAt_ok out n).imp fun _ h => h.1)
    have hloop := eq_ok_valueOf _ (taskAt_loop_ok out n)
    have hnext := eq_ok_valueOf (taskAt out (n + 1))
      ((taskAt_ok out (n + 1)).imp fun _ h => h.1)
    generalize valueOf (taskAt out n) _ = task at htask ⊢
    generalize valueOf _ (taskAt_loop_ok out n) = next at hloop ⊢
    generalize valueOf (taskAt out (n + 1)) _ = task' at hnext ⊢
    rw [htask, ok_bind] at hloop
    rw [taskAt, outcomeAt_succ_of_ok htask, hloop] at hnext
    cases hnext
    exact hloop

/-!
# What one iteration does
-/

namespace MotorRun

variable (run : MotorRun)

def ForwardAt (n : Nat) : Prop :=
  (run.task n).mainMotorsState = .forwardBackward

instance (n : Nat) : Decidable (run.ForwardAt n) :=
  inferInstanceAs (Decidable ((run.task n).mainMotorsState = .forwardBackward))

def StuckAt (n : Nat) : Prop :=
  (run.record n).stuck = true

instance (n : Nat) : Decidable (run.StuckAt n) :=
  inferInstanceAs (Decidable ((run.record n).stuck = true))

def distance (n : Nat) : Rat :=
  distanceUsed (run.task n) (run.outside.loop n)

def MovedAt (n : Nat) : Prop :=
  Moved (run.task n).pid.prevMeasurement (run.distance n)

instance (n : Nat) : Decidable (run.MovedAt n) :=
  inferInstanceAs (Decidable (Moved _ _))

def update (n : Nat) : PidControler × Int :=
  pidControlerUpdate (run.task n).pid (run.outside.loop n).pidTime (run.distance n)
    wallSetpoint

def stateAfterCheck (n : Nat) : MotorsState :=
  if (run.task n).stuckTimer.Passed then .rotate else .forwardBackward

variable {run} {n : Nat}

theorem rotate_of_not_forward (h : ¬ run.ForwardAt n) :
    (run.task n).mainMotorsState = .rotate := by
  unfold ForwardAt at h
  cases hstate : (run.task n).mainMotorsState with
  | forwardBackward => exact absurd hstate h
  | rotate => rfl

theorem forward_loop (h : run.ForwardAt n) :
    exists regs,
      motorsControl (run.stateAfterCheck n) (run.update n).2 (run.task n).regs =
        .ok regs ∧
      run.task (n + 1) =
        { mainMotorsState := run.stateAfterCheck n
          stuckTimer :=
            (checkDistance (run.task n).stuckTimer (run.outside.loop n).checkFirst
              (run.outside.loop n).checkSecond (run.task n).pid.prevMeasurement
              (run.distance n)).2
          pid := (run.update n).1
          distanceCm := run.distance n
          regs := regs } ∧
      run.record n =
        { stuck := decide (run.task n).stuckTimer.Passed
          call :=
            { source := .pid
              percentIn255 := (run.update n).2
              state := run.stateAfterCheck n
              regs := regs } } := by
  have hloop := run.loop_ok n
  rw [motorLoop, h] at hloop
  rcases bind_eq_ok hloop with ⟨regs, hregs, hpure⟩
  have hcheck := checkDistance_returns (run.task n).stuckTimer
    (run.outside.loop n).checkFirst (run.outside.loop n).checkSecond
    (run.task n).pid.prevMeasurement (run.distance n)
  have hstate : (if (checkDistance (run.task n).stuckTimer
      (run.outside.loop n).checkFirst (run.outside.loop n).checkSecond
      (run.task n).pid.prevMeasurement (run.distance n)).1
      then MotorsState.rotate else MotorsState.forwardBackward) =
      run.stateAfterCheck n := by
    rw [hcheck, stateAfterCheck]
    simp
  change motorsControl (if (checkDistance _ _ _ _ (run.distance n)).1 then _ else _)
    _ _ = _ at hregs
  rw [hstate] at hregs
  injection hpure with hpair
  injection hpair with htask hrecord
  refine ⟨regs, hregs, ?_, ?_⟩
  · rw [← htask, ← hstate]
    rfl
  · rw [← hrecord, ← hstate, ← hcheck]
    rfl

theorem rotate_loop (h : ¬ run.ForwardAt n) :
    exists regs,
      motorsControl .rotate 80 (run.task n).regs = .ok regs ∧
      run.task (n + 1) =
        { mainMotorsState := .forwardBackward
          stuckTimer :=
            (checkDistance (run.task n).stuckTimer (run.outside.loop n).checkFirst
              (run.outside.loop n).checkSecond 1 (3 / 2)).2
          pid := (run.task n).pid
          distanceCm := run.distance n
          regs := regs } ∧
      run.record n =
        { stuck := decide (run.task n).stuckTimer.Passed
          call :=
            { source := .rotation
              percentIn255 := 80
              state := .rotate
              regs := regs } } := by
  have hloop := run.loop_ok n
  rw [motorLoop, rotate_of_not_forward h] at hloop
  rcases bind_eq_ok hloop with ⟨regs, hregs, hpure⟩
  have hcheck := checkDistance_returns (run.task n).stuckTimer
    (run.outside.loop n).checkFirst (run.outside.loop n).checkSecond 1 (3 / 2)
  injection hpure with hpair
  injection hpair with htask hrecord
  refine ⟨regs, hregs, htask.symm, ?_⟩
  rw [← hrecord, ← hcheck]

theorem distanceCm_succ (n : Nat) : (run.task (n + 1)).distanceCm = run.distance n := by
  by_cases h : run.ForwardAt n
  · rcases forward_loop h with ⟨_, _, htask, _⟩
    rw [htask]
  · rcases rotate_loop h with ⟨_, _, htask, _⟩
    rw [htask]

theorem pid_succ_of_forwardAt (h : run.ForwardAt n) :
    (run.task (n + 1)).pid = (run.update n).1 := by
  rcases forward_loop h with ⟨_, _, htask, _⟩
  rw [htask]

theorem pid_succ_of_not_forwardAt (h : ¬ run.ForwardAt n) :
    (run.task (n + 1)).pid = (run.task n).pid := by
  rcases rotate_loop h with ⟨_, _, htask, _⟩
  rw [htask]

theorem prevMeasurement_succ_of_forwardAt (h : run.ForwardAt n) :
    (run.task (n + 1)).pid.prevMeasurement = run.distance n := by
  rw [pid_succ_of_forwardAt h]
  exact pidControlerUpdate_prevMeasurement _ _ _ _

end MotorRun

end Motors
end CarCleaner
