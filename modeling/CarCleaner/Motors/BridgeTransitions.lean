import CarCleaner.Motors.Bridge

/-!
# Configurations between two commands

`motors_control` rewrites the four bridge inputs one after the other, so the
bridge passes through mixed configurations on its way from one command to the
next.  In a mixed configuration the first input of a motor is already new while
the second is still old.
-/

namespace CarCleaner
namespace Motors

open Foundation
open Firmware

def commandsAt (start : Mcpwm) (calls : Nat -> MotorsState × Int) :
    Nat -> Except Fault Mcpwm :=
  outcomeAt (fun regs call => motorsControl call.1 call.2 regs) start calls

/--
From the end of the first command on, no configuration that a sequence of
commands passes through releases both inputs of a motor.
-/
def NeverBothReleased (start : Mcpwm) (calls : Nat -> MotorsState × Int) : Prop :=
  forall n regs written k,
    commandsAt start calls (n + 1) = .ok regs ->
    writeComparators (calls (n + 1)).2 regs = .ok written ->
    (levelsAfter (calls (n + 1)).1 (calls (n + 1)).2 written k).motor1 ≠ none ∧
      (levelsAfter (calls (n + 1)).1 (calls (n + 1)).2 written k).motor2 ≠ none

theorem commandsAt_wheels {start regs : Mcpwm} {calls : Nat -> MotorsState × Int}
    {n : Nat} (h : commandsAt start calls (n + 1) = .ok regs) :
    regs.motor1 = some (commanded (calls n).1 (calls n).2).1 ∧
      regs.motor2 = some (commanded (calls n).1 (calls n).2).2 := by
  rcases outcomeAt_succ_ok h with ⟨_, _, hcall⟩
  exact motorsControl_wheels hcall

theorem writeComparators_motors {percentIn255 : Int} {regs written : Mcpwm}
    (h : writeComparators percentIn255 regs = .ok written) :
    written.motor1 = regs.motor1 ∧ written.motor2 = regs.motor2 := by
  rcases bind_eq_ok h with ⟨_, _, h1⟩
  rcases bind_eq_ok h1 with ⟨_, _, h2⟩
  rcases bind_eq_ok h2 with ⟨_, _, h3⟩
  rcases bind_eq_ok h3 with ⟨_, _, h4⟩
  cases h4
  exact ⟨rfl, rfl⟩

/-!
# Half-written motors

The second input of a motor is released exactly when the motor runs backward,
the first exactly when it runs forward.  With the first input rewritten and the
second still old, both are therefore released exactly on the way from backward
to forward.
-/

theorem wheelOf_eq_none_iff {plus minus : ForceLevel} :
    wheelOf plus minus = none <-> plus = .released ∧ minus = .released := by
  cases plus <;> cases minus <;>
    simp [wheelOf]

theorem plus_released_iff {plus minus : ForceLevel} {wheel : Wheel}
    (h : wheelOf plus minus = some wheel) :
    plus = .released <-> wheel = .forward := by
  cases plus <;> cases minus <;> cases h <;>
    simp

theorem minus_released_iff {plus minus : ForceLevel} {wheel : Wheel}
    (h : wheelOf plus minus = some wheel) :
    minus = .released <-> wheel = .backward := by
  cases plus <;> cases minus <;> cases h <;>
    simp

theorem wheelOf_half_written {plus minus plus' minus' : ForceLevel}
    {before after : Wheel} (hbefore : wheelOf plus minus = some before)
    (hafter : wheelOf plus' minus' = some after) :
    wheelOf plus' minus = none <-> before = .backward ∧ after = .forward := by
  rw [wheelOf_eq_none_iff, plus_released_iff hafter, minus_released_iff hbefore,
    and_comm]

theorem levelsAfter_motor1 (state : MotorsState) (percentIn255 : Int)
    {regs : Mcpwm} {before : Wheel} (hbefore : regs.motor1 = some before) (k : Nat) :
    (levelsAfter state percentIn255 regs k).motor1 = none <->
      k = 1 ∧ before = .backward ∧ (commanded state percentIn255).1 = .forward := by
  rcases forceLevelCalls_shape state percentIn255 with
    ⟨level1, level2, level3, level4, hcalls, hleft, _⟩
  rw [levelsAfter, hcalls]
  match k with
  | 0 =>
      show regs.motor1 = none <-> _
      simp [hbefore]
  | 1 =>
      show wheelOf level1 regs.in2 = none <-> _
      simpa using wheelOf_half_written hbefore hleft
  | 2 =>
      show wheelOf level1 level2 = none <-> _
      simp [hleft]
  | 3 =>
      show wheelOf level1 level2 = none <-> _
      simp [hleft]
  | k + 4 =>
      rw [List.take_of_length_le (by simp)]
      show wheelOf level1 level2 = none <-> _
      simp [hleft]

theorem levelsAfter_motor2 (state : MotorsState) (percentIn255 : Int)
    {regs : Mcpwm} {before : Wheel} (hbefore : regs.motor2 = some before) (k : Nat) :
    (levelsAfter state percentIn255 regs k).motor2 = none <->
      k = 3 ∧ before = .backward ∧ (commanded state percentIn255).2 = .forward := by
  rcases forceLevelCalls_shape state percentIn255 with
    ⟨level1, level2, level3, level4, hcalls, _, hright⟩
  rw [levelsAfter, hcalls]
  match k with
  | 0 =>
      show regs.motor2 = none <-> _
      simp [hbefore]
  | 1 =>
      show regs.motor2 = none <-> _
      simp [hbefore]
  | 2 =>
      show regs.motor2 = none <-> _
      simp [hbefore]
  | 3 =>
      show wheelOf level3 regs.in4 = none <-> _
      simpa using wheelOf_half_written hbefore hright
  | k + 4 =>
      rw [List.take_of_length_le (by simp)]
      show wheelOf level3 level4 = none <-> _
      simp [hright]

/-!
# Sequences of commands
-/

/--
Both inputs of a motor are released only between the two writes of that motor,
in a command that turns the motor from backward to forward, and there always.
-/
theorem bothReleased_iff (start : Mcpwm) (calls : Nat -> MotorsState × Int) :
    forall n regs written k,
      commandsAt start calls (n + 1) = .ok regs ->
      writeComparators (calls (n + 1)).2 regs = .ok written ->
      let next := calls (n + 1)
      ((levelsAfter next.1 next.2 written k).motor1 = none <->
        k = 1 ∧ regs.motor1 = some .backward ∧
          (commanded next.1 next.2).1 = .forward) ∧
      ((levelsAfter next.1 next.2 written k).motor2 = none <->
        k = 3 ∧ regs.motor2 = some .backward ∧
          (commanded next.1 next.2).2 = .forward) := by
  intro n regs written k hregs hwritten next
  have hwheels := commandsAt_wheels hregs
  have hmotors := writeComparators_motors hwritten
  rw [levelsAfter_motor1 next.1 next.2 (hmotors.1.trans hwheels.1),
    levelsAfter_motor2 next.1 next.2 (hmotors.2.trans hwheels.2),
    hwheels.1, hwheels.2]
  simp

def backwardThenForward (n : Nat) : MotorsState × Int :=
  (.forwardBackward, if n = 0 then -5 else 5)

def backwardRegs : Mcpwm where
  cmprMotor1 := 149
  cmprMotor2 := 149
  in1 := .low
  in2 := .released
  in3 := .low
  in4 := .released

theorem commandsAt_backwardThenForward :
    commandsAt dcMotorInit backwardThenForward 1 = .ok backwardRegs := by
  decide

/-- Turning from backward to forward releases both inputs of the left motor. -/
theorem bothReleased_backwardThenForward :
    ¬ NeverBothReleased dcMotorInit backwardThenForward := by
  intro h
  have hmotors := h 0 backwardRegs backwardRegs 1 commandsAt_backwardThenForward rfl
  exact hmotors.1 rfl

theorem bothReleased_iff_backwardThenForward :
    (levelsAfter .forwardBackward 5 backwardRegs 1).motor1 = none <->
      1 = 1 ∧ backwardRegs.motor1 = some .backward ∧
        (commanded .forwardBackward 5).1 = .forward :=
  (bothReleased_iff dcMotorInit backwardThenForward 0 backwardRegs backwardRegs 1
    commandsAt_backwardThenForward rfl).1

end Motors
end CarCleaner
