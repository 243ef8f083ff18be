import CarCleaner.Foundation.Run
import CarCleaner.Firmware.Mcpwm

/-!
# The two H-bridges

`percent_into_ticks` rescales a speed to compare ticks and `motors_control`
writes the two comparators and the four bridge inputs.
-/

namespace CarCleaner
namespace Motors

open Foundation
open Firmware

inductive MotorsState where
  | forwardBackward
  | rotate
deriving DecidableEq, Repr

inductive Pin where
  | in1
  | in2
  | in3
  | in4
deriving DecidableEq, Repr

structure Mcpwm where
  cmprMotor1 : Nat
  cmprMotor2 : Nat
  in1 : ForceLevel
  in2 : ForceLevel
  in3 : ForceLevel
  in4 : ForceLevel
deriving DecidableEq, Repr

/-- Registers after `dc_motor_init`: nothing is forced, both compare values are 0. -/
def dcMotorInit : Mcpwm where
  cmprMotor1 := 0
  cmprMotor2 := 0
  in1 := .released
  in2 := .released
  in3 := .released
  in4 := .released

def motorPowers : Nat := 200

/-!
# Source functions
-/

def percentIntoTicks (percentIn255 : Int) : Except Fault Int :=
  if percentIn255 = 0 then
    .ok 0
  else do
    let magnitude <- (if percentIn255 < 0 then checked (percentIn255 * -1)
      else pure percentIn255)
    let scaled <- checked (magnitude * (255 - 190))
    let shifted <- checked (190 + scaled.tdiv 255)
    let product <- checked ((if shifted > 235 then 235 else shifted) * motorPowers)
    pure (product.tdiv 255)

/-- The two `mcpwm_comparator_set_compare_value` calls of `motors_control`. -/
def writeComparators (percentIn255 : Int) (regs : Mcpwm) :
    Except Fault Mcpwm := do
  let leftTicks <- percentIntoTicks percentIn255
  let left <- setCompareValue motorPowers (uint32OfInt leftTicks)
  let rightTicks <- percentIntoTicks percentIn255
  let right <- setCompareValue motorPowers (uint32OfInt rightTicks)
  pure { regs with cmprMotor1 := left, cmprMotor2 := right }

def setForceLevel (regs : Mcpwm) : Pin × ForceLevel -> Mcpwm
  | (.in1, level) => { regs with in1 := level }
  | (.in2, level) => { regs with in2 := level }
  | (.in3, level) => { regs with in3 := level }
  | (.in4, level) => { regs with in4 := level }

/-- The `mcpwm_generator_set_force_level` calls of `motors_control`, in order. -/
def forceLevelCalls (state : MotorsState) (percentIn255 : Int) :
    List (Pin × ForceLevel) :=
  match state with
  | .forwardBackward =>
      if percentIn255 > 0 then
        [(.in1, .released), (.in2, .low), (.in3, .released), (.in4, .low)]
      else if percentIn255 < 0 then
        [(.in1, .low), (.in2, .released), (.in3, .low), (.in4, .released)]
      else
        [(.in1, .low), (.in2, .low), (.in3, .low), (.in4, .low)]
  | .rotate =>
      if percentIn255 > 0 then
        [(.in1, .low), (.in2, .released), (.in3, .released), (.in4, .low)]
      else
        [(.in1, .released), (.in2, .low), (.in3, .low), (.in4, .released)]

/-- Registers after the first `k` force-level calls of a command. -/
def levelsAfter (state : MotorsState) (percentIn255 : Int) (regs : Mcpwm)
    (k : Nat) : Mcpwm :=
  ((forceLevelCalls state percentIn255).take k).foldl setForceLevel regs

/-- `motors_control` with `Main_motors_state = state`. -/
def motorsControl (state : MotorsState) (percentIn255 : Int) (regs : Mcpwm) :
    Except Fault Mcpwm := do
  let regs <- writeComparators percentIn255 regs
  pure ((forceLevelCalls state percentIn255).foldl setForceLevel regs)

/-!
# Ticks of a speed

For every speed that fits in `-255 .. 255` the rescaling has a closed form: no
operation overflows, a stop gives no ticks, and any other speed gives between
149 and 184 ticks, more for a larger magnitude.
-/

def ticksOf (percentIn255 : Int) : Nat :=
  if percentIn255 = 0 then 0
  else min 235 (190 + percentIn255.natAbs * 65 / 255) * 200 / 255

theorem magnitude_eq {percentIn255 : Int} (hlow : -255 ≤ percentIn255)
    (hhigh : percentIn255 ≤ 255) :
    (if percentIn255 < 0 then checked (percentIn255 * -1)
      else pure percentIn255) = .ok (percentIn255.natAbs : Int) := by
  split
  · next hneg =>
      rw [checked_eq_ok (by omega) (by omega)]
      congr 1
      omega
  · next hpos =>
      show Except.ok percentIn255 = _
      congr 1
      omega

theorem percentIntoTicks_eq {percentIn255 : Int} (hlow : -255 ≤ percentIn255)
    (hhigh : percentIn255 ≤ 255) :
    percentIntoTicks percentIn255 = .ok (ticksOf percentIn255 : Int) := by
  by_cases hzero : percentIn255 = 0
  · simp [percentIntoTicks, ticksOf, hzero]
  · rw [percentIntoTicks, ticksOf, if_neg hzero, if_neg hzero,
      magnitude_eq hlow hhigh, ok_bind]
    have hn : percentIn255.natAbs ≤ 255 := by omega
    generalize percentIn255.natAbs = n at hn
    have hscaled : checked ((n : Int) * (255 - 190)) = .ok ((n * 65 : Nat) : Int) := by
      rw [checked_eq_ok (by omega) (by omega)]
      congr 1
    have hshifted : checked (190 + ((n * 65 : Nat) : Int).tdiv 255) =
        .ok ((190 + n * 65 / 255 : Nat) : Int) := by
      rw [Int.tdiv_eq_ediv_of_nonneg (by omega), checked_eq_ok (by omega) (by omega)]
      congr 1
    have hcapped : (if ((190 + n * 65 / 255 : Nat) : Int) > 235 then 235
        else ((190 + n * 65 / 255 : Nat) : Int)) =
        ((min 235 (190 + n * 65 / 255) : Nat) : Int) := by
      split <;> omega
    have hproduct : checked (((min 235 (190 + n * 65 / 255) : Nat) : Int) * motorPowers) =
        .ok ((min 235 (190 + n * 65 / 255) * 200 : Nat) : Int) := by
      have hmin : min 235 (190 + n * 65 / 255) ≤ 235 := min_le_left _ _
      rw [motorPowers, checked_eq_ok (by omega) (by omega)]
      congr 1
    rw [hscaled, ok_bind, hshifted, ok_bind, hcapped, hproduct, ok_bind,
      Int.tdiv_eq_ediv_of_nonneg (by omega)]
    rfl

theorem ticksOf_zero : ticksOf 0 = 0 := rfl

theorem ticksOf_mem {percentIn255 : Int} (h : percentIn255 ≠ 0) :
    149 ≤ ticksOf percentIn255 ∧ ticksOf percentIn255 ≤ 184 := by
  rw [ticksOf, if_neg h]
  omega

theorem ticksOf_le_motorPowers (percentIn255 : Int) :
    ticksOf percentIn255 ≤ motorPowers := by
  by_cases h : percentIn255 = 0
  · rw [h, ticksOf_zero]
    exact Nat.zero_le _
  · exact (ticksOf_mem h).2.trans (by decide)

theorem ticksOf_le_ticksOf {p q : Int} (hp : p ≠ 0)
    (h : p.natAbs ≤ q.natAbs) : ticksOf p ≤ ticksOf q := by
  have hq : q ≠ 0 := by omega
  rw [ticksOf, ticksOf, if_neg hp, if_neg hq]
  have hmul : p.natAbs * 65 / 255 ≤ q.natAbs * 65 / 255 := by omega
  have hmin : min 235 (190 + p.natAbs * 65 / 255) ≤
      min 235 (190 + q.natAbs * 65 / 255) := by omega
  exact Nat.div_le_div_right (Nat.mul_le_mul_right 200 hmin)

/-!
# Directions of the wheels

One input released and the other low drives a motor, both low stop it.  Both
released is the configuration that no command asks for; it has no direction.
-/

inductive Wheel where
  | forward
  | backward
  | stopped
deriving DecidableEq, Repr

def wheelOf : ForceLevel -> ForceLevel -> Option Wheel
  | .released, .low => some .forward
  | .low, .released => some .backward
  | .low, .low => some .stopped
  | .released, .released => none

/-- The left motor, on `IN1` and `IN2`. -/
def Mcpwm.motor1 (regs : Mcpwm) : Option Wheel :=
  wheelOf regs.in1 regs.in2

/-- The right motor, on `IN3` and `IN4`. -/
def Mcpwm.motor2 (regs : Mcpwm) : Option Wheel :=
  wheelOf regs.in3 regs.in4

/-- Directions of the left and the right wheel that a command asks for. -/
def commanded (state : MotorsState) (percentIn255 : Int) : Wheel × Wheel :=
  match state with
  | .forwardBackward =>
      if percentIn255 > 0 then (.forward, .forward)
      else if percentIn255 < 0 then (.backward, .backward)
      else (.stopped, .stopped)
  | .rotate =>
      if percentIn255 > 0 then (.backward, .forward)
      else (.forward, .backward)

/-- Every command writes the four inputs once each, in the order of their numbers. -/
theorem forceLevelCalls_shape (state : MotorsState) (percentIn255 : Int) :
    exists level1 level2 level3 level4,
      forceLevelCalls state percentIn255 =
        [(.in1, level1), (.in2, level2), (.in3, level3), (.in4, level4)] ∧
      wheelOf level1 level2 = some (commanded state percentIn255).1 ∧
      wheelOf level3 level4 = some (commanded state percentIn255).2 := by
  unfold forceLevelCalls commanded
  cases state with
  | forwardBackward =>
      by_cases hpos : percentIn255 > 0
      · simp only [if_pos hpos]
        exact ⟨_, _, _, _, rfl, rfl, rfl⟩
      · by_cases hneg : percentIn255 < 0
        · simp only [if_neg hpos, if_pos hneg]
          exact ⟨_, _, _, _, rfl, rfl, rfl⟩
        · simp only [if_neg hpos, if_neg hneg]
          exact ⟨_, _, _, _, rfl, rfl, rfl⟩
  | rotate =>
      by_cases hpos : percentIn255 > 0
      · simp only [if_pos hpos]
        exact ⟨_, _, _, _, rfl, rfl, rfl⟩
      · simp only [if_neg hpos]
        exact ⟨_, _, _, _, rfl, rfl, rfl⟩

theorem foldl_setForceLevel_comparators (writes : List (Pin × ForceLevel))
    (regs : Mcpwm) :
    (writes.foldl setForceLevel regs).cmprMotor1 = regs.cmprMotor1 ∧
      (writes.foldl setForceLevel regs).cmprMotor2 = regs.cmprMotor2 := by
  induction writes generalizing regs with
  | nil =>
      exact ⟨rfl, rfl⟩
  | cons write rest ih =>
      rcases write with ⟨pin, level⟩
      cases pin <;>
        exact ih _

/-!
# Completed commands
-/

theorem writeComparators_eq {percentIn255 : Int} (hlow : -255 ≤ percentIn255)
    (hhigh : percentIn255 ≤ 255) (regs : Mcpwm) :
    writeComparators percentIn255 regs =
      .ok { regs with
        cmprMotor1 := ticksOf percentIn255, cmprMotor2 := ticksOf percentIn255 } := by
  have hticks := percentIntoTicks_eq hlow hhigh
  have hle := ticksOf_le_motorPowers percentIn255
  have hwrap : uint32OfInt (ticksOf percentIn255 : Int) = ticksOf percentIn255 :=
    uint32OfInt_natCast (hle.trans_lt (by decide))
  rw [writeComparators, hticks, ok_bind, hwrap, setCompareValue_eq_ok hle, ok_bind,
    ok_bind, hwrap, setCompareValue_eq_ok hle]
  rfl

/-- Every completed command leaves both wheels as it asks for. -/
theorem motorsControl_wheels {state : MotorsState} {percentIn255 : Int}
    {regs regs' : Mcpwm} (h : motorsControl state percentIn255 regs = .ok regs') :
    regs'.motor1 = some (commanded state percentIn255).1 ∧
      regs'.motor2 = some (commanded state percentIn255).2 := by
  rcases bind_eq_ok h with ⟨written, _, hpure⟩
  cases hpure
  rcases forceLevelCalls_shape state percentIn255 with
    ⟨_, _, _, _, hcalls, hleft, hright⟩
  rw [hcalls]
  exact ⟨hleft, hright⟩

theorem motorsControl_ok (state : MotorsState) {percentIn255 : Int}
    (hlow : -255 ≤ percentIn255) (hhigh : percentIn255 ≤ 255) (regs : Mcpwm) :
    exists regs', motorsControl state percentIn255 regs = .ok regs' ∧
      regs'.cmprMotor1 = ticksOf percentIn255 ∧
      regs'.cmprMotor2 = ticksOf percentIn255 := by
  rw [motorsControl, writeComparators_eq hlow hhigh, ok_bind]
  exact ⟨_, rfl, foldl_setForceLevel_comparators _ _⟩

/-!
# Signed duties

A duty counts positive on a forward wheel and negative on a backward one.  In
`MOTORS_FORWARD_BACKWARD` it is a monotone function of the speed.
-/

def signedDuty (wheel : Option Wheel) (ticks : Nat) : Int :=
  match wheel with
  | some .forward => ticks
  | some .backward => -ticks
  | some .stopped => 0
  | none => 0

def Mcpwm.duty1 (regs : Mcpwm) : Int :=
  signedDuty regs.motor1 regs.cmprMotor1

def Mcpwm.duty2 (regs : Mcpwm) : Int :=
  signedDuty regs.motor2 regs.cmprMotor2

def dutyOf (percentIn255 : Int) : Int :=
  if percentIn255 > 0 then ticksOf percentIn255
  else if percentIn255 < 0 then -ticksOf percentIn255
  else 0

theorem dutyOf_mono {p q : Int} (hpq : p ≤ q) : dutyOf p ≤ dutyOf q := by
  unfold dutyOf
  by_cases hp : p > 0
  · have hq : q > 0 := by omega
    rw [if_pos hp, if_pos hq]
    exact_mod_cast ticksOf_le_ticksOf hp.ne' (by omega)
  · by_cases hq : q > 0
    · rw [if_neg hp, if_pos hq]
      split <;> omega
    · rw [if_neg hp, if_neg hq]
      by_cases hq' : q < 0
      · have hp' : p < 0 := by omega
        rw [if_pos hp', if_pos hq']
        have hle := ticksOf_le_ticksOf hq'.ne (show q.natAbs ≤ p.natAbs by omega)
        omega
      · rw [if_neg hq']
        split <;> omega

theorem signedDuty_commanded (percentIn255 : Int) :
    signedDuty (some (commanded .forwardBackward percentIn255).1)
        (ticksOf percentIn255) = dutyOf percentIn255 ∧
      signedDuty (some (commanded .forwardBackward percentIn255).2)
        (ticksOf percentIn255) = dutyOf percentIn255 := by
  unfold commanded dutyOf
  by_cases hpos : percentIn255 > 0
  · simp only [if_pos hpos]
    exact ⟨rfl, rfl⟩
  · by_cases hneg : percentIn255 < 0
    · simp only [if_neg hpos, if_pos hneg]
      exact ⟨rfl, rfl⟩
    · simp only [if_neg hpos, if_neg hneg]
      exact ⟨rfl, rfl⟩

theorem motorsControl_duty {percentIn255 : Int} (hlow : -255 ≤ percentIn255)
    (hhigh : percentIn255 ≤ 255) (regs : Mcpwm) :
    exists regs', motorsControl .forwardBackward percentIn255 regs = .ok regs' ∧
      regs'.duty1 = dutyOf percentIn255 ∧ regs'.duty2 = dutyOf percentIn255 := by
  rcases motorsControl_ok .forwardBackward hlow hhigh regs with
    ⟨regs', hok, hleft, hright⟩
  have hwheels := motorsControl_wheels hok
  have hduty := signedDuty_commanded percentIn255
  refine ⟨regs', hok, ?_, ?_⟩
  · rw [Mcpwm.duty1, hwheels.1, hleft]
    exact hduty.1
  · rw [Mcpwm.duty2, hwheels.2, hright]
    exact hduty.2

end Motors
end CarCleaner
