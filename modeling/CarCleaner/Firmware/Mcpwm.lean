import CarCleaner.Foundation.MachineNumbers

/-!
# The motor-control PWM driver

The part of the ESP-IDF driver that the motor and servo tasks call.  A
comparator accepts a compare value up to the period of its timer; a generator
pin is either released to the PWM signal or forced low.  Every call is wrapped
in `ESP_ERROR_CHECK`, which aborts the firmware on an error code.
-/

namespace CarCleaner
namespace Firmware

open Foundation

/-- Events that end a task for good. -/
inductive Fault where
  /-- Signed 32-bit overflow, undefined behaviour in C. -/
  | int32Overflow
  /-- `ESP_ERROR_CHECK` saw an error code and aborted. -/
  | espErrorCheck
deriving DecidableEq, Repr

inductive ForceLevel where
  /-- Level `-1`: the pin follows the PWM signal. -/
  | released
  /-- Level `0`: the pin is held low. -/
  | low
deriving DecidableEq, Repr

def checked (x : Int) : Except Fault Int :=
  int32 Fault.int32Overflow x

theorem checked_eq_ok {x : Int} (hlow : -2147483648 ≤ x)
    (hhigh : x ≤ 2147483647) : checked x = .ok x :=
  int32_eq_ok Fault.int32Overflow hlow hhigh

/--
`ESP_ERROR_CHECK(mcpwm_comparator_set_compare_value(cmpr, ticks))` on a timer
with the given period: the value stored in the comparator, or an abort.
-/
def setCompareValue (periodTicks ticks : Nat) : Except Fault Nat :=
  if ticks ≤ periodTicks then .ok ticks else .error Fault.espErrorCheck

theorem setCompareValue_eq_ok {periodTicks ticks : Nat}
    (h : ticks ≤ periodTicks) :
    setCompareValue periodTicks ticks = .ok ticks := by
  rw [setCompareValue, if_pos h]

end Firmware
end CarCleaner
