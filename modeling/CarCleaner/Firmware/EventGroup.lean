import Mathlib.Data.Finset.Erase
import Mathlib.Data.Finset.Insert

/-!
# The event group of the firmware

All tasks signal each other through the bits of one event group, `e_tasks`.  The
state of the group is the set of its bits that are set.
-/

namespace CarCleaner
namespace Firmware

/-- The bits of `e_tasks`. -/
inductive EventBit where
  | wifiBitGotIp
  | mqttGotUpdate
  | distanceInDiapasone
  | distanceOutDiapasone
  | syncGotTime
  | otaBitInProgress
  | mqttSubscribe
deriving DecidableEq, Repr

abbrev EventGroup : Type :=
  Finset EventBit

namespace EventGroup

/-- `xEventGroupSetBits` with one bit. -/
def setBit (bit : EventBit) (group : EventGroup) : EventGroup :=
  insert bit group

/-- `xEventGroupClearBits` with one bit. -/
def clearBit (bit : EventBit) (group : EventGroup) : EventGroup :=
  group.erase bit

end EventGroup

end Firmware
end CarCleaner
