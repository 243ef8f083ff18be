import Mathlib.Data.List.Defs

/-!
# Tasks and queues

The names of what `app_main` creates: the queues through which the tasks and the
event handlers talk to each other, and the tasks themselves.
-/

namespace CarCleaner
namespace Firmware

inductive QueueName where
  | qLogs
  | qOtaLevel
  | qSpeed
  | qDistance
  | qDistancePid
  | qServoAngle
  | qTime
  | qAngle
deriving DecidableEq, Repr

inductive TaskName where
  | espLogsPapertrailTask
  | otaTask
  | motorTask
  | servoMotorTask
  | gyroscopeAccelerometerTask
  | uartTask
  | oledTask
deriving DecidableEq, Repr

/-- The tasks in the order of their creation. -/
def TaskName.all : List TaskName :=
  [.espLogsPapertrailTask, .otaTask, .motorTask, .servoMotorTask,
    .gyroscopeAccelerometerTask, .uartTask, .oledTask]

end Firmware
end CarCleaner
