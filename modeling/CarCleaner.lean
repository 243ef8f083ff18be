import CarCleaner.Foundation.Run
import CarCleaner.Foundation.Watchdog
import CarCleaner.Foundation.MachineNumbers
import CarCleaner.Foundation.LinearFilter
import CarCleaner.Foundation.BoundedQueue
import CarCleaner.Firmware.Mcpwm
import CarCleaner.Motors.Bridge
import CarCleaner.Motors.BridgeTransitions
import CarCleaner.Motors.StuckDetector
import CarCleaner.Motors.Pid
import CarCleaner.Motors.PidRuns
import CarCleaner.Motors.Task
import CarCleaner.Motors.StuckRuns
import CarCleaner.Motors.Stretches
import CarCleaner.Motors.Displacement
import CarCleaner.Motors.DriveRuns
import CarCleaner.Motors.StuckTiming
import CarCleaner.Firmware.EventGroup
import CarCleaner.Foundation.CString
import CarCleaner.Mqtt.Handler
import CarCleaner.Servo.Task
import CarCleaner.Actuators.Safety
import CarCleaner.Firmware.EspErr
import CarCleaner.Firmware.Kernel
import CarCleaner.Foundation.Histories
import CarCleaner.Foundation.WrappedBuffer
import CarCleaner.Logs.Delivery
import CarCleaner.Logs.EarlyRing
import CarCleaner.Mqtt.StatusBit
import CarCleaner.Servo.LastCommand
import CarCleaner.Tasks.SpeedQueue
import CarCleaner.Wifi.StatusBit
import CarCleaner.Oled.Font
import CarCleaner.Oled.Framebuffer
import CarCleaner.Ota.Progress
import CarCleaner.Ota.Restart
import CarCleaner.Tasks.Bits
import CarCleaner.Tasks.Boot
import CarCleaner.Foundation.Rounding
import CarCleaner.Foundation.Formatted
import CarCleaner.Foundation.Circle
import CarCleaner.Foundation.Leftovers
import CarCleaner.Foundation.Writes
import CarCleaner.Angles.Task
import CarCleaner.Angles.FailedReads
import CarCleaner.Angles.Rest
import CarCleaner.Angles.Fusion
import CarCleaner.Angles.Bound
import CarCleaner.Motors.PidSettling
import CarCleaner.Distance.Task
import CarCleaner.Distance.Answers
import CarCleaner.Logs.EarlySlots
import CarCleaner.Oled.RingBlit
import CarCleaner.Oled.Screen
import CarCleaner.Oled.Centring
import CarCleaner.Oled.Layout
import CarCleaner.Oled.OtaUpdate
import CarCleaner.Foundation.ReadBack
import CarCleaner.Mqtt.Messages
import CarCleaner.Foundation.Simulation
import CarCleaner.Foundation.Picture
import CarCleaner.Foundation.Channel
import CarCleaner.Foundation.Fields
import CarCleaner.Foundation.Segments
import CarCleaner.Oled.Image
import CarCleaner.Oled.Task
import CarCleaner.Oled.Overrun
import CarCleaner.Oled.Visible
import CarCleaner.Clock.Calendar
import CarCleaner.Ota.Accounts
import CarCleaner.Angles.Tracking
import CarCleaner.Tasks.Firmware
import CarCleaner.Tasks.Shared
import CarCleaner.Tasks.Parts.Logs
import CarCleaner.Tasks.Parts.Servo
import CarCleaner.Tasks.Parts.Ota
import CarCleaner.Tasks.Parts.Devices
import CarCleaner.Tasks.Parts.Boot
import CarCleaner.Tasks.Parts.Display
import CarCleaner.Tasks.Parts
import CarCleaner.Tasks.Faults
import CarCleaner.Tasks.Drive
import CarCleaner.Tasks.Waiting
import CarCleaner.Tasks.Channels
import CarCleaner.Tasks.Downloads
import CarCleaner.Tasks.Screen
import CarCleaner.Tasks.Time
import CarCleaner.Foundation.Utf8
import CarCleaner.Logs.Server
import CarCleaner.Logs.Progress
import CarCleaner.Tasks.Arrival
