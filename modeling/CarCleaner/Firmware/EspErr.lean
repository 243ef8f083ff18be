import CarCleaner.Firmware.Mcpwm

/-!
# Error codes

The drivers report by an `esp_err_t`.  The firmware tells a few codes apart and
prints the others.
-/

namespace CarCleaner
namespace Firmware

/-- `esp_err_t`, with a name for each code that the firmware mentions. -/
inductive EspErr where
  | ok
  | wifiNotStarted
  | httpsOtaInProgress
  | other (code : Int)
deriving DecidableEq, Repr

def EspErr.code : EspErr -> Int
  | .ok => 0
  | .wifiNotStarted => 0x3002
  | .httpsOtaInProgress => 0x9001
  | .other code => code

/-- `ESP_ERROR_CHECK`. -/
def espErrorCheck : EspErr -> Except Fault Unit
  | .ok => .ok ()
  | _ => .error Fault.espErrorCheck

end Firmware
end CarCleaner
