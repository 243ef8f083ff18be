import CarCleaner.Foundation.Run
import CarCleaner.Firmware.EspErr
import CarCleaner.Firmware.EventGroup

/-!
# The Wi-Fi event handler

`wifi_handler` connects the station, marks the running image as valid once there
is an address, and sets the status bit.  `wifi_init` registers it for all Wi-Fi
events but for one IP event only.
-/

namespace CarCleaner
namespace Wifi

open Foundation
open Firmware

/-- Events of the bases `WIFI_EVENT` and `IP_EVENT`. -/
inductive WifiEvent where
  | staStart
  | staConnected
  | staDisconnected
  | otherWifi
  | staGotIp (ip : List UInt8)
  | staLostIp
  | otherIp
deriving DecidableEq, Repr

/-- What the driver answers to the calls of the handler. -/
structure WifiDriver where
  connect : EspErr
  markAppValid : EspErr
deriving DecidableEq, Repr

inductive WifiCall where
  | logInfo (tag text : String)
  | logError (tag text : String)
  | espWifiConnect
  | espOtaMarkAppValidCancelRollback
deriving DecidableEq, Repr

def tag : String := "wifi"

/-- `IPSTR` with `IP2STR`. -/
def ipText (ip : List UInt8) : String :=
  String.intercalate "." (ip.map toString)

/-- `wifi_handler`, with the calls it makes. -/
def wifiHandler (driver : WifiDriver) (eTasks : EventGroup) :
    WifiEvent -> Except Fault (EventGroup × List WifiCall)
  | .staStart => do
      espErrorCheck driver.connect
      pure (eTasks, [.logInfo tag "WIFI_EVENT_STA_START", .espWifiConnect])
  | .staConnected => pure (eTasks, [.logInfo tag "WIFI_EVENT_STA_CONNECTED"])
  | .staDisconnected =>
      let calls := [.logError tag "WIFI_EVENT_STA_DISCONNECTED", .espWifiConnect]
      if driver.connect ≠ .ok ∧ driver.connect ≠ .wifiNotStarted then
        pure
          (eTasks,
            calls ++
              [.logError "WIFI" ("Connection failed: " ++ toString driver.connect.code)])
      else
        pure (eTasks, calls)
  | .otherWifi => pure (eTasks, [])
  | .staGotIp ip => do
      espErrorCheck driver.markAppValid
      pure
        (eTasks.setBit .wifiBitGotIp,
          [.logInfo tag ("IP which we got:" ++ ipText ip), .espOtaMarkAppValidCancelRollback])
  | .staLostIp => pure (eTasks, [.logError tag "IP_EVENT_STA_LOST_IP"])
  | .otherIp => pure (eTasks, [])

/-- The events that `wifi_init` registers the handler for. -/
def registered : WifiEvent -> Bool
  | .staLostIp => false
  | .otherIp => false
  | _ => true

/-- The event loop: an event without a handler has no effect. -/
def deliver (driver : WifiDriver) (eTasks : EventGroup) (event : WifiEvent) :
    Except Fault (EventGroup × List WifiCall) :=
  if registered event then wifiHandler driver eTasks event else pure (eTasks, [])

/-!
# The status bit

The handler has one effect on the event group: an address sets the bit.
-/

def WifiEvent.GotIp : WifiEvent -> Prop
  | .staGotIp _ => True
  | _ => False

theorem deliver_eTasks {driver : WifiDriver} {eTasks eTasks' : EventGroup}
    {event : WifiEvent} {calls : List WifiCall}
    (h : deliver driver eTasks event = .ok (eTasks', calls)) :
    (event.GotIp ∧ eTasks' = eTasks.setBit .wifiBitGotIp) ∨
      (¬ event.GotIp ∧ eTasks' = eTasks) := by
  cases event with
  | staStart =>
      rcases bind_eq_ok h with ⟨_, _, hpure⟩
      cases hpure
      exact Or.inr ⟨id, rfl⟩
  | staConnected =>
      cases h
      exact Or.inr ⟨id, rfl⟩
  | staDisconnected =>
      simp only [deliver, wifiHandler, registered, if_true] at h
      split at h
      · cases h
        exact Or.inr ⟨id, rfl⟩
      · cases h
        exact Or.inr ⟨id, rfl⟩
  | otherWifi =>
      cases h
      exact Or.inr ⟨id, rfl⟩
  | staGotIp ip =>
      rcases bind_eq_ok h with ⟨_, _, hpure⟩
      cases hpure
      exact Or.inl ⟨trivial, rfl⟩
  | staLostIp =>
      cases h
      exact Or.inr ⟨id, rfl⟩
  | otherIp =>
      cases h
      exact Or.inr ⟨id, rfl⟩

/-- The bit is set when it was set before or an address has arrived; nothing clears it. -/
theorem mem_deliver_iff {driver : WifiDriver} {eTasks eTasks' : EventGroup}
    {event : WifiEvent} {calls : List WifiCall}
    (h : deliver driver eTasks event = .ok (eTasks', calls)) :
    EventBit.wifiBitGotIp ∈ eTasks' <->
      event.GotIp ∨ EventBit.wifiBitGotIp ∈ eTasks := by
  rcases deliver_eTasks h with ⟨hip, rfl⟩ | ⟨hip, rfl⟩
  · simp [hip, EventGroup.setBit]
  · simp [hip]

end Wifi
end CarCleaner
