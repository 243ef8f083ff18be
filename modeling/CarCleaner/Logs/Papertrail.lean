import CarCleaner.Foundation.BoundedQueue
import CarCleaner.Foundation.CString
import CarCleaner.Foundation.WrappedBuffer
import CarCleaner.Wifi.Handler

/-!
# Logs on their way to the server

`new_hook_papertrail_function` receives every log of the firmware.  It puts the
log into the queue `q_logs` when the socket can be used, and otherwise into the
buffer of early logs.  `esp_logs_papertrail_task` empties both.  The hook, the
Wi-Fi handler and the task share one state, and a run interleaves their steps.
-/

namespace CarCleaner
namespace Logs

open Foundation
open Firmware
open Wifi

def earlyLogSize : Nat := 128

def earlyLogBufSize : Nat := 64

/-- Program points of `esp_logs_papertrail_task`, its initialisation included. -/
inductive SenderPoint where
  | waitingForIp
  | creatingSocket
  | waitingForBit
  | receiving
  | draining
  | sending
deriving DecidableEq, Repr

/--
The static variables of the module, the queue and event group it uses, the
program point of the task and what has left the board: the texts on `uart0` and
the datagrams.
-/
structure LogSystem where
  sock : Int
  earlyLogBuf : WrappedBuffer (CharArray earlyLogSize) earlyLogBufSize
  qLogs : BoundedQueue (CharArray 256) 10
  eTasks : EventGroup
  point : SenderPoint
  logBuffer : CharArray 256
  isNewData : Bool
  uart0 : List (List UInt8)
  sent : List (List UInt8)
deriving DecidableEq

def LogSystem.boot : LogSystem where
  sock := -1
  earlyLogBuf :=
    { slots := List.replicate earlyLogBufSize (CharArray.zeros earlyLogSize)
      next := 0
      capacity_pos := by decide
      length_eq := List.length_replicate
      next_le := Nat.zero_le _ }
  qLogs := BoundedQueue.empty
  eTasks := ∅
  point := .waitingForIp
  logBuffer := CharArray.zeros 256
  isNewData := false
  uart0 := []
  sent := []

/-- The same state beside another event group. -/
def LogSystem.withBits (s : LogSystem) (eTasks : EventGroup) : LogSystem :=
  { s with eTasks := eTasks }

/-- The test of the hook: there is a socket and the Wi-Fi bit is set. -/
def LogSystem.Online (s : LogSystem) : Prop :=
  0 ≤ s.sock ∧ EventBit.wifiBitGotIp ∈ s.eTasks

instance (s : LogSystem) : Decidable s.Online :=
  inferInstanceAs (Decidable (_ ∧ _))

/--
`new_hook_papertrail_function` for a log that formats to `text`; `stack` is the
fresh `log_buffer` of the call, with whatever the stack held.  The old output
goes first; a full queue loses the log.
-/
def newHookPapertrailFunction (s : LogSystem) (text : List UInt8)
    (stack : CharArray 256) : LogSystem :=
  let s := { s with uart0 := s.uart0 ++ [text] }
  if s.Online then
    { s with qLogs := s.qLogs.sendOrDrop (stack.vsnprintf text) }
  else
    { s with earlyLogBuf := s.earlyLogBuf.store fun slot => slot.vsnprintf text }

/--
One step of `esp_logs_papertrail_task`; `socket` is what `socket` returns if the
step calls it.  The drain loop is one step.  The logs of the task itself are
calls of the hook like all others.
-/
def espLogsPapertrailTask (s : LogSystem) (socket : Int) : LogSystem :=
  match s.point with
  | .waitingForIp =>
      if .wifiBitGotIp ∈ s.eTasks then { s with point := .creatingSocket } else s
  | .creatingSocket => { s with sock := socket, point := .waitingForBit }
  | .waitingForBit =>
      if .wifiBitGotIp ∈ s.eTasks then { s with point := .receiving } else s
  | .receiving =>
      match s.qLogs.receive? with
      | none => { s with isNewData := false, point := .draining }
      | some (element, rest) =>
          { s with
            qLogs := rest
            logBuffer := element
            isNewData := true
            point := .draining }
  | .draining =>
      if 0 ≤ s.sock then
        { s with
          sent := s.sent ++ s.earlyLogBuf.kept.map CharArray.bytes
          earlyLogBuf := s.earlyLogBuf.reset
          point := .sending }
      else
        { s with point := .waitingForBit }
  | .sending =>
      if s.isNewData then
        { s with sent := s.sent ++ [s.logBuffer.text], point := .waitingForBit }
      else
        { s with point := .waitingForBit }

/-- What happens next: an event of the driver, a log, or a step of the task. -/
inductive LogInput where
  | wifi (event : WifiEvent) (driver : WifiDriver)
  | log (text : List UInt8) (stack : CharArray 256)
  | sender (socket : Int)
deriving DecidableEq

def logStep (s : LogSystem) : LogInput -> Except Fault LogSystem
  | .wifi event driver => do
      let (eTasks, _) <- deliver driver s.eTasks event
      pure { s with eTasks := eTasks }
  | .log text stack => pure (newHookPapertrailFunction s text stack)
  | .sender socket => pure (espLogsPapertrailTask s socket)

def logsAfter (history : List LogInput) : Except Fault LogSystem :=
  outcomeAfter logStep LogSystem.boot history

/-!
# Steps

A Wi-Fi event changes the event group only, and the Wi-Fi bit only upwards.  A
call of the hook changes one of the two buffers.
-/

theorem logStep_wifi {s s' : LogSystem} {event : WifiEvent} {driver : WifiDriver}
    (h : logStep s (.wifi event driver) = .ok s') :
    exists eTasks, s' = { s with eTasks := eTasks } ∧
      (EventBit.wifiBitGotIp ∈ eTasks <->
        event.GotIp ∨ EventBit.wifiBitGotIp ∈ s.eTasks) := by
  rcases bind_eq_ok h with ⟨⟨eTasks, calls⟩, hdeliver, hpure⟩
  cases hpure
  exact ⟨eTasks, rfl, mem_deliver_iff hdeliver⟩

theorem newHookPapertrailFunction_of_online {s : LogSystem} (h : s.Online)
    (text : List UInt8) (stack : CharArray 256) :
    newHookPapertrailFunction s text stack =
      { s with
        uart0 := s.uart0 ++ [text]
        qLogs := s.qLogs.sendOrDrop (stack.vsnprintf text) } :=
  if_pos h

theorem newHookPapertrailFunction_of_not_online {s : LogSystem} (h : ¬ s.Online)
    (text : List UInt8) (stack : CharArray 256) :
    newHookPapertrailFunction s text stack =
      { s with
        uart0 := s.uart0 ++ [text]
        earlyLogBuf := s.earlyLogBuf.store fun slot => slot.vsnprintf text } :=
  if_neg h

/-- The task only reads the event group. -/
theorem eTasks_espLogsPapertrailTask (s : LogSystem) (socket : Int) :
    (espLogsPapertrailTask s socket).eTasks = s.eTasks := by
  unfold espLogsPapertrailTask
  split
  · split <;> rfl
  · rfl
  · split <;> rfl
  · split <;> rfl
  · split <;> rfl
  · split <;> rfl

end Logs
end CarCleaner
