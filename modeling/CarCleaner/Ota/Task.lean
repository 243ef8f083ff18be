import CarCleaner.Foundation.BoundedQueue
import CarCleaner.Foundation.Histories
import CarCleaner.Foundation.MachineNumbers
import CarCleaner.Firmware.EspErr
import CarCleaner.Firmware.EventGroup

/-!
# The update task

`ota_task` waits for the update bit, downloads an image with the HTTPS OTA library
and restarts the board.  On the way it sends the percents of the download to
`q_ota_level`, and `write_ota_update` takes one of them into every frame that
`oled_task` draws during the download.  Task, display and library interleave in one
system, whose trace records what the calls returned and what was drawn.
-/

namespace CarCleaner
namespace Ota

open Foundation
open Firmware

inductive OtaFault where
  /-- Signed 32-bit overflow, undefined behaviour in C. -/
  | int32Overflow
  | integerDivideByZero
deriving DecidableEq, Repr

/-- `(esp_https_ota_get_image_len_read(ota_handle) * 100) / update_size`. -/
def otaPercentOf (lenRead : Int) (updateSize : Nat) : Except OtaFault Nat := do
  let scaled <- int32 OtaFault.int32Overflow (lenRead * 100)
  if updateSize = 0 then
    throw OtaFault.integerDivideByZero
  else
    pure (uint32OfInt scaled / updateSize)

/-- Program points of `ota_task`; after `esp_restart` there is no other. -/
inductive OtaPoint where
  | waiting
  | beginning
  | performing
  | sending
  | finishing
  | pausing
  | restarted
deriving DecidableEq, Repr

/-- What happened, with the handles passed to the library and the codes it returned. -/
inductive OtaEvent where
  | began (handle : Nat) (err : EspErr)
  | performed (handle : Nat) (err : EspErr)
  | sentPercent (percent : Nat)
  | finished (handle : Nat) (err : EspErr)
  | restart
  | drewPercent (percent : Nat)
deriving DecidableEq, Repr

/--
The variables of `ota_task`, the static percent of `write_ota_update` with the
program point of the frame, and what they share.
-/
structure OtaSystem where
  point : OtaPoint
  otaHandle : Nat
  updateSize : Nat
  otaPercent : Nat
  inFrame : Bool
  otaPercentUint : Nat
  eTasks : EventGroup
  qOtaLevel : BoundedQueue Nat 5
  trace : List OtaEvent
deriving DecidableEq

def OtaSystem.boot (eTasks : EventGroup) : OtaSystem where
  point := .waiting
  otaHandle := 0
  updateSize := 0
  otaPercent := 0
  inFrame := false
  otaPercentUint := 0
  eTasks := eTasks
  qOtaLevel := BoundedQueue.empty
  trace := []

def OtaSystem.withBits (s : OtaSystem) (eTasks : EventGroup) : OtaSystem :=
  { s with eTasks := eTasks }

structure OtaAnswer where
  err : EspErr
  handle : Nat
  imageSize : Int
  lenRead : Int
deriving DecidableEq, Repr

/--
One step of `ota_task`: at most one call that returns a code, with the code that
follows it.  The send waits 10 ms for room, so the step stands for its end.
-/
def otaTask (s : OtaSystem) (answer : OtaAnswer) : Except OtaFault OtaSystem :=
  match s.point with
  | .waiting =>
      if .mqttGotUpdate ∈ s.eTasks then
        pure { s with eTasks := s.eTasks.clearBit .mqttGotUpdate, point := .beginning }
      else
        pure s
  | .beginning =>
      let trace := s.trace ++ [.began answer.handle answer.err]
      if answer.err ≠ .ok then
        pure { s with otaHandle := answer.handle, trace := trace, point := .pausing }
      else
        pure
          { s with
            otaHandle := answer.handle
            trace := trace
            eTasks := s.eTasks.setBit .otaBitInProgress
            updateSize := uint32OfInt answer.imageSize
            point := .performing }
  | .performing =>
      let trace := s.trace ++ [.performed s.otaHandle answer.err]
      if answer.err = .httpsOtaInProgress then do
        let otaPercent <- otaPercentOf answer.lenRead s.updateSize
        pure { s with trace := trace, otaPercent := otaPercent, point := .sending }
      else
        pure
          { s with
            trace := trace
            eTasks := s.eTasks.clearBit .otaBitInProgress
            point := .finishing }
  | .sending =>
      pure
        { s with
          trace := s.trace ++ [.sentPercent s.otaPercent]
          qOtaLevel := s.qOtaLevel.sendOrDrop s.otaPercent
          point := .performing }
  | .finishing =>
      let trace := s.trace ++ [.finished s.otaHandle answer.err]
      if answer.err = .ok then
        pure { s with trace := trace ++ [.restart], point := .restarted }
      else
        pure { s with trace := trace, point := .pausing }
  | .pausing => pure { s with point := .waiting }
  | .restarted => pure s

/--
One step of a frame of `oled_task`, as far as the update is concerned: the bits are
read, or `write_ota_update` receives for at most 10 ms and draws its percent.
-/
def oledFrame (s : OtaSystem) : OtaSystem :=
  if s.inFrame then
    match s.qOtaLevel.receive? with
    | none =>
        { s with inFrame := false, trace := s.trace ++ [.drewPercent s.otaPercentUint] }
    | some (percent, rest) =>
        { s with
          inFrame := false
          otaPercentUint := percent
          qOtaLevel := rest
          trace := s.trace ++ [.drewPercent percent] }
  else if .otaBitInProgress ∈ s.eTasks then
    { s with inFrame := true }
  else
    s

/-- The update bit is set, `ota_task` takes a step, or a frame does. -/
inductive OtaInput where
  | gotUpdate
  | ota (answer : OtaAnswer)
  | oled
deriving DecidableEq, Repr

/-- A restart ends the run of all tasks. -/
def otaStep (s : OtaSystem) (i : OtaInput) : Except OtaFault OtaSystem :=
  if s.point = .restarted then
    pure s
  else
    match i with
    | .gotUpdate => pure { s with eTasks := s.eTasks.setBit .mqttGotUpdate }
    | .ota answer => otaTask s answer
    | .oled => pure (oledFrame s)

def otaAfter (eTasks : EventGroup) (history : List OtaInput) : Except OtaFault OtaSystem :=
  outcomeAfter otaStep (OtaSystem.boot eTasks) history

/-!
# The transitions of the task
-/

/-- What a step of `ota_task` can do, with the point and the code that it is for. -/
inductive OtaTransition (s : OtaSystem) (answer : OtaAnswer) : OtaSystem -> Prop where
  | stayed : OtaTransition s answer s
  | woken (hpoint : s.point = .waiting) :
      OtaTransition s answer
        { s with eTasks := s.eTasks.clearBit .mqttGotUpdate, point := .beginning }
  | beginFailed (hpoint : s.point = .beginning) (herr : answer.err ≠ .ok) :
      OtaTransition s answer
        { s with
          otaHandle := answer.handle
          trace := s.trace ++ [.began answer.handle answer.err]
          point := .pausing }
  | began (hpoint : s.point = .beginning) (herr : answer.err = .ok) :
      OtaTransition s answer
        { s with
          otaHandle := answer.handle
          trace := s.trace ++ [.began answer.handle .ok]
          eTasks := s.eTasks.setBit .otaBitInProgress
          updateSize := uint32OfInt answer.imageSize
          point := .performing }
  | received (hpoint : s.point = .performing) (herr : answer.err = .httpsOtaInProgress)
      (percent : Nat) :
      OtaTransition s answer
        { s with
          trace := s.trace ++ [.performed s.otaHandle .httpsOtaInProgress]
          otaPercent := percent
          point := .sending }
  | downloadEnded (hpoint : s.point = .performing)
      (herr : answer.err ≠ .httpsOtaInProgress) :
      OtaTransition s answer
        { s with
          trace := s.trace ++ [.performed s.otaHandle answer.err]
          eTasks := s.eTasks.clearBit .otaBitInProgress
          point := .finishing }
  | sent (hpoint : s.point = .sending) :
      OtaTransition s answer
        { s with
          trace := s.trace ++ [.sentPercent s.otaPercent]
          qOtaLevel := s.qOtaLevel.sendOrDrop s.otaPercent
          point := .performing }
  | restarted (hpoint : s.point = .finishing) (herr : answer.err = .ok) :
      OtaTransition s answer
        { s with
          trace := s.trace ++ [.finished s.otaHandle .ok] ++ [.restart]
          point := .restarted }
  | finishFailed (hpoint : s.point = .finishing) (herr : answer.err ≠ .ok) :
      OtaTransition s answer
        { s with
          trace := s.trace ++ [.finished s.otaHandle answer.err]
          point := .pausing }
  | paused (hpoint : s.point = .pausing) :
      OtaTransition s answer { s with point := .waiting }

theorem transition_of_otaTask {s s' : OtaSystem} {answer : OtaAnswer}
    (hstep : otaTask s answer = .ok s') : OtaTransition s answer s' := by
  unfold otaTask at hstep
  cases hpoint : s.point with
  | waiting =>
      simp only [hpoint] at hstep
      split at hstep
      · cases hstep
        exact .woken hpoint
      · cases hstep
        exact .stayed
  | beginning =>
      simp only [hpoint] at hstep
      split at hstep
      · next herr =>
          cases hstep
          exact .beginFailed hpoint herr
      · next herr =>
          cases hstep
          rw [not_not.mp herr]
          exact .began hpoint (not_not.mp herr)
  | performing =>
      simp only [hpoint] at hstep
      split at hstep
      · next herr =>
          rcases bind_eq_ok hstep with ⟨percent, _, hpure⟩
          cases hpure
          rw [herr]
          exact .received hpoint herr percent
      · next herr =>
          cases hstep
          exact .downloadEnded hpoint herr
  | sending =>
      simp only [hpoint] at hstep
      cases hstep
      exact .sent hpoint
  | finishing =>
      simp only [hpoint] at hstep
      split at hstep
      · next herr =>
          cases hstep
          rw [herr]
          exact .restarted hpoint herr
      · next herr =>
          cases hstep
          exact .finishFailed hpoint herr
  | pausing =>
      simp only [hpoint] at hstep
      cases hstep
      exact .paused hpoint
  | restarted =>
      simp only [hpoint] at hstep
      cases hstep
      exact .stayed

end Ota
end CarCleaner
