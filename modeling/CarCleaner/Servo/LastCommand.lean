import CarCleaner.Foundation.Histories
import CarCleaner.Servo.Task

/-!
# The last command of the servo

The handler does not wait for room in `q_servo_angle`: an angle that meets a full
queue is dropped.  Once the queue is empty and the task waits again, the servo
stands at the newest angle among those that found room.
-/

namespace CarCleaner
namespace Servo

open Foundation
open Firmware
open Mqtt

def servoAfter (reason : ResetReason) (eTasks : EventGroup) (history : List ServoInput) :
    Except Fault ServoSystem :=
  outcomeAfter (systemStep reason) (ServoSystem.boot eTasks) history

/-- No run is cut short by a fault. -/
theorem servoAfter_ok (reason : ResetReason) (eTasks : EventGroup)
    (history : List ServoInput) :
    exists sys, servoAfter reason eTasks history = .ok sys ∧ ServoSafe sys := by
  induction history using List.reverseRecOn with
  | nil =>
      exact ⟨_, rfl, servoSafe_boot eTasks⟩
  | append_singleton past i ih =>
      rcases ih with ⟨sys, hsys, hsafe⟩
      rcases systemStep_ok hsafe reason i with ⟨next, hnext, hsafe'⟩
      refine ⟨next, ?_, hsafe'⟩
      rw [servoAfter, outcomeAfter_snoc, <- servoAfter, hsys, ok_bind, hnext]

/-!
# Commands
-/

/-- The clamped angle of a `car/servo` message. -/
def commandedAngle : ServoInput -> Option Int
  | .event (.data topic payload) =>
      if snprintfBytes 128 topic = literal "car/servo" then
        some (clampedAtoi 0 180 (snprintfBytes 256 payload))
      else
        none
  | _ => none

/-- The angles of the `car/servo` messages of a history, oldest first. -/
def handledAngles (history : List ServoInput) : List Int :=
  history.filterMap commandedAngle

/-- The angle of a message that finds room in the queue. -/
def acceptedAngle (sys : ServoSystem) (i : ServoInput) : List Int :=
  if sys.hiveMQ.qServoAngle.items.length < 5 then (commandedAngle i).toList else []

def acceptedAngles (reason : ResetReason) (eTasks : EventGroup)
    (history : List ServoInput) : List Int :=
  observations (systemStep reason) acceptedAngle (ServoSystem.boot eTasks) history

/-- An event adds to the queue the accepted angle and nothing else. -/
theorem items_handler (reason : ResetReason) (sys : ServoSystem) (event : MqttEvent) :
    (mqttsHiveMQHandler reason sys.hiveMQ event).1.qServoAngle.items =
      sys.hiveMQ.qServoAngle.items ++ acceptedAngle sys (.event event) := by
  cases event with
  | data topic payload =>
      simp only [mqttsHiveMQHandler, qServoAngle_dataCase, acceptedAngle, commandedAngle]
      by_cases htopic : snprintfBytes 128 topic = literal "car/servo"
      · rw [if_pos htopic, if_pos htopic, BoundedQueue.items_sendOrDrop]
        split
        · rfl
        · rw [List.append_nil]
      · rw [if_neg htopic, if_neg htopic]
        simp
  | connected => simp [mqttsHiveMQHandler, acceptedAngle, commandedAngle]
  | subscribed msgId => simp [mqttsHiveMQHandler, acceptedAngle, commandedAngle]
  | error => simp [mqttsHiveMQHandler, acceptedAngle, commandedAngle]
  | disconnected => simp [mqttsHiveMQHandler, acceptedAngle, commandedAngle]
  | other => simp [mqttsHiveMQHandler, acceptedAngle, commandedAngle]

theorem acceptedAngle_step (sys : ServoSystem) : acceptedAngle sys .step = [] := by
  simp [acceptedAngle, commandedAngle]

/-!
# The transitions of the task
-/

/-- What a step of the task can do; a received angle is the first one of the queue. -/
inductive ServoTransition (sys : ServoSystem) : ServoSystem -> Prop where
  | waited : ServoTransition sys sys
  | received (angle : Int) (rest : BoundedQueue Int 5)
      (hitems : sys.hiveMQ.qServoAngle.items = angle :: rest.items) :
      ServoTransition sys
        { hiveMQ := { sys.hiveMQ with qServoAngle := rest }
          servo := { sys.servo with phase := .applying, angle := angle } }
  | applied (hphase : sys.servo.phase = .applying) :
      ServoTransition sys
        { sys with
          servo :=
            { sys.servo with phase := .pausing, servoCmpr := dutyOf sys.servo.angle } }
  | paused (hphase : sys.servo.phase = .pausing) :
      ServoTransition sys { sys with servo := { sys.servo with phase := .receiving } }

theorem transition_of_servoStep {sys next : ServoSystem} (hsafe : ServoSafe sys)
    (hstep : servoStep sys = .ok next) : ServoTransition sys next := by
  unfold servoStep at hstep
  cases hphase : sys.servo.phase with
  | receiving =>
      simp only [hphase] at hstep
      cases hreceive : sys.hiveMQ.qServoAngle.receive? with
      | none =>
          simp only [hreceive] at hstep
          cases hstep
          exact .waited
      | some taken =>
          rcases taken with ⟨angle, rest⟩
          simp only [hreceive] at hstep
          cases hstep
          exact .received angle rest (BoundedQueue.items_of_receive?_some hreceive)
  | applying =>
      simp only [hphase, setAngle_eq hsafe.angle_mem.1 hsafe.angle_mem.2] at hstep
      cases hstep
      exact .applied hphase
  | pausing =>
      simp only [hphase] at hstep
      cases hstep
      exact .paused hphase

/-!
# Where the newest accepted angle is

It waits at the end of the queue, or it is the one being applied, or the servo
already stands there.
-/

/-- Where the angle is that has been accepted last. -/
inductive Settling (angle : Int) (sys : ServoSystem) : Prop where
  | waiting (h : sys.hiveMQ.qServoAngle.items.getLast? = some angle)
  | applying (hempty : sys.hiveMQ.qServoAngle.items = [])
      (hphase : sys.servo.phase = .applying) (h : sys.servo.angle = angle)
  | settled (hempty : sys.hiveMQ.qServoAngle.items = [])
      (hphase : sys.servo.phase ≠ .applying) (h : sys.servo.servoCmpr = dutyOf angle)

theorem Settling.handler {angle : Int} {sys : ServoSystem} (h : Settling angle sys)
    (reason : ResetReason) {event : MqttEvent}
    (haccepted : acceptedAngle sys (.event event) = []) :
    Settling angle
      { sys with hiveMQ := (mqttsHiveMQHandler reason sys.hiveMQ event).1 } := by
  have hitems := items_handler reason sys event
  rw [haccepted, List.append_nil] at hitems
  cases h with
  | waiting h =>
      exact .waiting (hitems ▸ h)
  | applying hempty hphase h =>
      exact .applying (hitems.trans hempty) hphase h
  | settled hempty hphase h =>
      exact .settled (hitems.trans hempty) hphase h

theorem Settling.step {angle : Int} {sys next : ServoSystem} (h : Settling angle sys)
    (hsafe : ServoSafe sys) (hstep : servoStep sys = .ok next) : Settling angle next := by
  cases transition_of_servoStep hsafe hstep with
  | waited =>
      exact h
  | received x rest hitems =>
      cases h with
      | waiting h =>
          rw [hitems] at h
          cases hrest : rest.items with
          | nil =>
              rw [hrest] at h
              exact .applying hrest rfl (Option.some.inj h)
          | cons y ys =>
              rw [hrest, List.getLast?_cons_cons] at h
              exact .waiting (hrest ▸ h)
      | applying hempty _ h =>
          rw [hitems] at hempty
          cases hempty
      | settled hempty _ h =>
          rw [hitems] at hempty
          cases hempty
  | applied hphase =>
      cases h with
      | waiting h =>
          exact .waiting h
      | applying hempty _ h =>
          refine .settled hempty (fun hother => by cases hother) ?_
          rw [h]
      | settled hempty hother _ =>
          exact absurd hphase hother
  | paused hphase =>
      cases h with
      | waiting h =>
          exact .waiting h
      | applying hempty hother _ =>
          rw [hphase] at hother
          cases hother
      | settled hempty _ h =>
          exact .settled hempty (fun hother => by cases hother) h

theorem items_servoStep_of_nil {sys next : ServoSystem} (hsafe : ServoSafe sys)
    (hempty : sys.hiveMQ.qServoAngle.items = []) (hstep : servoStep sys = .ok next) :
    next.hiveMQ.qServoAngle.items = [] := by
  cases transition_of_servoStep hsafe hstep with
  | waited =>
      exact hempty
  | received angle rest hitems =>
      rw [hempty] at hitems
      cases hitems
  | applied =>
      exact hempty
  | paused =>
      exact hempty

/-!
# The last command of a run

The first message always finds room, so some angle has been accepted as soon as
one has been handled.
-/

structure CommandsKept (handled accepted : List Int) (sys : ServoSystem) : Prop where
  safe : ServoSafe sys
  none_accepted : accepted = [] ->
    handled = [] ∧ sys.hiveMQ.qServoAngle.items = []
  settling : forall angle, accepted.getLast? = some angle -> Settling angle sys

theorem commandsKept_event {handled accepted : List Int} {sys : ServoSystem}
    (h : CommandsKept handled accepted sys) (reason : ResetReason) (event : MqttEvent) :
    CommandsKept (handled ++ (commandedAngle (.event event)).toList)
      (accepted ++ acceptedAngle sys (.event event))
      { sys with hiveMQ := (mqttsHiveMQHandler reason sys.hiveMQ event).1 } := by
  have hitems := items_handler reason sys event
  constructor
  · exact ⟨mqttsHiveMQHandler_anglesClamped h.safe.waiting reason event,
      h.safe.angle_mem, h.safe.servoCmpr_mem⟩
  · intro hnone
    rcases List.append_eq_nil_iff.mp hnone with ⟨hpast, hnew⟩
    rcases h.none_accepted hpast with ⟨hhandled, hempty⟩
    have hcommand : (commandedAngle (.event event)).toList = [] := by
      rw [acceptedAngle, hempty, if_pos (by decide)] at hnew
      exact hnew
    rw [hhandled, hcommand, hitems, hempty, hnew]
    exact ⟨rfl, rfl⟩
  · intro angle hlast
    cases hnew : acceptedAngle sys (.event event) with
    | nil =>
        rw [hnew, List.append_nil] at hlast
        exact (h.settling angle hlast).handler reason hnew
    | cons x xs =>
        rw [hnew, List.getLast?_append_of_ne_nil _ (List.cons_ne_nil x xs)] at hlast
        refine .waiting ?_
        rw [hitems, hnew, List.getLast?_append_of_ne_nil _ (List.cons_ne_nil x xs)]
        exact hlast

theorem commandsKept_servoAfter {reason : ResetReason} {eTasks : EventGroup}
    {history : List ServoInput} {sys : ServoSystem}
    (hs : servoAfter reason eTasks history = .ok sys) :
    CommandsKept (handledAngles history) (acceptedAngles reason eTasks history) sys := by
  refine reached_invariant
    (fun history sys =>
      CommandsKept (handledAngles history) (acceptedAngles reason eTasks history) sys)
    ⟨servoSafe_boot eTasks, fun _ => ⟨rfl, rfl⟩, by simp [acceptedAngles, observations]⟩
    ?_ hs
  intro past i sys next hpast hkept hstep
  have haccepted : acceptedAngles reason eTasks (past ++ [i]) =
      acceptedAngles reason eTasks past ++ acceptedAngle sys i :=
    observations_snoc i acceptedAngle hpast
  have hhandled : handledAngles (past ++ [i]) =
      handledAngles past ++ (commandedAngle i).toList :=
    filterMap_snoc commandedAngle past i
  rw [haccepted, hhandled]
  cases i with
  | event event =>
      cases hstep
      exact commandsKept_event hkept reason event
  | step =>
      rw [acceptedAngle_step, List.append_nil]
      simp only [commandedAngle, Option.toList_none, List.append_nil]
      rcases servoStep_ok hkept.safe with ⟨next', hnext, hsafe⟩
      have heq : next' = next := Except.ok.inj (hnext.symm.trans hstep)
      subst heq
      refine ⟨hsafe, ?_, ?_⟩
      · intro hnone
        rcases hkept.none_accepted hnone with ⟨hnil, hempty⟩
        exact ⟨hnil, items_servoStep_of_nil hkept.safe hempty hnext⟩
      · intro angle hlast
        exact (hkept.settling angle hlast).step hkept.safe hnext

theorem servoCmpr_eq_last_accepted {reason : ResetReason} {eTasks : EventGroup}
    {history : List ServoInput} {sys : ServoSystem}
    (hs : servoAfter reason eTasks history = .ok sys)
    (hhandled : handledAngles history ≠ [])
    (hempty : sys.hiveMQ.qServoAngle.items = []) (hwait : sys.servo.phase = .receiving) :
    exists angle, (acceptedAngles reason eTasks history).getLast? = some angle ∧
      sys.servo.servoCmpr = dutyOf angle := by
  have hkept := commandsKept_servoAfter hs
  cases hlast : (acceptedAngles reason eTasks history).getLast? with
  | none =>
      have hnone := List.getLast?_eq_none_iff.mp hlast
      exact absurd (hkept.none_accepted hnone).1 hhandled
  | some angle =>
      refine ⟨angle, rfl, ?_⟩
      cases hkept.settling angle hlast with
      | waiting h =>
          rw [hempty] at h
          cases h
      | applying _ hphase _ =>
          rw [hwait] at hphase
          cases hphase
      | settled _ _ h =>
          exact h

/-- A `car/servo` message with the given payload. -/
def servoMessage (payload : String) : ServoInput :=
  .event (.data (literal "car/servo") (literal payload))

/-- Six messages in one burst, and as many steps as the task needs for what it received. -/
def burstRun : List ServoInput :=
  (["10", "20", "30", "40", "50", "60"].map servoMessage) ++ List.replicate 15 .step

/-- The sixth message is lost: the servo ends at 50 degrees. -/
theorem burst_loses_last_command :
    exists sys, servoAfter .powerOn ∅ burstRun = .ok sys ∧
      sys.hiveMQ.qServoAngle.items = [] ∧ sys.servo.phase = .receiving ∧
      (handledAngles burstRun).getLast? = some 60 ∧
      sys.servo.servoCmpr = dutyOf 50 ∧ dutyOf 50 ≠ dutyOf 60 := by
  exact ⟨_, rfl, by decide +kernel, by decide +kernel, by decide +kernel,
    by decide +kernel, by decide⟩

theorem servoCmpr_eq_last_accepted_burst :
    exists sys, servoAfter .powerOn ∅ burstRun = .ok sys ∧
      exists angle, (acceptedAngles .powerOn ∅ burstRun).getLast? = some angle ∧
        sys.servo.servoCmpr = dutyOf angle :=
  ⟨_, rfl, servoCmpr_eq_last_accepted rfl (by decide +kernel) (by decide +kernel)
    (by decide +kernel)⟩

end Servo
end CarCleaner
