import CarCleaner.Foundation.Histories
import CarCleaner.Firmware.Kernel
import CarCleaner.Mqtt.Handler

/-!
# The queue of motor commands

The MQTT handler sends every speed to `q_speed`.  Whether there is room depends on
what the tasks take out, so this module puts the handler next to the kernel calls
of all seven tasks.  None of them receives from `q_speed`.
-/

namespace CarCleaner
namespace Tasks

open Foundation
open Firmware
open Mqtt

/-!
# Kernel calls of the tasks
-/

/-- A call of the kernel; a sent value is an element, as far as elements are numbers. -/
inductive KernelCall where
  | send (queue : QueueName) (value : Int)
  | receive (queue : QueueName)
  | receiveForever (queue : QueueName)
  | waitBit (bit : EventBit)
  | waitAndClearBit (bit : EventBit)
  | setBit (bit : EventBit)
  | clearBit (bit : EventBit)
deriving DecidableEq, Repr

/-- The calls in the loop of each task.  Every log may send to `q_logs`. -/
def calls : TaskName -> KernelCall -> Bool
  | _, .send .qLogs _ => true
  | .espLogsPapertrailTask, .waitBit .wifiBitGotIp => true
  | .espLogsPapertrailTask, .receive .qLogs => true
  | .otaTask, .waitAndClearBit .mqttGotUpdate => true
  | .otaTask, .setBit .otaBitInProgress => true
  | .otaTask, .send .qOtaLevel _ => true
  | .otaTask, .clearBit .otaBitInProgress => true
  | .motorTask, .receive .qDistancePid => true
  | .servoMotorTask, .receiveForever .qServoAngle => true
  | .gyroscopeAccelerometerTask, .send .qAngle _ => true
  | .uartTask, .send .qDistancePid _ => true
  | .uartTask, .send .qDistance _ => true
  | .oledTask, .receive .qDistance => true
  | .oledTask, .receive .qAngle => true
  | .oledTask, .receive .qOtaLevel => true
  | _, _ => false

inductive Disabled where
  | notInTask
  | blocked
deriving DecidableEq, Repr

def received {capacity : Nat} (q : BoundedQueue Int capacity) :
    Option (BoundedQueue Int capacity) :=
  q.receive?.map Prod.snd

/--
The effect of a call on what the handler and the tasks share.  The queues that the
handler does not use are left out; no task waits for them forever.
-/
def perform (s : HiveMQ) : KernelCall -> Except Disabled HiveMQ
  | .send .qSpeed value => .ok { s with qSpeed := s.qSpeed.sendOrDrop value }
  | .send .qServoAngle value => .ok { s with qServoAngle := s.qServoAngle.sendOrDrop value }
  | .send _ _ => .ok s
  | .receive .qSpeed => .ok { s with qSpeed := (received s.qSpeed).getD s.qSpeed }
  | .receive .qServoAngle =>
      .ok { s with qServoAngle := (received s.qServoAngle).getD s.qServoAngle }
  | .receive _ => .ok s
  | .receiveForever .qSpeed =>
      match received s.qSpeed with
      | none => .error .blocked
      | some rest => .ok { s with qSpeed := rest }
  | .receiveForever .qServoAngle =>
      match received s.qServoAngle with
      | none => .error .blocked
      | some rest => .ok { s with qServoAngle := rest }
  | .receiveForever _ => .ok s
  | .waitBit bit => if bit ∈ s.eTasks then .ok s else .error .blocked
  | .waitAndClearBit bit =>
      if bit ∈ s.eTasks then .ok { s with eTasks := s.eTasks.clearBit bit }
      else .error .blocked
  | .setBit bit => .ok { s with eTasks := s.eTasks.setBit bit }
  | .clearBit bit => .ok { s with eTasks := s.eTasks.clearBit bit }

/-!
# Runs of the whole set of tasks
-/

/-- An event of the client, a call of a task, or the end of an iteration of a task. -/
inductive TaskInput where
  | event (event : MqttEvent)
  | call (task : TaskName) (call : KernelCall)
  | completed (task : TaskName)
deriving DecidableEq, Repr

def taskStep (reason : ResetReason) (s : HiveMQ) : TaskInput -> Except Disabled HiveMQ
  | .event event => .ok (mqttsHiveMQHandler reason s event).1
  | .call task call => if calls task call then perform s call else .error .notInTask
  | .completed _ => .ok s

def tasksAfter (reason : ResetReason) (eTasks : EventGroup) (history : List TaskInput) :
    Except Disabled HiveMQ :=
  outcomeAfter (taskStep reason) (HiveMQ.boot eTasks) history

def commandedSpeed : TaskInput -> Option Int
  | .event (.data topic payload) =>
      if snprintfBytes 128 topic = literal "car/motors" then
        some (clampedAtoi (-255) 255 (snprintfBytes 256 payload))
      else
        none
  | _ => none

def motorCommands (history : List TaskInput) : List Int :=
  history.filterMap commandedSpeed

/-- Every `xQueueSend(q_speed, ...)` of the handler succeeds. -/
def SpeedSendsSucceed (reason : ResetReason) (eTasks : EventGroup)
    (history : List TaskInput) : Prop :=
  EveryInput
    (fun past i =>
      Reached (tasksAfter reason eTasks past) fun s =>
        forall speed, speed ∈ commandedSpeed i -> (s.qSpeed.send? speed).isSome)
    history

instance (reason : ResetReason) (eTasks : EventGroup) (history : List TaskInput) :
    Decidable (SpeedSendsSucceed reason eTasks history) :=
  inferInstanceAs (Decidable (EveryInput _ history))

/-- Every task completes an iteration between any two consecutive `car/motors` messages. -/
def Slow (history : List TaskInput) : Prop :=
  EveryInput
    (fun past i =>
      (commandedSpeed i).isSome -> motorCommands past ≠ [] ->
        forall task, task ∈ TaskName.all ->
          Latched (fun j => j = .completed task) (fun j => (commandedSpeed j).isSome = true)
            past)
    history

instance (history : List TaskInput) : Decidable (Slow history) :=
  inferInstanceAs (Decidable (EveryInput _ history))

/-!
# What is in the queue

No call of a task changes `q_speed`, so it holds the first speeds and no others.
-/

theorem calls_send_qSpeed (task : TaskName) (value : Int) :
    calls task (.send .qSpeed value) = false := by
  cases task <;> rfl

theorem calls_receive_qSpeed (task : TaskName) :
    calls task (.receive .qSpeed) = false ∧ calls task (.receiveForever .qSpeed) = false := by
  cases task <;> exact ⟨rfl, rfl⟩

theorem qSpeed_perform {s s' : HiveMQ} {task : TaskName} {call : KernelCall}
    (hcalls : calls task call = true) (h : perform s call = .ok s') :
    s'.qSpeed = s.qSpeed := by
  cases call with
  | send queue value =>
      cases queue with
      | qSpeed =>
          rw [calls_send_qSpeed] at hcalls
          cases hcalls
      | _ =>
          cases h
          rfl
  | receive queue =>
      cases queue with
      | qSpeed =>
          rw [(calls_receive_qSpeed task).1] at hcalls
          cases hcalls
      | _ =>
          cases h
          rfl
  | receiveForever queue =>
      cases queue with
      | qSpeed =>
          rw [(calls_receive_qSpeed task).2] at hcalls
          cases hcalls
      | qServoAngle =>
          simp only [perform] at h
          split at h
          · cases h
          · cases h
            rfl
      | _ =>
          cases h
          rfl
  | waitBit bit =>
      simp only [perform] at h
      split at h
      · cases h
        rfl
      · cases h
  | waitAndClearBit bit =>
      simp only [perform] at h
      split at h
      · cases h
        rfl
      · cases h
  | setBit bit =>
      cases h
      rfl
  | clearBit bit =>
      cases h
      rfl

theorem qSpeed_handler (reason : ResetReason) (s : HiveMQ) (event : MqttEvent) :
    (mqttsHiveMQHandler reason s event).1.qSpeed =
      match commandedSpeed (.event event) with
      | none => s.qSpeed
      | some speed => s.qSpeed.sendOrDrop speed := by
  cases event with
  | data topic payload =>
      simp only [mqttsHiveMQHandler, commandedSpeed, qSpeed_dataCase]
      split
      · rfl
      · rfl
  | connected => rfl
  | subscribed msgId => rfl
  | error => rfl
  | disconnected => rfl
  | other => rfl

theorem qSpeed_taskStep {reason : ResetReason} {s s' : HiveMQ} {i : TaskInput}
    (h : taskStep reason s i = .ok s') :
    s'.qSpeed.items =
      if s.qSpeed.items.length < 5 then s.qSpeed.items ++ (commandedSpeed i).toList
      else s.qSpeed.items := by
  have hsame (hnone : commandedSpeed i = none) (hq : s'.qSpeed = s.qSpeed) :
      s'.qSpeed.items =
        if s.qSpeed.items.length < 5 then s.qSpeed.items ++ (commandedSpeed i).toList
        else s.qSpeed.items := by
    rw [hnone, hq, Option.toList_none, List.append_nil, ite_self]
  cases i with
  | event event =>
      cases h
      cases hspeed : commandedSpeed (.event event) with
      | none =>
          rw [hspeed] at hsame
          exact hsame rfl (by rw [qSpeed_handler, hspeed])
      | some speed =>
          rw [qSpeed_handler, hspeed]
          exact BoundedQueue.items_sendOrDrop _ _
  | call task call =>
      simp only [taskStep] at h
      split at h
      · next hcalls =>
          exact hsame rfl (qSpeed_perform hcalls h)
      · cases h
  | completed task =>
      cases h
      exact hsame rfl rfl

theorem motorCommands_snoc (past : List TaskInput) (i : TaskInput) :
    motorCommands (past ++ [i]) = motorCommands past ++ (commandedSpeed i).toList :=
  filterMap_snoc commandedSpeed past i

theorem qSpeed_tasksAfter {reason : ResetReason} {eTasks : EventGroup}
    {history : List TaskInput} {s : HiveMQ}
    (hs : tasksAfter reason eTasks history = .ok s) :
    s.qSpeed.items = (motorCommands history).take 5 := by
  refine reached_invariant
    (fun history (s : HiveMQ) => s.qSpeed.items = (motorCommands history).take 5) rfl ?_ hs
  intro past i s s' _ ih hstep
  rw [qSpeed_taskStep hstep, ih, motorCommands_snoc, List.length_take]
  split
  · next hroom =>
      have hlength : (motorCommands past ++ (commandedSpeed i).toList).length ≤ 5 := by
        have hone := Option.length_toList_le (o := commandedSpeed i)
        rw [List.length_append]
        omega
      rw [List.take_of_length_le hlength, List.take_of_length_le (by omega)]
  · next hfull =>
      rw [List.take_append_of_le_length (by omega)]

/-- The first five speeds find room, and no other. -/
theorem speedSendsSucceed_iff {reason : ResetReason} {eTasks : EventGroup}
    {history : List TaskInput}
    (hrun : exists s, tasksAfter reason eTasks history = .ok s) :
    SpeedSendsSucceed reason eTasks history <-> (motorCommands history).length ≤ 5 := by
  induction history using List.reverseRecOn with
  | nil =>
      exact iff_of_true (everyInput_nil _) (Nat.zero_le 5)
  | append_singleton past i ih =>
      rcases hrun with ⟨s', hs'⟩
      rcases outcomeAfter_snoc_ok hs' with ⟨s, hs, _⟩
      have hitems := congrArg List.length (qSpeed_tasksAfter hs)
      rw [List.length_take] at hitems
      rw [SpeedSendsSucceed, everyInput_snoc, <- SpeedSendsSucceed, ih ⟨s, hs⟩,
        motorCommands_snoc, List.length_append]
      cases hi : commandedSpeed i with
      | none =>
          simp [Reached]
      | some speed =>
          constructor
          · intro h
            rcases h with ⟨_, hroom⟩
            have hlt := (BoundedQueue.isSome_send?_iff _ _).mp (hroom s hs speed rfl)
            simp only [Option.toList_some, List.length_singleton]
            omega
          · intro hle
            simp only [Option.toList_some, List.length_singleton] at hle
            refine ⟨by omega, ?_⟩
            intro t ht other _
            cases hs.symm.trans ht
            exact (BoundedQueue.isSome_send?_iff _ _).mpr (by omega)

def allIterate : List TaskInput :=
  [.event (.data (literal "car/servo") (literal "90")),
    .event (.data (literal "car/ota") (literal "true")),
    .call .espLogsPapertrailTask (.waitBit .wifiBitGotIp),
    .call .espLogsPapertrailTask (.receive .qLogs), .completed .espLogsPapertrailTask,
    .call .otaTask (.waitAndClearBit .mqttGotUpdate), .completed .otaTask,
    .call .motorTask (.receive .qDistancePid), .completed .motorTask,
    .call .servoMotorTask (.receiveForever .qServoAngle), .completed .servoMotorTask,
    .call .gyroscopeAccelerometerTask (.send .qAngle 0),
    .completed .gyroscopeAccelerometerTask,
    .call .uartTask (.send .qDistancePid 0), .call .uartTask (.send .qDistance 0),
    .completed .uartTask,
    .call .oledTask (.receive .qDistance), .call .oledTask (.receive .qAngle),
    .completed .oledTask]

/-- Motor commands `1`, ..., `n`, with an iteration of every task after each. -/
def slowRun (n : Nat) : List TaskInput :=
  (List.range n).flatMap fun k =>
    .event (.data (literal "car/motors") [UInt8.ofNat (49 + k)]) :: allIterate

/-- The sixth motor command is lost, however slowly it comes. -/
theorem sixth_slow_command_lost :
    Slow (slowRun 6) ∧ (tasksAfter .powerOn {.wifiBitGotIp} (slowRun 6)).isOk ∧
      ¬ SpeedSendsSucceed .powerOn {.wifiBitGotIp} (slowRun 6) := by
  decide +kernel

theorem speedSendsSucceed_five :
    SpeedSendsSucceed .powerOn {.wifiBitGotIp} (slowRun 5) :=
  (speedSendsSucceed_iff (exists_ok_of_isOk (by decide +kernel))).mpr (by decide +kernel)

end Tasks
end CarCleaner
