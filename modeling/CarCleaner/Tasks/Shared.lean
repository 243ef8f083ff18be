import CarCleaner.Foundation.Simulation
import CarCleaner.Tasks.Firmware

/-!
# Shared objects

Each part of the firmware sees its own steps, and of the shared objects what its model lets
it see.  Two parts that share the event group use different bits of it, or only read what
the other one writes.
-/

namespace CarCleaner
namespace Tasks

open Foundation
open Firmware
open Wifi
open Mqtt
open Servo
open Angles
open Ota
open Oled
open Logs

/-!
# What a part sees
-/

section

variable {board : Board} {part : Type} {partInput : Type} {partFault : Type}

def seenBy (board : Board) (project : FirmwareState -> FirmwareInput -> List partInput)
    (history : List FirmwareInput) : List partInput :=
  observations (firmwareStep board) (fun s i => if s.Enabled board i then project s i else [])
    (.start board) history

theorem part_run {project : FirmwareState -> FirmwareInput -> List partInput}
    {step : part -> partInput -> Except partFault part} {start : part}
    {R : FirmwareState -> part -> Prop} (hstart : R (.start board) start)
    (hact : forall s t i s', R s t -> s.Enabled board i -> Acted board s i s' ->
      exists t', outcomeAfter step t (project s i) = .ok t' ∧ R s' t')
    {history : List FirmwareInput} {s : FirmwareState}
    (hs : firmwareAfter board history = .ok s) :
    exists t, outcomeAfter step start (seenBy board project history) = .ok t ∧ R s t := by
  refine Contains.run (contains_of_enabled ?_) hstart hs
  intro s t i s' hR henabled hstep
  exact hact s t i s' hR henabled (acted_of_act hstep)

/-- A part without faults that nothing else changes. -/
theorem view_run (view : FirmwareState -> part) {step : part -> partInput -> part}
    {project : FirmwareState -> FirmwareInput -> List partInput}
    (hact : forall s i s', s.Enabled board i -> Acted board s i s' ->
      view s' = stateAfter step (view s) (project s i))
    {history : List FirmwareInput} {s : FirmwareState}
    (hs : firmwareAfter board history = .ok s) :
    view s = stateAfter step (view (.start board)) (seenBy board project history) := by
  have hrun : exists t, outcomeAfter (fun t i => (.ok (step t i) : Except Empty part))
      (view (.start board)) (seenBy board project history) = .ok t ∧ view s = t := by
    refine part_run (R := fun s t => view s = t) rfl ?_ hs
    intro s t i s' hR henabled hacted
    rw [<- hR, outcomeAfter_ok_eq]
    exact ⟨_, rfl, hact s i s' henabled hacted⟩
  rcases hrun with ⟨t, ht, hview⟩
  rw [outcomeAfter_ok_eq] at ht
  rw [hview, <- Except.ok.inj ht]

end

/-!
# Invariants of the whole
-/

section

variable {board : Board}

/--
An invariant of the steps behind a history has to survive the ones that are enabled, and
the others.
-/
theorem firmware_invariant_from {past : List FirmwareInput} {s : FirmwareState}
    (hs : firmwareAfter board past = .ok s)
    (Inv : List FirmwareInput -> FirmwareState -> Prop) (hstart : Inv [] s)
    (hidle : forall later i t, firmwareAfter board (past ++ later) = .ok t ->
      ¬ t.Enabled board i -> Inv later t -> Inv (later ++ [i]) t)
    (hacted : forall later i t t', firmwareAfter board (past ++ later) = .ok t ->
      t.Enabled board i -> Acted board t i t' -> Inv later t -> Inv (later ++ [i]) t')
    {later : List FirmwareInput} {s' : FirmwareState}
    (hs' : firmwareAfter board (past ++ later) = .ok s') : Inv later s' := by
  induction later using List.reverseRecOn generalizing s' with
  | nil =>
      rw [List.append_nil, hs] at hs'
      cases hs'
      exact hstart
  | append_singleton older i ih =>
      rw [<- List.append_assoc] at hs'
      rcases outcomeAfter_snoc_ok hs' with ⟨t, ht, hstep⟩
      unfold firmwareStep at hstep
      by_cases henabled : t.Enabled board i
      · rw [if_pos henabled] at hstep
        exact hacted older i t s' ht henabled (acted_of_act hstep) (ih ht)
      · rw [if_neg henabled] at hstep
        cases hstep
        exact hidle older i s' ht henabled (ih ht)

theorem firmware_invariant (Inv : List FirmwareInput -> FirmwareState -> Prop)
    (hstart : Inv [] (.start board))
    (hidle : forall past i s, firmwareAfter board past = .ok s -> ¬ s.Enabled board i ->
      Inv past s -> Inv (past ++ [i]) s)
    (hacted : forall past i s s', firmwareAfter board past = .ok s -> s.Enabled board i ->
      Acted board s i s' -> Inv past s -> Inv (past ++ [i]) s')
    {history : List FirmwareInput} {s : FirmwareState}
    (hs : firmwareAfter board history = .ok s) : Inv history s :=
  @firmware_invariant_from board [] (.start board) rfl Inv hstart hidle hacted history s hs

variable {output : Type} (project : FirmwareState -> FirmwareInput -> List output)
  {past : List FirmwareInput} {i : FirmwareInput} {s : FirmwareState}

theorem seenBy_enabled (hs : firmwareAfter board past = .ok s) (h : s.Enabled board i) :
    seenBy board project (past ++ [i]) = seenBy board project past ++ project s i := by
  rw [seenBy, observations_snoc i _ hs, if_pos h]
  rfl

theorem seenBy_idle (hs : firmwareAfter board past = .ok s) (h : ¬ s.Enabled board i) :
    seenBy board project (past ++ [i]) = seenBy board project past := by
  rw [seenBy, observations_snoc i _ hs, if_neg h, List.append_nil]
  rfl

end

/-!
# Who writes what
-/

inductive PartName where
  | pc
  | logs
  | hiveMQ
  | servo
  | ota
  | uart
  | motors
  | angles
  | qAngle
  | now
  | oled
deriving DecidableEq, Repr

def writesPart : FirmwareInput -> PartName -> Bool
  | .appMain, .pc => true
  | .appMain, .now => true
  | .appMain, .oled => true
  | .logs _, .logs => true
  | .mqtt _, .hiveMQ => true
  | .servo, .hiveMQ => true
  | .servo, .servo => true
  | .ota _, .ota => true
  | .oled, .ota => true
  | .oled, .uart => true
  | .oled, .qAngle => true
  | .oled, .oled => true
  | .uart, .uart => true
  | .sensor, .uart => true
  | .motor _, .uart => true
  | .motor _, .motors => true
  | .imu _, .angles => true
  | .imu _, .qAngle => true
  | .alarm, .now => true
  | _, _ => false

def SamePart (s s' : FirmwareState) : PartName -> Prop
  | .pc => s'.pc = s.pc
  | .logs => s'.logs = s.logs
  | .hiveMQ => s'.hiveMQ = s.hiveMQ
  | .servo => s'.servo = s.servo
  | .ota => s'.ota = s.ota
  | .uart => s'.uart = s.uart
  | .motors => s'.motors = s.motors
  | .angles => s'.angles = s.angles ∧ s'.sendingAngles = s.sendingAngles
  | .qAngle => s'.qAngle = s.qAngle
  | .now => s'.now = s.now
  | .oled => s'.oled = s.oled

theorem pc_appMainStep (board : Board) (s : FirmwareState) :
    (s.appMainStep board).pc = (bootStep board.branches s.boot .boot).pc := by
  simp only [FirmwareState.appMainStep]
  split
  · rfl
  · split
    · rfl
    · rfl

/-- A step leaves the parts alone that are not its own. -/
theorem samePart_of_acted {board : Board} {s s' : FirmwareState} {i : FirmwareInput}
    (part : PartName) (h : Acted board s i s') (hwrites : writesPart i part = false) :
    SamePart s s' part := by
  cases h with
  | appMain =>
      simp only [FirmwareState.appMainStep]
      split
      · cases part <;> first | exact rfl | exact ⟨rfl, rfl⟩ | cases hwrites
      · split
        · cases part <;> first | exact rfl | exact ⟨rfl, rfl⟩ | cases hwrites
        · cases part <;> first | exact rfl | exact ⟨rfl, rfl⟩ | cases hwrites
  | logs => cases part <;> first | exact rfl | exact ⟨rfl, rfl⟩ | cases hwrites
  | mqtt event => cases part <;> first | exact rfl | exact ⟨rfl, rfl⟩ | cases hwrites
  | servo => cases part <;> first | exact rfl | exact ⟨rfl, rfl⟩ | cases hwrites
  | ota => cases part <;> first | exact rfl | exact ⟨rfl, rfl⟩ | cases hwrites
  | oled hbuffer =>
      unfold FirmwareState.oledStep
      split <;> cases part <;> first | exact rfl | exact ⟨rfl, rfl⟩ | cases hwrites
  | uart => cases part <;> first | exact rfl | exact ⟨rfl, rfl⟩ | cases hwrites
  | sensor => cases part <;> first | exact rfl | exact ⟨rfl, rfl⟩ | cases hwrites
  | motor => cases part <;> first | exact rfl | exact ⟨rfl, rfl⟩ | cases hwrites
  | imu attempt =>
      simp only [FirmwareState.imuStep]
      split
      · cases part <;> first | exact rfl | exact ⟨rfl, rfl⟩ | cases hwrites
      · cases part <;> first | exact rfl | exact ⟨rfl, rfl⟩ | cases hwrites
  | alarm => cases part <;> first | exact rfl | exact ⟨rfl, rfl⟩ | cases hwrites

/-!
# Who writes the bits
-/

def writesBit : FirmwareInput -> EventBit -> Bool
  | .appMain, .syncGotTime => true
  | .logs (.wifi _ _), .wifiBitGotIp => true
  | .mqtt _, .mqttGotUpdate => true
  | .mqtt _, .mqttSubscribe => true
  | .ota _, .mqttGotUpdate => true
  | .ota _, .otaBitInProgress => true
  | _, _ => false

theorem mem_setBit_of_ne {bit other : EventBit} (h : bit ≠ other) (eTasks : EventGroup) :
    bit ∈ eTasks.setBit other <-> bit ∈ eTasks := by
  rw [EventGroup.setBit, Finset.mem_insert, or_iff_right h]

theorem mem_clearBit_of_ne {bit other : EventBit} (h : bit ≠ other) (eTasks : EventGroup) :
    bit ∈ eTasks.clearBit other <-> bit ∈ eTasks := by
  rw [EventGroup.clearBit, Finset.mem_erase, and_iff_right h]

theorem eTasks_newHookPapertrailFunction (l : LogSystem) (text : List UInt8)
    (stack : CharArray 256) : (newHookPapertrailFunction l text stack).eTasks = l.eTasks := by
  by_cases honline : l.Online
  · rw [newHookPapertrailFunction_of_online honline]
  · rw [newHookPapertrailFunction_of_not_online honline]

theorem eTasks_servoStep {sys next : ServoSystem} (h : servoStep sys = .ok next) :
    next.hiveMQ.eTasks = sys.hiveMQ.eTasks := by
  unfold servoStep at h
  cases hphase : sys.servo.phase with
  | receiving =>
      simp only [hphase] at h
      split at h
      · cases h
        rfl
      · cases h
        rfl
  | applying =>
      simp only [hphase] at h
      rcases bind_eq_ok h with ⟨_, _, hpure⟩
      cases hpure
      rfl
  | pausing =>
      simp only [hphase] at h
      cases h
      rfl

theorem eTasks_oledFrame (ota : OtaSystem) : (oledFrame ota).eTasks = ota.eTasks := by
  unfold oledFrame
  split
  · split
    · rfl
    · rfl
  · split
    · rfl
    · rfl

theorem eTasks_oledStep (board : Board) (s : FirmwareState) :
    (s.oledStep board).eTasks = s.eTasks := by
  unfold FirmwareState.oledStep
  cases hpoint : s.oled.point with
  | drawingDistance => rfl
  | readingBits => exact eTasks_oledFrame _
  | updating => exact eTasks_oledFrame _
  | readingTime => rfl
  | drawingAngles => rfl
  | transmitting => rfl

theorem eTasks_imuStep (board : Board) (s : FirmwareState) (attempt : Attempt) :
    (s.imuStep board attempt).eTasks = s.eTasks := by
  unfold FirmwareState.imuStep
  split
  · rfl
  · rfl

theorem mem_eTasks_logStep {l l' : LogSystem} {input : LogInput} {bit : EventBit}
    (h : logStep l input = .ok l') (hbit : writesBit (.logs input) bit = false) :
    bit ∈ l'.eTasks <-> bit ∈ l.eTasks := by
  cases input with
  | wifi event driver =>
      have hne : bit ≠ .wifiBitGotIp := by
        intro heq
        subst heq
        cases hbit
      rcases bind_eq_ok h with ⟨⟨eTasks, calls⟩, hdeliver, hpure⟩
      cases hpure
      rcases deliver_eTasks hdeliver with ⟨_, rfl⟩ | ⟨_, rfl⟩
      · exact mem_setBit_of_ne hne _
      · rfl
  | log text stack =>
      cases h
      rw [eTasks_newHookPapertrailFunction]
  | sender socket =>
      cases h
      rw [eTasks_espLogsPapertrailTask]

theorem mem_eTasks_handler {reason : ResetReason} {hiveMQ : HiveMQ} {event : MqttEvent}
    {bit : EventBit} (hbit : writesBit (.mqtt event) bit = false) :
    bit ∈ (mqttsHiveMQHandler reason hiveMQ event).1.eTasks <-> bit ∈ hiveMQ.eTasks := by
  have hupdate : bit ≠ .mqttGotUpdate := by
    intro heq
    subst heq
    cases hbit
  have hsubscribe : bit ≠ .mqttSubscribe := by
    intro heq
    subst heq
    cases hbit
  cases event with
  | connected => rfl
  | data topic payload => exact mem_eTasks_dataCase_of_ne hupdate _ _ _
  | subscribed msgId => exact mem_setBit_of_ne hsubscribe _
  | error => exact mem_clearBit_of_ne hsubscribe _
  | disconnected => rfl
  | other => rfl

theorem mem_eTasks_otaTask {ota ota' : OtaSystem} {answer : OtaAnswer} {bit : EventBit}
    (h : otaTask ota answer = .ok ota') (hbit : writesBit (.ota answer) bit = false) :
    bit ∈ ota'.eTasks <-> bit ∈ ota.eTasks := by
  have hupdate : bit ≠ .mqttGotUpdate := by
    intro heq
    subst heq
    cases hbit
  have hprogress : bit ≠ .otaBitInProgress := by
    intro heq
    subst heq
    cases hbit
  cases transition_of_otaTask h with
  | stayed => rfl
  | woken => exact mem_clearBit_of_ne hupdate _
  | beginFailed => rfl
  | began => exact mem_setBit_of_ne hprogress _
  | received => rfl
  | downloadEnded => exact mem_clearBit_of_ne hprogress _
  | sent => rfl
  | restarted => rfl
  | finishFailed => rfl
  | paused => rfl

theorem mem_eTasks_of_acted {board : Board} {s s' : FirmwareState} {i : FirmwareInput}
    {bit : EventBit} (h : Acted board s i s') (hbit : writesBit i bit = false) :
    bit ∈ s'.eTasks <-> bit ∈ s.eTasks := by
  cases h with
  | appMain =>
      have hne : bit ≠ .syncGotTime := by
        intro heq
        subst heq
        cases hbit
      simp only [FirmwareState.appMainStep]
      split
      · exact mem_setBit_of_ne hne _
      · split
        · rfl
        · rfl
  | logs hlogs _ => exact mem_eTasks_logStep hlogs hbit
  | mqtt event => exact mem_eTasks_handler hbit
  | servo hsys =>
      rw [FirmwareState.storeServo, FirmwareState.storeMqtt, eTasks_servoStep hsys]
      rfl
  | ota hota => exact mem_eTasks_otaTask hota hbit
  | oled _ => rw [eTasks_oledStep]
  | uart => rfl
  | sensor => rfl
  | motor _ => rfl
  | imu attempt => rw [eTasks_imuStep]
  | alarm => rfl

end Tasks
end CarCleaner
