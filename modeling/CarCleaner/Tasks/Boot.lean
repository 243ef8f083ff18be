import CarCleaner.Foundation.Histories
import CarCleaner.Firmware.Kernel
import CarCleaner.Mqtt.Handler
import CarCleaner.Wifi.Handler
import Mathlib.Data.List.Basic

/-!
# The boot sequence

`app_main` creates the shared objects one after another, and on the way it hands
three functions to the system: the log hook, the Wi-Fi handler and the MQTT handler.
Each of them may be called from then on.  The hook is handed over first of all, in
front of every object that it uses.
-/

namespace CarCleaner
namespace Tasks

open Foundation
open Firmware
open Wifi
open Mqtt

/-!
# The actions of `app_main`
-/

/-- Globals that are `NULL` until `app_main` assigns them. -/
inductive GlobalObject where
  | oldLogsUartOutput
  | eTasks
  | queue (name : QueueName)
deriving DecidableEq, Repr

inductive EntryPoint where
  | newHookPapertrailFunction
  | wifiHandler
  | mqttsHiveMQHandler
deriving DecidableEq, Repr

inductive BootAction where
  | call (function : String)
  | create (object : GlobalObject)
  | expose (entry : EntryPoint)
  | waitGotIp
  | createTask (task : TaskName)
deriving DecidableEq, Repr

structure BootBranches where
  eraseNvs : Bool
  clientCreated : Bool
deriving DecidableEq, Repr

def nvsActions (branches : BootBranches) : List BootAction :=
  if branches.eraseNvs then
    [.call "nvs_flash_init", .call "nvs_flash_erase", .call "nvs_flash_init"]
  else
    [.call "nvs_flash_init"]

def wifiInit : List BootAction :=
  [.call "esp_event_loop_create_default", .call "esp_netif_create_default_wifi_sta",
    .call "esp_netif_init", .call "esp_wifi_init", .call "esp_wifi_set_mode",
    .call "esp_wifi_set_config", .expose .wifiHandler,
    .call "esp_event_handler_instance_register", .call "esp_wifi_start"]

def mqttsHiveMQ (branches : BootBranches) : List BootAction :=
  [.waitGotIp, .call "esp_mqtt_client_init"] ++
    if branches.clientCreated then
      [.expose .mqttsHiveMQHandler, .call "esp_mqtt_client_start"]
    else
      []

def appMain (branches : BootBranches) : List BootAction :=
  [.expose .newHookPapertrailFunction, .create .oldLogsUartOutput] ++
    nvsActions branches ++
    [.create (.queue .qLogs), .create (.queue .qOtaLevel), .create (.queue .qSpeed),
      .create (.queue .qDistance), .create (.queue .qDistancePid),
      .create (.queue .qServoAngle), .create (.queue .qTime), .create (.queue .qAngle),
      .call "xSemaphoreCreateMutex", .call "xSemaphoreCreateMutex",
      .call "xSemaphoreCreateMutex", .create .eTasks,
      .call "set_version", .call "dc_motor_init"] ++
    wifiInit ++
    [.call "uart_init", .call "gyroscope_accelerometer_init", .waitGotIp,
      .call "time_sync"] ++
    mqttsHiveMQ branches ++
    [.call "oled_init"] ++
    TaskName.all.map .createTask

/-- The calls of `app_main` that are wrapped in `ESP_ERROR_CHECK`, or whose insides are. -/
def checkedFunctions : List String :=
  ["nvs_flash_erase", "xSemaphoreCreateMutex", "dc_motor_init",
    "esp_event_loop_create_default", "esp_netif_init", "esp_wifi_init", "esp_wifi_set_mode",
    "esp_wifi_set_config", "esp_event_handler_instance_register", "esp_wifi_start",
    "uart_init", "gyroscope_accelerometer_init", "time_sync", "esp_mqtt_client_start",
    "oled_init"]

/-!
# Runs of the boot
-/

structure BootState where
  pc : Nat
  sock : Int
  gotIp : Bool
deriving DecidableEq, Repr

def BootState.start : BootState where
  pc := 0
  sock := -1
  gotIp := false

inductive BootInput where
  | boot
  | socket (socket : Int)
  | log
  | wifi (event : WifiEvent)
  | mqtt (event : MqttEvent)
deriving DecidableEq, Repr

variable (branches : BootBranches)

def BootState.done (s : BootState) : List BootAction :=
  (appMain branches).take s.pc

def BootState.Created (s : BootState) (object : GlobalObject) : Prop :=
  .create object ∈ s.done branches

/-- The system may call the function in the state. -/
def BootState.Exposed (s : BootState) (entry : EntryPoint) : Prop :=
  .expose entry ∈ s.done branches

instance (s : BootState) (object : GlobalObject) : Decidable (s.Created branches object) :=
  inferInstanceAs (Decidable (_ ∈ _))

instance (s : BootState) (entry : EntryPoint) : Decidable (s.Exposed branches entry) :=
  inferInstanceAs (Decidable (_ ∈ _))

def isGotIp : WifiEvent -> Bool
  | .staGotIp _ => true
  | _ => false

def bootStep (s : BootState) : BootInput -> BootState
  | .boot =>
      match (appMain branches)[s.pc]? with
      | none => s
      | some .waitGotIp => if s.gotIp then { s with pc := s.pc + 1 } else s
      | some _ => { s with pc := s.pc + 1 }
  | .socket socket =>
      if .createTask .espLogsPapertrailTask ∈ s.done branches ∧ s.gotIp = true then
        { s with sock := socket }
      else
        s
  | .log => s
  | .wifi event =>
      if s.Exposed branches .wifiHandler ∧ isGotIp event = true then
        { s with gotIp := true }
      else
        s
  | .mqtt _ => s

/--
`app_main` is at an action whose failure aborts the firmware; of the two calls of
`nvs_flash_init` only the one behind the erasure is checked.
-/
def BootState.atCheck (s : BootState) : Bool :=
  match (appMain branches)[s.pc]? with
  | some (.call function) =>
      decide (function ∈ checkedFunctions) ||
        (decide (function = "nvs_flash_init") &&
          decide ((appMain branches)[s.pc - 1]? = some (.call "nvs_flash_erase")))
  | some (.create object) => decide (object ≠ .oldLogsUartOutput)
  | some (.expose entry) => decide (entry ≠ .newHookPapertrailFunction)
  | some (.createTask _) => true
  | some .waitGotIp => false
  | none => false

def bootAfter (history : List BootInput) : BootState :=
  stateAfter (bootStep branches) BootState.start history

/--
The globals that the call caused by an input uses, if there is a call: the hook sends
to `q_logs` once the socket can be used.
-/
def uses (s : BootState) : BootInput -> List GlobalObject
  | .boot => []
  | .socket _ => []
  | .log =>
      if s.Exposed branches .newHookPapertrailFunction then
        [.oldLogsUartOutput, .eTasks] ++
          if 0 ≤ s.sock ∧ s.gotIp = true then [.queue .qLogs] else []
      else
        []
  | .wifi _ => if s.Exposed branches .wifiHandler then [.eTasks] else []
  | .mqtt _ =>
      if s.Exposed branches .mqttsHiveMQHandler then
        [.eTasks, .queue .qSpeed, .queue .qServoAngle]
      else
        []

def CallsFindObjects (history : List BootInput) : Prop :=
  EveryInput
    (fun past i =>
      forall object, object ∈ uses branches (bootAfter branches past) i ->
        (bootAfter branches past).Created branches object)
    history

instance (history : List BootInput) : Decidable (CallsFindObjects branches history) :=
  inferInstanceAs (Decidable (EveryInput _ history))

def BootState.EarlyHook (s : BootState) : Prop :=
  0 < s.pc ∧ s.pc ≤ (appMain branches).idxOf (.create .eTasks)

instance (s : BootState) : Decidable (s.EarlyHook branches) :=
  inferInstanceAs (Decidable (_ ∧ _))

/-- No code emits a log between the registration of the hook and the creation of `e_tasks`. -/
def NoEarlyLog (history : List BootInput) : Prop :=
  EveryInput
    (fun past i => i = .log -> ¬ (bootAfter branches past).EarlyHook branches) history

/-!
# The order of the actions
-/

variable {branches}

theorem mem_done_iff {s : BootState} {action : BootAction}
    (hmem : action ∈ appMain branches) :
    action ∈ s.done branches <-> (appMain branches).idxOf action < s.pc :=
  List.mem_take_iff_idxOf_lt hmem

theorem mem_done_of_before {s : BootState} {earlier later : BootAction}
    (hmem : earlier ∈ appMain branches)
    (hbefore : (appMain branches).idxOf earlier ≤ (appMain branches).idxOf later)
    (h : later ∈ s.done branches) : earlier ∈ s.done branches := by
  have hlater := (mem_done_iff (List.mem_of_mem_take h)).mp h
  exact (mem_done_iff hmem).mpr (by omega)

theorem create_mem (branches : BootBranches) :
    .create .oldLogsUartOutput ∈ appMain branches ∧ .create .eTasks ∈ appMain branches ∧
      .create (.queue .qLogs) ∈ appMain branches ∧
      .create (.queue .qSpeed) ∈ appMain branches ∧
      .create (.queue .qServoAngle) ∈ appMain branches := by
  rcases branches with ⟨_ | _, _ | _⟩ <;> decide

theorem exposed_hook_iff {s : BootState} :
    s.Exposed branches .newHookPapertrailFunction <-> 0 < s.pc := by
  rw [BootState.Exposed, mem_done_iff (by simp [appMain])]
  simp [appMain]

theorem created_eTasks_iff {s : BootState} :
    s.Created branches .eTasks <-> (appMain branches).idxOf (.create .eTasks) < s.pc :=
  mem_done_iff (create_mem branches).2.1

theorem created_oldLogsUartOutput {s : BootState} (h : s.Created branches .eTasks) :
    s.Created branches .oldLogsUartOutput := by
  refine mem_done_of_before (create_mem branches).1 ?_ h
  rcases branches with ⟨_ | _, _ | _⟩ <;> decide

theorem created_of_wifiHandler {s : BootState} (h : s.Exposed branches .wifiHandler) :
    s.Created branches .eTasks := by
  refine mem_done_of_before (create_mem branches).2.1 ?_ h
  rcases branches with ⟨_ | _, _ | _⟩ <;> decide

theorem created_of_mqttsHiveMQHandler {s : BootState}
    (h : s.Exposed branches .mqttsHiveMQHandler) :
    s.Created branches .eTasks ∧ s.Created branches (.queue .qSpeed) ∧
      s.Created branches (.queue .qServoAngle) := by
  have hmem := create_mem branches
  refine ⟨mem_done_of_before hmem.2.1 ?_ h, mem_done_of_before hmem.2.2.2.1 ?_ h,
    mem_done_of_before hmem.2.2.2.2 ?_ h⟩
  · rcases branches with ⟨_ | _, _ | _⟩ <;> decide
  · rcases branches with ⟨_ | _, _ | _⟩ <;> decide
  · rcases branches with ⟨_ | _, _ | _⟩ <;> decide

theorem created_of_senderTask {s : BootState}
    (h : .createTask .espLogsPapertrailTask ∈ s.done branches) :
    s.Created branches (.queue .qLogs) := by
  refine mem_done_of_before (create_mem branches).2.2.1 ?_ h
  rcases branches with ⟨_ | _, _ | _⟩ <;> decide

theorem pc_bootStep_boot (s : BootState) :
    (bootStep branches s .boot).pc = s.pc ∨ (bootStep branches s .boot).pc = s.pc + 1 := by
  simp only [bootStep]
  split
  · exact Or.inl rfl
  · split
    · exact Or.inr rfl
    · exact Or.inl rfl
  · exact Or.inr rfl

theorem pc_le_bootStep (s : BootState) (i : BootInput) :
    s.pc ≤ (bootStep branches s i).pc := by
  cases i with
  | boot =>
      simp only [bootStep]
      split
      · exact Nat.le_refl _
      · split
        · exact Nat.le_succ _
        · exact Nat.le_refl _
      · exact Nat.le_succ _
  | socket socket =>
      simp only [bootStep]
      split
      · exact Nat.le_refl _
      · exact Nat.le_refl _
  | log => exact Nat.le_refl _
  | wifi event =>
      simp only [bootStep]
      split
      · exact Nat.le_refl _
      · exact Nat.le_refl _
  | mqtt event => exact Nat.le_refl _

theorem done_bootStep {s : BootState} {action : BootAction} (h : action ∈ s.done branches)
    (i : BootInput) : action ∈ (bootStep branches s i).done branches :=
  List.take_subset_take_left _ (pc_le_bootStep s i) h

theorem mem_done_of_at {s : BootState} {action : BootAction} (hwait : action ≠ .waitGotIp)
    (h : (appMain branches)[s.pc]? = some action) :
    action ∈ (bootStep branches s .boot).done branches := by
  have hpc : (bootStep branches s .boot).pc = s.pc + 1 := by
    simp only [bootStep, h]
  rw [BootState.done, hpc, List.take_add_one, h]
  exact List.mem_append_right _ (List.mem_singleton_self _)

/-- An action has been done once `app_main` was at it; only the wait may be tried in vain. -/
theorem mem_done_boot_iff {s : BootState} {action : BootAction} (hwait : action ≠ .waitGotIp) :
    action ∈ (bootStep branches s .boot).done branches <->
      action ∈ s.done branches ∨ (appMain branches)[s.pc]? = some action := by
  constructor
  · intro h
    rcases @pc_bootStep_boot branches s with hpc | hpc
    · rw [BootState.done, hpc] at h
      exact Or.inl h
    · rw [BootState.done, hpc, List.take_add_one] at h
      exact (List.mem_append.mp h).imp id Option.mem_toList.mp
  · intro h
    rcases h with hdone | hat
    · exact done_bootStep hdone .boot
    · exact mem_done_of_at hwait hat

/-- An action that occurs once has not been done when `app_main` is at it. -/
theorem not_mem_done_of_at {s : BootState} {action : BootAction}
    (honce : (appMain branches).count action = 1)
    (h : (appMain branches)[s.pc]? = some action) : action ∉ s.done branches := by
  rcases List.getElem?_eq_some_iff.mp h with ⟨hlt, hget⟩
  rw [<- List.take_append_drop s.pc (appMain branches), List.count_append,
    List.drop_eq_getElem_cons hlt, hget, List.count_cons_self] at honce
  have hcount : ((appMain branches).take s.pc).count action = 0 := by
    omega
  exact List.count_eq_zero.mp hcount

/-!
# Calls during the boot
-/

theorem sock_bootStep (s : BootState) (i : BootInput) :
    (bootStep branches s i).sock = s.sock ∨
      .createTask .espLogsPapertrailTask ∈ s.done branches := by
  cases i with
  | boot =>
      simp only [bootStep]
      split
      · exact Or.inl rfl
      · split
        · exact Or.inl rfl
        · exact Or.inl rfl
      · exact Or.inl rfl
  | socket socket =>
      simp only [bootStep]
      split
      · next h => exact Or.inr h.1
      · exact Or.inl rfl
  | log => exact Or.inl rfl
  | wifi event =>
      simp only [bootStep]
      split
      · exact Or.inl rfl
      · exact Or.inl rfl
  | mqtt event => exact Or.inl rfl

theorem senderTask_of_sock (history : List BootInput) :
    0 ≤ (bootAfter branches history).sock ->
      .createTask .espLogsPapertrailTask ∈ (bootAfter branches history).done branches := by
  refine stateAfter_invariant
    (fun _ (s : BootState) => 0 ≤ s.sock ->
      .createTask .espLogsPapertrailTask ∈ s.done branches) ?_ ?_ history
  · intro h
    exact absurd h (by decide)
  · intro past i ih h
    apply done_bootStep
    rcases sock_bootStep (stateAfter (bootStep branches) BootState.start past) i with
      hsame | hcreated
    · rw [hsame] at h
      exact ih h
    · exact hcreated

theorem created_eTasks_of_late {s : BootState} (hpos : 0 < s.pc)
    (hlate : ¬ s.EarlyHook branches) : s.Created branches .eTasks := by
  apply created_eTasks_iff.mpr
  by_contra hlt
  exact hlate ⟨hpos, not_lt.mp hlt⟩

theorem created_of_uses_log {history : List BootInput}
    (hlate : ¬ (bootAfter branches history).EarlyHook branches) {object : GlobalObject}
    (hmem : object ∈ uses branches (bootAfter branches history) .log) :
    (bootAfter branches history).Created branches object := by
  simp only [uses] at hmem
  split at hmem
  · next hexposed =>
      have hcreated := created_eTasks_of_late (exposed_hook_iff.mp hexposed) hlate
      rcases List.mem_append.mp hmem with hbase | hqueue
      · simp only [List.mem_cons, List.not_mem_nil, or_false] at hbase
        rcases hbase with rfl | rfl
        · exact created_oldLogsUartOutput hcreated
        · exact hcreated
      · split at hqueue
        · next honline =>
            rw [List.mem_singleton.mp hqueue]
            exact created_of_senderTask (senderTask_of_sock history honline.1)
        · cases hqueue
  · cases hmem

theorem created_of_uses_wifi {s : BootState} {event : WifiEvent} {object : GlobalObject}
    (hmem : object ∈ uses branches s (.wifi event)) : s.Created branches object := by
  simp only [uses] at hmem
  split at hmem
  · next hexposed =>
      rw [List.mem_singleton.mp hmem]
      exact created_of_wifiHandler hexposed
  · cases hmem

theorem created_of_uses_mqtt {s : BootState} {event : MqttEvent} {object : GlobalObject}
    (hmem : object ∈ uses branches s (.mqtt event)) : s.Created branches object := by
  simp only [uses] at hmem
  split at hmem
  · next hexposed =>
      rcases created_of_mqttsHiveMQHandler hexposed with ⟨htasks, hspeed, hangle⟩
      simp only [List.mem_cons, List.not_mem_nil, or_false] at hmem
      rcases hmem with rfl | rfl | rfl
      · exact htasks
      · exact hspeed
      · exact hangle
  · cases hmem

/-- At each input the call finds its objects unless it is a log that comes too early. -/
theorem uses_created_iff (history : List BootInput) (i : BootInput) :
    (forall object, object ∈ uses branches (bootAfter branches history) i ->
        (bootAfter branches history).Created branches object) <->
      (i = .log -> ¬ (bootAfter branches history).EarlyHook branches) := by
  cases i with
  | boot => simp [uses]
  | socket socket => simp [uses]
  | log =>
      constructor
      · intro h _ hpoint
        rcases hpoint with ⟨hpos, hle⟩
        have htasks : .eTasks ∈ uses branches (bootAfter branches history) .log := by
          simp [uses, exposed_hook_iff.mpr hpos]
        have hcreated := created_eTasks_iff.mp (h .eTasks htasks)
        omega
      · intro hlate object hmem
        exact created_of_uses_log (hlate rfl) hmem
  | wifi event =>
      simp only [reduceCtorEq, false_implies, iff_true]
      intro object hmem
      exact created_of_uses_wifi hmem
  | mqtt event =>
      simp only [reduceCtorEq, false_implies, iff_true]
      intro object hmem
      exact created_of_uses_mqtt hmem

theorem callsFindObjects_iff (branches : BootBranches) (history : List BootInput) :
    CallsFindObjects branches history <-> NoEarlyLog branches history :=
  everyInput_congr (fun past i => uses_created_iff past i) history

def earlyLogRun : List BootInput :=
  [.boot, .boot, .log]

theorem earlyLog_without_eTasks :
    ¬ CallsFindObjects ⟨false, true⟩ earlyLogRun ∧
      .eTasks ∈ uses ⟨false, true⟩ (bootAfter ⟨false, true⟩ [.boot, .boot]) .log ∧
      ¬ (bootAfter ⟨false, true⟩ [.boot, .boot]).Created ⟨false, true⟩ .eTasks := by
  decide

end Tasks
end CarCleaner
