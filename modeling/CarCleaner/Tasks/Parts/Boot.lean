import CarCleaner.Tasks.Shared

/-!
# The boot inside the firmware

The boot sees its own progress, the socket of the log sender and the Wi-Fi bit.
-/

namespace CarCleaner
namespace Tasks

open Foundation
open Firmware
open Wifi
open Mqtt
open Logs

def bootInputs (s : FirmwareState) : FirmwareInput -> List BootInput
  | .appMain => [.boot]
  | .logs (.wifi event _) => [.wifi event]
  | .logs (.log _ _) => [.log]
  | .logs (.sender socket) => if s.logs.point = .creatingSocket then [.socket socket] else []
  | .mqtt event => [.mqtt event]
  | _ => []

/-- The boot sees its own variables, and the log sender waits for the Wi-Fi bit first. -/
def SameBoot (s : FirmwareState) (b : BootState) : Prop :=
  s.boot = b ∧ (s.logs.point = .creatingSocket -> EventBit.wifiBitGotIp ∈ s.eTasks)

theorem boot_eq_of_same {s s' : FirmwareState} (hpc : s'.pc = s.pc)
    (hsock : s'.logs.sock = s.logs.sock)
    (hbit : EventBit.wifiBitGotIp ∈ s'.eTasks <-> EventBit.wifiBitGotIp ∈ s.eTasks) :
    s'.boot = s.boot := by
  simp only [FirmwareState.boot, hpc, hsock, hbit]

theorem isGotIp_iff (event : WifiEvent) : isGotIp event = true <-> event.GotIp := by
  cases event with
  | staGotIp ip => exact iff_of_true rfl trivial
  | _ => exact iff_of_false Bool.false_ne_true id

theorem boot_wifi {board : Board} {s : FirmwareState} {event : WifiEvent}
    {driver : WifiDriver} {next : LogSystem}
    (henabled : s.boot.Exposed board.branches .wifiHandler)
    (h : logStep s.logSystem (.wifi event driver) = .ok next) :
    (s.storeLogs next).boot = bootStep board.branches s.boot (.wifi event) := by
  rcases logStep_wifi h with ⟨eTasks, rfl, hbit⟩
  change EventBit.wifiBitGotIp ∈ eTasks <-> event.GotIp ∨ _ ∈ s.eTasks at hbit
  by_cases hgot : event.GotIp
  · have hmem := hbit.mpr (Or.inl hgot)
    rw [bootStep, if_pos ⟨henabled, (isGotIp_iff event).mpr hgot⟩]
    simp only [FirmwareState.boot, FirmwareState.storeLogs, hmem, decide_true]
    rfl
  · rw [bootStep, if_neg fun h => hgot ((isGotIp_iff event).mp h.2)]
    refine boot_eq_of_same rfl rfl ?_
    rw [or_iff_right hgot] at hbit
    exact hbit

theorem sock_newHookPapertrailFunction (l : LogSystem) (text : List UInt8)
    (stack : CharArray 256) :
    (newHookPapertrailFunction l text stack).sock = l.sock ∧
      (newHookPapertrailFunction l text stack).point = l.point := by
  by_cases honline : l.Online
  · rw [newHookPapertrailFunction_of_online honline]
    exact ⟨rfl, rfl⟩
  · rw [newHookPapertrailFunction_of_not_online honline]
    exact ⟨rfl, rfl⟩

theorem sock_espLogsPapertrailTask (l : LogSystem) (socket : Int) :
    (espLogsPapertrailTask l socket).sock =
        (if l.point = .creatingSocket then socket else l.sock) ∧
      ((espLogsPapertrailTask l socket).point = .creatingSocket ->
        EventBit.wifiBitGotIp ∈ l.eTasks) := by
  unfold espLogsPapertrailTask
  cases hpoint : l.point with
  | waitingForIp =>
      by_cases hset : EventBit.wifiBitGotIp ∈ l.eTasks
      · simp only [if_pos hset]
        exact ⟨(if_neg nofun).symm, fun _ => hset⟩
      · simp only [if_neg hset, hpoint]
        exact ⟨(if_neg nofun).symm, nofun⟩
  | creatingSocket => exact ⟨(if_pos rfl).symm, nofun⟩
  | waitingForBit =>
      by_cases hset : EventBit.wifiBitGotIp ∈ l.eTasks
      · simp only [if_pos hset]
        exact ⟨(if_neg nofun).symm, fun _ => hset⟩
      · simp only [if_neg hset, hpoint]
        exact ⟨(if_neg nofun).symm, nofun⟩
  | receiving =>
      cases l.qLogs.receive? with
      | none => exact ⟨(if_neg nofun).symm, nofun⟩
      | some received => exact ⟨(if_neg nofun).symm, nofun⟩
  | draining =>
      by_cases hsock : 0 ≤ l.sock
      · simp only [if_pos hsock]
        exact ⟨(if_neg nofun).symm, nofun⟩
      · simp only [if_neg hsock]
        exact ⟨(if_neg nofun).symm, nofun⟩
  | sending =>
      cases l.isNewData with
      | true => exact ⟨(if_neg nofun).symm, nofun⟩
      | false => exact ⟨(if_neg nofun).symm, nofun⟩

theorem boot_sender {board : Board} {s : FirmwareState} {socket : Int}
    (henabled : s.Running board .espLogsPapertrailTask)
    (hbit : s.logs.point = .creatingSocket -> EventBit.wifiBitGotIp ∈ s.eTasks) :
    outcomeAfter (fun b i => (.ok (bootStep board.branches b i) : Except Empty BootState))
        s.boot (bootInputs s (.logs (.sender socket))) =
      .ok (s.storeLogs (espLogsPapertrailTask s.logSystem socket)).boot := by
  have hsock := (sock_espLogsPapertrailTask s.logSystem socket).1
  have hsame : EventBit.wifiBitGotIp ∈ (espLogsPapertrailTask s.logSystem socket).eTasks <->
      EventBit.wifiBitGotIp ∈ s.eTasks := by
    rw [eTasks_espLogsPapertrailTask]
    rfl
  change _ = (if s.logs.point = .creatingSocket then socket else s.logs.sock) at hsock
  by_cases hpoint : s.logs.point = .creatingSocket
  · have hgot : s.boot.gotIp = true := decide_eq_true (hbit hpoint)
    rw [if_pos hpoint] at hsock
    rw [bootInputs, if_pos hpoint, outcomeAfter_singleton, bootStep,
      if_pos ⟨henabled, hgot⟩]
    simp only [FirmwareState.boot, FirmwareState.storeLogs, hsock, hsame]
  · rw [if_neg hpoint] at hsock
    have hboot : (s.storeLogs (espLogsPapertrailTask s.logSystem socket)).boot = s.boot :=
      boot_eq_of_same rfl hsock hsame
    rw [bootInputs, if_neg hpoint, hboot]
    rfl

theorem boot_appMainStep (board : Board) (s : FirmwareState) :
    (s.appMainStep board).boot = bootStep board.branches s.boot .boot := by
  have hsock : (bootStep board.branches s.boot .boot).sock = s.boot.sock ∧
      (bootStep board.branches s.boot .boot).gotIp = s.boot.gotIp := by
    simp only [bootStep]
    split
    · exact ⟨rfl, rfl⟩
    · split
      · exact ⟨rfl, rfl⟩
      · exact ⟨rfl, rfl⟩
    · exact ⟨rfl, rfl⟩
  have hacted : Acted board s .appMain _ := .appMain
  have hbit : EventBit.wifiBitGotIp ∈ (s.appMainStep board).eTasks <-> _ ∈ s.eTasks :=
    mem_eTasks_of_acted hacted rfl
  have hlogs : (s.appMainStep board).logs = s.logs :=
    samePart_of_acted .logs hacted rfl
  have hpc := pc_appMainStep board s
  rcases hnext : bootStep board.branches s.boot .boot with ⟨pc, sock, gotIp⟩
  rw [hnext] at hsock hpc
  simp only [FirmwareState.boot, hpc, hlogs, hbit, BootState.mk.injEq, true_and]
  exact ⟨hsock.1.symm, hsock.2.symm⟩

theorem mem_done_appMainStep_iff {board : Board} {s : FirmwareState} {action : BootAction}
    (hwait : action ≠ .waitGotIp) :
    action ∈ (s.appMainStep board).boot.done board.branches <->
      action ∈ s.boot.done board.branches ∨ (appMain board.branches)[s.pc]? = some action := by
  rw [boot_appMainStep]
  exact mem_done_boot_iff hwait

theorem done_eq_of_pc {s s' : FirmwareState} (h : s'.pc = s.pc) (branches : BootBranches) :
    s'.boot.done branches = s.boot.done branches :=
  congrArg (List.take · _) h

theorem pc_of_acted {board : Board} {s s' : FirmwareState} {i : FirmwareInput}
    (hi : i ≠ .appMain) (hacted : Acted board s i s') : s'.pc = s.pc := by
  refine samePart_of_acted .pc hacted ?_
  cases i with
  | appMain => exact absurd rfl hi
  | _ => rfl

/-- `app_main` has returned. -/
def FirmwareState.Booted (board : Board) (s : FirmwareState) : Prop :=
  (appMain board.branches).length ≤ s.pc

instance (board : Board) (s : FirmwareState) : Decidable (s.Booted board) :=
  inferInstanceAs (Decidable (_ ≤ _))

theorem FirmwareState.Booted.running {board : Board} {s : FirmwareState}
    (h : s.Booted board) (task : TaskName) : s.Running board task := by
  have hall : s.boot.done board.branches = appMain board.branches := List.take_of_length_le h
  rw [FirmwareState.Running, hall]
  refine List.mem_append_right _ (List.mem_map_of_mem ?_)
  cases task <;> decide

theorem point_of_logs {s : FirmwareState} {input : LogInput} {next : LogSystem}
    (h : logStep s.logSystem input = .ok next)
    (hbit : s.logs.point = .creatingSocket -> EventBit.wifiBitGotIp ∈ s.eTasks)
    (hpoint : next.point = .creatingSocket) : EventBit.wifiBitGotIp ∈ next.eTasks := by
  cases input with
  | wifi event driver =>
      rcases logStep_wifi h with ⟨eTasks, rfl, hiff⟩
      exact hiff.mpr (Or.inr (hbit hpoint))
  | log text stack =>
      cases h
      rw [(sock_newHookPapertrailFunction _ _ _).2] at hpoint
      rw [eTasks_newHookPapertrailFunction]
      exact hbit hpoint
  | sender socket =>
      cases h
      rw [eTasks_espLogsPapertrailTask]
      exact (sock_espLogsPapertrailTask s.logSystem socket).2 hpoint

theorem SameBoot.of_untouched {board : Board} {s s' : FirmwareState} {i : FirmwareInput}
    {b : BootState} (h : SameBoot s b) (hacted : Acted board s i s')
    (hpc : writesPart i .pc = false) (hlogs : writesPart i .logs = false)
    (hwifi : writesBit i .wifiBitGotIp = false) : SameBoot s' b := by
  rcases h with ⟨hboot, hpoint⟩
  have hpc' : s'.pc = s.pc := samePart_of_acted .pc hacted hpc
  have hlogs' : s'.logs = s.logs := samePart_of_acted .logs hacted hlogs
  have hbit := mem_eTasks_of_acted hacted hwifi
  constructor
  · rw [boot_eq_of_same hpc' (by rw [hlogs']) hbit]
    exact hboot
  · rw [hlogs', hbit]
    exact hpoint

theorem boot_run {board : Board} {history : List FirmwareInput} {s : FirmwareState}
    (hs : firmwareAfter board history = .ok s) :
    s.boot = bootAfter board.branches (seenBy board bootInputs history) := by
  have hrun : exists b,
      outcomeAfter
          (fun b i => (.ok (bootStep board.branches b i) : Except Empty BootState)) .start
          (seenBy board bootInputs history) = .ok b ∧ SameBoot s b := by
    refine part_run ⟨rfl, nofun⟩ ?_ hs
    intro s b i s' hR henabled hacted
    cases hacted with
    | appMain =>
        refine ⟨bootStep board.branches b .boot, outcomeAfter_singleton _ _ _, ?_, ?_⟩
        · rw [boot_appMainStep, hR.1]
        · have hacted : Acted board s .appMain _ := .appMain
          have hlogs : (s.appMainStep board).logs = s.logs :=
            samePart_of_acted .logs hacted rfl
          rw [hlogs, mem_eTasks_of_acted hacted rfl]
          exact hR.2
    | @logs input next hlogs hhandle =>
        have hpoint := point_of_logs hlogs hR.2
        cases input with
        | wifi event driver =>
            refine ⟨_, outcomeAfter_singleton _ _ _, ?_, hpoint⟩
            rw [boot_wifi henabled.2 hlogs, hR.1]
        | log text stack =>
            cases hlogs
            refine ⟨b, outcomeAfter_singleton _ _ _, ?_, hpoint⟩
            rw [<- hR.1]
            refine boot_eq_of_same rfl (sock_newHookPapertrailFunction _ _ _).1 ?_
            change _ ∈ (newHookPapertrailFunction _ _ _).eTasks <-> _
            rw [eTasks_newHookPapertrailFunction]
            rfl
        | sender socket =>
            cases hlogs
            refine ⟨_, ?_, rfl, hpoint⟩
            rw [<- hR.1]
            exact boot_sender henabled.2 hR.2
    | mqtt event =>
        have hacted : Acted board s (.mqtt event) _ := .mqtt event
        exact ⟨b, outcomeAfter_singleton _ _ _, hR.of_untouched hacted rfl rfl rfl⟩
    | servo hnext =>
        have hacted : Acted board s .servo _ := .servo hnext
        exact ⟨b, rfl, hR.of_untouched hacted rfl rfl rfl⟩
    | ota hnext =>
        have hacted : Acted board s (.ota _) _ := .ota hnext
        exact ⟨b, rfl, hR.of_untouched hacted rfl rfl rfl⟩
    | oled hbuffer =>
        have hacted : Acted board s .oled _ := .oled hbuffer
        exact ⟨b, rfl, hR.of_untouched hacted rfl rfl rfl⟩
    | uart => exact ⟨b, rfl, hR.of_untouched .uart rfl rfl rfl⟩
    | sensor => exact ⟨b, rfl, hR.of_untouched .sensor rfl rfl rfl⟩
    | motor hnext => exact ⟨b, rfl, hR.of_untouched (.motor hnext) rfl rfl rfl⟩
    | imu attempt =>
        have hacted : Acted board s (.imu attempt) _ := .imu attempt
        exact ⟨b, rfl, hR.of_untouched hacted rfl rfl rfl⟩
    | alarm =>
        have hacted : Acted board s .alarm _ := .alarm
        exact ⟨b, rfl, hR.of_untouched hacted rfl rfl rfl⟩
  rcases hrun with ⟨b, hb, hboot, _⟩
  rw [outcomeAfter_ok_eq] at hb
  rw [hboot, <- Except.ok.inj hb, bootAfter]

end Tasks
end CarCleaner
