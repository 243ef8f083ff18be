import CarCleaner.Logs.Papertrail

/-!
# The Wi-Fi status bit

`WIFI_BIT_GOT_IP` stands for an address that the station holds.  The handler sets
the bit with every address and never clears it, so the bit tells the truth exactly
until the first loss of an address.
-/

namespace CarCleaner
namespace Wifi

open Foundation
open Firmware
open Logs

/-!
# Holding an address
-/

/-- An event after which the station has no address. -/
def WifiEvent.LostIp : WifiEvent -> Prop
  | .staDisconnected => True
  | .staLostIp => True
  | _ => False

theorem WifiEvent.not_gotIp_of_lostIp {event : WifiEvent} (h : event.LostIp) :
    ¬ event.GotIp := by
  cases event with
  | staDisconnected => exact id
  | staLostIp => exact id
  | staStart => cases h
  | staConnected => cases h
  | otherWifi => cases h
  | staGotIp ip => cases h
  | otherIp => cases h

def GotIpInput : LogInput -> Prop
  | .wifi event _ => event.GotIp
  | _ => False

def LostIpInput : LogInput -> Prop
  | .wifi event _ => event.LostIp
  | _ => False

theorem not_gotIpInput_of_lostIpInput {i : LogInput} (h : LostIpInput i) :
    ¬ GotIpInput i := by
  cases i with
  | wifi event driver => exact WifiEvent.not_gotIp_of_lostIp h
  | log text stack => cases h
  | sender socket => cases h

/-- A GOT_IP event has occurred with no later DISCONNECTED or LOST_IP event. -/
def HoldsIp (history : List LogInput) : Prop :=
  Latched GotIpInput LostIpInput history

/-!
# What the bit says

The bit remembers that there has been an address.
-/

theorem logStep_eTasks_iff {s s' : LogSystem} {i : LogInput}
    (h : logStep s i = .ok s') :
    EventBit.wifiBitGotIp ∈ s'.eTasks <->
      GotIpInput i ∨ EventBit.wifiBitGotIp ∈ s.eTasks := by
  cases i with
  | wifi event driver =>
      rcases logStep_wifi h with ⟨eTasks, rfl, hbit⟩
      exact hbit
  | log text stack =>
      cases h
      simp only [GotIpInput, false_or]
      by_cases honline : s.Online
      · rw [newHookPapertrailFunction_of_online honline]
      · rw [newHookPapertrailFunction_of_not_online honline]
  | sender socket =>
      cases h
      simp only [GotIpInput, false_or, eTasks_espLogsPapertrailTask]

theorem wifiBit_mem_iff {history : List LogInput} {s : LogSystem}
    (hs : logsAfter history = .ok s) :
    EventBit.wifiBitGotIp ∈ s.eTasks <-> exists i, i ∈ history ∧ GotIpInput i := by
  refine reached_invariant
    (fun history (s : LogSystem) => EventBit.wifiBitGotIp ∈ s.eTasks <->
      exists i, i ∈ history ∧ GotIpInput i) ?_ ?_ hs
  · simp [LogSystem.boot]
  · intro past i s s' _ ih hstep
    rw [logStep_eTasks_iff hstep, ih]
    constructor
    · intro h
      rcases h with hip | ⟨j, hj, hip⟩
      · exact ⟨i, by simp, hip⟩
      · exact ⟨j, by simp [hj], hip⟩
    · intro h
      rcases h with ⟨j, hj, hip⟩
      rcases List.mem_append.mp hj with hold | hnew
      · exact Or.inr ⟨j, hold, hip⟩
      · rw [List.mem_singleton.mp hnew] at hip
        exact Or.inl hip

/-!
# When the bit tells the truth
-/

/-- In every state of the run the bit is set exactly while the station holds an address. -/
def BitTruthful (history : List LogInput) : Prop :=
  forall past, past <+: history ->
    Reached (logsAfter past) fun s =>
      EventBit.wifiBitGotIp ∈ s.eTasks <-> HoldsIp past

/-- Logs made without an address go into the early buffer and not into the queue. -/
def OfflineLogsEarly (history : List LogInput) : Prop :=
  EveryInput
    (fun past i =>
      Reached (logsAfter past) fun s =>
        ¬ HoldsIp past -> forall text stack, i = .log text stack ->
          (newHookPapertrailFunction s text stack).qLogs = s.qLogs ∧
            (newHookPapertrailFunction s text stack).earlyLogBuf =
              s.earlyLogBuf.store fun slot => slot.vsnprintf text)
    history

/-- No address that the station has had is ever lost. -/
def NoLossAfterIp (history : List LogInput) : Prop :=
  forall before i later, history = before ++ i :: later -> GotIpInput i ->
    forall j, j ∈ later -> ¬ LostIpInput j

theorem offlineLogsEarly_of_bitTruthful {history : List LogInput}
    (h : BitTruthful history) : OfflineLogsEarly history := by
  intro past i hpast s hs hip text stack _
  have hbit := h past ((List.prefix_append past [i]).trans hpast) s hs
  have honline : ¬ s.Online := fun honline => hip (hbit.mp honline.2)
  rw [newHookPapertrailFunction_of_not_online honline]
  exact ⟨rfl, rfl⟩

theorem bitTruthful_of_noLossAfterIp {history : List LogInput}
    (h : NoLossAfterIp history) : BitTruthful history := by
  intro past hlater
  rcases hlater with ⟨later, rfl⟩
  intro s hs
  rw [wifiBit_mem_iff hs]
  constructor
  · intro hmem
    rcases hmem with ⟨i, hi, hip⟩
    rcases List.append_of_mem hi with ⟨before, after, rfl⟩
    refine ⟨before, i, after, rfl, hip, ?_⟩
    intro j hj
    exact h before i (after ++ later) (by simp) hip j (List.mem_append_left _ hj)
  · intro hlatched
    rcases hlatched with ⟨before, i, after, rfl, hip, _⟩
    exact ⟨i, by simp, hip⟩

theorem noLossAfterIp_of_bitTruthful {history : List LogInput}
    (hrun : exists s, logsAfter history = .ok s) (h : BitTruthful history) :
    NoLossAfterIp history := by
  intro before i later heq
  subst heq
  intro hip j hj hlost
  rcases List.append_of_mem hj with ⟨middle, rest, rfl⟩
  have hpast : (before ++ i :: middle) ++ [j] <+: before ++ i :: (middle ++ j :: rest) :=
    ⟨rest, by simp⟩
  rcases hrun with ⟨final, hfinal⟩
  rcases outcomeAfter_ok_of_past hpast hfinal with ⟨s, hs⟩
  have hbit : EventBit.wifiBitGotIp ∈ s.eTasks :=
    (wifiBit_mem_iff hs).mpr ⟨i, by simp, hip⟩
  rcases latched_snoc.mp ((h _ hpast s hs).mp hbit) with hnew | ⟨_, hkept⟩
  · exact not_gotIpInput_of_lostIpInput hlost hnew
  · exact hkept hlost

theorem wifiBit_truthful_iff {history : List LogInput}
    (hrun : exists s, logsAfter history = .ok s) :
    BitTruthful history ∧ OfflineLogsEarly history <-> NoLossAfterIp history := by
  constructor
  · intro h
    exact noLossAfterIp_of_bitTruthful hrun h.1
  · intro h
    have hbit := bitTruthful_of_noLossAfterIp h
    exact ⟨hbit, offlineLogsEarly_of_bitTruthful hbit⟩

/-- The station gets an address, the socket is created, and the access point is lost. -/
def lossRun : List LogInput :=
  [.wifi .staStart ⟨.ok, .ok⟩, .wifi .staConnected ⟨.ok, .ok⟩,
    .wifi (.staGotIp [192, 168, 0, 7]) ⟨.ok, .ok⟩, .sender 54, .sender 54,
    .wifi .staDisconnected ⟨.ok, .ok⟩]

/-- The bit stays set without an address, and a log made then goes into the queue. -/
theorem wifiBit_after_loss :
    exists s, logsAfter lossRun = .ok s ∧ EventBit.wifiBitGotIp ∈ s.eTasks ∧
      ¬ HoldsIp lossRun ∧
      (newHookPapertrailFunction s [88] (CharArray.zeros 256)).qLogs.items.length = 1 ∧
      (newHookPapertrailFunction s [88] (CharArray.zeros 256)).earlyLogBuf.next = 0 := by
  refine ⟨_, rfl, by decide, ?_, by decide, by decide⟩
  intro h
  have hlast : lossRun = lossRun.take 5 ++ [.wifi .staDisconnected ⟨.ok, .ok⟩] := rfl
  rw [hlast, HoldsIp, latched_snoc] at h
  rcases h with hnew | ⟨_, hkept⟩
  · exact hnew
  · exact hkept trivial

theorem wifiBit_truthful_iff_before_loss :
    BitTruthful (lossRun.take 5) ∧ OfflineLogsEarly (lossRun.take 5) := by
  refine (wifiBit_truthful_iff ⟨_, rfl⟩).mpr ?_
  intro before i later heq _ j hj hlost
  have hmem : j ∈ lossRun.take 5 := by
    rw [heq]
    simp [hj]
  simp only [lossRun, List.take_succ_cons, List.take_zero, List.mem_cons,
    List.not_mem_nil, or_false] at hmem
  rcases hmem with rfl | rfl | rfl | rfl | rfl
  · exact hlost
  · exact hlost
  · exact hlost
  · exact hlost
  · exact hlost

end Wifi
end CarCleaner
