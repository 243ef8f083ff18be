import CarCleaner.Foundation.Leftovers
import CarCleaner.Logs.EarlyRing

/-!
# The slots of the early logs

The drain loop sends whole slots of 128 bytes, while the hook writes only as many bytes
as a text needs.  A datagram therefore also carries what longer texts have left in its
slot.  The logs of the queue are sent with their own lengths.
-/

namespace CarCleaner
namespace Logs

open Foundation
open Firmware
open Wifi

/-!
# What a slot holds
-/

/-- The early logs that were written to a slot, oldest first. -/
def slotLogs (i : Nat) (logs : List (List UInt8)) : List (List UInt8) :=
  WrappedBuffer.landing earlyLogBufSize i logs

theorem getElem?_storedEarly {i : Nat} (hi : i < earlyLogBufSize)
    (logs : List (List UInt8)) :
    (storedEarly logs).slots[i]? = some (CharArray.printed earlyLogSize (slotLogs i logs)) := by
  have hempty : LogSystem.boot.earlyLogBuf.slots[i]? = some (CharArray.zeros earlyLogSize) :=
    List.getElem?_replicate_of_lt hi
  rw [storedEarly, WrappedBuffer.getElem?_stateAfter rfl logs i, hempty]
  rfl

/-- The slots that hold the last lap of early logs. -/
def lastLapSlots (logs : List (List UInt8)) : Nat :=
  logs.length - WrappedBuffer.lapStart earlyLogBufSize logs.length

theorem next_storedEarly (logs : List (List UInt8)) :
    (storedEarly logs).next = lastLapSlots logs :=
  WrappedBuffer.next_stateAfter rfl logs

theorem next_storedEarly_le (logs : List (List UInt8)) :
    (storedEarly logs).next ≤ logs.length :=
  (next_storedEarly logs).trans_le (Nat.sub_le _ _)

theorem mem_of_mem_slotLogs {i : Nat} {logs : List (List UInt8)} {text : List UInt8}
    (h : text ∈ slotLogs i logs) : text ∈ logs := by
  rcases List.mem_map.mp h with ⟨p, hp, rfl⟩
  exact List.fst_mem_of_mem_zipIdx (List.mem_of_mem_filter hp)

/-!
# Drains

Early logs are made before the first drain only: from then on there is a socket and the
Wi-Fi bit is set.
-/

def LogSystem.Connected (s : LogSystem) : Prop :=
  0 ≤ s.sock ∧ EventBit.wifiBitGotIp ∈ s.eTasks ∧ s.point ≠ .waitingForIp ∧
    s.point ≠ .creatingSocket

structure DrainInv (history : List LogInput) (s : LogSystem) : Prop where
  gotIp : s.point ≠ .waitingForIp -> EventBit.wifiBitGotIp ∈ s.eTasks
  stored : EveryInput NoDrain history ∧ s.earlyLogBuf = storedEarly (earlyLogs history) ∨
    s.earlyLogBuf.next = 0 ∧ s.Connected

theorem gotIp_task {s : LogSystem}
    (h : s.point ≠ .waitingForIp -> EventBit.wifiBitGotIp ∈ s.eTasks) (socket : Int)
    (hpoint : (espLogsPapertrailTask s socket).point ≠ .waitingForIp) :
    EventBit.wifiBitGotIp ∈ s.eTasks := by
  by_cases hwaiting : s.point = .waitingForIp
  · by_contra hbit
    rw [espLogsPapertrailTask, hwaiting] at hpoint
    simp [hbit, hwaiting] at hpoint
  · exact h hwaiting

theorem LogSystem.Connected.task {s : LogSystem} (h : s.Connected) (socket : Int) :
    (espLogsPapertrailTask s socket).Connected := by
  rcases h with ⟨hsock, hbit, hwaiting, hcreating⟩
  unfold espLogsPapertrailTask
  split
  · next hpoint => exact absurd hpoint hwaiting
  · next hpoint => exact absurd hpoint hcreating
  · rw [if_pos hbit]
    exact ⟨hsock, hbit, by simp, by simp⟩
  · split
    · exact ⟨hsock, hbit, by simp, by simp⟩
    · exact ⟨hsock, hbit, by simp, by simp⟩
  · split
    · exact ⟨hsock, hbit, by simp, by simp⟩
    · exact ⟨hsock, hbit, by simp, by simp⟩
  · split
    · exact ⟨hsock, hbit, by simp, by simp⟩
    · exact ⟨hsock, hbit, by simp, by simp⟩

theorem drainInv_logsAfter {history : List LogInput} {s : LogSystem}
    (hs : logsAfter history = .ok s) : DrainInv history s := by
  refine reached_invariant DrainInv
    ⟨fun h => absurd rfl h, Or.inl ⟨everyInput_nil NoDrain, rfl⟩⟩ ?_ hs
  intro past i s s' hpast h hstep
  have hearly : earlyLogs (past ++ [i]) = earlyLogs past ++ earlyText s i :=
    observations_snoc i earlyText hpast
  cases i with
  | wifi event driver =>
      rcases logStep_wifi hstep with ⟨eTasks, rfl, hbit⟩
      rw [earlyText, List.append_nil] at hearly
      refine ⟨fun hpoint => hbit.mpr (Or.inr (h.gotIp hpoint)), ?_⟩
      rw [hearly]
      rcases h.stored with ⟨hfirst, hstored⟩ | ⟨hnext, hsock, honline, hpoint⟩
      · exact Or.inl ⟨everyInput_snoc.mpr ⟨hfirst, fun _ _ _ => rfl⟩, hstored⟩
      · exact Or.inr ⟨hnext, hsock, hbit.mpr (Or.inr honline), hpoint⟩
  | log text stack =>
      cases hstep
      by_cases honline : s.Online
      · rw [earlyText, if_pos honline, List.append_nil] at hearly
        rw [newHookPapertrailFunction_of_online honline]
        refine ⟨h.gotIp, ?_⟩
        rw [hearly]
        rcases h.stored with ⟨hfirst, hstored⟩ | hdrained
        · exact Or.inl ⟨everyInput_snoc.mpr ⟨hfirst, fun _ _ _ => rfl⟩, hstored⟩
        · exact Or.inr hdrained
      · rw [earlyText, if_neg honline] at hearly
        rw [newHookPapertrailFunction_of_not_online honline]
        refine ⟨h.gotIp, ?_⟩
        rcases h.stored with ⟨hfirst, hstored⟩ | ⟨_, hsock, hbit, _⟩
        · exact Or.inl ⟨everyInput_snoc.mpr ⟨hfirst, fun _ _ _ => rfl⟩,
            by rw [hearly, storedEarly_snoc, hstored]⟩
        · exact absurd ⟨hsock, hbit⟩ honline
  | sender socket =>
      cases hstep
      rw [earlyText, List.append_nil] at hearly
      have hbit := gotIp_task h.gotIp socket
      rw [<- eTasks_espLogsPapertrailTask s socket] at hbit
      refine ⟨hbit, ?_⟩
      rw [hearly]
      by_cases hdrain : s.Draining
      · rw [drain_eq hdrain]
        exact Or.inr ⟨rfl, hdrain.2, h.gotIp (by simp [hdrain.1]), by simp, by simp⟩
      · rw [earlyLogBuf_task_of_not_draining hdrain]
        rcases h.stored with ⟨hfirst, hstored⟩ | ⟨hnext, hconnected⟩
        · have hno : NoDrain past (.sender socket) := by
            intro t ht hdraining
            rw [show t = s from Except.ok.inj (ht.symm.trans hpast)] at hdraining
            exact absurd hdraining hdrain
          exact Or.inl ⟨everyInput_snoc.mpr ⟨hfirst, hno⟩, hstored⟩
        · exact Or.inr ⟨hnext, hconnected.task socket⟩

/-!
# Datagrams
-/

/-- The datagram is the log last written to the slot, with NULs behind it. -/
def CarriesLastLog (logs : List (List UInt8)) (i : Nat) (datagram : List UInt8) : Prop :=
  exists text, (slotLogs i logs).getLast? = some text ∧
    datagram = paddedText earlyLogSize text

/-- Every datagram that the step sends carries the last log of its slot alone. -/
def SendsLastLogs (logs : List (List UInt8)) (s s' : LogSystem) : Prop :=
  exists drained, s'.sent = s.sent ++ drained ∧
    forall i datagram, drained[i]? = some datagram -> CarriesLastLog logs i datagram

theorem carriesLastLog_iff {logs : List (List UInt8)} {i : Nat}
    (hfree : forall text, text ∈ logs -> 0 ∉ text) (hi : i < (storedEarly logs).next) :
    CarriesLastLog logs i (CharArray.printed earlyLogSize (slotLogs i logs)).bytes <->
      Covered ((slotLogs i logs).map (printedLength earlyLogSize)) := by
  have hne : slotLogs i logs ≠ [] :=
    WrappedBuffer.landing_ne_nil (hi.trans_le (storedEarly logs).next_le)
      (hi.trans_le (next_storedEarly_le logs))
  have hslot : forall text, text ∈ slotLogs i logs -> 0 ∉ text := fun text h =>
    hfree text (mem_of_mem_slotLogs h)
  unfold CarriesLastLog
  rcases List.eq_nil_or_concat' (slotLogs i logs) with hnil | ⟨older, text, heq⟩
  · exact absurd hnil hne
  · rw [heq] at hslot ⊢
    rw [List.getLast?_concat, <- bytes_printed_eq_paddedText_iff (by decide) hslot]
    simp

theorem sendsLastLogs_iff {logs : List (List UInt8)} {s : LogSystem}
    (hfree : forall text, text ∈ logs -> 0 ∉ text) (hdrain : s.Draining)
    (hstored : s.earlyLogBuf = storedEarly logs) (socket : Int) :
    SendsLastLogs logs s (espLogsPapertrailTask s socket) <->
      forall i, i < s.earlyLogBuf.next ->
        Covered ((slotLogs i logs).map (printedLength earlyLogSize)) := by
  have hdatagram : forall i, i < s.earlyLogBuf.next ->
      (s.earlyLogBuf.kept.map CharArray.bytes)[i]? =
        some (CharArray.printed earlyLogSize (slotLogs i logs)).bytes := by
    intro i hi
    rw [List.getElem?_map, WrappedBuffer.kept, List.getElem?_take_of_lt hi, hstored,
      getElem?_storedEarly (hi.trans_le s.earlyLogBuf.next_le)]
    rfl
  constructor
  · intro h
    rcases h with ⟨drained, hsent, hcarries⟩
    intro i hi
    rw [drain_sends hdrain, List.append_cancel_left_eq] at hsent
    rw [<- carriesLastLog_iff hfree (hstored ▸ hi)]
    exact hcarries i _ (hsent ▸ hdatagram i hi)
  · intro hcovered
    refine ⟨_, drain_sends hdrain socket, ?_⟩
    intro i datagram hget
    have hi : i < s.earlyLogBuf.next := by
      have hlt := (List.getElem?_eq_some_iff.mp hget).1
      rwa [List.length_map, WrappedBuffer.length_kept] at hlt
    rw [hdatagram i hi, Option.some.injEq] at hget
    rw [<- hget]
    exact (carriesLastLog_iff hfree (hstored ▸ hi)).mpr (hcovered i hi)

/--
A drain sends the last log of every slot alone exactly when it is not the first one, or
each older log of a slot of the last lap is at most a byte longer than some later log of
that slot.
-/
theorem drain_sendsLastLogs_iff {history : List LogInput} {s : LogSystem}
    (hs : logsAfter history = .ok s) (hdrain : s.Draining)
    (hfree : forall text, text ∈ earlyLogs history -> 0 ∉ text) (socket : Int) :
    SendsLastLogs (earlyLogs history) s (espLogsPapertrailTask s socket) <->
      (EveryInput NoDrain history -> forall i, i < lastLapSlots (earlyLogs history) ->
        Covered ((slotLogs i (earlyLogs history)).map (printedLength earlyLogSize))) := by
  rcases (drainInv_logsAfter hs).stored with ⟨hfirst, hstored⟩ | ⟨hnext, _⟩
  · rw [sendsLastLogs_iff hfree hdrain hstored socket, hstored, next_storedEarly]
    exact (imp_iff_right hfirst).symm
  · refine iff_of_true ⟨[], ?_, ?_⟩ ?_
    · rw [drain_sends hdrain, WrappedBuffer.kept_eq_nil hnext]
      rfl
    · intro i datagram hget
      cases hget
    · intro hfirst i hi
      rw [<- next_storedEarly, <- earlyLogBuf_eq_storedEarly hfirst s hs, hnext] at hi
      exact absurd hi (Nat.not_lt_zero i)

/-- A long log, 63 others and a short one in front of an address and the first receive. -/
def lapRun : List LogInput :=
  .log (literal "pass:1234") (CharArray.zeros 256) ::
    List.replicate 63 (.log (literal "-") (CharArray.zeros 256)) ++
      [.log (literal "ok") (CharArray.zeros 256),
        .wifi (.staGotIp [192, 168, 0, 7]) ⟨.ok, .ok⟩, .sender 54, .sender 54, .sender 54,
        .sender 54]

/-- The one datagram of the drain ends in most of the log that was overwritten. -/
theorem lapRun_leaks :
    (forall text, text ∈ earlyLogs lapRun -> 0 ∉ text) ∧
      exists s, logsAfter lapRun = .ok s ∧ s.Draining ∧
        ¬ SendsLastLogs (earlyLogs lapRun) s (espLogsPapertrailTask s 54) ∧
        (espLogsPapertrailTask s 54).sent =
          [literal "ok" ++ 0 :: literal "s:1234" ++ List.replicate 119 0] := by
  have hfree : forall text, text ∈ earlyLogs lapRun -> 0 ∉ text := by
    decide +kernel
  refine ⟨hfree, _, rfl, by decide +kernel, ?_, by decide +kernel⟩
  rw [sendsLastLogs_iff hfree (by decide +kernel) (by decide +kernel) 54]
  intro hcovered
  exact absurd (hcovered 0 (by decide +kernel)) (by decide +kernel)

theorem drain_sendsLastLogs_iff_66 :
    exists s, logsAfter (earlyRun 66) = .ok s ∧
      SendsLastLogs (earlyLogs (earlyRun 66)) s (espLogsPapertrailTask s 54) := by
  refine ⟨_, rfl, ?_⟩
  exact (drain_sendsLastLogs_iff rfl (by decide +kernel) (by decide +kernel) 54).mpr
    fun _ => by decide +kernel

end Logs
end CarCleaner
