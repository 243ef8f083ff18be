import CarCleaner.Logs.Papertrail

/-!
# The ring of early logs

The buffer of early logs is meant to keep the newest ones.  Its index is also the
number of logs that the drain loop sends, and it returns to 0 as soon as a log
follows a full buffer, so the first drain sends the logs of the last lap only.
-/

namespace CarCleaner
namespace Logs

open Foundation
open Firmware
open Wifi

/-!
# Logs made before the first drain
-/

/-- The text of a log that is made while the socket cannot be used. -/
def earlyText (s : LogSystem) : LogInput -> List (List UInt8)
  | .wifi _ _ => []
  | .log text _ => if s.Online then [] else [text]
  | .sender _ => []

def earlyLogs (history : List LogInput) : List (List UInt8) :=
  observations logStep earlyText LogSystem.boot history

/-- The task is about to enter its drain loop. -/
def LogSystem.Draining (s : LogSystem) : Prop :=
  s.point = .draining ∧ 0 ≤ s.sock

instance (s : LogSystem) : Decidable s.Draining :=
  inferInstanceAs (Decidable (_ ∧ _))

def LogInput.isSender : LogInput -> Bool
  | .sender _ => true
  | _ => false

/-- The input is no pass through the drain loop. -/
def NoDrain (past : List LogInput) (i : LogInput) : Prop :=
  Reached (logsAfter past) fun s => s.Draining -> i.isSender = false

instance (past : List LogInput) (i : LogInput) : Decidable (NoDrain past i) :=
  inferInstanceAs (Decidable (Reached _ _))

/-- The static buffer after early logs. -/
def storedEarly (logs : List (List UInt8)) :
    WrappedBuffer (CharArray earlyLogSize) earlyLogBufSize :=
  stateAfter (fun b text => b.store fun slot => slot.vsnprintf text)
    LogSystem.boot.earlyLogBuf logs

theorem storedEarly_snoc (logs : List (List UInt8)) (text : List UInt8) :
    storedEarly (logs ++ [text]) =
      (storedEarly logs).store fun slot => slot.vsnprintf text :=
  stateAfter_snoc _ _ _ _

theorem texts_storedEarly (logs : List (List UInt8)) :
    (storedEarly logs).kept.map CharArray.text =
      (logs.map (snprintfBytes earlyLogSize)).drop
        (WrappedBuffer.lapStart earlyLogBufSize logs.length) :=
  WrappedBuffer.kept_stateAfter
    (fun text slot => CharArray.text_vsnprintf (by decide) slot text) rfl logs

/-- Only the hook and the drain loop change the buffer. -/
theorem earlyLogBuf_task_of_not_draining {s : LogSystem} (h : ¬ s.Draining)
    (socket : Int) : (espLogsPapertrailTask s socket).earlyLogBuf = s.earlyLogBuf := by
  unfold espLogsPapertrailTask
  split
  · split <;> rfl
  · rfl
  · split <;> rfl
  · split <;> rfl
  · next hpoint =>
      rw [if_neg fun hsock => h ⟨hpoint, hsock⟩]
  · split <;> rfl

theorem earlyLogBuf_eq_storedEarly {history : List LogInput}
    (h : EveryInput NoDrain history) :
    forall s, logsAfter history = .ok s ->
      s.earlyLogBuf = storedEarly (earlyLogs history) := by
  refine h.induction
    (fun history => forall s, logsAfter history = .ok s ->
      s.earlyLogBuf = storedEarly (earlyLogs history)) ?_ ?_
  · intro s hs
    cases hs
    rfl
  · intro past i _ hi ih s' hs'
    rcases outcomeAfter_snoc_ok hs' with ⟨s, hs, hstep⟩
    rw [earlyLogs, observations_snoc i earlyText hs, <- earlyLogs]
    cases i with
    | wifi event driver =>
        rcases logStep_wifi hstep with ⟨eTasks, rfl, _⟩
        simpa [earlyText] using ih s hs
    | log text stack =>
        cases hstep
        by_cases honline : s.Online
        · rw [newHookPapertrailFunction_of_online honline, earlyText, if_pos honline,
            List.append_nil]
          exact ih s hs
        · rw [newHookPapertrailFunction_of_not_online honline, earlyText, if_neg honline,
            storedEarly_snoc, <- ih s hs]
    | sender socket =>
        cases hstep
        have hdrain : ¬ s.Draining := by
          intro hdrain
          cases hi s hs hdrain
        rw [earlyLogBuf_task_of_not_draining hdrain, earlyText, List.append_nil]
        exact ih s hs

/-!
# The first drain
-/

/-- The step sends the newest early logs that the buffer has room for, oldest first. -/
def SendsNewest (logs : List (List UInt8)) (s s' : LogSystem) : Prop :=
  exists drained, s'.sent = s.sent ++ drained ∧
    drained.map cString =
      (logs.map (snprintfBytes earlyLogSize)).drop (logs.length - earlyLogBufSize)

theorem SendsNewest.length_sent {logs : List (List UInt8)} {s s' : LogSystem}
    (h : SendsNewest logs s s') :
    s'.sent.length = s.sent.length + (logs.length - (logs.length - earlyLogBufSize)) := by
  rcases h with ⟨drained, hsent, htexts⟩
  have hlength := congrArg List.length htexts
  simp only [List.length_map, List.length_drop] at hlength
  rw [hsent, List.length_append, hlength]

theorem drain_eq {s : LogSystem} (h : s.Draining) (socket : Int) :
    espLogsPapertrailTask s socket =
      { s with
        sent := s.sent ++ s.earlyLogBuf.kept.map CharArray.bytes
        earlyLogBuf := s.earlyLogBuf.reset
        point := .sending } := by
  simp only [espLogsPapertrailTask, h.1, if_pos h.2]

theorem drain_sends {s : LogSystem} (h : s.Draining) (socket : Int) :
    (espLogsPapertrailTask s socket).sent =
      s.sent ++ s.earlyLogBuf.kept.map CharArray.bytes := by
  rw [drain_eq h]

theorem firstDrain_sendsNewest_iff {history : List LogInput} {s : LogSystem}
    (hfirst : EveryInput NoDrain history) (hs : logsAfter history = .ok s)
    (hdrain : s.Draining) (socket : Int) :
    SendsNewest (earlyLogs history) s (espLogsPapertrailTask s socket) <->
      (earlyLogs history).length ≤ earlyLogBufSize ∨
        earlyLogBufSize ∣ (earlyLogs history).length := by
  have hsent := drain_sends hdrain socket
  have htexts : (s.earlyLogBuf.kept.map CharArray.bytes).map cString =
      ((earlyLogs history).map (snprintfBytes earlyLogSize)).drop
        (WrappedBuffer.lapStart earlyLogBufSize (earlyLogs history).length) := by
    rw [List.map_map, earlyLogBuf_eq_storedEarly hfirst s hs]
    exact texts_storedEarly (earlyLogs history)
  rw [<- WrappedBuffer.lapStart_eq_iff (by decide)]
  constructor
  · intro hnewest
    have hlength := hnewest.length_sent
    have hkept := congrArg List.length htexts
    have hle := WrappedBuffer.lapStart_le earlyLogBufSize (earlyLogs history).length
    simp only [hsent, List.length_append, List.length_map, List.length_drop]
      at hlength hkept
    omega
  · intro hlap
    refine ⟨_, hsent, ?_⟩
    rw [htexts, hlap]

/-- Early logs `1`, ..., `n` in front of an address, a socket and the first receive. -/
def earlyRun (n : Nat) : List LogInput :=
  (List.range n).map (fun k => .log [UInt8.ofNat (k + 1)] (CharArray.zeros 256)) ++
    [.wifi (.staGotIp [192, 168, 0, 7]) ⟨.ok, .ok⟩, .sender 54, .sender 54, .sender 54,
      .sender 54]

/-- The 65th early log makes the drain lose the other 64. -/
theorem drain_after_65_logs :
    EveryInput NoDrain (earlyRun 65) ∧
      exists s, logsAfter (earlyRun 65) = .ok s ∧ s.Draining ∧
        ¬ SendsNewest (earlyLogs (earlyRun 65)) s (espLogsPapertrailTask s 54) ∧
        (espLogsPapertrailTask s 54).sent.map cString = [[65]] := by
  refine ⟨by decide +kernel, _, rfl, by decide +kernel, ?_, by decide +kernel⟩
  intro h
  exact absurd h.length_sent (by decide +kernel)

theorem firstDrain_sendsNewest_iff_64 :
    exists s, logsAfter (earlyRun 64) = .ok s ∧
      SendsNewest (earlyLogs (earlyRun 64)) s (espLogsPapertrailTask s 54) := by
  refine ⟨_, rfl, ?_⟩
  exact (firstDrain_sendsNewest_iff (by decide +kernel) rfl (by decide +kernel) 54).mpr
    (by decide +kernel)

end Logs
end CarCleaner
