import CarCleaner.Logs.Papertrail

/-!
# Delivery of the logs

Under the assumptions of the design every log reaches the server exactly once and
in order: at every moment the logs made so far are the ones sent, followed by the
ones in the early buffer, the one that the task has taken from the queue and not
sent yet, and the ones in the queue.
-/

namespace CarCleaner
namespace Logs

open Foundation
open Firmware
open Wifi

/-!
# Where the logs are
-/

namespace LogSystem

/-- The texts of the datagrams, oldest first. -/
def sentTexts (s : LogSystem) : List (List UInt8) :=
  s.sent.map cString

def earlyTexts (s : LogSystem) : List (List UInt8) :=
  s.earlyLogBuf.kept.map CharArray.text

/-- The log that the task has received but not yet sent. -/
def heldTexts (s : LogSystem) : List (List UInt8) :=
  if (s.point = .draining ∨ s.point = .sending) ∧ s.isNewData = true then
    [s.logBuffer.text]
  else
    []

def queuedTexts (s : LogSystem) : List (List UInt8) :=
  s.qLogs.items.map CharArray.text

/-- All logs that are on the way or delivered, in the order of delivery. -/
def texts (s : LogSystem) : List (List UInt8) :=
  s.sentTexts ++ s.earlyTexts ++ s.heldTexts ++ s.queuedTexts

end LogSystem

/-- The text of a log as its path truncates it. -/
def recordedText (s : LogSystem) : LogInput -> List (List UInt8)
  | .wifi _ _ => []
  | .log text _ =>
      if s.Online then [snprintfBytes 256 text] else [snprintfBytes earlyLogSize text]
  | .sender _ => []

def recordedLogs (history : List LogInput) : List (List UInt8) :=
  observations logStep recordedText LogSystem.boot history

theorem recordedLogs_snoc {past : List LogInput} {s : LogSystem}
    (hs : logsAfter past = .ok s) (i : LogInput) :
    recordedLogs (past ++ [i]) = recordedLogs past ++ recordedText s i :=
  observations_snoc i recordedText hs

def LogInput.isLog : LogInput -> Bool
  | .log _ _ => true
  | _ => false

def logCount (history : List LogInput) : Nat :=
  history.countP LogInput.isLog

@[simp] theorem logCount_snoc (past : List LogInput) (i : LogInput) :
    logCount (past ++ [i]) = logCount past + if i.isLog then 1 else 0 := by
  rw [logCount, List.countP_append, List.countP_singleton, logCount]

/--
The socket can be created, at most 64 logs are made in front of it, and the queue
has room whenever a log is made.
-/
def AssumedIn (past : List LogInput) (i : LogInput) (s : LogSystem) : Prop :=
  match i with
  | .wifi _ _ => True
  | .log _ _ => s.qLogs.items.length < 10 ∧ (s.sock < 0 -> logCount past < earlyLogBufSize)
  | .sender socket => s.point = .creatingSocket -> 0 ≤ socket

instance (past : List LogInput) :
    (i : LogInput) -> DecidablePred (AssumedIn past i)
  | .wifi _ _ => fun _ => inferInstanceAs (Decidable True)
  | .log _ _ => fun _ => inferInstanceAs (Decidable (_ ∧ _))
  | .sender _ => fun _ => inferInstanceAs (Decidable (_ -> _))

def Assumed (past : List LogInput) (i : LogInput) : Prop :=
  Reached (logsAfter past) (AssumedIn past i)

instance (past : List LogInput) (i : LogInput) : Decidable (Assumed past i) :=
  inferInstanceAs (Decidable (Reached _ _))

/-!
# The invariant

As long as there is no socket, everything is in the early buffer.  Afterwards
nothing is added to it, so what it holds is older than the queue; a log taken from
the queue is sent only after the early buffer has been emptied.
-/

structure Delivered (history : List LogInput) (s : LogSystem) : Prop where
  recorded : s.texts = recordedLogs history
  no_socket_iff : s.sock < 0 <-> s.point = .waitingForIp ∨ s.point = .creatingSocket
  early : s.sock < 0 -> s.qLogs.items = [] ∧ s.earlyLogBuf.next = logCount history
  bit_mem : 0 ≤ s.sock ∨ s.point = .creatingSocket ->
    EventBit.wifiBitGotIp ∈ s.eTasks
  drained : s.point = .sending -> s.earlyLogBuf.next = 0

theorem delivered_boot : Delivered [] LogSystem.boot where
  recorded := rfl
  no_socket_iff := by decide
  early := fun _ => ⟨rfl, rfl⟩
  bit_mem := by decide
  drained := by decide

/-- An input that is no log leaves nothing to record. -/
theorem Delivered.of_past {past : List LogInput} {s s' : LogSystem} {i : LogInput}
    (hs : logsAfter past = .ok s) (htext : recordedText s i = [])
    (hlog : i.isLog = false) (h : Delivered past s') : Delivered (past ++ [i]) s' := by
  have hrecorded : recordedLogs (past ++ [i]) = recordedLogs past := by
    rw [recordedLogs_snoc hs, htext, List.append_nil]
  have hcount : logCount (past ++ [i]) = logCount past := by
    simp [hlog]
  constructor
  · rw [hrecorded]
    exact h.recorded
  · exact h.no_socket_iff
  · rw [hcount]
    exact h.early
  · exact h.bit_mem
  · exact h.drained

theorem Delivered.wifi {past : List LogInput} {s s' : LogSystem} {event : WifiEvent}
    {driver : WifiDriver} (hinv : Delivered past s)
    (hstep : logStep s (.wifi event driver) = .ok s') : Delivered past s' := by
  rcases logStep_wifi hstep with ⟨eTasks, rfl, hbit⟩
  constructor
  · exact hinv.recorded
  · exact hinv.no_socket_iff
  · exact hinv.early
  · intro h
    exact hbit.mpr (Or.inr (hinv.bit_mem h))
  · exact hinv.drained

theorem Delivered.log_online {past : List LogInput} {s : LogSystem} {text : List UInt8}
    {stack : CharArray 256} (hinv : Delivered past s) (hs : logsAfter past = .ok s)
    (hassumed : Assumed past (.log text stack)) (honline : s.Online) :
    Delivered (past ++ [.log text stack]) (newHookPapertrailFunction s text stack) := by
  have hroom := (hassumed s hs).1
  rw [newHookPapertrailFunction_of_online honline]
  constructor
  · rw [recordedLogs_snoc hs, recordedText, if_pos honline, <- hinv.recorded,
      <- CharArray.text_vsnprintf (by decide) stack text]
    simp only [LogSystem.texts, LogSystem.queuedTexts, BoundedQueue.items_sendOrDrop,
      if_pos hroom, List.map_append, List.map_singleton, List.append_assoc]
    rfl
  · exact hinv.no_socket_iff
  · intro h
    exact absurd honline.1 (not_le.mpr h)
  · exact hinv.bit_mem
  · exact hinv.drained

/-- A log takes the early path only while there is no socket. -/
theorem Delivered.sock_of_not_online {past : List LogInput} {s : LogSystem}
    (hinv : Delivered past s) (honline : ¬ s.Online) : s.sock < 0 := by
  by_contra hsock
  have hpos : 0 ≤ s.sock := not_lt.mp hsock
  exact honline ⟨hpos, hinv.bit_mem (Or.inl hpos)⟩

theorem Delivered.heldTexts_of_sock {past : List LogInput} {s : LogSystem}
    (hinv : Delivered past s) (hsock : s.sock < 0) : s.heldTexts = [] := by
  have hpoint := hinv.no_socket_iff.mp hsock
  rw [LogSystem.heldTexts, if_neg]
  intro h
  rcases h with ⟨hheld | hheld, _⟩
  · simp [hheld] at hpoint
  · simp [hheld] at hpoint

theorem Delivered.log_offline {past : List LogInput} {s : LogSystem} {text : List UInt8}
    {stack : CharArray 256} (hinv : Delivered past s) (hs : logsAfter past = .ok s)
    (hassumed : Assumed past (.log text stack)) (honline : ¬ s.Online) :
    Delivered (past ++ [.log text stack]) (newHookPapertrailFunction s text stack) := by
  have hsock := hinv.sock_of_not_online honline
  rcases hinv.early hsock with ⟨hqueue, hnext⟩
  have hroom : s.earlyLogBuf.next < earlyLogBufSize := by
    rw [hnext]
    exact (hassumed s hs).2 hsock
  rw [newHookPapertrailFunction_of_not_online honline]
  constructor
  · have hkept := WrappedBuffer.kept_store_of_lt hroom
      fun slot => CharArray.text_vsnprintf (by decide) slot text
    have hqueued : s.queuedTexts = [] := by
      rw [LogSystem.queuedTexts, hqueue, List.map_nil]
    rw [recordedLogs_snoc hs, recordedText, if_neg honline, <- hinv.recorded]
    change s.sentTexts ++ (s.earlyLogBuf.store _).kept.map CharArray.text ++ s.heldTexts ++
      s.queuedTexts = s.sentTexts ++ s.earlyTexts ++ s.heldTexts ++ s.queuedTexts ++ _
    rw [hkept, hqueued, hinv.heldTexts_of_sock hsock, LogSystem.earlyTexts]
    simp only [List.append_nil, List.append_assoc]
  · exact hinv.no_socket_iff
  · intro _
    rw [logCount_snoc, <- hnext]
    exact ⟨hqueue, WrappedBuffer.next_store_of_lt hroom _⟩
  · exact hinv.bit_mem
  · intro hpoint
    have hother := hinv.no_socket_iff.mp hsock
    change s.point = .sending at hpoint
    simp [hpoint] at hother

/-!
# Steps of the task

A step that only moves on changes no text, unless it forgets a log that is held.
-/

def LogSystem.Holding (s : LogSystem) : Prop :=
  s.point = .draining ∨ s.point = .sending

theorem LogSystem.heldTexts_eq_nil {s : LogSystem} (h : ¬ s.Holding) : s.heldTexts = [] :=
  if_neg fun hheld => h hheld.1

theorem Delivered.move {past : List LogInput} {s : LogSystem} {point : SenderPoint}
    (hinv : Delivered past s) (hheld : { s with point := point }.heldTexts = s.heldTexts)
    (hsock : s.sock < 0 <-> point = .waitingForIp ∨ point = .creatingSocket)
    (hbit : point = .creatingSocket -> EventBit.wifiBitGotIp ∈ s.eTasks)
    (hdrained : point = .sending -> s.earlyLogBuf.next = 0) :
    Delivered past { s with point := point } := by
  constructor
  · rw [<- hinv.recorded]
    change s.sentTexts ++ s.earlyTexts ++ LogSystem.heldTexts _ ++ s.queuedTexts = _
    rw [hheld, LogSystem.texts]
  · exact hsock
  · exact hinv.early
  · intro h
    rcases h with hpos | hpoint
    · exact hinv.bit_mem (Or.inl hpos)
    · exact hbit hpoint
  · exact hdrained

/-- Once there is a socket, only the texts and the early buffer matter. -/
theorem Delivered.of_socket {past : List LogInput} {s s' : LogSystem}
    (hinv : Delivered past s) (hpos : 0 ≤ s.sock) (hsock : s'.sock = s.sock)
    (hbits : s'.eTasks = s.eTasks)
    (hpoint : ¬ (s'.point = .waitingForIp ∨ s'.point = .creatingSocket))
    (hdrained : s'.point = .sending -> s'.earlyLogBuf.next = 0)
    (htexts : s'.texts = s.texts) : Delivered past s' := by
  have hnot : ¬ s'.sock < 0 := by
    rw [hsock]
    exact not_lt.mpr hpos
  constructor
  · rw [htexts]
    exact hinv.recorded
  · exact iff_of_false hnot hpoint
  · intro h
    exact absurd h hnot
  · intro _
    rw [hbits]
    exact hinv.bit_mem (Or.inl hpos)
  · exact hdrained

theorem Delivered.sock_nonneg {past : List LogInput} {s : LogSystem}
    (hinv : Delivered past s)
    (hpoint : ¬ (s.point = .waitingForIp ∨ s.point = .creatingSocket)) : 0 ≤ s.sock := by
  by_contra hneg
  exact hpoint (hinv.no_socket_iff.mp (not_le.mp hneg))

theorem Delivered.receive {past : List LogInput} {s : LogSystem} (hinv : Delivered past s)
    (hpoint : s.point = .receiving) (socket : Int) :
    Delivered past (espLogsPapertrailTask s socket) := by
  have hpos : 0 ≤ s.sock := hinv.sock_nonneg (by simp [hpoint])
  have hheld : s.heldTexts = [] :=
    LogSystem.heldTexts_eq_nil (by simp [LogSystem.Holding, hpoint])
  simp only [espLogsPapertrailTask, hpoint]
  cases hreceive : s.qLogs.receive? with
  | none =>
      apply hinv.of_socket hpos
      · rfl
      · rfl
      · simp
      · intro h
        cases h
      · rw [LogSystem.texts, LogSystem.texts, hheld]
        rfl
  | some taken =>
      rcases taken with ⟨element, rest⟩
      have hitems := BoundedQueue.items_of_receive?_some hreceive
      apply hinv.of_socket hpos
      · rfl
      · rfl
      · simp
      · intro h
        cases h
      · rw [LogSystem.texts, LogSystem.texts, hheld, List.append_nil]
        simp only [LogSystem.queuedTexts, hitems, List.map_cons, List.append_assoc]
        rfl

theorem Delivered.drain {past : List LogInput} {s : LogSystem} (hinv : Delivered past s)
    (hpoint : s.point = .draining) (socket : Int) :
    Delivered past (espLogsPapertrailTask s socket) := by
  have hpos : 0 ≤ s.sock := hinv.sock_nonneg (by simp [hpoint])
  simp only [espLogsPapertrailTask, hpoint, if_pos hpos]
  apply hinv.of_socket hpos
  · rfl
  · rfl
  · simp
  · intro _
    rfl
  · have hsent : (s.sent ++ s.earlyLogBuf.kept.map CharArray.bytes).map cString =
        s.sentTexts ++ s.earlyTexts := by
      rw [List.map_append, List.map_map]
      rfl
    have hheld : { s with point := .sending }.heldTexts = s.heldTexts := by
      simp [LogSystem.heldTexts, hpoint]
    rw [LogSystem.texts, LogSystem.texts, <- hsent, <- hheld]
    change _ ++ [] ++ _ ++ _ = _
    rw [List.append_nil]
    rfl

theorem Delivered.send {past : List LogInput} {s : LogSystem} (hinv : Delivered past s)
    (hpoint : s.point = .sending) (socket : Int) :
    Delivered past (espLogsPapertrailTask s socket) := by
  have hpos : 0 ≤ s.sock := hinv.sock_nonneg (by simp [hpoint])
  simp only [espLogsPapertrailTask, hpoint]
  split
  · next hnew =>
      apply hinv.of_socket hpos
      · rfl
      · rfl
      · simp
      · intro h
        cases h
      · have hsent : (s.sent ++ [s.logBuffer.text]).map cString =
            s.sentTexts ++ s.heldTexts := by
          rw [List.map_append, List.map_singleton, CharArray.text, cString_cString]
          simp [LogSystem.heldTexts, hpoint, hnew, LogSystem.sentTexts, CharArray.text]
        have hearly : s.earlyTexts = [] := by
          rw [LogSystem.earlyTexts, WrappedBuffer.kept_eq_nil (hinv.drained hpoint),
            List.map_nil]
        rw [LogSystem.texts, LogSystem.texts, hearly, List.append_nil, <- hsent]
        change _ ++ s.earlyTexts ++ [] ++ _ = _
        rw [hearly, List.append_nil, List.append_nil]
        rfl
  · next hnew =>
      apply hinv.move
      · simp [LogSystem.heldTexts, hnew]
      · simpa using hpos
      · intro h
        cases h
      · intro h
        cases h

theorem Delivered.sender {past : List LogInput} {s : LogSystem} {socket : Int}
    (hinv : Delivered past s) (hcreate : s.point = .creatingSocket -> 0 ≤ socket) :
    Delivered past (espLogsPapertrailTask s socket) := by
  cases hpoint : s.point with
  | waitingForIp =>
      simp only [espLogsPapertrailTask, hpoint]
      split
      · next hbit =>
          apply hinv.move
          · simp [LogSystem.heldTexts, hpoint]
          · simp [hinv.no_socket_iff, hpoint]
          · exact fun _ => hbit
          · intro heq
            cases heq
      · exact hinv
  | creatingSocket =>
      have hpos := hcreate hpoint
      simp only [espLogsPapertrailTask, hpoint]
      constructor
      · rw [<- hinv.recorded, LogSystem.texts, LogSystem.texts,
          LogSystem.heldTexts_eq_nil (by simp [LogSystem.Holding]),
          LogSystem.heldTexts_eq_nil (by simp [LogSystem.Holding, hpoint])]
        rfl
      · simpa using hpos
      · intro h
        exact absurd hpos (not_le.mpr h)
      · intro _
        exact hinv.bit_mem (Or.inr hpoint)
      · intro heq
        cases heq
  | waitingForBit =>
      simp only [espLogsPapertrailTask, hpoint]
      split
      · next hbit =>
          apply hinv.move
          · simp [LogSystem.heldTexts, hpoint]
          · simp [hinv.no_socket_iff, hpoint]
          · intro heq
            cases heq
          · intro heq
            cases heq
      · exact hinv
  | receiving =>
      exact hinv.receive hpoint socket
  | draining =>
      exact hinv.drain hpoint socket
  | sending =>
      exact hinv.send hpoint socket

theorem delivered_of_assumed {history : List LogInput}
    (h : EveryInput Assumed history) :
    forall s, logsAfter history = .ok s -> Delivered history s := by
  refine h.induction
    (fun history => forall s, logsAfter history = .ok s -> Delivered history s) ?_ ?_
  · intro s hs
    cases hs
    exact delivered_boot
  · intro past i _ hi ih s' hs'
    rcases outcomeAfter_snoc_ok hs' with ⟨s, hs, hstep⟩
    have hinv := ih s hs
    cases i with
    | wifi event driver =>
        exact (hinv.wifi hstep).of_past hs rfl rfl
    | log text stack =>
        cases hstep
        by_cases honline : s.Online
        · exact hinv.log_online hs hi honline
        · exact hinv.log_offline hs hi honline
    | sender socket =>
        cases hstep
        exact (hinv.sender (hi s hs)).of_past hs rfl rfl

/-!
# Every log exactly once and in order
-/

theorem texts_eq_recordedLogs {history : List LogInput} {s : LogSystem}
    (h : EveryInput Assumed history) (hs : logsAfter history = .ok s) :
    s.sentTexts ++ s.earlyTexts ++ s.heldTexts ++ s.queuedTexts = recordedLogs history :=
  (delivered_of_assumed h s hs).recorded

/-- A log is made while the task is ready to receive, and the task receives it. -/
def heldRun : List LogInput :=
  [.wifi (.staGotIp [192, 168, 0, 7]) ⟨.ok, .ok⟩, .sender 54, .sender 54, .sender 54,
    .log (literal "ready") (CharArray.zeros 256), .sender 54]

/-- Between its receipt and its sending a log is in neither buffer. -/
theorem held_log_in_no_buffer :
    EveryInput Assumed heldRun ∧
      exists s, logsAfter heldRun = .ok s ∧
        s.sentTexts ++ s.earlyTexts ++ s.queuedTexts = [] ∧
        recordedLogs heldRun = [literal "ready"] := by
  refine ⟨by decide, _, rfl, by decide, by decide⟩

theorem texts_eq_recordedLogs_heldRun :
    exists s, logsAfter heldRun = .ok s ∧
      s.sentTexts ++ s.earlyTexts ++ s.heldTexts ++ s.queuedTexts = recordedLogs heldRun :=
  ⟨_, rfl, texts_eq_recordedLogs (by decide) rfl⟩

end Logs
end CarCleaner
