import CarCleaner.Logs.Delivery
import CarCleaner.Logs.EarlyRing

/-!
# Progress of the logs

Under the assumptions of the design no log waits for ever: once the board has an address,
a bounded number of steps of the task sends whatever has been logged, in whatever order
they come with the events of the driver.
-/

namespace CarCleaner
namespace Logs

open Foundation
open Firmware
open Wifi

/-!
# The steps that are left
-/

/-- No log is in a buffer, in the queue or in the hands of the task. -/
structure LogSystem.AllSent (s : LogSystem) : Prop where
  early : s.earlyLogBuf.next = 0
  queued : s.qLogs.items = []
  held : s.Holding -> s.isNewData = false

/-- The task takes at most so many steps until all logs are sent. -/
def LogSystem.stepsLeft (s : LogSystem) : Nat :=
  match s.point with
  | .waitingForIp => 4 * s.qLogs.items.length + 5
  | .creatingSocket => 4 * s.qLogs.items.length + 4
  | .waitingForBit => 4 * s.qLogs.items.length + 3
  | .receiving => 4 * s.qLogs.items.length + 2
  | .draining =>
      if s.isNewData = false ∧ s.qLogs.items = [] then 1 else 4 * s.qLogs.items.length + 5
  | .sending => 4 * s.qLogs.items.length + 4

theorem LogSystem.stepsLeft_le (s : LogSystem) :
    s.stepsLeft ≤ 4 * s.qLogs.items.length + 5 := by
  unfold LogSystem.stepsLeft
  split
  · exact le_rfl
  · omega
  · omega
  · omega
  · split
    · omega
    · exact le_rfl
  · omega

theorem LogSystem.stepsLeft_pos (s : LogSystem) : 0 < s.stepsLeft := by
  unfold LogSystem.stepsLeft
  split
  · omega
  · omega
  · omega
  · omega
  · split
    · omega
    · omega
  · omega

theorem LogSystem.AllSent.texts {s : LogSystem} (h : s.AllSent) : s.texts = s.sentTexts := by
  have hheld : s.heldTexts = [] := by
    rw [LogSystem.heldTexts, if_neg]
    intro hholding
    rw [h.held hholding.1] at hholding
    exact absurd hholding.2 (by decide)
  have hearly : s.earlyTexts = [] := by
    rw [LogSystem.earlyTexts, WrappedBuffer.kept_eq_nil h.early, List.map_nil]
  have hqueued : s.queuedTexts = [] := by
    rw [LogSystem.queuedTexts, h.queued, List.map_nil]
  rw [LogSystem.texts, hheld, hearly, hqueued, List.append_nil, List.append_nil,
    List.append_nil]

/-- A step leaves nothing to send, or there was something and it is nearer to the end. -/
def LogSystem.Nearer (s s' : LogSystem) : Prop :=
  s'.AllSent ∨ (¬ s.AllSent ∧ s'.stepsLeft < s.stepsLeft)

/-- A step that only moves on, with nothing in the hands of the task. -/
theorem LogSystem.nearer_move {s : LogSystem} {point : SenderPoint}
    (hpoint : ¬ { s with point := point }.Holding)
    (hsteps : { s with point := point }.stepsLeft < s.stepsLeft) :
    s.Nearer { s with point := point } := by
  by_cases hsent : s.AllSent
  · exact Or.inl ⟨hsent.early, hsent.queued, fun hheld => absurd hheld hpoint⟩
  · exact Or.inr ⟨hsent, hsteps⟩

theorem nearer_receive {s : LogSystem} (hpoint : s.point = .receiving) (socket : Int) :
    s.Nearer (espLogsPapertrailTask s socket) := by
  simp only [espLogsPapertrailTask, hpoint]
  cases hreceive : s.qLogs.receive? with
  | none =>
      have hqueue := BoundedQueue.items_of_receive?_none hreceive
      by_cases hsent : s.AllSent
      · exact Or.inl ⟨hsent.early, hsent.queued, fun _ => rfl⟩
      · refine Or.inr ⟨hsent, ?_⟩
        simp [LogSystem.stepsLeft, hpoint, hqueue]
  | some taken =>
      rcases taken with ⟨element, rest⟩
      have hitems := BoundedQueue.items_of_receive?_some hreceive
      refine Or.inr ⟨fun hsent => ?_, ?_⟩
      · rw [hsent.queued] at hitems
        cases hitems
      · simp [LogSystem.stepsLeft, hpoint, hitems]
        omega

theorem nearer_drain {s : LogSystem} (hpoint : s.point = .draining) (hpos : 0 ≤ s.sock)
    (socket : Int) : s.Nearer (espLogsPapertrailTask s socket) := by
  simp only [espLogsPapertrailTask, hpoint, if_pos hpos]
  by_cases hidle : s.isNewData = false ∧ s.qLogs.items = []
  · exact Or.inl ⟨rfl, hidle.2, fun _ => hidle.1⟩
  · refine Or.inr ⟨fun hsent => hidle ⟨hsent.held (Or.inl hpoint), hsent.queued⟩, ?_⟩
    simp only [LogSystem.stepsLeft, hpoint, if_neg hidle]
    exact Nat.lt_succ_self _

theorem nearer_send {s : LogSystem} (hpoint : s.point = .sending) (socket : Int) :
    s.Nearer (espLogsPapertrailTask s socket) := by
  have hsteps : 4 * s.qLogs.items.length + 3 < s.stepsLeft := by
    simp only [LogSystem.stepsLeft, hpoint]
    exact Nat.lt_succ_self _
  have hfree : forall s' : LogSystem, s'.point = .waitingForBit -> ¬ s'.Holding := by
    intro s' hpoint' hheld
    rw [LogSystem.Holding, hpoint'] at hheld
    rcases hheld with h | h
    · cases h
    · cases h
  simp only [espLogsPapertrailTask, hpoint]
  split
  · next hnew =>
      refine Or.inr ⟨fun hsent => ?_, hsteps⟩
      rw [hsent.held (Or.inr hpoint)] at hnew
      cases hnew
  · exact LogSystem.nearer_move (hfree _ rfl) hsteps

theorem Delivered.nearer {past : List LogInput} {s : LogSystem} (hinv : Delivered past s)
    (hgotIp : .wifiBitGotIp ∈ s.eTasks) (socket : Int) :
    s.Nearer (espLogsPapertrailTask s socket) := by
  cases hpoint : s.point with
  | waitingForIp =>
      simp only [espLogsPapertrailTask, hpoint, if_pos hgotIp]
      apply LogSystem.nearer_move
      · simp [LogSystem.Holding]
      · simp [LogSystem.stepsLeft, hpoint]
  | creatingSocket =>
      have hsteps : 4 * s.qLogs.items.length + 3 < s.stepsLeft := by
        simp only [LogSystem.stepsLeft, hpoint]
        exact Nat.lt_succ_self _
      simp only [espLogsPapertrailTask, hpoint]
      by_cases hsent : s.AllSent
      · exact Or.inl ⟨hsent.early, hsent.queued, by simp [LogSystem.Holding]⟩
      · exact Or.inr ⟨hsent, hsteps⟩
  | waitingForBit =>
      simp only [espLogsPapertrailTask, hpoint, if_pos hgotIp]
      apply LogSystem.nearer_move
      · simp [LogSystem.Holding]
      · simp [LogSystem.stepsLeft, hpoint]
  | receiving =>
      exact nearer_receive hpoint socket
  | draining =>
      exact nearer_drain hpoint (hinv.sock_nonneg (by simp [hpoint])) socket
  | sending =>
      exact nearer_send hpoint socket

/-!
# Runs without new logs
-/

/-- Behind `past` there are only steps of the task and events of the driver. -/
structure Quiet (past later : List LogInput) (s s' : LogSystem) : Prop where
  gotIp : .wifiBitGotIp ∈ s'.eTasks
  recorded : recordedLogs (past ++ later) = recordedLogs past
  left : s'.AllSent ∨ s'.stepsLeft + later.countP LogInput.isSender ≤ s.stepsLeft

theorem Quiet.sender {past later : List LogInput} {s s' : LogSystem} {socket : Int}
    (h : Quiet past later s s') (hinv : Delivered (past ++ later) s')
    (hs' : logsAfter (past ++ later) = .ok s') :
    Quiet past (later ++ [.sender socket]) s (espLogsPapertrailTask s' socket) := by
  constructor
  · rw [eTasks_espLogsPapertrailTask]
    exact h.gotIp
  · rw [<- List.append_assoc, recordedLogs_snoc hs', h.recorded, recordedText,
      List.append_nil]
  · have hcount : (later ++ [LogInput.sender socket]).countP LogInput.isSender =
        later.countP LogInput.isSender + 1 :=
      List.countP_append
    rw [hcount]
    rcases hinv.nearer h.gotIp socket with hsent | ⟨hnot, hless⟩
    · exact Or.inl hsent
    · have hleft := h.left.resolve_left hnot
      exact Or.inr (by omega)

theorem Quiet.wifi {past later : List LogInput} {s s' s'' : LogSystem} {event : WifiEvent}
    {driver : WifiDriver} (h : Quiet past later s s')
    (hs' : logsAfter (past ++ later) = .ok s')
    (hstep : logStep s' (.wifi event driver) = .ok s'') :
    Quiet past (later ++ [.wifi event driver]) s s'' := by
  rcases logStep_wifi hstep with ⟨eTasks, rfl, hbit⟩
  constructor
  · exact hbit.mpr (Or.inr h.gotIp)
  · rw [<- List.append_assoc, recordedLogs_snoc hs', h.recorded, recordedText,
      List.append_nil]
  · have hcount : (later ++ [LogInput.wifi event driver]).countP LogInput.isSender =
        later.countP LogInput.isSender :=
      List.countP_append
    rw [hcount]
    rcases h.left with hsent | hleft
    · exact Or.inl ⟨hsent.early, hsent.queued, hsent.held⟩
    · exact Or.inr hleft

theorem quiet_of_assumed {past later : List LogInput} {s s' : LogSystem}
    (hassumed : EveryInput Assumed (past ++ later)) (hs : logsAfter past = .ok s)
    (hgotIp : .wifiBitGotIp ∈ s.eTasks) (hquiet : logCount later = 0)
    (hs' : logsAfter (past ++ later) = .ok s') : Quiet past later s s' := by
  induction later using List.reverseRecOn generalizing s' with
  | nil =>
      rw [List.append_nil, hs] at hs'
      cases hs'
      exact ⟨hgotIp, by rw [List.append_nil], Or.inr le_rfl⟩
  | append_singleton older i ih =>
      rw [logCount_snoc, Nat.add_eq_zero_iff] at hquiet
      rw [<- List.append_assoc] at hassumed hs'
      rcases everyInput_snoc.mp hassumed with ⟨hpast, _⟩
      rcases outcomeAfter_snoc_ok hs' with ⟨t, ht, hstep⟩
      have hih := ih hpast hquiet.1 ht
      cases i with
      | wifi event driver => exact hih.wifi ht hstep
      | log text stack => exact absurd hquiet.2 (by simp [LogInput.isLog])
      | sender socket =>
          cases hstep
          exact hih.sender (delivered_of_assumed hpast t ht) ht

/--
Once there is an address, all logs are sent after four steps of the task for each log in
the queue and five more, unless new ones are made.
-/
theorem logs_sent_in_time {past later : List LogInput} {s s' : LogSystem}
    (hassumed : EveryInput Assumed (past ++ later)) (hs : logsAfter past = .ok s)
    (hgotIp : .wifiBitGotIp ∈ s.eTasks) (hquiet : logCount later = 0)
    (hs' : logsAfter (past ++ later) = .ok s')
    (henough : 4 * s.qLogs.items.length + 5 ≤ later.countP LogInput.isSender) :
    s'.sentTexts = recordedLogs past := by
  have hq := quiet_of_assumed hassumed hs hgotIp hquiet hs'
  have hsent : s'.AllSent := by
    rcases hq.left with hsent | hleft
    · exact hsent
    · have hmost := s.stepsLeft_le
      have hsome := s'.stepsLeft_pos
      omega
  rw [<- hsent.texts, (delivered_of_assumed hassumed s' hs').recorded, hq.recorded]

/-- An early log, an address, and two more logs as soon as there is a socket. -/
def busyStart : List LogInput :=
  [.log (literal "boot") (CharArray.zeros 256), .wifi (.staGotIp [192, 168, 0, 7]) ⟨.ok, .ok⟩,
    .sender 54, .sender 54, .log (literal "one") (CharArray.zeros 256),
    .log (literal "two") (CharArray.zeros 256)]

theorem logs_sent_in_time_busyStart :
    exists s', logsAfter (busyStart ++ List.replicate 13 (.sender 54)) = .ok s' ∧
      s'.sentTexts = recordedLogs busyStart := by
  have hassumed : EveryInput Assumed (busyStart ++ List.replicate 13 (.sender 54)) := by
    decide +kernel
  refine ⟨_, rfl, ?_⟩
  exact logs_sent_in_time hassumed rfl (by decide +kernel) (by decide +kernel) rfl
    (by decide +kernel)

end Logs
end CarCleaner
