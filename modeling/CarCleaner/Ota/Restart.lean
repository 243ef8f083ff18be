import CarCleaner.Ota.Task

/-!
# Handles, the status bit and the restart

Every download that begins is finished on its own handle, and the status bit lasts
as long as the download loop.  The loop forgets the code that ended it, so the
restart depends on the code of `esp_https_ota_finish` alone.
-/

namespace CarCleaner
namespace Ota

open Foundation
open Firmware

/-!
# What a trace should satisfy
-/

/-- The handle of a successful begin that has not been finished. -/
def openAfter (opened : Option Nat) : OtaEvent -> Option Nat
  | .began handle err => if err = .ok then some handle else none
  | .finished _ _ => none
  | _ => opened

def openHandle (trace : List OtaEvent) : Option Nat :=
  stateAfter openAfter none trace

/--
No begin and no restart while a handle is open, and no perform and no finish but on
the open handle.
-/
def Matches (opened : Option Nat) : OtaEvent -> Prop
  | .began _ _ => opened = none
  | .performed handle _ => opened = some handle
  | .finished handle _ => opened = some handle
  | .restart => opened = none
  | _ => True

/--
Every successful begin is followed by exactly one finish on its handle before the
next begin or restart, and a failed begin by none.
-/
def HandlesMatched (trace : List OtaEvent) : Prop :=
  EveryInput (fun past event => Matches (openHandle past) event) trace

def OtaEvent.BeginsDownload (event : OtaEvent) : Prop :=
  exists handle, event = .began handle .ok

def OtaEvent.EndsDownload (event : OtaEvent) : Prop :=
  exists handle err, event = .performed handle err ∧ err ≠ .httpsOtaInProgress

/-- The bit is set from a successful begin until the perform loop has ended. -/
def BitFollowsDownload (s : OtaSystem) : Prop :=
  EventBit.otaBitInProgress ∈ s.eTasks <->
    Latched OtaEvent.BeginsDownload OtaEvent.EndsDownload s.trace

def performResult : OtaEvent -> Option EspErr
  | .performed _ err => some err
  | _ => none

def finishResult : OtaEvent -> Option EspErr
  | .finished _ err => some err
  | _ => none

def lastPerform (trace : List OtaEvent) : Option EspErr :=
  (trace.filterMap performResult).getLast?

def lastFinish (trace : List OtaEvent) : Option EspErr :=
  (trace.filterMap finishResult).getLast?

/-- A restart follows a last perform and a finish that both returned `ESP_OK`. -/
def RestartsComplete (trace : List OtaEvent) : Prop :=
  EveryInput
    (fun past event =>
      event = .restart -> lastPerform past = some .ok ∧ lastFinish past = some .ok)
    trace

/-- A finish returns `ESP_OK` only after a perform that returned `ESP_OK`. -/
def FinishesComplete (trace : List OtaEvent) : Prop :=
  EveryInput
    (fun past event => finishResult event = some .ok -> lastPerform past = some .ok) trace

instance (trace : List OtaEvent) : Decidable (RestartsComplete trace) :=
  inferInstanceAs (Decidable (EveryInput _ trace))

instance (trace : List OtaEvent) : Decidable (FinishesComplete trace) :=
  inferInstanceAs (Decidable (EveryInput _ trace))

/-- The events that only a complete download may be followed by. -/
def OtaEvent.completes : OtaEvent -> Bool
  | .finished _ err => decide (err = .ok)
  | .restart => true
  | _ => false

theorem finishResult_ne_ok {event : OtaEvent} (h : event.completes = false) :
    finishResult event ≠ some .ok := by
  cases event with
  | finished handle err =>
      intro heq
      exact of_decide_eq_false h (Option.some.inj heq)
  | began handle err => exact nofun
  | performed handle err => exact nofun
  | sentPercent percent => exact nofun
  | restart => exact nofun
  | drewPercent percent => exact nofun

theorem ne_restart {event : OtaEvent} (h : event.completes = false) : event ≠ .restart := by
  intro heq
  rw [heq] at h
  cases h

/-!
# One step

Most steps add one event to the trace, or none.
-/

/-- The points between a successful begin and the finish. -/
def OtaPoint.isOpen : OtaPoint -> Bool
  | .performing => true
  | .sending => true
  | .finishing => true
  | _ => false

structure OtaConsistent (s : OtaSystem) : Prop where
  matched : HandlesMatched s.trace
  opened : openHandle s.trace = if s.point.isOpen then some s.otaHandle else none
  bit : BitFollowsDownload s
  restarts : RestartsComplete s.trace <-> FinishesComplete s.trace

theorem otaConsistent_boot {eTasks : EventGroup}
    (hclear : EventBit.otaBitInProgress ∉ eTasks) :
    OtaConsistent (OtaSystem.boot eTasks) where
  matched := everyInput_nil _
  opened := rfl
  bit := iff_of_false hclear not_latched_nil
  restarts := iff_of_true (everyInput_nil _) (everyInput_nil _)

theorem OtaConsistent.quiet {s s' : OtaSystem} (h : OtaConsistent s)
    (htrace : s'.trace = s.trace) (hpoint : s'.point.isOpen = s.point.isOpen)
    (hhandle : s'.otaHandle = s.otaHandle)
    (hbit : EventBit.otaBitInProgress ∈ s'.eTasks <->
      EventBit.otaBitInProgress ∈ s.eTasks) : OtaConsistent s' := by
  constructor
  · rw [htrace]
    exact h.matched
  · rw [htrace, hpoint, hhandle]
    exact h.opened
  · rw [BitFollowsDownload, htrace, hbit]
    exact h.bit
  · rw [htrace]
    exact h.restarts

theorem OtaConsistent.event {s s' : OtaSystem} {event : OtaEvent} (h : OtaConsistent s)
    (htrace : s'.trace = s.trace ++ [event])
    (hmatches : Matches (openHandle s.trace) event)
    (hopen : openAfter (openHandle s.trace) event =
      if s'.point.isOpen then some s'.otaHandle else none)
    (hbit : EventBit.otaBitInProgress ∈ s'.eTasks <->
      event.BeginsDownload ∨
        (EventBit.otaBitInProgress ∈ s.eTasks ∧ ¬ event.EndsDownload))
    (hcompletes : event.completes = false) : OtaConsistent s' := by
  constructor
  · rw [HandlesMatched, htrace, everyInput_snoc]
    exact ⟨h.matched, hmatches⟩
  · rw [openHandle, htrace, stateAfter_snoc]
    exact hopen
  · have hold : _ <-> Latched _ _ s.trace := h.bit
    rw [BitFollowsDownload, htrace, latched_snoc, <- hold]
    exact hbit
  · rw [RestartsComplete, FinishesComplete, htrace, everyInput_snoc, everyInput_snoc]
    constructor
    · intro hrestarts
      exact ⟨h.restarts.mp hrestarts.1,
        fun hevent => absurd hevent (finishResult_ne_ok hcompletes)⟩
    · intro hfinishes
      exact ⟨h.restarts.mpr hfinishes.1, fun hevent => absurd hevent (ne_restart hcompletes)⟩

theorem OtaConsistent.restart {s s' : OtaSystem} {handle : Nat} (h : OtaConsistent s)
    (hopen : openHandle s.trace = some handle) (hpoint : s'.point = .restarted)
    (hbit : s'.eTasks = s.eTasks)
    (htrace : s'.trace = s.trace ++ [.finished handle .ok] ++ [.restart]) :
    OtaConsistent s' := by
  have hclosed : openHandle (s.trace ++ [.finished handle .ok]) = none :=
    stateAfter_snoc _ _ _ _
  have hperform : lastPerform (s.trace ++ [.finished handle .ok]) = lastPerform s.trace := by
    rw [lastPerform, filterMap_snoc, lastPerform]
    exact congrArg List.getLast? (List.append_nil _)
  have hfinish : lastFinish (s.trace ++ [.finished handle .ok]) = some .ok := by
    rw [lastFinish, filterMap_snoc]
    exact List.getLast?_concat
  constructor
  · rw [HandlesMatched, htrace, everyInput_snoc, everyInput_snoc]
    exact ⟨⟨h.matched, hopen⟩, hclosed⟩
  · rw [openHandle, htrace, stateAfter_snoc, hpoint]
    exact hclosed
  · have hold : _ <-> Latched _ _ s.trace := h.bit
    rw [BitFollowsDownload, htrace, latched_snoc, latched_snoc, hbit, <- hold]
    simp [OtaEvent.BeginsDownload, OtaEvent.EndsDownload]
  · have hold := h.restarts
    rw [RestartsComplete, FinishesComplete] at hold
    rw [RestartsComplete, FinishesComplete, htrace]
    rw [everyInput_snoc, everyInput_snoc, everyInput_snoc, everyInput_snoc, hperform,
      hfinish, hold]
    constructor
    · intro hsnoc
      rcases hsnoc with ⟨⟨hpast, _⟩, hlast⟩
      refine ⟨⟨hpast, fun _ => (hlast rfl).1⟩, ?_⟩
      intro heq
      cases heq
    · intro hsnoc
      rcases hsnoc with ⟨⟨hpast, hlast⟩, _⟩
      refine ⟨⟨hpast, ?_⟩, fun _ => ⟨hlast rfl, rfl⟩⟩
      intro heq
      cases heq

/-!
# Every step
-/

theorem OtaConsistent.otaTask {s s' : OtaSystem} {answer : OtaAnswer}
    (h : OtaConsistent s) (hstep : otaTask s answer = .ok s') : OtaConsistent s' := by
  have hopened := h.opened
  cases transition_of_otaTask hstep with
  | stayed =>
      exact h
  | woken hpoint =>
      apply h.quiet
      · rfl
      · rw [hpoint]
        rfl
      · rfl
      · simp [EventGroup.clearBit]
  | beginFailed hpoint herr =>
      rw [hpoint] at hopened
      apply h.event rfl
      · exact hopened
      · rw [openAfter, if_neg herr]
        rfl
      · simp [OtaEvent.BeginsDownload, OtaEvent.EndsDownload, herr]
      · rfl
  | began hpoint herr =>
      rw [hpoint] at hopened
      apply h.event rfl
      · exact hopened
      · rw [openAfter, if_pos rfl]
        rfl
      · simp [OtaEvent.BeginsDownload, EventGroup.setBit]
      · rfl
  | received hpoint herr percent =>
      rw [hpoint] at hopened
      apply h.event rfl
      · exact hopened
      · exact hopened
      · simp [OtaEvent.BeginsDownload, OtaEvent.EndsDownload]
      · rfl
  | downloadEnded hpoint herr =>
      rw [hpoint] at hopened
      apply h.event rfl
      · exact hopened
      · exact hopened
      · simp [OtaEvent.BeginsDownload, OtaEvent.EndsDownload, herr, EventGroup.clearBit]
      · rfl
  | sent hpoint =>
      rw [hpoint] at hopened
      apply h.event rfl
      · trivial
      · exact hopened
      · simp [OtaEvent.BeginsDownload, OtaEvent.EndsDownload]
      · rfl
  | restarted hpoint herr =>
      rw [hpoint] at hopened
      exact h.restart hopened rfl rfl rfl
  | finishFailed hpoint herr =>
      rw [hpoint] at hopened
      apply h.event rfl
      · exact hopened
      · rfl
      · simp [OtaEvent.BeginsDownload, OtaEvent.EndsDownload]
      · exact decide_eq_false herr
  | paused hpoint =>
      apply h.quiet
      · rfl
      · rw [hpoint]
        rfl
      · rfl
      · rfl

theorem OtaConsistent.oledFrame {s : OtaSystem} (h : OtaConsistent s) :
    OtaConsistent (oledFrame s) := by
  have hquiet (percent : Nat) : ¬ (OtaEvent.drewPercent percent).BeginsDownload ∧
      ¬ (OtaEvent.drewPercent percent).EndsDownload := by
    simp [OtaEvent.BeginsDownload, OtaEvent.EndsDownload]
  unfold Ota.oledFrame
  split
  · split
    · apply h.event rfl
      · trivial
      · exact h.opened
      · simp [hquiet]
      · rfl
    · apply h.event rfl
      · trivial
      · exact h.opened
      · simp [hquiet]
      · rfl
  · split
    · exact h.quiet rfl rfl rfl Iff.rfl
    · exact h

theorem OtaConsistent.step {s s' : OtaSystem} {i : OtaInput} (h : OtaConsistent s)
    (hstep : otaStep s i = .ok s') : OtaConsistent s' := by
  unfold otaStep at hstep
  split at hstep
  · cases hstep
    exact h
  · cases i with
    | gotUpdate =>
        cases hstep
        apply h.quiet
        · rfl
        · rfl
        · rfl
        · simp [EventGroup.setBit]
    | ota answer =>
        exact h.otaTask hstep
    | oled =>
        cases hstep
        exact h.oledFrame

theorem otaConsistent_otaAfter {eTasks : EventGroup} {history : List OtaInput}
    {s : OtaSystem} (hclear : EventBit.otaBitInProgress ∉ eTasks)
    (hs : otaAfter eTasks history = .ok s) : OtaConsistent s :=
  reached_invariant (fun _ s => OtaConsistent s) (otaConsistent_boot hclear)
    (fun _ _ _ _ _ h hstep => h.step hstep) hs

/-!
# Restart after a complete download
-/

theorem restart_complete_iff {eTasks : EventGroup} {history : List OtaInput}
    {s : OtaSystem} (hclear : EventBit.otaBitInProgress ∉ eTasks)
    (hs : otaAfter eTasks history = .ok s) :
    HandlesMatched s.trace ∧ BitFollowsDownload s ∧ RestartsComplete s.trace <->
      FinishesComplete s.trace := by
  have h := otaConsistent_otaAfter hclear hs
  constructor
  · intro hreaches
    rcases hreaches with ⟨_, _, hrestarts⟩
    exact h.restarts.mp hrestarts
  · intro hfinishes
    exact ⟨h.matched, h.bit, h.restarts.mpr hfinishes⟩

def answerOf (err : EspErr) : OtaAnswer where
  err := err
  handle := 7
  imageSize := 100
  lenRead := 50

/-- A download whose second perform returns `err`, and whose finish returns `ESP_OK`. -/
def downloadRun (err : EspErr) : List OtaInput :=
  [.gotUpdate, .ota (answerOf .ok), .ota (answerOf .ok), .ota (answerOf .httpsOtaInProgress),
    .ota (answerOf .ok), .ota (answerOf err), .ota (answerOf .ok)]

/-- A perform fails in the middle of the image, and the board restarts. -/
theorem restart_after_failed_perform :
    exists s, otaAfter ∅ (downloadRun (.other (-1))) = .ok s ∧ s.point = .restarted ∧
      lastPerform s.trace = some (.other (-1)) ∧ ¬ RestartsComplete s.trace := by
  refine ⟨_, rfl, rfl, by decide, by decide⟩

theorem restart_complete_download :
    exists s, otaAfter ∅ (downloadRun .ok) = .ok s ∧ s.point = .restarted ∧
      HandlesMatched s.trace ∧ BitFollowsDownload s ∧ RestartsComplete s.trace := by
  have hclear : EventBit.otaBitInProgress ∉ (∅ : EventGroup) := by
    decide
  have hrun : otaAfter ∅ (downloadRun .ok) =
      .ok (valueOf (otaAfter ∅ (downloadRun .ok)) (exists_ok_of_isOk (by decide))) :=
    eq_ok_valueOf _ _
  exact ⟨_, hrun, by decide, (restart_complete_iff hclear hrun).mpr (by decide)⟩

end Ota
end CarCleaner
