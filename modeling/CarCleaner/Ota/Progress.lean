import CarCleaner.Ota.Task

/-!
# The progress on the display

The percent that a frame draws is kept in a static variable and refreshed from a
queue.  Neither is emptied between two updates, so the display shows the progress
of the running update only if nothing is left over when it begins.
-/

namespace CarCleaner
namespace Ota

open Foundation
open Firmware

/-!
# Percents of one attempt
-/

def OtaEvent.beginsAttempt : OtaEvent -> Bool
  | .began _ .ok => true
  | _ => false

def sentPercent? : OtaEvent -> Option Nat
  | .sentPercent percent => some percent
  | _ => none

def drawnPercent? : OtaEvent -> Option Nat
  | .drewPercent percent => some percent
  | _ => none

/-- What has been observed since the last successful begin. -/
def inAttempt (observe : OtaEvent -> Option Nat) (trace : List OtaEvent) : List Nat :=
  stateAfter
    (fun percents event =>
      if event.beginsAttempt then [] else percents ++ (observe event).toList)
    [] trace

def sentInAttempt (trace : List OtaEvent) : List Nat :=
  inAttempt sentPercent? trace

def drawnInAttempt (trace : List OtaEvent) : List Nat :=
  inAttempt drawnPercent? trace

def SentNondecreasing (trace : List OtaEvent) : Prop :=
  EveryInput
    (fun past event =>
      forall percent, percent ∈ sentPercent? event ->
        forall earlier, earlier ∈ sentInAttempt past -> earlier ≤ percent)
    trace

/-- Every percent drawn is 0 or one that has been sent in the attempt in progress. -/
def DrawnFromAttempt (trace : List OtaEvent) : Prop :=
  EveryInput
    (fun past event =>
      forall percent, percent ∈ drawnPercent? event ->
        percent = 0 ∨ percent ∈ sentInAttempt past)
    trace

def DrawnNondecreasing (trace : List OtaEvent) : Prop :=
  EveryInput
    (fun past event =>
      forall percent, percent ∈ drawnPercent? event ->
        forall earlier, earlier ∈ drawnInAttempt past -> earlier ≤ percent)
    trace

instance (trace : List OtaEvent) : Decidable (SentNondecreasing trace) :=
  inferInstanceAs (Decidable (EveryInput _ trace))

instance (trace : List OtaEvent) : Decidable (DrawnFromAttempt trace) :=
  inferInstanceAs (Decidable (EveryInput _ trace))

/-!
# What the display shows

The static percent is at least every percent drawn in the attempt and at most every
percent that waits in the queue, and the queue is sorted.
-/

structure Shown (trace : List OtaEvent) (items : List Nat) (shown : Nat) : Prop where
  from_attempt : DrawnFromAttempt trace
  nondecreasing : DrawnNondecreasing trace
  shown_from : shown = 0 ∨ shown ∈ sentInAttempt trace
  items_from : forall percent, percent ∈ items ->
    percent = 0 ∨ percent ∈ sentInAttempt trace
  drawn_le : forall percent, percent ∈ drawnInAttempt trace -> percent ≤ shown
  shown_le : forall percent, percent ∈ items -> shown ≤ percent
  sorted : items.Pairwise fun earlier later => earlier ≤ later

theorem shown_boot : Shown [] [] 0 where
  from_attempt := everyInput_nil _
  nondecreasing := everyInput_nil _
  shown_from := Or.inl rfl
  items_from := by simp
  drawn_le := by
    intro percent hmem
    cases hmem
  shown_le := by simp
  sorted := List.Pairwise.nil

theorem inAttempt_snoc (observe : OtaEvent -> Option Nat) (trace : List OtaEvent)
    {event : OtaEvent} (hbegins : event.beginsAttempt = false) :
    inAttempt observe (trace ++ [event]) =
      inAttempt observe trace ++ (observe event).toList := by
  rw [inAttempt, stateAfter_snoc, hbegins]
  rfl

variable {trace : List OtaEvent} {items : List Nat} {shown : Nat}

theorem Shown.drawn_snoc (h : Shown trace items shown) (event : OtaEvent)
    (hdraw : drawnPercent? event = none) :
    DrawnFromAttempt (trace ++ [event]) ∧ DrawnNondecreasing (trace ++ [event]) := by
  rw [DrawnFromAttempt, DrawnNondecreasing, everyInput_snoc, everyInput_snoc, hdraw]
  refine ⟨⟨h.from_attempt, ?_⟩, ⟨h.nondecreasing, ?_⟩⟩
  · intro percent heq
    cases heq
  · intro percent heq
    cases heq

theorem Shown.quiet (h : Shown trace items shown) {event : OtaEvent}
    (hbegins : event.beginsAttempt = false) (hsend : sentPercent? event = none)
    (hdraw : drawnPercent? event = none) : Shown (trace ++ [event]) items shown := by
  rcases h.drawn_snoc event hdraw with ⟨hfrom, hle⟩
  have hsent : sentInAttempt (trace ++ [event]) = sentInAttempt trace := by
    rw [sentInAttempt, inAttempt_snoc _ _ hbegins, hsend]
    exact List.append_nil _
  have hdrawn : drawnInAttempt (trace ++ [event]) = drawnInAttempt trace := by
    rw [drawnInAttempt, inAttempt_snoc _ _ hbegins, hdraw]
    exact List.append_nil _
  constructor
  · exact hfrom
  · exact hle
  · rw [hsent]
    exact h.shown_from
  · rw [hsent]
    exact h.items_from
  · rw [hdrawn]
    exact h.drawn_le
  · exact h.shown_le
  · exact h.sorted

/-- An attempt begins with nothing left over. -/
theorem Shown.began (h : Shown trace items shown) (handle : Nat) (hshown : shown = 0)
    (hitems : forall percent, percent ∈ items -> percent = 0) :
    Shown (trace ++ [.began handle .ok]) items shown := by
  rcases h.drawn_snoc (.began handle .ok) rfl with ⟨hfrom, hle⟩
  have hdrawn : drawnInAttempt (trace ++ [.began handle .ok]) = [] :=
    stateAfter_snoc _ _ _ _
  constructor
  · exact hfrom
  · exact hle
  · exact Or.inl hshown
  · intro percent hmem
    exact Or.inl (hitems percent hmem)
  · rw [hdrawn]
    intro percent hmem
    cases hmem
  · exact h.shown_le
  · exact h.sorted

theorem sentInAttempt_sent (trace : List OtaEvent) (percent : Nat) :
    sentInAttempt (trace ++ [.sentPercent percent]) = sentInAttempt trace ++ [percent] :=
  inAttempt_snoc _ _ rfl

theorem Shown.sent_dropped (h : Shown trace items shown) (percent : Nat) :
    Shown (trace ++ [.sentPercent percent]) items shown := by
  rcases h.drawn_snoc (.sentPercent percent) rfl with ⟨hfrom, hle⟩
  have hdrawn : drawnInAttempt (trace ++ [.sentPercent percent]) = drawnInAttempt trace := by
    rw [drawnInAttempt, inAttempt_snoc _ _ rfl]
    exact List.append_nil _
  constructor
  · exact hfrom
  · exact hle
  · rw [sentInAttempt_sent]
    exact h.shown_from.imp_right fun hmem => List.mem_append_left _ hmem
  · rw [sentInAttempt_sent]
    intro x hx
    exact (h.items_from x hx).imp_right fun hmem => List.mem_append_left _ hmem
  · rw [hdrawn]
    exact h.drawn_le
  · exact h.shown_le
  · exact h.sorted

theorem Shown.sent_queued (h : Shown trace items shown) {percent : Nat}
    (hsent : forall earlier, earlier ∈ sentInAttempt trace -> earlier ≤ percent) :
    Shown (trace ++ [.sentPercent percent]) (items ++ [percent]) shown := by
  have hdropped := h.sent_dropped percent
  have hle (x : Nat) (hx : x = 0 ∨ x ∈ sentInAttempt trace) : x ≤ percent := by
    rcases hx with rfl | hmem
    · exact Nat.zero_le _
    · exact hsent x hmem
  constructor
  · exact hdropped.from_attempt
  · exact hdropped.nondecreasing
  · exact hdropped.shown_from
  · intro x hx
    rcases List.mem_append.mp hx with hold | hnew
    · exact hdropped.items_from x hold
    · rw [List.mem_singleton.mp hnew, sentInAttempt_sent]
      exact Or.inr (by simp)
  · exact hdropped.drawn_le
  · intro x hx
    rcases List.mem_append.mp hx with hold | hnew
    · exact h.shown_le x hold
    · rw [List.mem_singleton.mp hnew]
      exact hle shown h.shown_from
  · refine List.pairwise_append.mpr ⟨h.sorted, List.pairwise_singleton _ _, ?_⟩
    intro x hx y hy
    rw [List.mem_singleton.mp hy]
    exact hle x (h.items_from x hx)

/-- A frame draws the percent that the static variable then holds. -/
theorem Shown.drew {rest : List Nat} (h : Shown trace items shown) {percent : Nat}
    (hfrom : percent = 0 ∨ percent ∈ sentInAttempt trace) (hle : shown ≤ percent)
    (hrest : rest <:+ items) (hnext : forall later, later ∈ rest -> percent ≤ later) :
    Shown (trace ++ [.drewPercent percent]) rest percent := by
  have hsent : sentInAttempt (trace ++ [.drewPercent percent]) = sentInAttempt trace := by
    rw [sentInAttempt, inAttempt_snoc _ _ rfl]
    exact List.append_nil _
  have hdrawn : drawnInAttempt (trace ++ [.drewPercent percent]) =
      drawnInAttempt trace ++ [percent] :=
    inAttempt_snoc _ _ rfl
  constructor
  · rw [DrawnFromAttempt, everyInput_snoc]
    refine ⟨h.from_attempt, ?_⟩
    intro x heq
    cases heq
    exact hfrom
  · rw [DrawnNondecreasing, everyInput_snoc]
    refine ⟨h.nondecreasing, ?_⟩
    intro x heq
    cases heq
    intro earlier hmem
    exact (h.drawn_le earlier hmem).trans hle
  · rw [hsent]
    exact hfrom
  · rw [hsent]
    intro x hx
    exact h.items_from x (hrest.mem hx)
  · rw [hdrawn]
    intro x hx
    rcases List.mem_append.mp hx with hold | hnew
    · exact (h.drawn_le x hold).trans hle
    · rw [List.mem_singleton.mp hnew]
  · exact hnext
  · exact h.sorted.sublist hrest.sublist

/-!
# Runs

The condition is about the moment at which a download begins: what the last one has
left in the static variable and in the queue is 0.
-/

def OtaInput.succeeds : OtaInput -> Bool
  | .ota answer => answer.err = .ok
  | _ => false

/-- A successful begin meets a display and a queue without old percents. -/
def FreshBegin (eTasks : EventGroup) (past : List OtaInput) (i : OtaInput) : Prop :=
  Reached (otaAfter eTasks past) fun s =>
    s.point = .beginning -> i.succeeds = true ->
      s.otaPercentUint = 0 ∧ forall percent, percent ∈ s.qOtaLevel.items -> percent = 0

instance (eTasks : EventGroup) (past : List OtaInput) (i : OtaInput) :
    Decidable (FreshBegin eTasks past i) :=
  inferInstanceAs (Decidable (Reached _ _))

theorem Shown.otaTask {s s' : OtaSystem} {answer : OtaAnswer}
    (h : Shown s.trace s.qOtaLevel.items s.otaPercentUint)
    (hfresh : s.point = .beginning -> answer.err = .ok ->
      s.otaPercentUint = 0 ∧ forall percent, percent ∈ s.qOtaLevel.items -> percent = 0)
    (hstep : otaTask s answer = .ok s') (hsent : SentNondecreasing s'.trace) :
    Shown s'.trace s'.qOtaLevel.items s'.otaPercentUint := by
  cases transition_of_otaTask hstep with
  | stayed =>
      exact h
  | woken hpoint =>
      exact h
  | beginFailed hpoint herr =>
      refine h.quiet ?_ rfl rfl
      cases hother : answer.err with
      | ok => exact absurd hother herr
      | _ => rfl
  | began hpoint herr =>
      rcases hfresh hpoint herr with ⟨hshown, hitems⟩
      exact h.began answer.handle hshown hitems
  | received hpoint herr percent =>
      exact h.quiet rfl rfl rfl
  | downloadEnded hpoint herr =>
      exact h.quiet rfl rfl rfl
  | sent hpoint =>
      have hlast := (everyInput_snoc.mp hsent).2 s.otaPercent rfl
      rw [BoundedQueue.items_sendOrDrop]
      split
      · exact h.sent_queued hlast
      · exact h.sent_dropped s.otaPercent
  | restarted hpoint herr =>
      have hfinished : Shown (s.trace ++ [.finished s.otaHandle .ok])
          s.qOtaLevel.items s.otaPercentUint :=
        h.quiet rfl rfl rfl
      exact hfinished.quiet rfl rfl rfl
  | finishFailed hpoint herr =>
      exact h.quiet rfl rfl rfl
  | paused hpoint =>
      exact h

theorem Shown.oledFrame {s : OtaSystem}
    (h : Shown s.trace s.qOtaLevel.items s.otaPercentUint) :
    Shown (oledFrame s).trace (oledFrame s).qOtaLevel.items (oledFrame s).otaPercentUint := by
  unfold Ota.oledFrame
  split
  · split
    · next hreceive =>
        exact h.drew h.shown_from (Nat.le_refl _) (List.suffix_refl _) h.shown_le
    · next percent rest hreceive =>
        have hitems := BoundedQueue.items_of_receive?_some hreceive
        rw [hitems] at h
        refine h.drew (h.items_from percent (by simp)) (h.shown_le percent (by simp))
          (List.suffix_cons _ _) ?_
        exact (List.pairwise_cons.mp h.sorted).1
  · split
    · exact h
    · exact h

theorem trace_otaTask {s s' : OtaSystem} {answer : OtaAnswer}
    (hstep : otaTask s answer = .ok s') : s.trace <+: s'.trace := by
  cases transition_of_otaTask hstep with
  | stayed => exact List.prefix_refl _
  | woken => exact List.prefix_refl _
  | beginFailed => exact List.prefix_append _ _
  | began => exact List.prefix_append _ _
  | received => exact List.prefix_append _ _
  | downloadEnded => exact List.prefix_append _ _
  | sent => exact List.prefix_append _ _
  | restarted => exact (List.prefix_append _ _).trans (List.prefix_append _ _)
  | finishFailed => exact List.prefix_append _ _
  | paused => exact List.prefix_refl _

theorem trace_oledFrame (s : OtaSystem) : s.trace <+: (oledFrame s).trace := by
  unfold Ota.oledFrame
  split
  · split
    · exact List.prefix_append _ _
    · exact List.prefix_append _ _
  · split
    · exact List.prefix_refl _
    · exact List.prefix_refl _

theorem shown_otaAfter {eTasks : EventGroup} {history : List OtaInput}
    (hfresh : EveryInput (FreshBegin eTasks) history) :
    forall s, otaAfter eTasks history = .ok s -> SentNondecreasing s.trace ->
      Shown s.trace s.qOtaLevel.items s.otaPercentUint := by
  refine hfresh.induction
    (fun history => forall s, otaAfter eTasks history = .ok s -> SentNondecreasing s.trace ->
      Shown s.trace s.qOtaLevel.items s.otaPercentUint) ?_ ?_
  · intro s hs _
    cases hs
    exact shown_boot
  · intro past i _ hi ih s' hs' hsent
    rcases outcomeAfter_snoc_ok hs' with ⟨s, hs, hstep⟩
    unfold otaStep at hstep
    split at hstep
    · cases hstep
      exact ih _ hs hsent
    · cases i with
      | gotUpdate =>
          cases hstep
          exact ih s hs hsent
      | ota answer =>
          have hpast := hsent.of_past (trace_otaTask hstep)
          refine (ih s hs hpast).otaTask ?_ hstep hsent
          intro hpoint hok
          exact hi s hs hpoint (by simp [OtaInput.succeeds, hok])
      | oled =>
          cases hstep
          exact (ih s hs (hsent.of_past (trace_oledFrame s))).oledFrame

/-- Frames show the running update as long as every update begins with nothing left over. -/
theorem drawn_progress {eTasks : EventGroup} {history : List OtaInput} {s : OtaSystem}
    (hs : otaAfter eTasks history = .ok s) (hsent : SentNondecreasing s.trace)
    (hfresh : EveryInput (FreshBegin eTasks) history) :
    DrawnFromAttempt s.trace ∧ DrawnNondecreasing s.trace := by
  have h := shown_otaAfter hfresh s hs hsent
  exact ⟨h.from_attempt, h.nondecreasing⟩

def progressAnswer (err : EspErr) (lenRead : Int) : OtaAnswer where
  err := err
  handle := 7
  imageSize := 100
  lenRead := lenRead

/-- A download that sends `percents` and then fails, with a frame after every percent. -/
def failedDownload (percents : List Int) : List OtaInput :=
  [.gotUpdate, .ota (progressAnswer .ok 0), .ota (progressAnswer .ok 0)] ++
    percents.flatMap (fun percent =>
      [.ota (progressAnswer .httpsOtaInProgress percent),
        .ota (progressAnswer .ok 0), .oled, .oled]) ++
    [.ota (progressAnswer (.other (-1)) 0), .ota (progressAnswer (.other (-1)) 0),
      .ota (progressAnswer .ok 0)]

def secondAttempt : List OtaInput :=
  failedDownload [10, 50] ++
    [.gotUpdate, .ota (progressAnswer .ok 0), .ota (progressAnswer .ok 0), .oled, .oled]

theorem second_attempt_shows_old_percent :
    exists s, otaAfter ∅ secondAttempt = .ok s ∧ SentNondecreasing s.trace ∧
      sentInAttempt s.trace = [] ∧ drawnInAttempt s.trace = [50] ∧
      ¬ DrawnFromAttempt s.trace := by
  refine ⟨_, rfl, by decide, by decide, by decide, by decide⟩

/-- A download that sends nothing but zeros, and a second one that goes on to 70 percent. -/
def cleanAttempts : List OtaInput :=
  failedDownload [0] ++ failedDownload [30, 70]

theorem drawn_progress_cleanAttempts :
    exists s, otaAfter ∅ cleanAttempts = .ok s ∧
      DrawnFromAttempt s.trace ∧ DrawnNondecreasing s.trace := by
  have hrun : otaAfter ∅ cleanAttempts =
      .ok (valueOf (otaAfter ∅ cleanAttempts) (exists_ok_of_isOk (by decide))) :=
    eq_ok_valueOf _ _
  exact ⟨_, hrun, drawn_progress hrun (by decide) (by decide)⟩

end Ota
end CarCleaner
