import CarCleaner.Ota.Task

/-!
# Requests and percents

A request sets a bit, and `ota_task` clears it before it begins a download, so a download
needs a request of its own.  Requests that arrive while the bit is set are one.  The
percents in the queue have all been sent, and they are percents as long as the library
reads no more than there is.
-/

namespace CarCleaner
namespace Ota

open Foundation
open Firmware

/-!
# Downloads and requests
-/

def OtaEvent.isBegin : OtaEvent -> Bool
  | .began _ _ => true
  | _ => false

def OtaInput.isRequest : OtaInput -> Bool
  | .gotUpdate => true
  | _ => false

/-- A request that has been noticed and one that is being answered. -/
def owed (s : OtaSystem) : Nat :=
  (if .mqttGotUpdate ∈ s.eTasks then 1 else 0) + if s.point = .beginning then 1 else 0

def begun (s : OtaSystem) : Nat :=
  s.trace.countP OtaEvent.isBegin

theorem begun_otaTask {s s' : OtaSystem} {answer : OtaAnswer}
    (h : otaTask s answer = .ok s') : begun s' + owed s' = begun s + owed s := by
  unfold otaTask at h
  cases hpoint : s.point with
  | waiting =>
      simp only [hpoint] at h
      split at h
      · next hbit =>
          cases h
          simp [begun, owed, EventGroup.clearBit, hbit, hpoint]
      · cases h
        rfl
  | beginning =>
      simp only [hpoint] at h
      split at h
      · cases h
        simp [begun, owed, hpoint, OtaEvent.isBegin, Nat.add_comm, Nat.add_left_comm]
      · cases h
        simp [begun, owed, hpoint, OtaEvent.isBegin, EventGroup.setBit, Nat.add_comm,
          Nat.add_left_comm]
  | performing =>
      simp only [hpoint] at h
      split at h
      · rcases bind_eq_ok h with ⟨percent, _, hpure⟩
        cases hpure
        simp [begun, owed, hpoint, OtaEvent.isBegin]
      · cases h
        simp [begun, owed, hpoint, OtaEvent.isBegin, EventGroup.clearBit]
  | sending =>
      simp only [hpoint] at h
      cases h
      simp [begun, owed, hpoint, OtaEvent.isBegin]
  | finishing =>
      simp only [hpoint] at h
      split at h
      · cases h
        simp [begun, owed, hpoint, OtaEvent.isBegin]
      · cases h
        simp [begun, owed, hpoint, OtaEvent.isBegin]
  | pausing =>
      simp only [hpoint] at h
      cases h
      simp [begun, owed, hpoint]
  | restarted =>
      simp only [hpoint] at h
      cases h
      rfl

theorem point_oledFrame (s : OtaSystem) : (oledFrame s).point = s.point := by
  unfold oledFrame
  split
  · split
    · rfl
    · rfl
  · split
    · rfl
    · rfl

theorem begun_oledFrame (s : OtaSystem) :
    begun (oledFrame s) = begun s ∧ owed (oledFrame s) = owed s := by
  unfold oledFrame
  split
  · split
    · exact ⟨by simp [begun, OtaEvent.isBegin], rfl⟩
    · exact ⟨by simp [begun, OtaEvent.isBegin], rfl⟩
  · split
    · exact ⟨rfl, rfl⟩
    · exact ⟨rfl, rfl⟩

theorem begun_otaStep {s s' : OtaSystem} {i : OtaInput} (h : otaStep s i = .ok s') :
    begun s' + owed s' ≤ begun s + owed s + if i.isRequest then 1 else 0 := by
  unfold otaStep at h
  split at h
  · cases h
    exact Nat.le_add_right _ _
  · cases i with
    | gotUpdate =>
        cases h
        simp only [begun, owed, OtaInput.isRequest, EventGroup.setBit, Finset.mem_insert, true_or,
          if_true]
        omega
    | ota answer => exact (begun_otaTask h).le.trans (Nat.le_add_right _ _)
    | oled =>
        cases h
        rw [(begun_oledFrame s).1, (begun_oledFrame s).2]
        exact Nat.le_add_right _ _

/-- Every download that has begun had a request of its own. -/
theorem begun_le_requests {history : List OtaInput} {s : OtaSystem}
    (hs : otaAfter ∅ history = .ok s) :
    begun s + owed s ≤ history.countP OtaInput.isRequest := by
  refine reached_invariant
    (fun past (s : OtaSystem) => begun s + owed s ≤ past.countP OtaInput.isRequest) ?_ ?_ hs
  · exact le_rfl
  · intro past i s s' _ ih hstep
    rw [List.countP_append, List.countP_singleton]
    exact (begun_otaStep hstep).trans (Nat.add_le_add_right ih _)

def BegunOnce (s : OtaSystem) : Prop :=
  s.point ≠ .waiting -> s.point ≠ .beginning -> 0 < begun s

theorem begunOnce_otaAfter {history : List OtaInput} {s : OtaSystem}
    (hs : otaAfter ∅ history = .ok s) : BegunOnce s := by
  have hboot : BegunOnce (OtaSystem.boot ∅) := fun h => absurd rfl h
  refine reached_invariant (fun _ s => BegunOnce s) hboot ?_ hs
  intro past i s s' _ ih hstep
  have hgrow (events : List OtaEvent) (hpos : 0 < begun s) :
      0 < (s.trace ++ events).countP OtaEvent.isBegin := by
    rw [List.countP_append]
    exact Nat.add_pos_left hpos _
  unfold otaStep at hstep
  split at hstep
  · cases hstep
    exact ih
  · cases i with
    | gotUpdate =>
        cases hstep
        exact ih
    | oled =>
        cases hstep
        unfold BegunOnce
        rw [point_oledFrame, (begun_oledFrame s).1]
        exact ih
    | ota answer =>
        cases transition_of_otaTask hstep with
        | stayed => exact ih
        | woken => exact fun _ hother => absurd rfl hother
        | beginFailed => exact fun _ _ => by simp [begun, OtaEvent.isBegin]
        | began => exact fun _ _ => by simp [begun, OtaEvent.isBegin]
        | received hpoint => exact fun _ _ => hgrow _ (ih (by simp [hpoint]) (by simp [hpoint]))
        | downloadEnded hpoint =>
            exact fun _ _ => hgrow _ (ih (by simp [hpoint]) (by simp [hpoint]))
        | sent hpoint => exact fun _ _ => hgrow _ (ih (by simp [hpoint]) (by simp [hpoint]))
        | restarted hpoint =>
            intro _ _
            have hpos := hgrow ([.finished s.otaHandle .ok] ++ [.restart])
              (ih (by simp [hpoint]) (by simp [hpoint]))
            rw [<- List.append_assoc] at hpos
            exact hpos
        | finishFailed hpoint =>
            exact fun _ _ => hgrow _ (ih (by simp [hpoint]) (by simp [hpoint]))
        | paused => exact fun hother => absurd rfl hother

/-!
# Requests are answered

As long as the library ends its downloads, the task comes back to its wait, and begins a
download for every request that has been noticed.
-/

def OtaInput.isStep : OtaInput -> Bool
  | .ota _ => true
  | _ => false

def OtaInput.goesOn : OtaInput -> Bool
  | .ota answer => decide (answer.err = .httpsOtaInProgress)
  | _ => false

/-- The steps from a point to the wait, if the download goes on no longer. -/
def stepsToWait : OtaPoint -> Nat
  | .waiting => 0
  | .beginning => 4
  | .performing => 3
  | .sending => 4
  | .finishing => 2
  | .pausing => 1
  | .restarted => 0

/-- The steps in which the one or two downloads that are missing begin. -/
def stepsToBegin (missing : Nat) (point : OtaPoint) : Nat :=
  if missing = 1 ∧ point = .beginning then 1 else stepsToWait point + 2

theorem stepsToBegin_of_ne {point : OtaPoint} (h : point ≠ .beginning) (missing : Nat) :
    stepsToBegin missing point = stepsToWait point + 2 :=
  if_neg fun hboth => h hboth.2

theorem stepsToBegin_le (missing : Nat) (point : OtaPoint) : stepsToBegin missing point ≤ 6 := by
  unfold stepsToBegin
  split
  · decide
  · cases point <;> decide

theorem stepsToBegin_pos (missing : Nat) (point : OtaPoint) : 0 < stepsToBegin missing point := by
  unfold stepsToBegin
  split
  · decide
  · exact Nat.succ_pos _

def Answered (target : Nat) (s : OtaSystem) : Prop :=
  s.point = .restarted ∨ target ≤ begun s

/-- Downloads are missing and owed, and the steps for them are within the budget. -/
structure Answering (target steps goneOn : Nat) (s : OtaSystem) : Prop where
  missing : begun s < target
  owed : target ≤ begun s + owed s
  budget : steps + stepsToBegin (target - begun s) s.point ≤ 6 + 2 * goneOn

theorem Answering.next {target steps goneOn goesOn : Nat} {s s' : OtaSystem}
    (h : Answering target steps goneOn s) (hbegun : begun s' = begun s)
    (hkept : begun s' + Ota.owed s' = begun s + Ota.owed s)
    (hsteps : stepsToBegin (target - begun s) s'.point + 1 ≤
      stepsToBegin (target - begun s) s.point + 2 * goesOn) :
    Answering target (steps + 1) (goneOn + goesOn) s' := by
  have hbudget := h.budget
  constructor
  · rw [hbegun]
    exact h.missing
  · rw [hkept]
    exact h.owed
  · rw [hbegun]
    omega

theorem Answering.nearer {target steps goneOn goesOn : Nat} {s s' : OtaSystem}
    (h : Answering target steps goneOn s) (hbegun : begun s' = begun s)
    (hkept : begun s' + Ota.owed s' = begun s + Ota.owed s)
    (hpoints : s.point ≠ .beginning ∧ s'.point ≠ .beginning)
    (hsteps : stepsToWait s'.point + 1 ≤ stepsToWait s.point + 2 * goesOn) :
    Answering target (steps + 1) (goneOn + goesOn) s' := by
  apply h.next hbegun hkept
  rw [stepsToBegin_of_ne hpoints.1, stepsToBegin_of_ne hpoints.2]
  omega

/-- At the wait, the one download that is missing is owed to the bit. -/
theorem Answering.woken {target steps goneOn : Nat} {s : OtaSystem}
    (h : Answering target steps goneOn s) (hpoint : s.point = .waiting) :
    .mqttGotUpdate ∈ s.eTasks ∧ target - begun s = 1 := by
  have hmissing := h.missing
  have howed := h.owed
  by_cases hbit : .mqttGotUpdate ∈ s.eTasks
  · simp only [Ota.owed, hbit, hpoint, reduceCtorEq, if_true, if_false] at howed
    exact ⟨hbit, by omega⟩
  · simp only [Ota.owed, hbit, hpoint, reduceCtorEq, if_false] at howed
    omega

/-- A download begins, and if another one is missing the way to it is the longest one. -/
theorem Answering.began {target steps goneOn goesOn : Nat} {s s' : OtaSystem}
    (h : Answering target steps goneOn s) (hpoint : s.point = .beginning)
    (hbegun : begun s' = begun s + 1)
    (hkept : begun s' + Ota.owed s' = begun s + Ota.owed s)
    (hnext : s'.point = .performing ∨ s'.point = .pausing) :
    Answered target s' ∨ Answering target (steps + 1) (goneOn + goesOn) s' := by
  have hmissing := h.missing
  have hbudget := h.budget
  have hleft : stepsToBegin (target - begun s') s'.point ≤ 5 := by
    rcases hnext with hperforming | hpausing
    · rw [hperforming, stepsToBegin_of_ne (by decide)]
      decide
    · rw [hpausing, stepsToBegin_of_ne (by decide)]
      decide
  by_cases hlast : target ≤ begun s'
  · exact Or.inl (Or.inr hlast)
  · refine Or.inr ⟨not_le.mp hlast, hkept.ge.trans' h.owed, ?_⟩
    rw [hpoint, stepsToBegin, if_neg (by omega), stepsToWait] at hbudget
    omega

theorem Answering.otaTask {target steps goneOn : Nat} {s s' : OtaSystem} {answer : OtaAnswer}
    (h : Answering target steps goneOn s) (hstep : Ota.otaTask s answer = .ok s') :
    Answered target s' ∨
      Answering target (steps + 1)
        (goneOn + if answer.err = .httpsOtaInProgress then 1 else 0) s' := by
  have hkept := begun_otaTask hstep
  unfold Ota.otaTask at hstep
  cases hpoint : s.point with
  | waiting =>
      have hnext : stepsToBegin 1 .beginning + 1 ≤ stepsToBegin 1 .waiting := by
        decide
      simp only [hpoint] at hstep
      rw [if_pos (h.woken hpoint).1] at hstep
      cases hstep
      refine Or.inr (h.next rfl hkept ?_)
      rw [(h.woken hpoint).2, hpoint]
      exact hnext.trans (Nat.le_add_right _ _)
  | beginning =>
      simp only [hpoint] at hstep
      split at hstep
      · cases hstep
        exact h.began hpoint (by simp [begun, OtaEvent.isBegin]) hkept (Or.inr rfl)
      · cases hstep
        exact h.began hpoint (by simp [begun, OtaEvent.isBegin]) hkept (Or.inl rfl)
  | performing =>
      simp only [hpoint] at hstep
      split at hstep
      · next herr =>
          rcases bind_eq_ok hstep with ⟨percent, _, hpure⟩
          cases hpure
          rw [if_pos herr]
          exact Or.inr (h.nearer (by simp [begun, OtaEvent.isBegin]) hkept (by simp [hpoint])
            (by simp [hpoint, stepsToWait]))
      · next herr =>
          cases hstep
          rw [if_neg herr]
          exact Or.inr (h.nearer (by simp [begun, OtaEvent.isBegin]) hkept (by simp [hpoint])
            (by simp [hpoint, stepsToWait]))
  | sending =>
      simp only [hpoint] at hstep
      cases hstep
      exact Or.inr (h.nearer (by simp [begun, OtaEvent.isBegin]) hkept (by simp [hpoint])
        (by simp [hpoint, stepsToWait]))
  | finishing =>
      simp only [hpoint] at hstep
      split at hstep
      · cases hstep
        exact Or.inl (Or.inl rfl)
      · cases hstep
        exact Or.inr (h.nearer (by simp [begun, OtaEvent.isBegin]) hkept (by simp [hpoint])
          (by simp [hpoint, stepsToWait]))
  | pausing =>
      simp only [hpoint] at hstep
      cases hstep
      exact Or.inr (h.nearer rfl hkept (by simp [hpoint]) (by simp [hpoint, stepsToWait]))
  | restarted =>
      simp only [hpoint] at hstep
      cases hstep
      exact Or.inl (Or.inl hpoint)

theorem Answering.otaStep {target steps goneOn : Nat} {s s' : OtaSystem} {i : OtaInput}
    (h : Answering target steps goneOn s) (hstep : Ota.otaStep s i = .ok s') :
    Answered target s' ∨
      Answering target (steps + if i.isStep then 1 else 0)
        (goneOn + if i.goesOn then 1 else 0) s' := by
  unfold Ota.otaStep at hstep
  split at hstep
  · next hrestarted =>
      cases hstep
      exact Or.inl (Or.inl hrestarted)
  · cases i with
    | gotUpdate =>
        cases hstep
        refine Or.inr ⟨h.missing, h.owed.trans (Nat.add_le_add_left ?_ _), h.budget⟩
        simp only [Ota.owed, EventGroup.setBit, Finset.mem_insert, true_or, if_true]
        split <;> omega
    | oled =>
        cases hstep
        refine Or.inr ⟨?_, ?_, ?_⟩
        · rw [(begun_oledFrame s).1]
          exact h.missing
        · rw [(begun_oledFrame s).1, (begun_oledFrame s).2]
          exact h.owed
        · rw [(begun_oledFrame s).1, point_oledFrame]
          exact h.budget
    | ota answer =>
        simpa [OtaInput.isStep, OtaInput.goesOn] using h.otaTask hstep

theorem begun_le_otaTask {s s' : OtaSystem} {answer : OtaAnswer}
    (h : otaTask s answer = .ok s') : begun s ≤ begun s' := by
  cases transition_of_otaTask h with
  | stayed => exact le_rfl
  | woken => exact le_rfl
  | beginFailed => simp [begun]
  | began => simp [begun]
  | received => simp [begun]
  | downloadEnded => simp [begun]
  | sent => simp [begun]
  | restarted => simp [begun]
  | finishFailed => simp [begun]
  | paused => exact le_rfl

theorem answered_otaStep {target : Nat} {s s' : OtaSystem} {i : OtaInput}
    (h : Answered target s) (hstep : otaStep s i = .ok s') : Answered target s' := by
  unfold otaStep at hstep
  split at hstep
  · cases hstep
    exact h
  · next hrunning =>
      have hreached : target ≤ begun s := h.resolve_left hrunning
      refine Or.inr (hreached.trans ?_)
      cases i with
      | gotUpdate =>
          cases hstep
          exact le_rfl
      | oled =>
          cases hstep
          exact (begun_oledFrame s).1.ge
      | ota answer => exact begun_le_otaTask hstep

/--
What is owed has been answered after six steps of the task, and two more for each time that
the library goes on with a download.
-/
theorem owed_answered {s s' : OtaSystem} {later : List OtaInput}
    (hs : outcomeAfter otaStep s later = .ok s')
    (henough : 6 + 2 * later.countP OtaInput.goesOn ≤ later.countP OtaInput.isStep) :
    Answered (begun s + owed s) s' := by
  have hinv : Answered (begun s + owed s) s' ∨
      Answering (begun s + owed s) (later.countP OtaInput.isStep)
        (later.countP OtaInput.goesOn) s' := by
    refine reached_invariant
      (fun past t => Answered (begun s + owed s) t ∨
        Answering (begun s + owed s) (past.countP OtaInput.isStep)
          (past.countP OtaInput.goesOn) t) ?_ ?_ hs
    · by_cases hnothing : owed s = 0
      · exact Or.inl (Or.inr (by rw [hnothing, Nat.add_zero]))
      · refine Or.inr ⟨by omega, le_rfl, ?_⟩
        exact (Nat.zero_add _).trans_le (stepsToBegin_le _ _)
    · intro past i t t' _ hinv hstep
      rcases hinv with hanswered | hanswering
      · exact Or.inl (answered_otaStep hanswered hstep)
      · rw [List.countP_append, List.countP_append, List.countP_singleton,
          List.countP_singleton]
        exact hanswering.otaStep hstep
  rcases hinv with hanswered | hanswering
  · exact hanswered
  · have hbudget := hanswering.budget
    have hleft := stepsToBegin_pos (begun s + owed s - begun s') s'.point
    omega

/-!
# Percents
-/

def PercentsSent (s : OtaSystem) : Prop :=
  s.qOtaLevel.All fun percent => .sentPercent percent ∈ s.trace

theorem PercentsSent.mono {s s' : OtaSystem} (h : PercentsSent s)
    (hqueue : s'.qOtaLevel = s.qOtaLevel)
    (htrace : forall event, event ∈ s.trace -> event ∈ s'.trace) : PercentsSent s' := by
  unfold PercentsSent
  rw [hqueue]
  exact fun percent hmem => htrace _ (h percent hmem)

theorem percentsSent_otaTask {s s' : OtaSystem} {answer : OtaAnswer} (h : PercentsSent s)
    (hstep : otaTask s answer = .ok s') : PercentsSent s' := by
  cases transition_of_otaTask hstep with
  | stayed => exact h
  | woken => exact h.mono rfl fun _ hmem => hmem
  | beginFailed => exact h.mono rfl fun _ hmem => List.mem_append_left _ hmem
  | began => exact h.mono rfl fun _ hmem => List.mem_append_left _ hmem
  | received => exact h.mono rfl fun _ hmem => List.mem_append_left _ hmem
  | downloadEnded => exact h.mono rfl fun _ hmem => List.mem_append_left _ hmem
  | sent =>
      refine BoundedQueue.All.sendOrDrop ?_ (List.mem_append_right _ (List.mem_singleton_self _))
      exact fun percent hmem => List.mem_append_left _ (h percent hmem)
  | restarted =>
      exact h.mono rfl fun _ hmem => List.mem_append_left _ (List.mem_append_left _ hmem)
  | finishFailed => exact h.mono rfl fun _ hmem => List.mem_append_left _ hmem
  | paused => exact h.mono rfl fun _ hmem => hmem

theorem percentsSent_oledFrame {s : OtaSystem} (h : PercentsSent s) :
    PercentsSent (oledFrame s) := by
  unfold oledFrame
  split
  · split
    · exact h.mono rfl fun _ hmem => List.mem_append_left _ hmem
    · next percent rest hreceive =>
        intro other hmem
        exact List.mem_append_left _ ((BoundedQueue.All.receive? h hreceive).2 other hmem)
  · split
    · exact h.mono rfl fun _ hmem => hmem
    · exact h

theorem percentsSent_otaAfter {history : List OtaInput} {s : OtaSystem}
    (hs : otaAfter ∅ history = .ok s) : PercentsSent s := by
  have hboot : PercentsSent (OtaSystem.boot ∅) := BoundedQueue.all_empty _
  refine reached_invariant (fun _ s => PercentsSent s) hboot ?_ hs
  intro past i s s' _ ih hstep
  unfold otaStep at hstep
  split at hstep
  · cases hstep
    exact ih
  · cases i with
    | gotUpdate =>
        cases hstep
        exact ih.mono rfl fun _ hmem => hmem
    | ota answer => exact percentsSent_otaTask ih hstep
    | oled =>
        cases hstep
        exact percentsSent_oledFrame ih

def OtaAnswer.CountsBytes (answer : OtaAnswer) (s : OtaSystem) : Prop :=
  s.point = .performing -> answer.err = .httpsOtaInProgress ->
    0 ≤ answer.lenRead ∧ answer.lenRead ≤ s.updateSize

instance (answer : OtaAnswer) (s : OtaSystem) : Decidable (answer.CountsBytes s) :=
  inferInstanceAs (Decidable (_ -> _ -> _))

structure PercentsBounded (s : OtaSystem) : Prop where
  sent : forall percent, .sentPercent percent ∈ s.trace -> percent ≤ 100
  next : s.otaPercent ≤ 100

theorem otaPercentOf_le {lenRead : Int} {updateSize percent : Nat} (hnonneg : 0 ≤ lenRead)
    (hle : lenRead ≤ updateSize) (h : otaPercentOf lenRead updateSize = .ok percent) :
    percent ≤ 100 := by
  rcases bind_eq_ok h with ⟨scaled, hscaled, hdivide⟩
  unfold int32 at hscaled
  split at hscaled
  · next hrange =>
      cases hscaled
      split at hdivide
      · cases hdivide
      · next hsize =>
          cases hdivide
          have hhigh := hrange.2
          apply Nat.div_le_of_le_mul
          unfold uint32OfInt
          omega
  · cases hscaled

theorem PercentsBounded.quiet {s s' : OtaSystem} (h : PercentsBounded s)
    {events : List OtaEvent} (htrace : s'.trace = s.trace ++ events)
    (hnone : forall percent, .sentPercent percent ∉ events)
    (hnext : s'.otaPercent ≤ 100) : PercentsBounded s' where
  sent := by
    intro percent hmem
    rw [htrace] at hmem
    rcases List.mem_append.mp hmem with hold | hnew
    · exact h.sent percent hold
    · exact absurd hnew (hnone percent)
  next := hnext

theorem percentsBounded_otaTask {s s' : OtaSystem} {answer : OtaAnswer}
    (h : PercentsBounded s) (hcounts : answer.CountsBytes s)
    (hstep : otaTask s answer = .ok s') : PercentsBounded s' := by
  have hnone (event : OtaEvent) (hother : forall percent, event ≠ .sentPercent percent)
      (percent : Nat) : .sentPercent percent ∉ [event] :=
    fun hmem => hother percent (List.mem_singleton.mp hmem).symm
  unfold otaTask at hstep
  cases hpoint : s.point with
  | waiting =>
      simp only [hpoint] at hstep
      split at hstep
      · cases hstep
        exact ⟨h.sent, h.next⟩
      · cases hstep
        exact h
  | beginning =>
      simp only [hpoint] at hstep
      split at hstep
      · cases hstep
        exact h.quiet rfl (hnone _ nofun) h.next
      · cases hstep
        exact h.quiet rfl (hnone _ nofun) h.next
  | performing =>
      simp only [hpoint] at hstep
      split at hstep
      · next herr =>
          rcases bind_eq_ok hstep with ⟨percent, hpercent, hpure⟩
          cases hpure
          rcases hcounts hpoint herr with ⟨hnonneg, hle⟩
          exact h.quiet rfl (hnone _ nofun) (otaPercentOf_le hnonneg hle hpercent)
      · cases hstep
        exact h.quiet rfl (hnone _ nofun) h.next
  | sending =>
      simp only [hpoint] at hstep
      cases hstep
      refine ⟨?_, h.next⟩
      intro percent hmem
      rcases List.mem_append.mp hmem with hold | hnew
      · exact h.sent percent hold
      · cases List.mem_singleton.mp hnew
        exact h.next
  | finishing =>
      simp only [hpoint] at hstep
      split at hstep
      · cases hstep
        refine h.quiet (List.append_assoc _ _ _) ?_ h.next
        intro percent hmem
        simp at hmem
      · cases hstep
        exact h.quiet rfl (hnone _ nofun) h.next
  | pausing =>
      simp only [hpoint] at hstep
      cases hstep
      exact ⟨h.sent, h.next⟩
  | restarted =>
      simp only [hpoint] at hstep
      cases hstep
      exact h

theorem percentsBounded_oledFrame {s : OtaSystem} (h : PercentsBounded s) :
    PercentsBounded (oledFrame s) := by
  unfold oledFrame
  split
  · split
    · exact h.quiet rfl (fun _ hmem => nomatch List.mem_singleton.mp hmem) h.next
    · exact h.quiet rfl (fun _ hmem => nomatch List.mem_singleton.mp hmem) h.next
  · split
    · exact ⟨h.sent, h.next⟩
    · exact h

end Ota
end CarCleaner
