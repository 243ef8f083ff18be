import Mathlib.Algebra.BigOperators.Intervals
import CarCleaner.Motors.Stretches

/-!
# What a stuck verdict says about the displacement

The detector compares a distance only with the one of the previous
`MOTORS_FORWARD_BACKWARD` iteration, and not at all in the call that fires.  A
verdict therefore excludes jumps in the seconds before it, but neither a jump in
the very call nor a slow creep.
-/

namespace CarCleaner
namespace Motors

open Foundation

/-!
# Jumps and creeps among the received distances
-/

namespace Outside

/-- Iteration `i` was still running two seconds before iteration `n` tests the timer. -/
def InWindow (out : Outside) (n i : Nat) : Prop :=
  (out.loop n).checkFirst - 2000000 ≤ (out.loop i).pidTime

instance (out : Outside) (n i : Nat) : Decidable (out.InWindow n i) :=
  inferInstanceAs (Decidable (_ ≤ _))

/-- The step that the distance takes with iteration `n`. -/
def stepIn (out : Outside) (stretch : Stretch) (n : Nat) : Rat :=
  out.distanceAt n - (stretch.drivenBefore n).elim 0 out.distanceAt

/-- Iteration `n` brings a movement, within two seconds of the last distance driven by. -/
def JumpAt (out : Outside) (stretch : Stretch) (n : Nat) : Prop :=
  exists p, stretch.drivenBefore n = some p ∧ out.InWindow n p ∧ out.MovedIn stretch n

/--
Steps that are no movements add up to more than 2 cm, all within two seconds of iteration
`n`.
-/
def CreepBefore (out : Outside) (stretch : Stretch) (n : Nat) : Prop :=
  exists p i j, stretch.drivenBefore i = some p ∧ stretch.first ≤ i ∧ i ≤ j ∧ j ≤ n ∧
    out.InWindow n p ∧ (forall l, i ≤ l -> l ≤ j -> ¬ out.MovedIn stretch l) ∧
    2 < |∑ l ∈ Finset.Icc i j, out.stepIn stretch l|

section

variable {out : Outside} {stretch : Stretch} {i j p : Nat}

theorem stepIn_of_drivenBefore (hp : stretch.drivenBefore i = some p) :
    out.stepIn stretch i = out.distanceAt i - out.distanceAt p := by
  rw [stepIn, hp]
  rfl

theorem movedIn_iff (hp : stretch.drivenBefore i = some p) :
    out.MovedIn stretch i <-> Moved (out.distanceAt p) (out.distanceAt i) := by
  rw [MovedIn, hp]
  exact Iff.rfl

theorem sum_stepIn (hp : stretch.drivenBefore i = some p) (hfirst : stretch.first ≤ i)
    (hij : i ≤ j) :
    ∑ l ∈ Finset.Icc i j, out.stepIn stretch l = out.distanceAt j - out.distanceAt p := by
  induction j, hij using Nat.le_induction with
  | base =>
      rw [Finset.Icc_self, Finset.sum_singleton, stepIn_of_drivenBefore hp]
  | succ j hij ih =>
      have hstep := @stepIn_of_drivenBefore out stretch _ _
        (Stretch.drivenBefore_succ (hfirst.trans hij))
      rw [Finset.sum_Icc_succ_top (Nat.le_succ_of_le hij), ih, hstep]
      exact sub_add_sub_cancel' _ _ _

/-- The steps of a stretch add up to how far the distance has come. -/
theorem moved_iff_sum_stepIn (hp : stretch.drivenBefore i = some p)
    (hfirst : stretch.first ≤ i) (hij : i ≤ j) :
    Moved (out.distanceAt p) (out.distanceAt j) <->
      2 < |∑ l ∈ Finset.Icc i j, out.stepIn stretch l| := by
  rw [sum_stepIn hp hfirst hij, abs_sub_comm]
  exact Iff.rfl

end

end Outside

namespace MotorRun

def InWindow (run : MotorRun) (n i : Nat) : Prop :=
  run.outside.InWindow n i

/--
Whenever the detector fires, every two distances of the last two seconds, the
one of the firing call included, differ by at most 2 cm.
-/
def DisplacementSound (run : MotorRun) : Prop :=
  forall n, run.ForwardAt n -> run.StuckAt n ->
    forall i j, i ≤ n -> j ≤ n -> run.ForwardAt i -> run.ForwardAt j ->
      run.InWindow n i -> run.InWindow n j ->
      |run.distance i - run.distance j| ≤ 2

instance (run : MotorRun) (n i : Nat) : Decidable (run.InWindow n i) :=
  inferInstanceAs (Decidable (run.outside.InWindow n i))

variable {run : MotorRun} {stretch : Stretch} {n : Nat}

theorem InWindow.later (hclock : run.outside.Nondecreasing) {n i j : Nat}
    (hij : i ≤ j) (h : run.InWindow n i) : run.InWindow n j := by
  rcases Nat.eq_or_lt_of_le hij with heq | hlt
  · rw [← heq]
    exact h
  · have hafter := pidTime_le_checkFirst hclock hlt
    have hfirst := hclock.first_le j
    have hsecond := hclock.second_le j
    unfold InWindow Outside.InWindow at h ⊢
    omega

theorem DisplacementSound.not_moved (h : run.DisplacementSound)
    (hclock : run.outside.Nondecreasing) (hfollows : run.Follows stretch n)
    (hdue : run.outside.DueIn stretch n) {i j : Nat} (hij : i ≤ j) (hjn : j ≤ n)
    (hi : run.ForwardAt i) (hj : run.ForwardAt j) (hwindow : run.InWindow n i) :
    ¬ Moved (run.outside.distanceAt i) (run.outside.distanceAt j) := by
  have hle := h n hfollows.forward (hfollows.stuckAt_iff.mpr hdue) i j (hij.trans hjn) hjn hi hj
    hwindow (hwindow.later hclock hij)
  rw [distance_eq, distance_eq] at hle
  exact not_lt.mpr hle

/-- No iteration in front of the origin of a stretch is in the window of its report. -/
theorem origin_le_of_inWindow (hclock : run.outside.Nondecreasing) {k i : Nat}
    (horigin : stretch.origin = some k) (hkn : k < n) (hdue : run.outside.DueIn stretch n)
    (hwindow : run.InWindow n i) : k ≤ i := by
  by_contra hlt
  have hpid := pidTime_le_checkFirst hclock (not_le.mp hlt)
  cases n with
  | zero => exact absurd hkn (Nat.not_lt_zero k)
  | succ n =>
      have hlag := checkSecond_le_checkFirst hclock n
      have hstart : run.outside.startOf stretch = (run.outside.loop k).checkFirst := by
        rw [Outside.startOf, horigin]
        rfl
      change 3000000 ≤ (run.outside.loop n).checkSecond - run.outside.startOf stretch at hdue
      rw [hstart] at hdue
      unfold InWindow Outside.InWindow at hwindow
      omega

/-- What an iteration in the window is followed by in the stretch. -/
theorem exists_drivenBefore_of_inWindow (hclock : run.outside.Nondecreasing)
    (hstretch : run.outside.HasStretch stretch) (hlasts : run.outside.Lasts stretch n)
    (hdue : run.outside.DueIn stretch n) {i j : Nat} (hij : i < j) (hi : run.ForwardAt i)
    (hj : run.ForwardAt j) (hwindow : run.InWindow n i) :
    exists next, stretch.drivenBefore next = some i ∧ stretch.first ≤ next ∧ next ≤ j := by
  rcases Nat.lt_or_ge i stretch.first with hlt | hge
  · rcases le_origin_of_lt_first hclock hstretch hlt hi with ⟨k, horigin, hik⟩
    have hkfirst := forwardAt_drivenBefore hclock hstretch (run.outside.lasts_first stretch)
      ((Stretch.drivenBefore_first stretch).trans horigin)
    have hki := origin_le_of_inWindow hclock horigin (hkfirst.2.trans_le hlasts.1) hdue hwindow
    have hik' : i = k := Nat.le_antisymm hik hki
    subst hik'
    refine ⟨stretch.first, (Stretch.drivenBefore_first stretch).trans horigin, le_rfl, ?_⟩
    by_contra hjlt
    rcases le_origin_of_lt_first hclock hstretch (not_le.mp hjlt) hj with ⟨k, hk, hjk⟩
    rw [horigin] at hk
    cases hk
    exact absurd hij (not_lt.mpr hjk)
  · exact ⟨i + 1, Stretch.drivenBefore_succ hge, Nat.le_succ_of_le hge, hij⟩

/-- Without a jump and a creep the distances of a report do not differ by a movement. -/
theorem not_moved_of_no_jump_or_creep (hclock : run.outside.Nondecreasing)
    (hstretch : run.outside.HasStretch stretch) (hlasts : run.outside.Lasts stretch n)
    (hdue : run.outside.DueIn stretch n) (hjump : ¬ run.outside.JumpAt stretch n)
    (hcreep : ¬ run.outside.CreepBefore stretch n) {i j : Nat} (hij : i < j) (hjn : j ≤ n)
    (hi : run.ForwardAt i) (hj : run.ForwardAt j) (hwindow : run.InWindow n i) :
    ¬ Moved (run.outside.distanceAt i) (run.outside.distanceAt j) := by
  intro hmoved
  rcases exists_drivenBefore_of_inWindow hclock hstretch hlasts hdue hij hi hj hwindow with
    ⟨next, hnext, hfirst, hnextj⟩
  refine hcreep ⟨i, next, j, hnext, hfirst, hnextj, hjn, hwindow, ?_,
    (Outside.moved_iff_sum_stepIn hnext hfirst hnextj).mp hmoved⟩
  intro l hnl hlj hstep
  -- the only movement that a stretch can have is one with its last iteration
  have hln : l = n := by
    by_contra hne
    exact (hlasts.2 l (hfirst.trans hnl) (by omega)).2 hstep
  subst hln
  have hinext := (forwardAt_drivenBefore hclock hstretch (hlasts.of_le hfirst hnl) hnext).2
  rcases exists_drivenBefore hfirst hnext hinext hnl with ⟨p, hp, hip⟩
  exact hjump ⟨p, hp, hwindow.later hclock hip, hstep⟩

/--
A run is sound exactly when no report comes with a jump, or behind a creep in its last
two seconds.
-/
theorem displacementSound_iff (hclock : run.outside.Nondecreasing) :
    run.DisplacementSound <->
      forall stretch n, run.outside.HasStretch stretch -> run.outside.Lasts stretch n ->
        run.outside.DueIn stretch n ->
        ¬ run.outside.JumpAt stretch n ∧ ¬ run.outside.CreepBefore stretch n := by
  constructor
  · intro hsound stretch n hstretch hlasts hdue
    have hfollows := (follows_of_hasStretch hclock hstretch).of_lasts hlasts
    constructor
    · intro hjump
      rcases hjump with ⟨p, hp, hwindow, hmoved⟩
      rcases forwardAt_drivenBefore hclock hstretch hlasts hp with ⟨hforward, hpn⟩
      exact hsound.not_moved hclock hfollows hdue hpn.le le_rfl hforward hfollows.forward
        hwindow ((Outside.movedIn_iff hp).mp hmoved)
    · intro hcreep
      rcases hcreep with ⟨p, i, j, hp, hfirst, hij, hjn, hwindow, _, hsum⟩
      have hmoved := (Outside.moved_iff_sum_stepIn hp hfirst hij).mpr hsum
      have hlastsj := hlasts.of_le (hfirst.trans hij) hjn
      rcases forwardAt_drivenBefore hclock hstretch (hlastsj.of_le hfirst hij) hp with
        ⟨hforward, hpi⟩
      exact hsound.not_moved hclock hfollows hdue (hpi.le.trans hij) hjn hforward
        ((follows_of_hasStretch hclock hstretch).of_lasts hlastsj).forward hwindow hmoved
  · intro hsteady n hn hstuck i j hin hjn hi hj hwi hwj
    rcases exists_stretch_of_forwardAt hclock hn with ⟨stretch, hstretch, hlasts⟩
    have hfollows := (follows_of_hasStretch hclock hstretch).of_lasts hlasts
    have hdue := hfollows.stuckAt_iff.mp hstuck
    rcases hsteady stretch n hstretch hlasts hdue with ⟨hjump, hcreep⟩
    have hpair := fun {i j : Nat} (hij : i < j) => not_moved_of_no_jump_or_creep hclock hstretch
      hlasts hdue hjump hcreep hij
    rw [distance_eq, distance_eq]
    rcases Nat.lt_trichotomy i j with hlt | heq | hgt
    · exact not_lt.mp (hpair hlt hjn hi hj hwi)
    · rw [heq, sub_self, abs_zero]
      norm_num
    · rw [abs_sub_comm]
      exact not_lt.mp (hpair hgt hin hj hi hwj)

end MotorRun

/-- From 10 s on the wall comes 1.5 cm closer with every twelfth iteration. -/
def creepingWall : Outside :=
  everyTwentyMs 10000000 fun n =>
    if n % 12 = 0 then some (100 - 3 / 2 * (min (n / 12) 60 : Nat)) else none

theorem creepingWall_report :
    (MotorRun.ofOutside creepingWall).ForwardAt 151 ∧
      (MotorRun.ofOutside creepingWall).StuckAt 151 := by
  decide +kernel

theorem creepingWall_not_displacementSound :
    ¬ (MotorRun.ofOutside creepingWall).DisplacementSound := by
  intro h
  rcases creepingWall_report with ⟨hforward, hstuck⟩
  have hle := h 151 hforward hstuck 52 151 (by decide) le_rfl (by decide +kernel) hforward
    (by decide +kernel) (by decide +kernel)
  exact absurd hle (by decide +kernel)

theorem displacementSound_iff_creepingWall :
    (MotorRun.ofOutside creepingWall).DisplacementSound <->
      forall stretch n, creepingWall.HasStretch stretch -> creepingWall.Lasts stretch n ->
        creepingWall.DueIn stretch n ->
        ¬ creepingWall.JumpAt stretch n ∧ ¬ creepingWall.CreepBefore stretch n :=
  MotorRun.displacementSound_iff (everyTwentyMs_nondecreasing (by decide) _)

end Motors
end CarCleaner
