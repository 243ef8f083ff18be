import CarCleaner.Motors.StuckTiming

/-!
# Stretches of received distances

When the detector reports can be read off the received distances and the clock.  They
fall into stretches without a movement: one begins at boot, behind every movement and
behind every report.  The iteration behind a report rotates and belongs to no stretch.
-/

namespace CarCleaner
namespace Motors

open Foundation

/-- A stretch begins at boot, or behind the iteration of a movement or a report. -/
inductive Stretch where
  | boot
  | moved (k : Nat)
  | reported (k : Nat)
deriving DecidableEq, Repr

namespace Stretch

def origin : Stretch -> Option Nat
  | .boot => none
  | .moved k => some k
  | .reported k => some k

/-- The first iteration of the stretch that drives. -/
def first : Stretch -> Nat
  | .boot => 0
  | .moved k => k + 1
  | .reported k => k + 2

def drivenBefore (stretch : Stretch) (n : Nat) : Option Nat :=
  if n = stretch.first then stretch.origin else some (n - 1)

theorem drivenBefore_first (stretch : Stretch) :
    stretch.drivenBefore stretch.first = stretch.origin :=
  if_pos rfl

theorem drivenBefore_succ {stretch : Stretch} {n : Nat} (h : stretch.first ≤ n) :
    stretch.drivenBefore (n + 1) = some n :=
  if_neg (by omega)

end Stretch

namespace Outside

def distanceAt (out : Outside) (n : Nat) : Rat :=
  out.distanceBefore (n + 1)

/-- Clock at the end of the last `check_distance` in front of iteration `n`. -/
def checkedBefore (out : Outside) : Nat -> Int
  | 0 => 0
  | n + 1 => (out.loop n).checkSecond

def startOf (out : Outside) (stretch : Stretch) : Int :=
  stretch.origin.elim 0 fun k => (out.loop k).checkFirst

/-- The distance is more than 2 cm away from the last one that was driven by. -/
def MovedIn (out : Outside) (stretch : Stretch) (n : Nat) : Prop :=
  Moved ((stretch.drivenBefore n).elim 0 out.distanceAt) (out.distanceAt n)

def DueIn (out : Outside) (stretch : Stretch) (n : Nat) : Prop :=
  3000000 ≤ out.checkedBefore n - out.startOf stretch

/-- The stretch is not over in front of iteration `n`. -/
def Lasts (out : Outside) (stretch : Stretch) (n : Nat) : Prop :=
  stretch.first ≤ n ∧ forall i, stretch.first ≤ i -> i < n ->
    ¬ out.DueIn stretch i ∧ ¬ out.MovedIn stretch i

/-- The stretches of a run: each ends with the iteration behind which the next begins. -/
inductive HasStretch (out : Outside) : Stretch -> Prop where
  | boot : HasStretch out .boot
  | moved {stretch : Stretch} {n : Nat} (h : HasStretch out stretch)
      (hlasts : out.Lasts stretch n) (hdue : ¬ out.DueIn stretch n)
      (hmoved : out.MovedIn stretch n) : HasStretch out (.moved n)
  | reported {stretch : Stretch} {n : Nat} (h : HasStretch out stretch)
      (hlasts : out.Lasts stretch n) (hdue : out.DueIn stretch n) :
      HasStretch out (.reported n)

theorem lasts_first (out : Outside) (stretch : Stretch) :
    out.Lasts stretch stretch.first :=
  ⟨le_rfl, fun _ hfirst hlt => absurd hfirst (not_le.mpr hlt)⟩

variable {out : Outside} {stretch : Stretch} {n : Nat}

theorem Lasts.of_le (h : out.Lasts stretch n) {i : Nat} (hfirst : stretch.first ≤ i)
    (hin : i ≤ n) : out.Lasts stretch i :=
  ⟨hfirst, fun j hj hji => h.2 j hj (hji.trans_le hin)⟩

theorem Lasts.succ (h : out.Lasts stretch n) (hdue : ¬ out.DueIn stretch n)
    (hmoved : ¬ out.MovedIn stretch n) : out.Lasts stretch (n + 1) := by
  refine ⟨Nat.le_succ_of_le h.1, ?_⟩
  intro i hfirst hlt
  rcases Nat.lt_succ_iff_lt_or_eq.mp hlt with hin | heq
  · exact h.2 i hfirst hin
  · rw [heq]
    exact ⟨hdue, hmoved⟩

end Outside

namespace MotorRun

variable {run : MotorRun} {stretch : Stretch} {n : Nat}

/-!
# A run within a stretch
-/

structure Follows (run : MotorRun) (stretch : Stretch) (n : Nat) : Prop where
  forward : run.ForwardAt n
  window_eq : run.window n =
    { start := run.outside.startOf stretch, last := run.outside.checkedBefore n }
  prevMeasurement_eq : (run.task n).pid.prevMeasurement =
    (stretch.drivenBefore n).elim 0 run.outside.distanceAt

theorem Follows.stuckAt_iff (h : run.Follows stretch n) :
    run.StuckAt n <-> run.outside.DueIn stretch n := by
  rw [stuckAt_iff_expired, h.window_eq]
  exact Iff.rfl

theorem Follows.movedAt_iff (h : run.Follows stretch n) :
    run.MovedAt n <-> run.outside.MovedIn stretch n := by
  rw [MovedAt, h.prevMeasurement_eq, distance_eq]
  exact Iff.rfl

theorem window_succ (n : Nat) :
    run.window (n + 1) = Watchdog.observe stuckLimit (run.window n) (run.observation n) :=
  Watchdog.windowAt_succ _ _ _ _

theorem window_succ_of_quiet (h : ¬ run.RestartsAt n) :
    run.window (n + 1) =
      { run.window n with last := (run.outside.loop n).checkSecond } :=
  (window_succ n).trans (Watchdog.observe_of_quiet h)

theorem follows_boot (run : MotorRun) : run.Follows .boot 0 where
  forward := forwardAt_zero
  window_eq := rfl
  prevMeasurement_eq := by
    rw [run.task_zero]
    rfl

theorem Follows.succ (h : run.Follows stretch n) (hfirst : stretch.first ≤ n)
    (hdue : ¬ run.outside.DueIn stretch n) (hmoved : ¬ run.outside.MovedIn stretch n) :
    run.Follows stretch (n + 1) where
  forward := forwardAt_succ_of_not_stuckAt fun hstuck => hdue (h.stuckAt_iff.mp hstuck)
  window_eq := by
    have hquiet : ¬ run.RestartsAt n := by
      rw [restartsAt_iff, h.stuckAt_iff, h.movedAt_iff]
      exact fun hor => hor.elim hdue fun hand => hmoved hand.2
    rw [window_succ_of_quiet hquiet, h.window_eq]
    rfl
  prevMeasurement_eq := by
    rw [prevMeasurement_succ_of_forwardAt h.forward, distance_eq,
      Stretch.drivenBefore_succ hfirst]
    rfl

theorem Follows.moved (h : run.Follows stretch n) (hdue : ¬ run.outside.DueIn stretch n)
    (hmoved : run.outside.MovedIn stretch n) : run.Follows (.moved n) (n + 1) where
  forward := forwardAt_succ_of_not_stuckAt fun hstuck => hdue (h.stuckAt_iff.mp hstuck)
  window_eq := by
    have hexpired : ¬ Watchdog.Expired stuckLimit (run.window n) := by
      rw [<- stuckAt_iff_expired, h.stuckAt_iff]
      exact hdue
    have hhappened : (run.observation n).happened = true :=
      decide_eq_true ⟨h.forward, h.movedAt_iff.mpr hmoved⟩
    rw [window_succ, Watchdog.observe, if_neg hexpired, if_pos hhappened]
    rfl
  prevMeasurement_eq := by
    rw [prevMeasurement_succ_of_forwardAt h.forward, distance_eq]
    exact (congrArg (Option.elim · 0 run.outside.distanceAt)
      (Stretch.drivenBefore_first (.moved n))).symm

/-- Behind a report the task rotates once, and the call there only reads the clock. -/
theorem Follows.reported (hclock : run.outside.Nondecreasing) (h : run.Follows stretch n)
    (hdue : run.outside.DueIn stretch n) : run.Follows (.reported n) (n + 2) := by
  have hstuck : run.StuckAt n := h.stuckAt_iff.mpr hdue
  have hrotate : ¬ run.ForwardAt (n + 1) := not_forwardAt_succ h.forward hstuck
  have hquiet : ¬ run.RestartsAt (n + 1) := by
    rw [restartsAt_iff]
    exact fun hor => hor.elim (not_stuckAt_succ hclock hstuck) fun hand => hrotate hand.1
  constructor
  · exact forwardAt_succ_of_not_stuckAt (not_stuckAt_succ hclock hstuck)
  · have hexpired : Watchdog.Expired stuckLimit (run.window n) :=
      (stuckAt_iff_expired n).mp hstuck
    rw [window_succ_of_quiet hquiet, window_succ, Watchdog.observe_of_expired _ hexpired]
    rfl
  · rw [pid_succ_of_not_forwardAt hrotate, prevMeasurement_succ_of_forwardAt h.forward,
      distance_eq]
    exact (congrArg (Option.elim · 0 run.outside.distanceAt)
      (Stretch.drivenBefore_first (.reported n))).symm

theorem Follows.of_lasts (h : run.Follows stretch stretch.first)
    (hlasts : run.outside.Lasts stretch n) : run.Follows stretch n := by
  rcases hlasts with ⟨hfirst, hquiet⟩
  induction n, hfirst using Nat.le_induction with
  | base =>
      exact h
  | succ n hfirst ih =>
      rcases hquiet n hfirst (Nat.lt_succ_self n) with ⟨hdue, hmoved⟩
      exact (ih fun i hi hin => hquiet i hi (hin.trans (Nat.lt_succ_self n))).succ
        hfirst hdue hmoved

/-!
# The stretches of a run
-/

theorem follows_of_hasStretch (hclock : run.outside.Nondecreasing)
    (h : run.outside.HasStretch stretch) : run.Follows stretch stretch.first := by
  induction h with
  | boot => exact follows_boot run
  | moved _ hlasts hdue hmoved ih => exact (ih.of_lasts hlasts).moved hdue hmoved
  | reported _ hlasts hdue ih => exact (ih.of_lasts hlasts).reported hclock hdue

theorem exists_stretch (hclock : run.outside.Nondecreasing) (n : Nat) :
    (exists stretch, run.outside.HasStretch stretch ∧ run.outside.Lasts stretch n) ∨
      ¬ run.ForwardAt n ∧ exists k, n = k + 1 ∧ run.outside.HasStretch (.reported k) := by
  induction n with
  | zero =>
      exact Or.inl ⟨.boot, .boot, run.outside.lasts_first .boot⟩
  | succ n ih =>
      rcases ih with ⟨stretch, hstretch, hlasts⟩ | ⟨_, k, rfl, hstretch⟩
      · have hfollows := (follows_of_hasStretch hclock hstretch).of_lasts hlasts
        by_cases hdue : run.outside.DueIn stretch n
        · exact Or.inr ⟨not_forwardAt_succ hfollows.forward (hfollows.stuckAt_iff.mpr hdue), n,
            rfl, hstretch.reported hlasts hdue⟩
        · by_cases hmoved : run.outside.MovedIn stretch n
          · exact Or.inl ⟨.moved n, hstretch.moved hlasts hdue hmoved,
              run.outside.lasts_first (.moved n)⟩
          · exact Or.inl ⟨stretch, hstretch, hlasts.succ hdue hmoved⟩
      · exact Or.inl ⟨.reported k, hstretch, run.outside.lasts_first (.reported k)⟩

theorem exists_stretch_of_forwardAt (hclock : run.outside.Nondecreasing)
    (hforward : run.ForwardAt n) :
    exists stretch, run.outside.HasStretch stretch ∧ run.outside.Lasts stretch n := by
  rcases exists_stretch hclock n with hstretch | ⟨hrotate, _⟩
  · exact hstretch
  · exact absurd hforward hrotate

/-- What was driven by in front of an iteration of a stretch is its predecessor in the run. -/
theorem forwardAt_drivenBefore (hclock : run.outside.Nondecreasing)
    (h : run.outside.HasStretch stretch) (hlasts : run.outside.Lasts stretch n) {p : Nat}
    (hp : stretch.drivenBefore n = some p) : run.ForwardAt p ∧ p < n := by
  rcases Nat.eq_or_lt_of_le hlasts.1 with heq | hlt
  · subst heq
    rw [Stretch.drivenBefore_first] at hp
    cases h with
    | boot => cases hp
    | moved hprev hlasts' _ _ =>
        cases hp
        exact ⟨((follows_of_hasStretch hclock hprev).of_lasts hlasts').forward,
          Nat.lt_succ_self _⟩
    | reported hprev hlasts' _ =>
        cases hp
        exact ⟨((follows_of_hasStretch hclock hprev).of_lasts hlasts').forward,
          Nat.lt_add_of_pos_right Nat.two_pos⟩
  · rcases Nat.exists_eq_add_of_lt hlt with ⟨m, hm⟩
    have hn : n = (stretch.first + m) + 1 := hm
    subst hn
    rw [Stretch.drivenBefore_succ (Nat.le_add_right _ m)] at hp
    cases hp
    have hbefore := hlasts.of_le (Nat.le_add_right stretch.first m) (Nat.le_succ _)
    exact ⟨((follows_of_hasStretch hclock h).of_lasts hbefore).forward, Nat.lt_succ_self _⟩

/-- Behind an iteration with a predecessor every other one has a later predecessor. -/
theorem exists_drivenBefore {i m p : Nat} (hfirst : stretch.first ≤ i)
    (hp : stretch.drivenBefore i = some p) (hpi : p < i) (him : i ≤ m) :
    exists q, stretch.drivenBefore m = some q ∧ p ≤ q := by
  rcases Nat.eq_or_lt_of_le him with heq | hlt
  · exact ⟨p, heq ▸ hp, le_rfl⟩
  · rcases Nat.exists_eq_add_of_lt hlt with ⟨d, rfl⟩
    refine ⟨i + d, Stretch.drivenBefore_succ (Nat.le_add_right_of_le hfirst), ?_⟩
    omega

/-- An iteration that drives in front of a stretch is not behind its origin. -/
theorem le_origin_of_lt_first (hclock : run.outside.Nondecreasing)
    (h : run.outside.HasStretch stretch) {i : Nat} (hi : i < stretch.first)
    (hforward : run.ForwardAt i) :
    exists k, stretch.origin = some k ∧ i ≤ k := by
  cases h with
  | boot => exact absurd hi (Nat.not_lt_zero i)
  | moved _ _ _ _ => exact ⟨_, rfl, Nat.le_of_lt_succ hi⟩
  | @reported stretch k hprev hlasts hdue =>
      refine ⟨k, rfl, ?_⟩
      have hfollows := (follows_of_hasStretch hclock hprev).of_lasts hlasts
      have hrotate := not_forwardAt_succ hfollows.forward (hfollows.stuckAt_iff.mpr hdue)
      have hne : i ≠ k + 1 := by
        intro heq
        subst heq
        exact hrotate hforward
      change i < k + 2 at hi
      omega

end MotorRun

end Motors
end CarCleaner
