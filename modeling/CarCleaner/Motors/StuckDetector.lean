import Mathlib.Data.Rat.Cast.Order
import CarCleaner.Foundation.MachineNumbers
import CarCleaner.Foundation.Watchdog

/-!
# The stuck detector

`check_distance` keeps two time stamps between its calls.  Its test divides
their difference by a million with truncation before it compares, so the
detector is a watchdog with a limit of three seconds, not of two.
-/

namespace CarCleaner
namespace Motors

open Foundation

/-- The static variables of `check_distance`. -/
structure StuckTimer where
  prevTime : Int
  currTime : Int
deriving DecidableEq, Repr

namespace StuckTimer

def boot : StuckTimer where
  prevTime := 0
  currTime := 0

/-- The test that makes `check_distance` return true. -/
def Passed (timer : StuckTimer) : Prop :=
  (timer.currTime - timer.prevTime).tdiv 1000000 > 2

instance (timer : StuckTimer) : Decidable timer.Passed :=
  inferInstanceAs (Decidable ((timer.currTime - timer.prevTime).tdiv 1000000 > 2))

end StuckTimer

/-- The test that `check_distance` takes for a moving robot. -/
def Moved (prevMeas currMeas : Rat) : Prop :=
  |prevMeas - currMeas| > 2

instance (prevMeas currMeas : Rat) : Decidable (Moved prevMeas currMeas) :=
  inferInstanceAs (Decidable (|prevMeas - currMeas| > 2))

/--
`check_distance`.  `firstNow` is the value of `esp_timer_get_time` at its first
call in either branch, `secondNow` at the call behind the branches.
-/
def checkDistance (timer : StuckTimer) (firstNow secondNow : Int)
    (prevMeas currMeas : Rat) : Bool × StuckTimer :=
  if timer.Passed then
    (true, { timer with prevTime := firstNow })
  else if Moved prevMeas currMeas then
    (false, { prevTime := firstNow, currTime := secondNow })
  else
    (false, { timer with currTime := secondNow })

/-!
# The detector as a watchdog
-/

def stuckLimit : Int := 3000000

def StuckTimer.toWatchdog (timer : StuckTimer) : Watchdog Int where
  start := timer.prevTime
  last := timer.currTime

theorem StuckTimer.passed_iff_expired (timer : StuckTimer) :
    timer.Passed <-> Watchdog.Expired stuckLimit timer.toWatchdog :=
  lt_tdiv_iff (by decide) (by decide)

theorem checkDistance_returns (timer : StuckTimer) (firstNow secondNow : Int)
    (prevMeas currMeas : Rat) :
    (checkDistance timer firstNow secondNow prevMeas currMeas).1 =
      decide timer.Passed := by
  unfold checkDistance
  by_cases hpassed : timer.Passed
  · simp [hpassed]
  · by_cases hmoved : Moved prevMeas currMeas <;>
      simp [hpassed, hmoved]

theorem checkDistance_toWatchdog (timer : StuckTimer) (firstNow secondNow : Int)
    (prevMeas currMeas : Rat) :
    (checkDistance timer firstNow secondNow prevMeas currMeas).2.toWatchdog =
      Watchdog.observe stuckLimit timer.toWatchdog
        { opened := firstNow, closed := secondNow,
          happened := decide (Moved prevMeas currMeas) } := by
  unfold checkDistance Watchdog.observe
  by_cases hpassed : timer.Passed
  · rw [if_pos hpassed, if_pos (timer.passed_iff_expired.mp hpassed)]
    rfl
  · rw [if_neg hpassed, if_neg (fun h => hpassed (timer.passed_iff_expired.mpr h))]
    by_cases hmoved : Moved prevMeas currMeas
    · simp [hmoved, StuckTimer.toWatchdog]
    · simp [hmoved, StuckTimer.toWatchdog]

/-!
# Sequences of calls
-/

/-- The clock readings and the arguments of one call of `check_distance`. -/
structure DistanceCall where
  firstNow : Int
  secondNow : Int
  prevMeas : Rat
  currMeas : Rat

namespace DistanceCall

def apply (call : DistanceCall) (timer : StuckTimer) : Bool × StuckTimer :=
  checkDistance timer call.firstNow call.secondNow call.prevMeas call.currMeas

def toObservation (call : DistanceCall) : Observation Int where
  opened := call.firstNow
  closed := call.secondNow
  happened := decide (Moved call.prevMeas call.currMeas)

def timerAt (calls : Nat -> DistanceCall) (n : Nat) : StuckTimer :=
  stateAt (fun timer call => (call.apply timer).2) StuckTimer.boot calls n

def returnsAt (calls : Nat -> DistanceCall) (n : Nat) : Bool :=
  ((calls n).apply (timerAt calls n)).1

/-- Call `n` saw a movement or returned true; both store its first clock reading. -/
def ResetAt (calls : Nat -> DistanceCall) (n : Nat) : Prop :=
  Moved (calls n).prevMeas (calls n).currMeas ∨ returnsAt calls n = true

def ClockNondecreasing (calls : Nat -> DistanceCall) : Prop :=
  forall n, (calls n).firstNow ≤ (calls n).secondNow ∧
    (calls n).secondNow ≤ (calls (n + 1)).firstNow

theorem timerAt_toWatchdog (calls : Nat -> DistanceCall) (n : Nat) :
    (timerAt calls n).toWatchdog =
      Watchdog.windowAt stuckLimit StuckTimer.boot.toWatchdog
        (fun i => (calls i).toObservation) n := by
  induction n with
  | zero =>
      rfl
  | succ n ih =>
      rw [Watchdog.windowAt_succ, ← ih]
      exact checkDistance_toWatchdog _ _ _ _ _

theorem returnsAt_iff (calls : Nat -> DistanceCall) (n : Nat) :
    returnsAt calls n = true <->
      Watchdog.Expired stuckLimit
        (Watchdog.windowAt stuckLimit StuckTimer.boot.toWatchdog
          (fun i => (calls i).toObservation) n) := by
  rw [← timerAt_toWatchdog, ← StuckTimer.passed_iff_expired, returnsAt,
    DistanceCall.apply, checkDistance_returns, decide_eq_true_iff]

theorem resetAt_iff (calls : Nat -> DistanceCall) (n : Nat) :
    ResetAt calls n <->
      Watchdog.RestartsAt stuckLimit StuckTimer.boot.toWatchdog
        (fun i => (calls i).toObservation) n := by
  rw [ResetAt, returnsAt_iff, or_comm]
  simp [Watchdog.RestartsAt, Watchdog.Restarts, toObservation]

/-!
# Noticing a standstill
-/

/--
A robot that stands still for more than two seconds is noticed: with `k` the
last reset, call `m` returning false and reading a clock more than two seconds
after that reset, the next call returns true.
-/
def StandstillNoticed (calls : Nat -> DistanceCall) : Prop :=
  forall k m, k ≤ m -> ResetAt calls k ->
    (forall i, k < i -> i ≤ m -> ¬ ResetAt calls i) ->
    returnsAt calls m = false ->
    2000000 < (calls m).secondNow - (calls k).firstNow ->
    returnsAt calls (m + 1) = true

/-- The next call returns true exactly when three whole seconds have passed. -/
theorem standstill_noticed_iff {calls : Nat -> DistanceCall} {k m : Nat}
    (hkm : k ≤ m) (hreset : ResetAt calls k)
    (hquiet : forall i, k < i -> i ≤ m -> ¬ ResetAt calls i)
    (hfalse : returnsAt calls m = false) :
    returnsAt calls (m + 1) = true <->
      3000000 ≤ (calls m).secondNow - (calls k).firstNow := by
  have hreport : ¬ Watchdog.Expired stuckLimit
      (Watchdog.windowAt stuckLimit StuckTimer.boot.toWatchdog
        (fun i => (calls i).toObservation) m) := by
    rw [← returnsAt_iff, hfalse]
    exact Bool.false_ne_true
  have hwindow := Watchdog.windowAt_succ_since_restart hkm
    ((resetAt_iff calls k).mp hreset)
    (fun i hki him h => hquiet i hki him ((resetAt_iff calls i).mpr h)) hreport
  rw [returnsAt_iff, hwindow]
  exact Iff.rfl

/-- A movement at 10 s, a call at 12.5 s, and the next one: 2.5 s go unnoticed. -/
def standstillCalls (n : Nat) : DistanceCall where
  firstNow := 10000000 + 2500000 * n
  secondNow := 10000000 + 2500000 * n
  prevMeas := if n = 0 then 0 else 50
  currMeas := 50

theorem standstillCalls_reset : ResetAt standstillCalls 0 := by
  left
  decide +kernel

theorem standstillCalls_quiet :
    forall i, 0 < i -> i ≤ 1 -> ¬ ResetAt standstillCalls i := by
  intro i hpos hle
  have hi : i = 1 := by omega
  subst hi
  unfold ResetAt
  decide +kernel

theorem standstillCalls_unnoticed :
    ClockNondecreasing standstillCalls ∧ ¬ StandstillNoticed standstillCalls := by
  constructor
  · intro n
    simp only [standstillCalls]
    omega
  · intro h
    have hnext := h 0 1 (by decide) standstillCalls_reset standstillCalls_quiet
      (by decide +kernel) (by decide)
    exact absurd hnext (by decide +kernel)

theorem standstill_noticed_iff_standstillCalls :
    returnsAt standstillCalls 2 = true <->
      3000000 ≤ (standstillCalls 1).secondNow - (standstillCalls 0).firstNow :=
  standstill_noticed_iff (by decide) standstillCalls_reset standstillCalls_quiet
    (by decide +kernel)

end DistanceCall

end Motors
end CarCleaner
