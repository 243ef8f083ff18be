import CarCleaner.Foundation.Histories
import CarCleaner.Motors.PidRuns

/-!
# Settling at a constant distance

While the measurement stays the same the derivative gets no kicks and keeps `19 / 21`
of its value with every update, at whatever time the update comes.  The output then
approaches the limited proportional value at that rate.
-/

namespace CarCleaner
namespace Motors

open Foundation

/-- The controller after updates with one measurement at the given clock values. -/
def settled (pid : PidControler) (measurement setpoint : Rat) (clocks : List Int) :
    PidControler :=
  stateAfter (fun pid now => (pidControlerUpdate pid now measurement setpoint).1) pid clocks

theorem kickOf_same_measurement (pid : PidControler) (now : Int) :
    kickOf pid now pid.prevMeasurement = 0 := by
  rw [kickOf, sub_self, zero_div]

structure Settling (pid : PidControler) (measurement : Rat) (count : Nat)
    (s : PidControler) : Prop where
  tuned : Tuned s
  prevMeasurement_eq : s.prevMeasurement = measurement
  differentiator_eq : s.differentiator = (19 / 21) ^ count * pid.differentiator

theorem Settling.filterStep_eq {pid s : PidControler} {measurement : Rat} {count : Nat}
    (h : Settling pid measurement count s) (now : Int) :
    filterStep (19 / 21) (kickOf s now measurement) s.differentiator =
      (19 / 21) ^ (count + 1) * pid.differentiator := by
  rw [<- h.prevMeasurement_eq, kickOf_same_measurement, filterStep, add_zero,
    h.differentiator_eq, pow_succ']
  exact (mul_assoc _ _ _).symm

theorem Settling.update {pid s : PidControler} {measurement : Rat} {count : Nat}
    (h : Settling pid measurement count s) (now : Int) (setpoint : Rat) :
    Settling pid measurement (count + 1)
      (pidControlerUpdate s now measurement setpoint).1 where
  tuned := h.tuned.update now measurement setpoint
  prevMeasurement_eq := rfl
  differentiator_eq := by
    rw [h.tuned.differentiator_update]
    exact h.filterStep_eq now

theorem settling_settled {pid : PidControler} {measurement : Rat} (htuned : Tuned pid)
    (hmeasured : pid.prevMeasurement = measurement) (setpoint : Rat) (clocks : List Int) :
    Settling pid measurement clocks.length (settled pid measurement setpoint clocks) := by
  refine stateAfter_invariant
    (fun clocks s => Settling pid measurement clocks.length s) ?_ ?_ clocks
  · exact ⟨htuned, hmeasured, by rw [List.length_nil, pow_zero, one_mul]⟩
  · intro past now h
    rw [List.length_append]
    exact h.update now setpoint

/-- The distance to the proportional value shrinks by `19 / 21` with every update. -/
theorem out_settles {pid : PidControler} (hreach : PidReachable pid) (setpoint : Rat)
    {clocks : List Int} (hclocks : clocks ≠ []) :
    |(settled pid pid.prevMeasurement setpoint clocks).out -
        saturate (-235) 235 (1 / 2 * (pid.prevMeasurement - setpoint))| ≤
      (19 / 21) ^ clocks.length * |pid.differentiator| := by
  rcases List.eq_nil_or_concat' clocks with rfl | ⟨past, now, rfl⟩
  · exact absurd rfl hclocks
  · have hpast := settling_settled hreach.tuned rfl setpoint past
    rw [settled, stateAfter_snoc, <- settled, hpast.tuned.out_update,
      hpast.filterStep_eq now, List.length_append, List.length_singleton]
    apply (abs_saturate_sub_le (by norm_num) _ _).trans
    rw [add_sub_cancel_left, abs_mul, abs_of_nonneg (by positivity)]

/-- Two updates at 30 cm after an update that jumped there. -/
theorem out_settles_thirty :
    |(settled (pidControlerUpdate (pidControlerInit 0) 20000 30 wallSetpoint).1 30
          wallSetpoint [40000, 95000]).out -
        saturate (-235) 235 (1 / 2 * (30 - wallSetpoint))| ≤
      (19 / 21) ^ 2 *
        |(pidControlerUpdate (pidControlerInit 0) 20000 30 wallSetpoint).1.differentiator| :=
  out_settles (.update 20000 30 wallSetpoint (.init 0)) wallSetpoint
    (show [40000, 95000] ≠ [] by decide)

end Motors
end CarCleaner
