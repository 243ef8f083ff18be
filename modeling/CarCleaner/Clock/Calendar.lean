import CarCleaner.Foundation.Segments
import CarCleaner.Oled.Visible

/-!
# Local time

`time_sync` sets the time zone to `EET-2EEST,M3.5.0/3,M10.5.0/4`, and `write_time` prints
what `localtime_r` makes of the clock there.  Summer time begins on the last Sunday of
March and ends on the last Sunday of October, both times at 01:00 UTC.  The printed text
tells the second, except in the hour that the end of summer time repeats.
-/

namespace CarCleaner
namespace Clock

open Foundation
open Oled

/-!
# The calendar
-/

def isLeap (year : Nat) : Bool :=
  year % 4 = 0 ∧ (year % 100 ≠ 0 ∨ year % 400 = 0)

def monthLength (year month : Nat) : Nat :=
  match month with
  | 1 => if isLeap year then 29 else 28
  | 3 => 30
  | 5 => 30
  | 8 => 30
  | 10 => 30
  | _ => 31

theorem monthLength_mem (year month : Nat) :
    28 ≤ monthLength year month ∧ monthLength year month ≤ 31 := by
  unfold monthLength
  split
  · split
    · decide
    · decide
  all_goals decide

/-- The months since the beginning of 1970, as segments of the days. -/
def months : Segments where
  len k := monthLength (1970 + k / 12) (k % 12)
  len_pos k := Nat.lt_of_lt_of_le (by decide) (monthLength_mem _ _).1

def gmtimeR (t : Nat) : Tm where
  tmYear := 70 + ((months.locate (t / 86400)).1 / 12 : Nat)
  tmMon := (months.locate (t / 86400)).1 % 12
  tmMday := (months.locate (t / 86400)).2 + 1
  tmHour := t % 86400 / 3600
  tmMin := t % 3600 / 60
  tmSec := t % 60
  tmMon_le := by
    omega
  tmMday_le := (months.locate_lt (t / 86400)).trans_le (monthLength_mem _ _).2
  tmHour_le := by
    omega
  tmMin_le := by
    omega
  tmSec_le := by
    omega

/-!
# The time zone
-/

/-- The last Sunday of a month, as a day since 1970; day 3 was a Sunday. -/
def lastSunday (k : Nat) : Nat :=
  months.start (k + 1) - 1 - (months.start (k + 1) - 1 + 4) % 7

/-- `M3.5.0/3` in a year since 1970, in EET. -/
def summerStart (y : Nat) : Nat :=
  lastSunday (12 * y + 2) * 86400 + 3 * 3600 - 2 * 3600

/-- `M10.5.0/4` in a year since 1970, in EEST. -/
def summerEnd (y : Nat) : Nat :=
  lastSunday (12 * y + 9) * 86400 + 4 * 3600 - 3 * 3600

def yearOf (t : Nat) : Nat :=
  (months.locate (t / 86400)).1 / 12

def isDst (t : Nat) : Bool :=
  summerStart (yearOf t) ≤ t ∧ t < summerEnd (yearOf t)

def utcOffset (t : Nat) : Nat :=
  if isDst t then 3 * 3600 else 2 * 3600

/-- `localtime_r` after `tzset`. -/
def localtimeR (t : Nat) : Tm :=
  gmtimeR (t + utcOffset t)

example : isDst 1774745999 = false ∧ isDst 1774746000 = true := by
  decide +kernel

/-!
# Times from fields
-/

theorem gmtimeR_injective : Function.Injective gmtimeR := by
  intro t t' h
  have hyear := congrArg Tm.tmYear h
  have hmon := congrArg Tm.tmMon h
  have hmday := congrArg Tm.tmMday h
  have hhour := congrArg Tm.tmHour h
  have hmin := congrArg Tm.tmMin h
  have hsec := congrArg Tm.tmSec h
  simp only [gmtimeR] at hyear hmon hmday hhour hmin hsec
  have hdays : t / 86400 = t' / 86400 := by
    apply months.locate_injective
    apply Prod.ext
    · omega
    · omega
  omega

theorem lastSunday_mem (k : Nat) :
    months.start k ≤ lastSunday k ∧ lastSunday k < months.start (k + 1) := by
  have hnext : months.start (k + 1) =
      months.start k + monthLength (1970 + k / 12) (k % 12) :=
    months.start_succ k
  have hlength := (monthLength_mem (1970 + k / 12) (k % 12)).1
  rw [lastSunday]
  omega

theorem summerStart_eq (y : Nat) : summerStart y = lastSunday (12 * y + 2) * 86400 + 3600 := by
  unfold summerStart
  omega

theorem summerEnd_eq (y : Nat) : summerEnd y = lastSunday (12 * y + 9) * 86400 + 3600 := by
  unfold summerEnd
  omega

/-- From the last Sunday of March to the last Sunday of October, the year is that one. -/
theorem yearOf_eq {t y : Nat} (hstart : summerStart y ≤ t) (hend : t < summerEnd y + 3600) :
    yearOf t = y := by
  have hmarch := lastSunday_mem (12 * y + 2)
  have hoctober := lastSunday_mem (12 * y + 9)
  rw [summerStart_eq] at hstart
  rw [summerEnd_eq] at hend
  have hlow : 12 * y + 2 ≤ (months.locate (t / 86400)).1 :=
    Segments.le_locate_iff.mpr (by omega)
  have hhigh : ¬ 12 * y + 9 + 1 ≤ (months.locate (t / 86400)).1 := by
    rw [Segments.le_locate_iff]
    omega
  rw [yearOf]
  omega

theorem isDst_iff {t y : Nat} (hstart : summerStart y ≤ t) (hend : t < summerEnd y + 3600) :
    isDst t <-> t < summerEnd y := by
  rw [isDst, yearOf_eq hstart hend, decide_eq_true_iff, and_iff_right hstart]

theorem summerStart_lt_summerEnd (y : Nat) : summerStart y + 3600 ≤ summerEnd y := by
  have hmarch := lastSunday_mem (12 * y + 2)
  have hoctober := lastSunday_mem (12 * y + 9)
  have hmonths : months.start (12 * y + 2 + 1) ≤ months.start (12 * y + 9) :=
    months.start_strictMono.monotone (by omega)
  rw [summerStart_eq, summerEnd_eq]
  omega

/-!
# The repeated hour
-/

/-- The times are one hour apart, and summer time ends between them. -/
def Repeated (t t' : Nat) : Prop :=
  t' = t + 3600 ∧ exists y, summerEnd y ≤ t' ∧ t' < summerEnd y + 3600

theorem Repeated.localtimeR_eq {t t' : Nat} (h : Repeated t t') :
    localtimeR t = localtimeR t' := by
  rcases h with ⟨rfl, y, hend, hhour⟩
  have hsummer := summerStart_lt_summerEnd y
  have hbefore : isDst t := (isDst_iff (y := y) (by omega) (by omega)).mpr (by omega)
  have hbehind : ¬ isDst (t + 3600) := by
    rw [isDst_iff (by omega) hhour]
    omega
  rw [localtimeR, localtimeR, utcOffset, utcOffset, if_pos hbefore, if_neg hbehind]

theorem repeated_of_offsets {t t' : Nat} (hdst : isDst t) (hdst' : ¬ isDst t')
    (hsame : t + 3 * 3600 = t' + 2 * 3600) : Repeated t t' := by
  have hsummer := hdst
  rw [isDst, decide_eq_true_iff] at hsummer
  have ht' : t' = t + 3600 := by
    omega
  rw [isDst_iff (y := yearOf t) (by omega) (by omega)] at hdst'
  exact ⟨ht', yearOf t, by omega, by omega⟩

theorem localtimeR_eq_iff {t t' : Nat} :
    localtimeR t = localtimeR t' <-> t = t' ∨ Repeated t t' ∨ Repeated t' t := by
  constructor
  · intro h
    have hlocal := gmtimeR_injective h
    rw [utcOffset, utcOffset] at hlocal
    by_cases hdst : isDst t <;> by_cases hdst' : isDst t'
    · rw [if_pos hdst, if_pos hdst'] at hlocal
      exact Or.inl (by omega)
    · rw [if_pos hdst, if_neg hdst'] at hlocal
      exact Or.inr (Or.inl (repeated_of_offsets hdst hdst' hlocal))
    · rw [if_neg hdst, if_pos hdst'] at hlocal
      exact Or.inr (Or.inr (repeated_of_offsets hdst' hdst hlocal.symm))
    · rw [if_neg hdst, if_neg hdst'] at hlocal
      exact Or.inl (by omega)
  · intro h
    rcases h with rfl | h | h
    · rfl
    · exact h.localtimeR_eq
    · exact h.localtimeR_eq.symm

/-- A `time_t` behind the beginning of 1970, as long as its year is an `int`. -/
structure TimeT where
  seconds : Nat
  lt : seconds < 2 ^ 55
deriving DecidableEq

theorem utcOffset_le (t : Nat) : utcOffset t ≤ 10800 := by
  unfold utcOffset
  split
  · exact le_rfl
  · omega

theorem tmYear_localtimeR (t : Nat) :
    (localtimeR t).tmYear = 70 + ((months.locate ((t + utcOffset t) / 86400)).1 / 12 : Nat) :=
  rfl

theorem month_le_day (d : Nat) : (months.locate d).1 ≤ d :=
  months.start_strictMono.le_apply.trans (Segments.le_locate_iff.mp le_rfl)

theorem TimeT.printableYear (t : TimeT) : PrintableYear (localtimeR t.seconds) := by
  have hlt := t.lt
  have hoffset := utcOffset_le t.seconds
  have hmonth := month_le_day ((t.seconds + utcOffset t.seconds) / 86400)
  have hyear := tmYear_localtimeR t.seconds
  constructor
  · omega
  · omega

/-- The text of the clock tells the second, up to the repeated hour. -/
theorem timeBuf_localtimeR_eq_iff (t t' : TimeT) :
    timeBuf (localtimeR t.seconds) = timeBuf (localtimeR t'.seconds) <->
      t = t' ∨ Repeated t.seconds t'.seconds ∨ Repeated t'.seconds t.seconds := by
  have hsame : t.seconds = t'.seconds <-> t = t' := by
    rw [TimeT.mk.injEq]
  rw [<- hsame, <- localtimeR_eq_iff]
  constructor
  · intro h
    exact timeBuf_inj t.printableYear t'.printableYear h
  · intro h
    rw [h]

theorem summerEnd_2024 : summerEnd 54 = 1729990800 := by
  decide +kernel

theorem repeated_2024 : Repeated 1729989000 1729992600 :=
  ⟨rfl, 54, summerEnd_2024.trans_le (by decide), by rw [summerEnd_2024]; decide⟩

theorem not_repeated_2024 : ¬ Repeated 1729985400 1729989000 := by
  intro h
  rcases h with ⟨_, y, hlow, hhigh⟩
  have hsummer := summerStart_lt_summerEnd y
  have hyear : yearOf 1729989000 = y := yearOf_eq (by omega) hhigh
  have hnow : yearOf 1729989000 = 54 := by
    decide +kernel
  rw [<- hyear, hnow, summerEnd_2024] at hlow
  exact absurd hlow (by decide)

/-- 03:30 on the last Sunday of October comes twice, and 02:30 once. -/
theorem timeBuf_twoPasses :
    timeBuf (localtimeR 1729989000) = timeBuf (localtimeR 1729992600) ∧
      timeBuf (localtimeR 1729985400) ≠ timeBuf (localtimeR 1729989000) := by
  constructor
  · exact (timeBuf_localtimeR_eq_iff ⟨1729989000, by decide⟩ ⟨1729992600, by decide⟩).mpr
      (Or.inr (Or.inl repeated_2024))
  · intro hsame
    rcases (timeBuf_localtimeR_eq_iff ⟨1729985400, by decide⟩ ⟨1729989000, by decide⟩).mp hsame
      with heq | hrepeated | hbefore
    · exact absurd heq (by decide)
    · exact not_repeated_2024 hrepeated
    · exact absurd hbefore.1 (by decide)

end Clock
end CarCleaner
