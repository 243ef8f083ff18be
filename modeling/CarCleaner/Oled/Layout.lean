import CarCleaner.Angles.Task
import CarCleaner.Distance.Task
import CarCleaner.Oled.Centring

/-!
# The layout of the screen

Every part has a zone of its own as long as its text is short enough.  The zone of the
distance has room for six characters in front of the angles; from 1000 cm on the distance
has seven.
-/

namespace CarCleaner
namespace Oled

open Foundation
open Firmware
open Distance
open Angles

/-!
# Zones
-/

/-- The first cell of a part and the first one behind it. -/
def zone : Part -> Nat × Nat
  | .version => (1, 71)
  | .wifiIcon => (114, 129)
  | .time => (129, 224)
  | .mqttIcon => (252, 262)
  | .distanceLabel => (385, 405)
  | .distance => (513, 543)
  | .angles => (543, 688)
  | .otaTitle => (807, 857)
  | .otaBar => (906, 1006)
  | .otaPercent => (1007, 1022)

theorem zones_apart {p q : Part} (h : p ≠ q) :
    (zone p).2 ≤ (zone q).1 ∨ (zone q).2 ≤ (zone p).1 := by
  cases p <;> cases q <;> first | exact absurd rfl h | exact of_decide_eq_true rfl

def InZone (part : Part) (op : DrawOp) : Prop :=
  forall fb cell, cell ∈ cellsDrawn fb op -> (zone part).1 ≤ cell ∧ cell < (zone part).2

def InZones (parts : List (Part × DrawOp)) : Prop :=
  forall part, part ∈ parts -> InZone part.1 part.2

theorem InZones.append {parts later : List (Part × DrawOp)} (h : InZones parts)
    (hlater : InZones later) : InZones (parts ++ later) :=
  List.forall_mem_append.mpr ⟨h, hlater⟩

theorem inZones_singleton {part : Part} {op : DrawOp} (h : InZone part op) :
    InZones [(part, op)] :=
  List.forall_mem_singleton.mpr h

theorem inZones_ite {condition : Prop} [Decidable condition] {parts : List (Part × DrawOp)}
    (h : condition -> InZones parts) : InZones (if condition then parts else []) := by
  split
  · next hcondition => exact h hcondition
  · exact fun _ hmem => absurd hmem List.not_mem_nil

theorem InZones.partsDisjoint {parts : List (Part × DrawOp)} (h : InZones parts)
    (fb : Framebuffer) : PartsDisjoint fb parts := by
  intro p q hne cell hp hq
  rcases exists_of_mem_cellsOf hp with ⟨op, fb', hop, hcell⟩
  rcases exists_of_mem_cellsOf hq with ⟨op', fb'', hop', hcell'⟩
  have hzone : InZone p op := h _ hop
  have hzone' : InZone q op' := h _ hop'
  have hbounds := hzone fb' cell hcell
  have hbounds' := hzone' fb'' cell hcell'
  rcases zones_apart hne with hapart | hapart
  · omega
  · omega

theorem string_inZone {part : Part} {c : List UInt8} {xCenter yCenter : Bool}
    {x page : UInt32} (hne : c ≠ [])
    (hstart : (Framebuffer.startIndex (UInt32.ofNat c.length) xCenter yCenter x page).toNat =
      (zone part).1)
    (hend : (zone part).1 + 5 * c.length ≤ (zone part).2) :
    InZone part (.string c xCenter yCenter x page) := by
  intro fb cell hcell
  have hpos : 1 ≤ (zone part).1 := by
    cases part <;> decide
  have hscreen : (zone part).2 ≤ 1025 := by
    cases part <;> decide
  have hcells := (mem_cellsDrawn_string hne hstart hpos (hend.trans hscreen) fb cell).mp hcell
  omega

/-!
# Start indices

A text that is centred between the pages starts in the fifth one, whether it is counted
as one page long or as two.
-/

theorem toNat_startIndex_yCenter {n : Nat} (hn : n ≤ 50) {x : UInt32} (hx : x < 128) :
    (Framebuffer.startIndex (UInt32.ofNat n) false true x 0).toNat = 513 + x.toNat := by
  have hpage : centredPage n = 4 := by
    unfold centredPage
    omega
  rw [toNat_startIndex_between (by omega) hx, hpage, cellAt]

/-!
# Lengths of the texts
-/

theorem distanceCmOf_near {distanceMm : Nat} (h : distanceMm < 65536) :
    0 ≤ distanceCmOf distanceMm ∧
      |distanceCmOf distanceMm * 100 - (10 * distanceMm : Nat)| < 1 / 2 := by
  have hmm : (0 : Rat) ≤ distanceMm := Nat.cast_nonneg _
  have hlt : (distanceMm : Rat) < 65536 := by
    exact_mod_cast h
  have herror := abs_toPrecision_sub_le 24 ((distanceMm : Rat) / 10)
  rw [abs_of_nonneg (by positivity : (0 : Rat) ≤ distanceMm / 10), <- distanceCmOf, abs_le]
    at herror
  rw [abs_lt]
  push_cast
  constructor
  · linarith
  · constructor
    · linarith
    · linarith

theorem length_fixedPoint_distanceCmOf {distanceMm : Nat} (h : distanceMm < 65536) :
    (fixedPoint 2 (distanceCmOf distanceMm)).length = (decimal (distanceMm / 10)).length + 3 := by
  have hnear := distanceCmOf_near h
  have hround : roundHalfEven (|distanceCmOf distanceMm| * 10 ^ 2) = (10 * distanceMm : Nat) := by
    apply roundHalfEven_eq
    rw [abs_of_nonneg hnear.1]
    norm_num
    exact_mod_cast hnear.2
  have hcm : 10 * distanceMm / 10 ^ 2 = distanceMm / 10 := by
    omega
  rw [length_fixedPoint (by decide), hround, Int.toNat_natCast, hcm,
    if_neg (not_lt.mpr hnear.1)]
  omega

/-- A distance has seven characters from 1000 cm on. -/
theorem length_distanceChar {distanceMm : Nat} (h : distanceMm < 65536) :
    (distanceChar (distanceCmOf distanceMm)).length = (decimal (distanceMm / 10)).length + 3 := by
  have hle : (decimal (distanceMm / 10)).length ≤ 4 :=
    (length_decimal_le_iff (by decide)).mpr (by omega)
  have hlength := length_fixedPoint_distanceCmOf h
  rw [distanceChar, snprintfBytes_of_nul_free (zero_not_mem_fixedPoint _ _),
    List.take_of_length_le (by omega), hlength]

theorem length_fixedPoint_angle_le {x : Rat} (h : |x| < 1000) :
    (fixedPoint 1 x).length ≤ 7 := by
  have hround : |(roundHalfEven (|x| * 10) : Rat) - |x| * 10| ≤ 1 / 2 :=
    abs_roundHalfEven_sub_le _
  rw [abs_le] at hround
  have hscaled : roundHalfEven (|x| * 10) ≤ 10000 := by
    have hlt : (roundHalfEven (|x| * 10) : Rat) < (10001 : Int) := by
      push_cast
      linarith
    exact Int.le_of_lt_add_one (Int.cast_lt.mp hlt)
  have hdigits : (decimal ((roundHalfEven (|x| * 10)).toNat / 10)).length ≤ 4 :=
    (length_decimal_le_iff (by decide)).mpr (by omega)
  rw [length_fixedPoint (by decide), pow_one, pow_one]
  split
  · omega
  · omega

theorem length_angleText_le {x y z : Rat} (hx : |x| < 1000) (hy : |y| < 1000)
    (hz : |z| < 1000) : (angleText x y z).length ≤ 29 := by
  have hpadded : forall {w : Rat}, |w| < 1000 -> (padded 3 32 (fixedPoint 1 w)).length ≤ 7 :=
    fun hw => length_padded_le (by decide) (length_fixedPoint_angle_le hw) 32
  have hx' := hpadded hx
  have hy' := hpadded hy
  have hz' := hpadded hz
  have htwo : (literal "x:").length = 2 := rfl
  have hthree : (literal " y:").length = 3 := rfl
  have hthree' : (literal " z:").length = 3 := rfl
  refine (length_snprintfBytes_le _ _).trans ?_
  simp only [List.length_append]
  omega

theorem angleText_ne_nil (x y z : Rat) : angleText x y z ≠ [] := by
  have hx : literal "x:" = 120 :: literal ":" := rfl
  rw [angleText, snprintfBytes, hx]
  exact List.cons_ne_nil _ _

theorem length_decimal_le_two {n : Nat} (h : n < 100) : (decimal n).length ≤ 2 :=
  (length_decimal_le_iff (by decide)).mpr h

def FourDigitYear (timeinfo : Tm) : Prop :=
  1000 ≤ timeinfo.tmYear + 1900 ∧ timeinfo.tmYear + 1900 ≤ 9999

instance (timeinfo : Tm) : Decidable (FourDigitYear timeinfo) :=
  inferInstanceAs
    (Decidable (1000 ≤ timeinfo.tmYear + 1900 ∧ timeinfo.tmYear + 1900 ≤ 9999))

theorem length_timeBuf_le {timeinfo : Tm} (h : FourDigitYear timeinfo) :
    (timeBuf timeinfo).length ≤ 19 := by
  rcases h with ⟨hlow, hhigh⟩
  rcases timeinfo with ⟨year, mon, mday, hour, min, sec, hmon, hmday, hhour, hmin, hsec⟩
  have hyear : (signedDecimal (year + 1900)).length ≤ 4 := by
    rcases Int.eq_ofNat_of_zero_le (le_trans (by decide) hlow) with ⟨n, hn⟩
    rw [hn] at hhigh
    rw [hn, signedDecimal_natCast]
    exact (length_decimal_le_iff (by decide)).mpr (by omega)
  have hmon' := length_decimal_le_two (n := mon + 1) (by omega)
  have hmday' := length_decimal_le_two (n := mday) (by omega)
  have hhour' := length_decimal_le_two (n := hour) (by omega)
  have hmin' := length_decimal_le_two (n := min) (by omega)
  have hsec' := length_decimal_le_two (n := sec) (by omega)
  have hdot : (literal ".").length = 1 := rfl
  have hspace : (literal " ").length = 1 := rfl
  have hcolon : (literal ":").length = 1 := rfl
  refine (length_snprintfBytes_le _ _).trans ?_
  simp only [List.length_append]
  omega

/-- The buffer has room for three characters. -/
theorem otaPercentBuf_eq {percent : UInt32} (h : percent.toNat ≤ 100) :
    otaPercentBuf percent = (decimal percent.toNat ++ literal "%").take 3 := by
  have hsigned : ((percent.toNat : Int).bmod 4294967296) = percent.toNat :=
    Int.bmod_eq_of_le (by omega) (by omega)
  have hfree : 0 ∉ decimal percent.toNat ++ literal "%" := by
    rw [List.mem_append, not_or]
    exact ⟨zero_not_mem_decimal _, by decide⟩
  rw [otaPercentBuf, hsigned, signedDecimal_natCast, snprintfBytes_of_nul_free hfree]

theorem otaPercentBuf_ne_nil {percent : UInt32} (h : percent.toNat ≤ 100) :
    otaPercentBuf percent ≠ [] := by
  have hpos := length_decimal_pos percent.toNat
  rw [otaPercentBuf_eq h]
  apply List.ne_nil_of_length_pos
  rw [List.length_take, List.length_append]
  omega

/-!
# The parts in their zones
-/

theorem writeOtaUpdate_inZones {percent : UInt32} (h : percent.toNat ≤ 100) :
    InZones (writeOtaUpdate percent) := by
  have hlength : (otaPercentBuf percent).length ≤ 3 := by
    rw [otaPercentBuf_eq h]
    exact List.length_take_le _ _
  refine (inZones_singleton ?_).append ((inZones_singleton ?_).append (inZones_singleton ?_))
  · exact string_inZone (by decide) rfl (by decide)
  · apply string_inZone (otaPercentBuf_ne_nil h)
    · exact Framebuffer.toNat_startIndex (by decide) (by decide) _
    · change 1007 + _ ≤ 1022
      omega
  · intro fb cell hcell
    have hbar := (mem_cellsDrawn_otaBar h fb cell).mp hcell
    change 906 ≤ cell ∧ cell < 1006
    omega

theorem writeTime_inZones {timeinfo : Tm} (h : FourDigitYear timeinfo) :
    InZones (writeTime timeinfo) := by
  have hlength := length_timeBuf_le h
  refine inZones_ite fun hpos => inZones_singleton ?_
  apply string_inZone (List.ne_nil_of_length_pos hpos)
  · exact Framebuffer.toNat_startIndex (by decide) (by decide) _
  · change 129 + _ ≤ 224
    omega

theorem mqttIcon_inZone (bits : EventGroup) : InZone .mqttIcon (mqttIcon bits) := by
  unfold mqttIcon
  split
  · exact string_inZone (by decide) rfl (by decide)
  · exact string_inZone (by decide) rfl (by decide)

theorem distance_inZone {distanceMm : Nat} (h : distanceMm < 10000) :
    InZone .distance (.string (distanceChar (distanceCmOf distanceMm)) false true 0 0) := by
  have hlength := length_distanceChar (show distanceMm < 65536 by omega)
  have hdigits : (decimal (distanceMm / 10)).length ≤ 3 :=
    (length_decimal_le_iff (by decide)).mpr (by omega)
  apply string_inZone
  · exact List.ne_nil_of_length_pos (by omega)
  · exact toNat_startIndex_yCenter (by omega) (by decide)
  · change 513 + _ ≤ 543
    omega

theorem angles_inZone {x y z : Rat} (hx : |x| < 1000) (hy : |y| < 1000) (hz : |z| < 1000) :
    InZone .angles (.string (angleText x y z) false true 30 0) := by
  have hlength := length_angleText_le hx hy hz
  apply string_inZone (angleText_ne_nil x y z)
  · exact toNat_startIndex_yCenter (by omega) (by decide)
  · change 543 + _ ≤ 688
    omega

/-- A distance of 1000 cm reaches into the angles. -/
theorem cell_543_of_le {distanceMm : Nat} (hle : 10000 ≤ distanceMm)
    (hlt : distanceMm < 65536) (fb : Framebuffer) :
    543 ∈ cellsDrawn fb (.string (distanceChar (distanceCmOf distanceMm)) false true 0 0) := by
  have hlength := length_distanceChar hlt
  have hdigits : 3 < (decimal (distanceMm / 10)).length :=
    not_le.mp fun h => absurd ((length_decimal_le_iff (by decide)).mp h) (by omega)
  have hdigits' : (decimal (distanceMm / 10)).length ≤ 4 :=
    (length_decimal_le_iff (by decide)).mpr (by omega)
  refine (mem_cellsDrawn_string ?_ (toNat_startIndex_yCenter ?_ (by decide)) (by decide) ?_
    fb 543).mpr ?_
  · exact List.ne_nil_of_length_pos (by omega)
  · omega
  · change 513 + _ ≤ 1025
    omega
  · change 513 ≤ 543 ∧ 543 < 513 + _
    omega

theorem angles_cell_543 {x y z : Rat} (hx : |x| < 1000) (hy : |y| < 1000) (hz : |z| < 1000)
    (fb : Framebuffer) :
    543 ∈ cellsDrawn fb (.string (angleText x y z) false true 30 0) := by
  have hlength := length_angleText_le hx hy hz
  have hpos := List.length_pos_of_ne_nil (angleText_ne_nil x y z)
  refine (mem_cellsDrawn_string (angleText_ne_nil x y z)
    (toNat_startIndex_yCenter ?_ (by decide)) (by decide) ?_ fb 543).mpr ?_
  · omega
  · change 543 + _ ≤ 1025
    omega
  · change 543 ≤ 543 ∧ 543 < 543 + _
    omega

theorem frame_inZones {distanceMm : Nat} (hdistance : distanceMm < 10000) {x y z : Rat}
    (hx : |x| < 1000) (hy : |y| < 1000) (hz : |z| < 1000) {timeinfo : Tm}
    (hyear : FourDigitYear timeinfo) {percent : UInt32} (hpercent : percent.toNat ≤ 100)
    (bits : EventGroup) :
    InZones
      (frame
        { distanceCm := distanceCmOf distanceMm
          angleTimeChar := angleText x y z
          timeinfo := timeinfo
          otaPercentUint := percent
          bits := bits }) := by
  refine InZones.append (.append (.append (.append (.append (.append ?_ ?_) ?_) ?_) ?_) ?_) ?_
  · exact inZones_singleton (string_inZone (by decide) rfl (by decide))
  · exact (inZones_singleton (string_inZone (by decide) rfl (by decide))).append
      (inZones_singleton (distance_inZone hdistance))
  · exact inZones_ite fun _ =>
      inZones_singleton (string_inZone (by decide) rfl (by decide))
  · exact inZones_ite fun _ => writeOtaUpdate_inZones hpercent
  · exact inZones_singleton (mqttIcon_inZone bits)
  · exact writeTime_inZones hyear
  · exact inZones_singleton (angles_inZone hx hy hz)

/-- A frame whose distance has seven characters overwrites its own distance. -/
theorem not_partsDisjoint {distanceMm : Nat} (hle : 10000 ≤ distanceMm)
    (hlt : distanceMm < 65536) {x y z : Rat} (hx : |x| < 1000) (hy : |y| < 1000)
    (hz : |z| < 1000) {input : FrameInput} (hdistance : input.distanceCm = distanceCmOf distanceMm)
    (hangles : input.angleTimeChar = angleText x y z) (fb : Framebuffer) :
    ¬ PartsDisjoint fb (frame input) := by
  intro h
  have hne : Part.distance ≠ Part.angles := by
    decide
  have hdistanceOp : (Part.distance, DrawOp.string (distanceChar (distanceCmOf distanceMm))
      false true 0 0) ∈ frame input := by
    simp [frame, writeDistance, hdistance]
  have hanglesOp : (Part.angles, DrawOp.string (angleText x y z) false true 30 0) ∈
      frame input := by
    simp [frame, writeCord, hangles]
  exact h .distance .angles hne (mem_cellsOf hdistanceOp (cell_543_of_le hle hlt) fb)
    (mem_cellsOf hanglesOp (angles_cell_543 hx hy hz) fb)

/-- The parts of a screen are apart exactly when the distance is below 1000 cm. -/
theorem partsDisjoint_iff {distanceMm : Nat} (hdistance : distanceMm < 65536)
    {x y z : Rat} (hx : |x| < 1000) (hy : |y| < 1000) (hz : |z| < 1000) {timeinfo : Tm}
    (hyear : FourDigitYear timeinfo) {percent : UInt32} (hpercent : percent.toNat ≤ 100)
    (bits : EventGroup) (fb : Framebuffer) :
    PartsDisjoint fb
        (frame
          { distanceCm := distanceCmOf distanceMm
            angleTimeChar := angleText x y z
            timeinfo := timeinfo
            otaPercentUint := percent
            bits := bits }) <->
      distanceMm < 10000 := by
  constructor
  · intro h
    by_contra hle
    exact not_partsDisjoint (not_lt.mp hle) hdistance hx hy hz rfl rfl fb h
  · intro hlt
    exact (frame_inZones hlt hx hy hz hyear hpercent bits).partsDisjoint fb

def newYear : Tm where
  tmYear := 126
  tmMon := 0
  tmMday := 1
  tmHour := 0
  tmMin := 0
  tmSec := 0
  tmMon_le := by decide
  tmMday_le := by decide
  tmHour_le := by decide
  tmMin_le := by decide
  tmSec_le := by decide

/-- A frame without an update, the car flat and ten metres from a wall. -/
def tenMetresAway : FrameInput where
  distanceCm := distanceCmOf 10000
  angleTimeChar := angleText 0 0 0
  timeinfo := newYear
  otaPercentUint := 0
  bits := ∅

theorem tenMetresAway_overlaps :
    distanceChar (distanceCmOf 10000) = literal "1000.00" ∧
      FourDigitYear newYear ∧ ¬ PartsDisjoint Framebuffer.boot (frame tenMetresAway) := by
  have htext : distanceChar (distanceCmOf 10000) = literal "1000.00" := by
    decide +kernel
  have hzero : |(0 : Rat)| < 1000 := by
    decide +kernel
  refine ⟨htext, by decide +kernel, ?_⟩
  exact not_partsDisjoint (show 10000 ≤ 10000 from le_rfl) (by decide) hzero hzero hzero rfl
    rfl Framebuffer.boot

theorem partsDisjoint_below_ten_metres :
    PartsDisjoint Framebuffer.boot
      (frame { tenMetresAway with
        distanceCm := distanceCmOf 9999
        angleTimeChar := angleText (-9999 / 10) 0 180
        otaPercentUint := 100
        bits := {.wifiBitGotIp, .otaBitInProgress} }) :=
  (partsDisjoint_iff (by decide) (show |(-9999 / 10 : Rat)| < 1000 by decide +kernel)
    (show |(0 : Rat)| < 1000 by decide +kernel) (show |(180 : Rat)| < 1000 by decide +kernel)
    (show FourDigitYear newYear by decide +kernel) (by decide) _ _).mpr (by decide)

end Oled
end CarCleaner
