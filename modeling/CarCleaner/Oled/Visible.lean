import CarCleaner.Foundation.Fields
import CarCleaner.Oled.Image
import CarCleaner.Oled.OtaUpdate

/-!
# What the screen says

With every part in its zone, a zone of the image shows its part and nothing else.  The
glyphs that the texts use are all different, so the texts can be read off the screen, and
from the texts the values that they were printed from.
-/

namespace CarCleaner
namespace Oled

open Foundation
open Firmware
open Distance
open Angles

/-!
# Zones of the image
-/

theorem mem_cellsDrawn_of_valueAt {op : DrawOp} (hfits : op.Fits) (hclear : op ≠ .clear)
    {c : Nat} (h : op.region.valueAt c ≠ none) (fb : Framebuffer) : c ∈ cellsDrawn fb op := by
  rw [ne_eq, Region.valueAt_eq_none_iff, not_or, not_lt, not_le] at h
  cases op with
  | clear =>
      exact absurd rfl hclear
  | string text xCenter yCenter x page =>
      rw [cellsDrawn, (writeString_writes_region hfits { fb with written := [] }).2,
        List.nil_append]
      exact (mem_map_ringWrites_of_le hfits.1 hfits.2 c).mpr h
  | otaBar percent =>
      rw [DrawOp.region, List.length_replicate] at h
      exact (mem_cellsDrawn_otaBar hfits fb c).mpr h

theorem InZone.valueAt_eq_none {part : Part} {op : DrawOp} (h : InZone part op)
    (hfits : op.Fits) (hclear : op ≠ .clear) {c : Nat}
    (hc : c < (zone part).1 ∨ (zone part).2 ≤ c) : op.region.valueAt c = none := by
  by_contra hvalue
  have hzone := h Framebuffer.boot c (mem_cellsDrawn_of_valueAt hfits hclear hvalue _)
  omega

def allParts : List Part :=
  [.version, .distanceLabel, .distance, .wifiIcon, .otaTitle, .otaPercent, .otaBar, .mqttIcon,
    .time, .angles]

theorem sublist_map_ite {condition : Prop} [Decidable condition]
    {parts : List (Part × DrawOp)} {names : List Part} (h : parts.map Prod.fst = names) :
    ((if condition then parts else []).map Prod.fst).Sublist names := by
  split
  · rw [h]
  · exact List.nil_sublist names

theorem map_fst_frame_sublist (input : FrameInput) :
    ((frame input).map Prod.fst).Sublist allParts := by
  have hall : allParts =
      [.version] ++ [.distanceLabel, .distance] ++ [.wifiIcon] ++
        [.otaTitle, .otaPercent, .otaBar] ++ [.mqttIcon] ++ [.time] ++ [.angles] := rfl
  simp only [frame, List.map_append, hall]
  refine .append (.append (.append (.append (.append (.append ?_ ?_) ?_) ?_) ?_) ?_) ?_
  · exact .refl _
  · exact .refl _
  · exact sublist_map_ite rfl
  · exact sublist_map_ite rfl
  · exact .refl _
  · exact sublist_map_ite rfl
  · exact .refl _

theorem frame_functional {input : FrameInput} {part : Part} {op op' : DrawOp}
    (h : (part, op) ∈ frame input) (h' : (part, op') ∈ frame input) : op = op' := by
  have hnodup : ((frame input).map Prod.fst).Nodup :=
    (map_fst_frame_sublist input).nodup (by decide)
  exact congrArg Prod.snd (List.inj_on_of_nodup_map hnodup h h' rfl)

theorem ne_clear_of_mem_frame {input : FrameInput} {part : Part × DrawOp}
    (h : part ∈ frame input) : part.2 ≠ .clear := by
  intro hclear
  have hall : (frame input).all fun part => part.2 ≠ .clear := by
    unfold frame writeDistance writeOtaUpdate mqttIcon writeTime writeCord wifiIcon
    split_ifs <;> rfl
  exact absurd hclear (of_decide_eq_true (List.all_eq_true.mp hall part h))

def InZoneOf (part : Part) (c : Nat) : Prop :=
  (zone part).1 ≤ c ∧ c < (zone part).2

instance (part : Part) (c : Nat) : Decidable (InZoneOf part c) :=
  inferInstanceAs (Decidable (_ ∧ _))

theorem blank_of_inZoneOf {part : Part} {c : Nat} (h : InZoneOf part c) : blank c = 0 := by
  have hpos : 1 ≤ (zone part).1 := by
    cases part <;> decide
  exact if_neg (by have := h.1; omega)

section

variable {input : FrameInput} (hvalid : input.Valid) (hzones : InZones (frame input))
include hvalid hzones

theorem valueAt_of_other {part other : Part} (hne : other ≠ part) {op : DrawOp}
    (hop : (other, op) ∈ frame input) {c : Nat} (hc : InZoneOf part c) :
    op.region.valueAt c = none := by
  have hapart := zones_apart hne
  have hzone : InZone other op := hzones _ hop
  refine hzone.valueAt_eq_none (fits_frame hvalid hop) (ne_clear_of_mem_frame hop) ?_
  rcases hc with ⟨hfirst, hlast⟩
  omega

theorem image_of_part {part : Part} {op : DrawOp} (hop : (part, op) ∈ frame input) {c : Nat}
    (hc : InZoneOf part c) : image input c = (op.region.valueAt c).getD 0 := by
  rw [image, picture_of_only (List.mem_map_of_mem hop), blank_of_inZoneOf hc]
  intro q hq hne
  rcases List.mem_map.mp hq with ⟨⟨other, op'⟩, hop', rfl⟩
  apply valueAt_of_other hvalid hzones _ hop' hc
  intro heq
  subst heq
  exact hne (by rw [frame_functional hop' hop])

/-- The zone of a part that is not drawn is empty. -/
theorem image_of_absent {part : Part} (habsent : forall op, (part, op) ∉ frame input) {c : Nat}
    (hc : InZoneOf part c) : image input c = 0 := by
  rw [image, picture_of_uncovered, blank_of_inZoneOf hc]
  intro q hq
  rcases List.mem_map.mp hq with ⟨⟨other, op⟩, hop, rfl⟩
  apply valueAt_of_other hvalid hzones _ hop hc
  intro heq
  subst heq
  exact habsent op hop

end

/-!
# Texts read off the screen
-/

def shownBytes : List UInt8 :=
  literal "0123456789.:-%xyz "

theorem columns_inj {a b : UInt8} (ha : a ∈ shownBytes) (hb : b ∈ shownBytes)
    (h : columns a = columns b) : a = b := by
  have hnodup : (shownBytes.map columns).Nodup := by
    decide +kernel
  exact List.inj_on_of_nodup_map hnodup ha hb h

structure Legible (text : List UInt8) : Prop where
  ne_nil : text ≠ []
  mem : forall b, b ∈ text -> b ∈ shownBytes
  last : text.getLast? ≠ some 32

theorem flatMap_columns_blanks (n : Nat) :
    (List.replicate n (32 : UInt8)).flatMap columns = List.replicate (5 * n) 0 := by
  induction n with
  | zero =>
      rfl
  | succ n ih =>
      have hblank : columns 32 = List.replicate 5 0 := by
        decide
      rw [List.replicate_succ, List.flatMap_cons, ih, hblank, List.replicate_append_replicate,
        Nat.mul_succ, Nat.add_comm]

/-- The bytes of the zone of a part, in the order of the cells. -/
def zoneBytes (input : FrameInput) (part : Part) : List UInt8 :=
  (List.range ((zone part).2 - (zone part).1)).map fun k => image input ((zone part).1 + k)

theorem zoneBytes_congr {input input' : FrameInput}
    (h : forall c, c ≤ 1024 -> image input c = image input' c) (part : Part) :
    zoneBytes input part = zoneBytes input' part := by
  have hscreen : (zone part).2 ≤ 1025 := by
    cases part <;> decide
  apply List.map_congr_left
  intro k hk
  have hlt := List.mem_range.mp hk
  exact h _ (by omega)

/-- A text that starts where its zone does fills it up with blanks. -/
theorem zoneBytes_of_string {input : FrameInput} (hvalid : input.Valid)
    (hzones : InZones (frame input)) {part : Part} {text : List UInt8}
    {xCenter yCenter : Bool} {x page : UInt32}
    (hop : (part, .string text xCenter yCenter x page) ∈ frame input) (hne : text ≠ [])
    (hstart : (DrawOp.string text xCenter yCenter x page).region.start = (zone part).1)
    (blanks : Nat)
    (hsize : 5 * text.length + 5 * blanks = (zone part).2 - (zone part).1) :
    zoneBytes input part = (text ++ List.replicate blanks 32).flatMap columns := by
  have hlength := length_flatMap_columns text
  have hshown : shownColumns text = text.flatMap columns := if_neg hne
  rw [List.flatMap_append, flatMap_columns_blanks]
  apply List.ext_getElem
  · rw [zoneBytes, List.length_map, List.length_range, List.length_append,
      List.length_replicate, hlength, hsize]
  · intro k hk hk'
    rw [zoneBytes, List.length_map, List.length_range] at hk
    have hvalue : (DrawOp.string text xCenter yCenter x page).region.valueAt
        ((zone part).1 + k) = (text.flatMap columns)[k]? := by
      rw [Region.valueAt, hstart, if_pos (Nat.le_add_right _ _), Nat.add_sub_cancel_left]
      exact congrArg (·[k]?) hshown
    simp only [zoneBytes, List.getElem_map, List.getElem_range]
    rw [image_of_part hvalid hzones hop ⟨by omega, by omega⟩, hvalue]
    by_cases hinside : k < (text.flatMap columns).length
    · rw [List.getElem?_eq_getElem hinside, Option.getD_some, List.getElem_append_left hinside]
    · rw [List.getElem?_eq_none (not_lt.mp hinside), Option.getD_none,
        List.getElem_append_right (not_lt.mp hinside), List.getElem_replicate]

theorem legible_inj {text text' : List UInt8} (h : Legible text) (h' : Legible text')
    {m n : Nat} (hsize : text.length + m = text'.length + n)
    (hsame : (text ++ List.replicate m 32).flatMap columns =
      (text' ++ List.replicate n 32).flatMap columns) : text = text' := by
  have hmem : forall {text : List UInt8} {k : Nat}, Legible text ->
      forall b, b ∈ text ++ List.replicate k 32 -> b ∈ shownBytes := by
    intro text k htext b hb
    rcases List.mem_append.mp hb with hchar | hblank
    · exact htext.mem b hchar
    · rw [List.eq_of_mem_replicate hblank]
      decide
  refine append_replicate_inj h.last h'.last (flatMap_inj length_columns ?_ ?_ hsame)
  · intro a b ha hb
    exact columns_inj (hmem h a ha) (hmem h' b hb)
  · rw [List.length_append, List.length_append, List.length_replicate, List.length_replicate,
      hsize]

/-!
# Texts of the values
-/

theorem snprintfBytes_of_fits {size : Nat} {text : List UInt8} (hfree : 0 ∉ text)
    (hlength : text.length < size) : snprintfBytes size text = text := by
  rw [snprintfBytes_of_nul_free hfree, List.take_of_length_le (by omega)]

theorem mem_shownBytes_of_isDigit {b : UInt8} (h : isDigit b) : b ∈ shownBytes := by
  have hall : forall n, n ≤ 57 -> 48 ≤ n -> UInt8.ofNat n ∈ shownBytes := by
    decide
  rw [isDigit, Bool.and_eq_true, decide_eq_true_iff, decide_eq_true_iff,
    UInt8.le_iff_toNat_le, UInt8.le_iff_toNat_le] at h
  rw [<- UInt8.ofNat_toNat (x := b)]
  exact hall b.toNat h.2 h.1

theorem legible_decimal (n : Nat) : Legible (decimal n) where
  ne_nil := List.ne_nil_of_length_pos (length_decimal_pos n)
  mem _ hb := mem_shownBytes_of_isDigit (isDigit_of_mem_decimal hb)
  last h := absurd (isDigit_of_mem_decimal (List.mem_of_getLast? h)) (by decide)

theorem not_mem_fixedPoint {b : UInt8} (hdigit : ¬ isDigit b) (hminus : b ≠ 45)
    (hpoint : b ≠ 46) (places : Nat) (x : Rat) : b ∉ fixedPoint places x := by
  intro h
  rcases mem_fixedPoint h with hb | hb | hb
  · exact hdigit hb
  · exact hminus hb
  · exact hpoint hb

theorem legible_fixedPoint (places : Nat) (x : Rat) : Legible (fixedPoint places x) where
  ne_nil := by
    rw [fixedPoint]
    exact List.append_ne_nil_of_right_ne_nil _ (List.cons_ne_nil _ _)
  mem b hb := by
    rcases mem_fixedPoint hb with hdigit | rfl | rfl
    · exact mem_shownBytes_of_isDigit hdigit
    · decide
    · decide
  last h :=
    not_mem_fixedPoint (by decide) (by decide) (by decide) places x (List.mem_of_getLast? h)

theorem Legible.append {front text : List UInt8} (htext : Legible text)
    (hfront : front ⊆ shownBytes) : Legible (front ++ text) where
  ne_nil := List.append_ne_nil_of_right_ne_nil _ htext.ne_nil
  mem b hb := (List.mem_append.mp hb).elim (fun h => hfront h) (htext.mem b)
  last := by
    rw [List.getLast?_append_of_ne_nil _ htext.ne_nil]
    exact htext.last

theorem Legible.field {front text : List UInt8} (htext : Legible text) (hfront : Legible front)
    {b : UInt8} (hb : b ∈ shownBytes) : Legible (front ++ b :: text) := by
  have hrest : Legible ([b] ++ text) := by
    apply htext.append
    intro c hc
    rw [List.mem_singleton.mp hc]
    exact hb
  exact hrest.append fun c hc => hfront.mem c hc

theorem distanceChar_eq_fixedPoint {distanceMm : Nat} (h : distanceMm < 65536) :
    distanceChar (distanceCmOf distanceMm) = fixedPoint 2 (distanceCmOf distanceMm) := by
  have hle : (decimal (distanceMm / 10)).length ≤ 4 :=
    (length_decimal_le_iff (by decide)).mpr (by omega)
  have hlength := length_fixedPoint_distanceCmOf h
  exact snprintfBytes_of_fits (zero_not_mem_fixedPoint _ _) (by omega)

/-- The rounding of the text makes up for the single precision of the distance. -/
theorem distanceChar_inj {m n : Nat} (hm : m < 65536) (hn : n < 65536)
    (h : distanceChar (distanceCmOf m) = distanceChar (distanceCmOf n)) : m = n := by
  have hround : forall {k : Nat}, k < 65536 ->
      roundHalfEven (|distanceCmOf k| * 10 ^ 2) = (10 * k : Nat) := by
    intro k hk
    have hnear := distanceCmOf_near hk
    apply roundHalfEven_eq
    rw [abs_of_nonneg hnear.1]
    norm_num
    exact_mod_cast hnear.2
  rw [distanceChar_eq_fixedPoint hm, distanceChar_eq_fixedPoint hn] at h
  have hshown := congrArg Prod.snd (fixedPoint_eq_iff.mp h)
  simp only [shownAs, hround hm, hround hn] at hshown
  omega

theorem padded_fixedPoint (x : Rat) : padded 3 32 (fixedPoint 1 x) = fixedPoint 1 x := by
  have hpos := length_decimal_pos ((roundHalfEven (|x| * 10 ^ 1)).toNat / 10 ^ 1)
  have hlength := length_fixedPoint (by decide : 0 < 1) x
  rw [padded, Nat.sub_eq_zero_of_le (by omega), List.replicate_zero, List.nil_append]

theorem angleText_eq {x y z : Rat} (hx : |x| < 1000) (hy : |y| < 1000) (hz : |z| < 1000) :
    angleText x y z =
      literal "x:" ++ (fixedPoint 1 x ++ 32 :: (literal "y:" ++
        (fixedPoint 1 y ++ 32 :: (literal "z:" ++ fixedPoint 1 z)))) := by
  have hx' := length_fixedPoint_angle_le hx
  have hy' := length_fixedPoint_angle_le hy
  have hz' := length_fixedPoint_angle_le hz
  have hlabel : literal " y:" = 32 :: literal "y:" := rfl
  have hlabel' : literal " z:" = 32 :: literal "z:" := rfl
  have hfree : forall w, 0 ∉ fixedPoint 1 w := zero_not_mem_fixedPoint 1
  rw [angleText, padded_fixedPoint, padded_fixedPoint, padded_fixedPoint, hlabel, hlabel',
    snprintfBytes_of_fits]
  · simp only [List.append_assoc, List.cons_append]
  · simp only [List.mem_append, List.mem_cons, hfree, or_false]
    decide
  · have hxl : (literal "x:").length = 2 := rfl
    have hyl : (literal "y:").length = 2 := rfl
    have hzl : (literal "z:").length = 2 := rfl
    simp only [List.length_append, List.length_cons]
    omega

theorem angleText_inj {x y z x' y' z' : Rat} (hx : |x| < 1000) (hy : |y| < 1000)
    (hz : |z| < 1000) (hx' : |x'| < 1000) (hy' : |y'| < 1000) (hz' : |z'| < 1000)
    (h : angleText x y z = angleText x' y' z') :
    shownAs 1 x = shownAs 1 x' ∧ shownAs 1 y = shownAs 1 y' ∧ shownAs 1 z = shownAs 1 z' := by
  have hfield : forall w b, b ∈ fixedPoint 1 w -> (b != 32) = true := by
    intro w b hb
    rw [bne_iff_ne]
    intro heq
    subst heq
    exact not_mem_fixedPoint (by decide) (by decide) (by decide) 1 w hb
  rw [angleText_eq hx hy hz, angleText_eq hx' hy' hz'] at h
  rcases append_cons_inj (hfield x) (hfield x') (by decide) (by decide)
    (List.append_cancel_left h) with ⟨hroll, _, hrest⟩
  rcases append_cons_inj (hfield y) (hfield y') (by decide) (by decide)
    (List.append_cancel_left hrest) with ⟨hpitch, _, hlast⟩
  exact ⟨fixedPoint_eq_iff.mp hroll, fixedPoint_eq_iff.mp hpitch,
    fixedPoint_eq_iff.mp (List.append_cancel_left hlast)⟩

theorem legible_angleText {x y z : Rat} (hx : |x| < 1000) (hy : |y| < 1000)
    (hz : |z| < 1000) : Legible (angleText x y z) := by
  have hfield := legible_fixedPoint 1
  rw [angleText_eq hx hy hz]
  exact .append (.field (.append (.field (.append (hfield z) (by decide)) (hfield y) (by decide))
    (by decide)) (hfield x) (by decide)) (by decide)

/-- The year is printed without a sign, and the rest of the text has room behind it. -/
def PrintableYear (timeinfo : Tm) : Prop :=
  0 ≤ timeinfo.tmYear + 1900 ∧ timeinfo.tmYear + 1900 < 10 ^ 40

theorem FourDigitYear.printableYear {timeinfo : Tm} (h : FourDigitYear timeinfo) :
    PrintableYear timeinfo :=
  ⟨le_trans (by decide) h.1, lt_of_le_of_lt h.2 (by norm_num)⟩

theorem timeBuf_eq {timeinfo : Tm} (h : PrintableYear timeinfo) :
    timeBuf timeinfo =
      decimal (timeinfo.tmYear + 1900).toNat ++ 46 :: (decimal (timeinfo.tmMon + 1) ++
        46 :: (decimal timeinfo.tmMday ++ 32 :: (decimal timeinfo.tmHour ++
          58 :: (decimal timeinfo.tmMin ++ 58 :: decimal timeinfo.tmSec)))) := by
  have hdot : literal "." = [46] := rfl
  have hspace : literal " " = [32] := rfl
  have hcolon : literal ":" = [58] := rfl
  have hyear : timeinfo.tmYear + 1900 = (timeinfo.tmYear + 1900).toNat := by
    rw [Int.toNat_of_nonneg h.1]
  have hfree := zero_not_mem_decimal
  rw [timeBuf, hyear, signedDecimal_natCast, hdot, hspace, hcolon, snprintfBytes_of_fits]
  · simp only [List.append_assoc, List.cons_append, List.nil_append, Int.toNat_natCast]
  · simp only [List.mem_append, List.mem_singleton, hfree, or_false, false_or]
    decide
  · have hyear' := (length_decimal_le_iff (n := (timeinfo.tmYear + 1900).toNat)
      (by decide : 0 < 40)).mpr (by have := h.2; omega)
    have hmon := length_decimal_le_two (n := timeinfo.tmMon + 1)
      (by have := timeinfo.tmMon_le; omega)
    have hmday := length_decimal_le_two (n := timeinfo.tmMday)
      (by have := timeinfo.tmMday_le; omega)
    have hhour := length_decimal_le_two (n := timeinfo.tmHour)
      (by have := timeinfo.tmHour_le; omega)
    have hmin := length_decimal_le_two (n := timeinfo.tmMin)
      (by have := timeinfo.tmMin_le; omega)
    have hsec := length_decimal_le_two (n := timeinfo.tmSec)
      (by have := timeinfo.tmSec_le; omega)
    simp only [List.length_append, List.length_singleton]
    omega

theorem legible_timeBuf {timeinfo : Tm} (h : PrintableYear timeinfo) :
    Legible (timeBuf timeinfo) := by
  have hfield := legible_decimal
  rw [timeBuf_eq h]
  exact .field (.field (.field (.field (.field (hfield _) (hfield _) (by decide)) (hfield _)
    (by decide)) (hfield _) (by decide)) (hfield _) (by decide)) (hfield _) (by decide)

theorem timeBuf_inj {timeinfo timeinfo' : Tm} (h : PrintableYear timeinfo)
    (h' : PrintableYear timeinfo') (hsame : timeBuf timeinfo = timeBuf timeinfo') :
    timeinfo = timeinfo' := by
  rw [timeBuf_eq h, timeBuf_eq h'] at hsame
  rcases decimal_append_inj (by decide) (by decide) hsame with ⟨hyear, _, hrest⟩
  rcases decimal_append_inj (by decide) (by decide) hrest with ⟨hmon, _, hrest⟩
  rcases decimal_append_inj (by decide) (by decide) hrest with ⟨hmday, _, hrest⟩
  rcases decimal_append_inj (by decide) (by decide) hrest with ⟨hhour, _, hrest⟩
  rcases decimal_append_inj (by decide) (by decide) hrest with ⟨hmin, _, hrest⟩
  have hsec := decimal_injective hrest
  rcases h with ⟨hlow, _⟩
  rcases h' with ⟨hlow', _⟩
  rcases timeinfo with ⟨year, mon, mday, hour, min, sec, _, _, _, _, _⟩
  rcases timeinfo' with ⟨year', mon', mday', hour', min', sec', _, _, _, _, _⟩
  simp only at hyear hmon hmday hhour hmin hsec hlow hlow'
  have hyear' : year = year' := by
    omega
  have hmon' : mon = mon' := by
    omega
  subst hyear' hmon' hmday hhour hmin hsec
  rfl

theorem takeWhile_otaPercentBuf {percent : UInt32} (h : percent.toNat ≤ 100) :
    (otaPercentBuf percent).takeWhile isDigit = decimal percent.toNat := by
  have hlength : (decimal percent.toNat).length ≤ 3 :=
    (length_decimal_le_iff (by decide)).mpr (by omega)
  have hpercent : literal "%" = [37] := rfl
  rw [otaPercentBuf_eq h, List.take_append, List.take_of_length_le hlength,
    List.takeWhile_append_of_pos fun _ => isDigit_of_mem_decimal, hpercent]
  cases 3 - (decimal percent.toNat).length with
  | zero =>
      exact List.append_nil _
  | succ k =>
      rw [List.take_succ_cons, List.takeWhile_cons_of_neg (by decide), List.append_nil]

theorem otaPercentBuf_inj {percent percent' : UInt32} (h : percent.toNat ≤ 100)
    (h' : percent'.toNat ≤ 100) (hsame : otaPercentBuf percent = otaPercentBuf percent') :
    percent = percent' := by
  have hdigits := congrArg (List.takeWhile isDigit) hsame
  rw [takeWhile_otaPercentBuf h, takeWhile_otaPercentBuf h'] at hdigits
  exact UInt32.toNat_inj.mp (decimal_injective hdigits)

theorem legible_otaPercentBuf {percent : UInt32} (h : percent.toNat ≤ 100) :
    Legible (otaPercentBuf percent) := by
  have hmem : forall b, b ∈ otaPercentBuf percent -> isDigit b ∨ b = 37 := by
    intro b hb
    rw [otaPercentBuf_eq h] at hb
    rcases List.mem_append.mp (List.mem_of_mem_take hb) with hdigit | hpercent
    · exact Or.inl (isDigit_of_mem_decimal hdigit)
    · exact Or.inr (List.mem_singleton.mp hpercent)
  refine ⟨otaPercentBuf_ne_nil h, ?_, ?_⟩
  · intro b hb
    rcases hmem b hb with hdigit | rfl
    · exact mem_shownBytes_of_isDigit hdigit
    · decide
  · intro hlast
    rcases hmem 32 (List.mem_of_getLast? hlast) with hdigit | hpercent
    · exact absurd hdigit (by decide)
    · exact absurd hpercent (by decide)

/-!
# Readings
-/

structure Readings where
  distanceMm : Nat
  x : Rat
  y : Rat
  z : Rat
  timeinfo : Tm
  otaPercentUint : UInt32
  bits : EventGroup
  distanceMm_lt : distanceMm < 10000
  x_lt : |x| < 1000
  y_lt : |y| < 1000
  z_lt : |z| < 1000
  year : FourDigitYear timeinfo
  percent_le : otaPercentUint.toNat ≤ 100
deriving DecidableEq

namespace Readings

def frameInput (r : Readings) : FrameInput where
  distanceCm := distanceCmOf r.distanceMm
  angleTimeChar := angleText r.x r.y r.z
  timeinfo := r.timeinfo
  otaPercentUint := r.otaPercentUint
  bits := r.bits

variable (r : Readings)

theorem valid : r.frameInput.Valid := by
  have hlength := length_angleText_le r.x_lt r.y_lt r.z_lt
  exact ⟨hlength.trans (by decide), fun _ => r.percent_le⟩

theorem inZones : InZones (frame r.frameInput) :=
  frame_inZones r.distanceMm_lt r.x_lt r.y_lt r.z_lt r.year r.percent_le r.bits

def SameScreen (r r' : Readings) : Prop :=
  forall c, c ≤ 1024 -> image r.frameInput c = image r'.frameInput c

variable {r} {r' : Readings}

/-- A legible text that starts where its zone does can be read off the screen. -/
theorem SameScreen.text_eq (h : SameScreen r r') {part : Part} {text text' : List UInt8}
    {xCenter yCenter : Bool} {x page : UInt32}
    (hop : (part, .string text xCenter yCenter x page) ∈ frame r.frameInput)
    (hop' : (part, .string text' xCenter yCenter x page) ∈ frame r'.frameInput)
    (hlegible : Legible text) (hlegible' : Legible text')
    (hstart : (DrawOp.string text xCenter yCenter x page).region.start = (zone part).1)
    (hstart' : (DrawOp.string text' xCenter yCenter x page).region.start = (zone part).1)
    (size : Nat) (hsize : (zone part).2 - (zone part).1 = 5 * size)
    (hfits : text.length ≤ size) (hfits' : text'.length ≤ size) : text = text' := by
  have hbytes := zoneBytes_congr h part
  rw [zoneBytes_of_string r.valid r.inZones hop hlegible.ne_nil hstart (size - text.length)
      (by omega),
    zoneBytes_of_string r'.valid r'.inZones hop' hlegible'.ne_nil hstart'
      (size - text'.length) (by omega)] at hbytes
  exact legible_inj hlegible hlegible' (by omega) hbytes

theorem SameScreen.bit_of {bit : EventBit} (h : SameScreen r r') {part : Part} {op : DrawOp}
    {c : Nat} {b : UInt8} (hc : InZoneOf part c) (hvalue : op.region.valueAt c = some b)
    (hb : b ≠ 0) (hdrawn : bit ∈ r.bits -> (part, op) ∈ frame r.frameInput)
    (habsent : bit ∉ r'.bits -> forall op, (part, op) ∉ frame r'.frameInput)
    (hbit : bit ∈ r.bits) : bit ∈ r'.bits := by
  by_contra hclear
  have hscreen : (zone part).2 ≤ 1025 := by
    cases part <;> decide
  have hcell := h c (by have := hc.2; omega)
  rw [image_of_part r.valid r.inZones (hdrawn hbit) hc, hvalue, Option.getD_some,
    image_of_absent r'.valid r'.inZones (habsent hclear) hc] at hcell
  exact hb hcell

theorem wifiIcon_mem (h : .wifiBitGotIp ∈ r.bits) :
    (.wifiIcon, wifiIcon) ∈ frame r.frameInput := by
  simp [frame, frameInput, h]

theorem wifiIcon_not_mem (h : .wifiBitGotIp ∉ r.bits) (op : DrawOp) :
    (.wifiIcon, op) ∉ frame r.frameInput := by
  unfold frame writeDistance writeOtaUpdate writeTime writeCord
  split_ifs <;> simp_all [frameInput]

theorem otaTitle_mem (h : .otaBitInProgress ∈ r.bits) :
    (.otaTitle, .string (literal "OTA update") true false 0 6) ∈ frame r.frameInput := by
  simp [frame, frameInput, writeOtaUpdate, h]

theorem otaTitle_not_mem (h : .otaBitInProgress ∉ r.bits) (op : DrawOp) :
    (.otaTitle, op) ∉ frame r.frameInput := by
  unfold frame writeDistance writeTime writeCord
  split_ifs <;> simp_all [frameInput]

theorem distanceChar_mem (r : Readings) :
    (.distance, .string (distanceChar (distanceCmOf r.distanceMm)) false true 0 0) ∈
      frame r.frameInput := by
  simp [frame, frameInput, writeDistance]

theorem length_distanceChar_le (r : Readings) :
    (distanceChar (distanceCmOf r.distanceMm)).length ≤ 6 := by
  have hlt := r.distanceMm_lt
  have hdigits : (decimal (r.distanceMm / 10)).length ≤ 3 :=
    (length_decimal_le_iff (by decide)).mpr (by omega)
  rw [length_distanceChar (by omega)]
  omega

theorem legible_distanceChar (r : Readings) :
    Legible (distanceChar (distanceCmOf r.distanceMm)) := by
  rw [distanceChar_eq_fixedPoint (r.distanceMm_lt.trans (by decide))]
  exact legible_fixedPoint _ _

theorem angleText_mem (r : Readings) :
    (.angles, .string (angleText r.x r.y r.z) false true 30 0) ∈ frame r.frameInput := by
  simp [frame, frameInput, writeCord]

theorem length_angleText (r : Readings) : (angleText r.x r.y r.z).length ≤ 29 :=
  length_angleText_le r.x_lt r.y_lt r.z_lt

theorem timeBuf_mem (r : Readings) :
    (.time, .string (timeBuf r.timeinfo) false false 0 1) ∈ frame r.frameInput := by
  have hpos := List.length_pos_of_ne_nil (legible_timeBuf r.year.printableYear).ne_nil
  refine List.mem_append_left _ (List.mem_append_right _ ?_)
  change _ ∈ writeTime r.timeinfo
  rw [writeTime, if_pos hpos]
  exact List.mem_singleton_self _

theorem otaPercentBuf_mem (h : .otaBitInProgress ∈ r.bits) :
    (.otaPercent, .string (otaPercentBuf r.otaPercentUint) false false 110 7) ∈
      frame r.frameInput := by
  simp [frame, frameInput, writeOtaUpdate, h]

theorem image_mqttIcon (r : Readings) :
    image r.frameInput 254 = if .mqttSubscribe ∈ r.bits then 0x11 else 0x15 := by
  have hop : (.mqttIcon, mqttIcon r.bits) ∈ frame r.frameInput := by
    simp [frame, frameInput]
  rw [image_of_part r.valid r.inZones hop (by decide), mqttIcon]
  split
  · decide
  · decide

/-- The readings agree as far as a frame shows them. -/
structure SameReadings (r r' : Readings) : Prop where
  distanceMm : r.distanceMm = r'.distanceMm
  x : shownAs 1 r.x = shownAs 1 r'.x
  y : shownAs 1 r.y = shownAs 1 r'.y
  z : shownAs 1 r.z = shownAs 1 r'.z
  timeinfo : r.timeinfo = r'.timeinfo
  wifi : .wifiBitGotIp ∈ r.bits <-> .wifiBitGotIp ∈ r'.bits
  mqtt : .mqttSubscribe ∈ r.bits <-> .mqttSubscribe ∈ r'.bits
  ota : .otaBitInProgress ∈ r.bits <-> .otaBitInProgress ∈ r'.bits
  percent : .otaBitInProgress ∈ r.bits -> r.otaPercentUint = r'.otaPercentUint

theorem SameReadings.frame_eq (h : SameReadings r r') :
    frame r.frameInput = frame r'.frameInput := by
  have hangles : angleText r.x r.y r.z = angleText r'.x r'.y r'.z := by
    rw [angleText, angleText, fixedPoint_eq_iff.mpr h.x, fixedPoint_eq_iff.mpr h.y,
      fixedPoint_eq_iff.mpr h.z]
  have hicon : mqttIcon r.bits = mqttIcon r'.bits := if_congr h.mqtt rfl rfl
  have hupdate : (if .otaBitInProgress ∈ r.bits then writeOtaUpdate r.otaPercentUint else []) =
      if .otaBitInProgress ∈ r'.bits then writeOtaUpdate r'.otaPercentUint else [] := by
    by_cases hbit : .otaBitInProgress ∈ r.bits
    · rw [if_pos hbit, if_pos (h.ota.mp hbit), h.percent hbit]
    · rw [if_neg hbit, if_neg fun hbit' => hbit (h.ota.mpr hbit')]
  have hwifi : (if .wifiBitGotIp ∈ r.bits then [(Part.wifiIcon, wifiIcon)] else []) =
      if .wifiBitGotIp ∈ r'.bits then [(Part.wifiIcon, wifiIcon)] else [] :=
    if_congr h.wifi rfl rfl
  change [(.version, .string versionOnScreen false false 0 0)] ++
      writeDistance (distanceCmOf r.distanceMm) ++
      (if .wifiBitGotIp ∈ r.bits then _ else _) ++
      (if .otaBitInProgress ∈ r.bits then writeOtaUpdate r.otaPercentUint else _) ++
      [(.mqttIcon, mqttIcon r.bits)] ++ writeTime r.timeinfo ++
      writeCord (angleText r.x r.y r.z) = _
  rw [h.distanceMm, h.timeinfo, hangles, hicon, hupdate, hwifi]
  rfl

theorem SameScreen.symm (h : SameScreen r r') : SameScreen r' r :=
  fun c hc => (h c hc).symm

theorem SameScreen.sameReadings (h : SameScreen r r') : SameReadings r r' := by
  have hdistance : distanceChar (distanceCmOf r.distanceMm) =
      distanceChar (distanceCmOf r'.distanceMm) :=
    h.text_eq r.distanceChar_mem r'.distanceChar_mem r.legible_distanceChar
      r'.legible_distanceChar
      (toNat_startIndex_yCenter (r.length_distanceChar_le.trans (by decide)) (by decide))
      (toNat_startIndex_yCenter (r'.length_distanceChar_le.trans (by decide)) (by decide))
      6 rfl r.length_distanceChar_le r'.length_distanceChar_le
  have hangles : angleText r.x r.y r.z = angleText r'.x r'.y r'.z :=
    h.text_eq r.angleText_mem r'.angleText_mem (legible_angleText r.x_lt r.y_lt r.z_lt)
      (legible_angleText r'.x_lt r'.y_lt r'.z_lt)
      (toNat_startIndex_yCenter (r.length_angleText.trans (by decide)) (by decide))
      (toNat_startIndex_yCenter (r'.length_angleText.trans (by decide)) (by decide))
      29 rfl r.length_angleText r'.length_angleText
  have htime : timeBuf r.timeinfo = timeBuf r'.timeinfo :=
    h.text_eq r.timeBuf_mem r'.timeBuf_mem (legible_timeBuf r.year.printableYear)
      (legible_timeBuf r'.year.printableYear)
      (Framebuffer.toNat_startIndex (by decide) (by decide) _)
      (Framebuffer.toNat_startIndex (by decide) (by decide) _)
      19 rfl (length_timeBuf_le r.year) (length_timeBuf_le r'.year)
  have hpercent : .otaBitInProgress ∈ r.bits -> .otaBitInProgress ∈ r'.bits ->
      otaPercentBuf r.otaPercentUint = otaPercentBuf r'.otaPercentUint := by
    intro hmem hmem'
    exact h.text_eq (otaPercentBuf_mem hmem) (otaPercentBuf_mem hmem')
      (legible_otaPercentBuf r.percent_le) (legible_otaPercentBuf r'.percent_le)
      (Framebuffer.toNat_startIndex (by decide) (by decide) _)
      (Framebuffer.toNat_startIndex (by decide) (by decide) _)
      3 rfl (length_otaPercentBuf_le r.percent_le) (length_otaPercentBuf_le r'.percent_le)
  have hwifi : wifiIcon.region.valueAt 116 = some 0x40 := by
    decide
  have hota : (DrawOp.string (literal "OTA update") true false 0 6).region.valueAt 807 =
      some 0x3e := by
    decide
  have hbit : .otaBitInProgress ∈ r.bits <-> .otaBitInProgress ∈ r'.bits :=
    ⟨h.bit_of (by decide) hota (by decide) otaTitle_mem otaTitle_not_mem,
      h.symm.bit_of (by decide) hota (by decide) otaTitle_mem otaTitle_not_mem⟩
  rcases angleText_inj r.x_lt r.y_lt r.z_lt r'.x_lt r'.y_lt r'.z_lt hangles with ⟨hx, hy, hz⟩
  constructor
  · exact distanceChar_inj (r.distanceMm_lt.trans (by decide))
      (r'.distanceMm_lt.trans (by decide)) hdistance
  · exact hx
  · exact hy
  · exact hz
  · exact timeBuf_inj r.year.printableYear r'.year.printableYear htime
  · exact ⟨h.bit_of (by decide) hwifi (by decide) wifiIcon_mem wifiIcon_not_mem,
      h.symm.bit_of (by decide) hwifi (by decide) wifiIcon_mem wifiIcon_not_mem⟩
  · have hcell := h 254 (by decide)
    rw [image_mqttIcon, image_mqttIcon] at hcell
    by_cases hmem : .mqttSubscribe ∈ r.bits <;> by_cases hmem' : .mqttSubscribe ∈ r'.bits
    · exact iff_of_true hmem hmem'
    · rw [if_pos hmem, if_neg hmem'] at hcell
      exact absurd hcell (by decide)
    · rw [if_neg hmem, if_pos hmem'] at hcell
      exact absurd hcell (by decide)
    · exact iff_of_false hmem hmem'
  · exact hbit
  · intro hmem
    exact otaPercentBuf_inj r.percent_le r'.percent_le (hpercent hmem (hbit.mp hmem))

/-- Two frames look the same exactly when they were drawn for the same readings. -/
theorem sameScreen_iff (r r' : Readings) : SameScreen r r' <-> SameReadings r r' := by
  constructor
  · intro h
    exact h.sameReadings
  · intro h c _
    rw [image, image, h.frame_eq]

def atNewYear (z : Rat) (hz : |z| < 1000) : Readings where
  distanceMm := 250
  x := 0
  y := 0
  z := z
  timeinfo := newYear
  otaPercentUint := 0
  bits := ∅
  distanceMm_lt := by decide
  x_lt := by decide +kernel
  y_lt := by decide +kernel
  z_lt := hz
  year := by decide +kernel
  percent_le := by decide

/-- A yaw of 0.04 degrees is shown as that of 0 degrees, but one of -0.04 as a negative one. -/
theorem atNewYear_sameScreen :
    SameScreen (atNewYear 0 (by decide +kernel)) (atNewYear (1 / 25) (by decide +kernel)) ∧
      ¬ SameScreen (atNewYear 0 (by decide +kernel))
        (atNewYear (-1 / 25) (by decide +kernel)) := by
  constructor
  · apply (sameScreen_iff _ _).mpr
    exact ⟨rfl, rfl, rfl, by decide +kernel, rfl, Iff.rfl, Iff.rfl, Iff.rfl, fun _ => rfl⟩
  · intro hsame
    have hz := ((sameScreen_iff _ _).mp hsame).z
    exact absurd hz (by decide +kernel)

end Readings

end Oled
end CarCleaner
