import CarCleaner.Oled.Layout
import CarCleaner.Ota.Task

/-!
# The percent of an update on the screen

`ota_task` computes the percent from the byte counts of the library, and
`write_ota_update` shows it as a text and as a bar.  The buffer of the text has room for
two digits and the sign.
-/

namespace CarCleaner
namespace Oled

open Foundation
open Firmware
open Ota

/-!
# From the byte counts to the queue
-/

/-- Size of the partitions `ota_0` and `ota_1`. -/
def otaPartitionSize : Nat := 0x700000

theorem otaPercentOf_eq {size read : Nat} (hpos : 1 ≤ size) (hsize : size ≤ otaPartitionSize)
    (hread : read ≤ size) :
    otaPercentOf read size = .ok (100 * read / size) := by
  have hpartition : otaPartitionSize = 7340032 := rfl
  have hscaled : (read : Int) * 100 = (100 * read : Nat) := by
    push_cast
    exact Int.mul_comm _ _
  have hint32 : int32 OtaFault.int32Overflow ((read : Int) * 100) =
      .ok ((100 * read : Nat) : Int) := by
    rw [<- hscaled]
    exact int32_eq_ok _ (by omega) (by omega)
  rw [otaPercentOf, hint32]
  change (if size = 0 then throw OtaFault.integerDivideByZero
    else pure (uint32OfInt ((100 * read : Nat) : Int) / size)) = _
  rw [if_neg (by omega), uint32OfInt_natCast (by omega)]
  rfl

/-- One pass of the download loop: the library is called, and the percent is sent. -/
def downloadPass (t : OtaSystem) (answer : OtaAnswer) : Except OtaFault OtaSystem :=
  otaTask t answer >>= fun t => otaTask t answer

theorem downloadPass_eq {t : OtaSystem} {answer : OtaAnswer} {percent : Nat}
    (hpoint : t.point = .performing) (herr : answer.err = .httpsOtaInProgress)
    (hpercent : otaPercentOf answer.lenRead t.updateSize = .ok percent) :
    exists t', downloadPass t answer = .ok t' ∧
      t'.qOtaLevel = t.qOtaLevel.sendOrDrop percent := by
  have hfirst : otaTask t answer =
      .ok
        { t with
          trace := t.trace ++ [.performed t.otaHandle answer.err]
          otaPercent := percent
          point := .sending } := by
    simp only [otaTask, hpoint, herr, if_true, hpercent]
    rfl
  rw [downloadPass, hfirst]
  exact ⟨_, rfl, rfl⟩

/-!
# From the queue to the screen
-/

def otaPercentText (percent : Nat) : List UInt8 :=
  decimal percent ++ literal "%"

/-- The screen shows the percent on a buffer that was clear. -/
structure PercentShown (percent : Nat) (fb : Framebuffer) : Prop where
  text_eq : forall (k : Nat) (hk : k < ((otaPercentText percent).flatMap columns).length),
    (drawParts fb (writeOtaUpdate (UInt32.ofNat percent))).oledFullBuffer
        (ringCell 1024 (7 * 128 + 110 + 1) k) =
      ((otaPercentText percent).flatMap columns).get ⟨k, hk⟩
  bar_iff : forall k,
    (forall j, j ≤ k ->
      (drawParts fb (writeOtaUpdate (UInt32.ofNat percent))).oledFullBuffer
        (7 * 128 + 10 + j) = 0xff) <->
      k < percent
  bar_valid : forall cell,
    cell ∈ cellsOf .otaBar fb (writeOtaUpdate (UInt32.ofNat percent)) ->
      1 ≤ cell ∧ cell ≤ 1024
  disjoint : PartsDisjoint fb (writeOtaUpdate (UInt32.ofNat percent))

/-- The title, the text and the bar are drawn one after the other. -/
structure OtaBlits (percent : UInt32) (old titled texted new : Nat -> UInt8) : Prop where
  title : RingBlit 1024 807 ((literal "OTA update").flatMap columns) old titled
  text : RingBlit 1024 1007 ((otaPercentBuf percent).flatMap columns) titled texted
  bar : RingBlit 1024 906 (List.replicate percent.toNat 0xff) texted new

theorem length_otaPercentBuf_le {percent : UInt32} (h : percent.toNat ≤ 100) :
    (otaPercentBuf percent).length ≤ 3 := by
  rw [otaPercentBuf_eq h]
  exact List.length_take_le _ _

theorem exists_otaBlits {percent : UInt32} (h : percent.toNat ≤ 100) (fb : Framebuffer) :
    exists titled texted, OtaBlits percent fb.oledFullBuffer titled texted
      (drawParts fb (writeOtaUpdate percent)).oledFullBuffer := by
  have hsize : 3 < UInt32.size := by
    decide
  have hlen : (literal "OTA update").length =
      (UInt32.ofNat (literal "OTA update").length).toNat := rfl
  have hlen' : (otaPercentBuf percent).length =
      (UInt32.ofNat (otaPercentBuf percent).length).toNat :=
    (UInt32.toNat_ofNat_of_lt' ((length_otaPercentBuf_le h).trans_lt hsize)).symm
  have htitle := fun fb => (Framebuffer.writeString_blits hlen (by decide)
    (show (Framebuffer.startIndex _ true false 0 6).toNat = 807 from rfl) (by decide)
    (by decide) fb).1
  have htext := fun fb => (Framebuffer.writeString_blits hlen' (otaPercentBuf_ne_nil h)
    (show (Framebuffer.startIndex _ false false 110 7).toNat = 1007 from
      Framebuffer.toNat_startIndex (by decide) (by decide) _) (by decide) (by decide) fb).1
  have hbar := fun fb => (Framebuffer.writeOtaBar_blits h fb).1
  exact ⟨_, _, htitle fb, htext _, hbar _⟩

namespace OtaBlits

variable {percent : UInt32} {old titled texted new : Nat -> UInt8}

/-- Behind the title and outside the text and the bar nothing changes. -/
theorem blank (h : OtaBlits percent old titled texted new) (hpercent : percent.toNat ≤ 100)
    {cell : Nat} (htitle : 857 ≤ cell)
    (htext : cell < 1007 ∨ 1007 + 5 * (otaPercentBuf percent).length ≤ cell)
    (hbar : cell < 906 ∨ 906 + percent.toNat ≤ cell) : new cell = old cell := by
  have hlength := length_otaPercentBuf_le hpercent
  have hcolumns := length_flatMap_columns (otaPercentBuf percent)
  have htitled := length_flatMap_columns (literal "OTA update")
  have hten : (literal "OTA update").length = 10 := rfl
  have hfull := length_otaBarBytes percent
  rw [h.bar.outside (by decide) (by omega) (by omega),
    h.text.outside (by decide) (by omega) (by omega),
    h.title.outside (by decide) (by omega) (by omega)]

theorem bar_full (h : OtaBlits percent old titled texted new) (hpercent : percent.toNat ≤ 100)
    {j : Nat} (hj : j < percent.toNat) : new (906 + j) = 0xff := by
  have hfull := length_otaBarBytes percent
  rw [h.bar.inside (by decide) (by omega) (hj.trans_eq hfull.symm)]
  exact List.getElem_replicate _

/-- The cells of the bar end at the first one that is still clear. -/
theorem bar_iff (h : OtaBlits percent old titled texted new) (hpercent : percent.toNat ≤ 100)
    (hclear : forall cell, 857 ≤ cell -> cell ≤ 1024 -> old cell = 0) (k : Nat) :
    (forall j, j ≤ k -> new (906 + j) = 0xff) <-> k < percent.toNat := by
  constructor
  · intro hbar
    by_contra hk
    have hend := hbar percent.toNat (not_lt.mp hk)
    rw [h.blank hpercent (by omega) (by omega) (by omega), hclear _ (by omega) (by omega)] at hend
    exact absurd hend (by decide)
  · intro hk j hj
    exact h.bar_full hpercent (hj.trans_lt hk)

theorem text_eq (h : OtaBlits percent old titled texted new) (hpercent : percent.toNat ≤ 100)
    {k : Nat} (hk : k < ((otaPercentBuf percent).flatMap columns).length) :
    new (ringCell 1024 1007 k) = ((otaPercentBuf percent).flatMap columns).get ⟨k, hk⟩ := by
  have hlength := length_otaPercentBuf_le hpercent
  have hcolumns := length_flatMap_columns (otaPercentBuf percent)
  have hfull := length_otaBarBytes percent
  rw [<- h.text.covered k hk (by omega)]
  apply h.bar.outside (by decide) (by omega)
  rw [ringCell_of_le (by decide) (by omega)]
  omega

end OtaBlits

/-!
# Below 100 percent
-/

theorem otaPercentBuf_eq_text {percent : Nat} (h : percent < 100) :
    otaPercentBuf (UInt32.ofNat percent) = otaPercentText percent := by
  have hsize : 100 < UInt32.size := by
    decide
  have hpercent : (UInt32.ofNat percent).toNat = percent := UInt32.toNat_ofNat_of_lt' (by omega)
  have hdigits := length_decimal_le_two h
  have hsign : (literal "%").length = 1 := rfl
  rw [otaPercentBuf_eq (by omega), hpercent, List.take_of_length_le, otaPercentText]
  rw [List.length_append]
  omega

theorem clear_of_mem (fb : Framebuffer) (cell : Nat) (hlow : 857 ≤ cell) (hhigh : cell ≤ 1024) :
    fb.clearBuffer.oledFullBuffer cell = 0 := by
  have hzero : cell ≠ 0 := by
    omega
  exact (if_neg hzero).trans (if_pos hhigh)

theorem percentShown_of_lt {percent : Nat} (h : percent < 100) (fb : Framebuffer) :
    PercentShown percent fb.clearBuffer := by
  have hsize : 100 < UInt32.size := by
    decide
  have hpercent : (UInt32.ofNat percent).toNat = percent := UInt32.toNat_ofNat_of_lt' (by omega)
  have hle : (UInt32.ofNat percent).toNat ≤ 100 := by
    omega
  rcases exists_otaBlits hle fb.clearBuffer with ⟨titled, texted, hblits⟩
  refine ⟨?_, ?_, ?_, ?_⟩
  · rw [<- otaPercentBuf_eq_text h]
    intro k hk
    exact hblits.text_eq hle hk
  · intro k
    have hbar := hblits.bar_iff hle (clear_of_mem fb) k
    rwa [hpercent] at hbar
  · intro cell hcell
    rcases exists_of_mem_cellsOf hcell with ⟨op, fb', hop, hdrawn⟩
    have hzone : InZone .otaBar op := writeOtaUpdate_inZones hle _ hop
    have hbounds := hzone fb' cell hdrawn
    change 906 ≤ cell ∧ cell < 1006 at hbounds
    omega
  · exact (writeOtaUpdate_inZones hle).partsDisjoint fb.clearBuffer

/-!
# At 100 percent
-/

/-- The first column of the sign is missing. -/
theorem not_percentShown_hundred (fb : Framebuffer) : ¬ PercentShown 100 fb.clearBuffer := by
  intro h
  have hle : (UInt32.ofNat 100).toNat ≤ 100 := by
    decide
  rcases exists_otaBlits hle fb.clearBuffer with ⟨titled, texted, hblits⟩
  have hsign : (drawParts fb.clearBuffer (writeOtaUpdate (UInt32.ofNat 100))).oledFullBuffer
      1022 = 0x23 := h.text_eq 15 (by decide)
  rw [hblits.blank hle (by decide) (by decide) (by decide),
    clear_of_mem fb 1022 (by decide) (by decide)] at hsign
  exact absurd hsign (by decide)

/-!
# The whole way
-/

structure PercentRight (t : OtaSystem) (answer : OtaAnswer) (fb : Framebuffer) (percent : Nat) :
    Prop where
  enqueued : exists t', downloadPass t answer = .ok t' ∧
    t'.qOtaLevel = t.qOtaLevel.sendOrDrop percent
  shown : PercentShown percent fb.clearBuffer

theorem hundred_mul_div_lt_iff {size read : Nat} (hpos : 1 ≤ size) :
    100 * read / size < 100 <-> read < size := by
  rw [Nat.div_lt_iff_lt_mul hpos]
  omega

/--
The percent is right from the byte counts to the screen exactly as long as bytes are
missing.
-/
theorem percentRight_iff {size read : Nat} (hpos : 1 ≤ size) (hsize : size ≤ otaPartitionSize)
    (hread : read ≤ size) {t : OtaSystem} {answer : OtaAnswer}
    (hpoint : t.point = .performing) (hupdate : t.updateSize = uint32OfInt size)
    (herr : answer.err = .httpsOtaInProgress) (hlen : answer.lenRead = read)
    (fb : Framebuffer) :
    PercentRight t answer fb (100 * read / size) <-> read < size := by
  have hpartition : otaPartitionSize = 7340032 := rfl
  rw [uint32OfInt_natCast (by omega)] at hupdate
  have hpercent : otaPercentOf answer.lenRead t.updateSize = .ok (100 * read / size) := by
    rw [hlen, hupdate]
    exact otaPercentOf_eq hpos hsize hread
  constructor
  · intro h
    by_contra hall
    have hhundred : 100 * read / size = 100 := by
      rw [show read = size by omega]
      exact Nat.mul_div_cancel 100 hpos
    exact not_percentShown_hundred fb (hhundred ▸ h.shown)
  · intro hmissing
    exact ⟨downloadPass_eq hpoint herr hpercent,
      percentShown_of_lt ((hundred_mul_div_lt_iff hpos).mpr hmissing) fb⟩

/-- The update starts and the library finds an image of 1 MiB. -/
def downloadStarts : List OtaInput :=
  [.gotUpdate, .ota { err := .ok, handle := 1, imageSize := 0, lenRead := 0 },
    .ota { err := .ok, handle := 1, imageSize := 1048576, lenRead := 0 }]

def bytesRead (lenRead : Int) : OtaAnswer where
  err := .httpsOtaInProgress
  handle := 1
  imageSize := 1048576
  lenRead := lenRead

/-- The call that reads the last bytes: the text is cut off in front of its sign. -/
theorem lastBytes_cut_sign :
    otaPercentBuf 100 = literal "100" ∧
      exists t, otaAfter ∅ downloadStarts = .ok t ∧ t.point = .performing ∧
        t.updateSize = uint32OfInt 1048576 ∧
        ¬ PercentRight t (bytesRead 1048576) Framebuffer.boot (100 * 1048576 / 1048576) := by
  refine ⟨by decide +kernel, _, rfl, rfl, rfl, ?_⟩
  intro h
  exact not_percentShown_hundred Framebuffer.boot h.shown

theorem percentRight_iff_half :
    exists t, otaAfter ∅ downloadStarts = .ok t ∧
      PercentRight t (bytesRead 524288) Framebuffer.boot (100 * 524288 / 1048576) := by
  refine ⟨_, rfl, ?_⟩
  exact (percentRight_iff (by decide) (show 1048576 ≤ otaPartitionSize by decide) (by decide)
    rfl rfl rfl rfl Framebuffer.boot).mpr (by decide)

end Oled
end CarCleaner
