import CarCleaner.Oled.Overrun
import CarCleaner.Ota.Accounts
import CarCleaner.Ota.Progress
import CarCleaner.Tasks.Channels

/-!
# What the screen shows

Every frame that reaches the display is the image of values that the rest of the firmware
has really had: a measured distance, measured angles, a percent that the download has
sent, the bits of the event group and the local time, each as they were at some moment of
the run.
-/

namespace CarCleaner
namespace Tasks

open Foundation
open Firmware
open Distance
open Angles
open Ota
open Oled
open Clock

/-!
# Values with a past
-/

/-- A state on the way through the run has the property. -/
def Was (board : Board) (history : List FirmwareInput) (P : FirmwareState -> Prop) : Prop :=
  exists past mid, past <+: history ∧ firmwareAfter board past = .ok mid ∧ P mid

theorem Was.later {board : Board} {past : List FirmwareInput} {P : FirmwareState -> Prop}
    (h : Was board past P) (i : FirmwareInput) : Was board (past ++ [i]) P := by
  rcases h with ⟨older, mid, holder, hmid, hP⟩
  exact ⟨older, mid, holder.trans (List.prefix_append past [i]), hmid, hP⟩

theorem was_now {board : Board} {past : List FirmwareInput} {P : FirmwareState -> Prop}
    {s : FirmwareState} (hs : firmwareAfter board past = .ok s) (hP : P s) : Was board past P :=
  ⟨past, s, List.prefix_refl past, hs, hP⟩

/-- Where the values of a frame come from, the time apart. -/
structure Sourced (board : Board) (history : List FirmwareInput) (s : FirmwareState)
    (input : FrameInput) : Prop where
  distance : input.distanceCm = 0 ∨ input.distanceCm ∈ distancesPut s.uart
  angles : input.angleTimeChar = [] ∨
    input.angleTimeChar ∈ seenBy board (anglesMeasured board) history
  percent : input.otaPercentUint = 0 ∨
    exists percent, .sentPercent percent ∈ s.ota.trace ∧
      input.otaPercentUint = UInt32.ofNat percent
  bits : Was board history fun mid => input.bits = mid.eTasks

def Timed (board : Board) (history : List FirmwareInput) (input : FrameInput) : Prop :=
  Was board history fun mid => input.timeinfo = localtimeR mid.now

/-- The frame that is being drawn, and those that have been shown. -/
structure ScreenSourced (board : Board) (history : List FirmwareInput) (s : FirmwareState)
    (d : Display) : Prop where
  input : Sourced board history s d.input
  timed : d.point = .drawingAngles ∨ d.point = .transmitting -> Timed board history d.input
  shown : forall input, input ∈ d.shown ->
    Sourced board history s input ∧ Timed board history input

theorem screenSourced_start (board : Board) :
    ScreenSourced board [] (.start board) .boot where
  input := ⟨Or.inl rfl, Or.inl rfl, Or.inl rfl, was_now rfl rfl⟩
  timed h := h.elim nofun nofun
  shown _ h := nomatch h

/-!
# Nothing of the past is lost
-/

theorem trace_acted {board : Board} {s s' : FirmwareState} {i : FirmwareInput}
    (h : Acted board s i s') : s.ota.trace <+: s'.ota.trace := by
  cases h with
  | ota hstep =>
      have hprefix : s.otaSystem.trace <+: _ := trace_otaTask hstep
      exact hprefix
  | oled =>
      unfold FirmwareState.oledStep
      cases s.oled.point with
      | readingBits => exact trace_oledFrame s.otaSystem
      | updating => exact trace_oledFrame s.otaSystem
      | _ => exact List.prefix_refl _
  | appMain =>
      have hota : (s.appMainStep board).ota = s.ota := samePart_of_acted .ota .appMain rfl
      rw [hota]
  | imu attempt =>
      have hota : (s.imuStep board attempt).ota = s.ota :=
        samePart_of_acted .ota (.imu attempt) rfl
      rw [hota]
  | _ => exact List.prefix_refl _

section

variable {board : Board} {past : List FirmwareInput} {s s' : FirmwareState} {i : FirmwareInput}
  {input : FrameInput}

theorem Sourced.later (h : Sourced board past s input)
    (hputs : distancesPut s.uart <+: distancesPut s'.uart)
    (htrace : s.ota.trace <+: s'.ota.trace)
    (hseen : seenBy board (anglesMeasured board) past <+:
      seenBy board (anglesMeasured board) (past ++ [i])) :
    Sourced board (past ++ [i]) s' input where
  distance := h.distance.imp_right fun hmem => hputs.subset hmem
  angles := h.angles.imp_right fun hmem => hseen.subset hmem
  percent := h.percent.imp_right fun h => h.imp fun _ h => ⟨htrace.subset h.1, h.2⟩
  bits := h.bits.later i

theorem ScreenSourced.later {d : Display} (h : ScreenSourced board past s d)
    (hputs : distancesPut s.uart <+: distancesPut s'.uart)
    (htrace : s.ota.trace <+: s'.ota.trace)
    (hseen : seenBy board (anglesMeasured board) past <+:
      seenBy board (anglesMeasured board) (past ++ [i])) :
    ScreenSourced board (past ++ [i]) s' d where
  input := h.input.later hputs htrace hseen
  timed hpoint := (h.timed hpoint).later i
  shown := by
    intro input hmem
    rcases h.shown input hmem with ⟨hsourced, htimed⟩
    exact ⟨hsourced.later hputs htrace hseen, htimed.later i⟩

end

/-!
# What a step of the display finds
-/

/-- What waits in the queues has been measured or sent. -/
structure SourceSourced (board : Board) (history : List FirmwareInput) (s : FirmwareState) :
    Prop where
  distance : forall distanceCm, distanceCm ∈ s.oledSource.qDistance ->
    distanceCm ∈ distancesPut s.uart
  angles : forall text, text ∈ s.oledSource.qAngle ->
    text ∈ seenBy board (anglesMeasured board) history
  percent : forall level, level ∈ s.oledSource.qOtaLevel ->
    exists percent, .sentPercent percent ∈ s.ota.trace ∧ level = UInt32.ofNat percent

theorem percentsSent_of_run {board : Board} {history : List FirmwareInput}
    {s : FirmwareState} (hs : firmwareAfter board history = .ok s) : PercentsSent s.ota := by
  rcases ota_run hs with ⟨o, ho, hsame, _⟩
  have hsent := percentsSent_otaAfter ho
  rw [hsame] at hsent
  exact hsent

theorem sourceSourced_of_run {board : Board} {history : List FirmwareInput}
    {s : FirmwareState} (hs : firmwareAfter board history = .ok s) :
    SourceSourced board history s where
  distance := by
    intro distanceCm hmem
    rw [distancesPut_eq_seenBy hs]
    exact ((qDistanceChannel board).accounted hs).next_mem_sent hmem
  angles := by
    intro text hmem
    rw [anglesMeasured_eq_seenBy hs]
    exact List.mem_append_left _ (((qAngleChannel board).accounted hs).next_mem_sent hmem)
  percent := by
    intro level hmem
    rcases Option.map_eq_some_iff.mp hmem with ⟨received, hreceive, rfl⟩
    exact ⟨received.1, ((percentsSent_of_run hs).receive? hreceive).1, rfl⟩

/-- A step of the display keeps to what it finds. -/
theorem ScreenSourced.step {board : Board} {past : List FirmwareInput} {s : FirmwareState}
    {d : Display} (h : ScreenSourced board past s d)
    (hs : firmwareAfter board past = .ok s) :
    ScreenSourced board past s (displayStep d s.oledSource) := by
  have hsource := sourceSourced_of_run hs
  have hinput := h.input
  have htimed := timed_displayStep d s.oledSource
  cases hpoint : d.point with
  | drawingDistance =>
      simp only [displayStep, hpoint] at htimed ⊢
      refine ⟨⟨?_, hinput.angles, hinput.percent, hinput.bits⟩, ?_, h.shown⟩
      · change s.oledSource.qDistance.getD d.input.distanceCm = 0 ∨ _
        cases hreceived : s.oledSource.qDistance with
        | none => exact hinput.distance
        | some distanceCm => exact Or.inr (hsource.distance distanceCm hreceived)
      · exact fun h => absurd (htimed h) (by decide)
  | readingBits =>
      simp only [displayStep, hpoint] at htimed ⊢
      exact ⟨⟨hinput.distance, hinput.angles, hinput.percent, was_now hs rfl⟩,
        fun h => absurd (htimed h) (by decide), h.shown⟩
  | updating =>
      simp only [displayStep, hpoint] at htimed ⊢
      refine ⟨⟨hinput.distance, hinput.angles, ?_, hinput.bits⟩, ?_, h.shown⟩
      · change s.oledSource.qOtaLevel.getD d.input.otaPercentUint = 0 ∨ _
        cases hreceived : s.oledSource.qOtaLevel with
        | none => exact hinput.percent
        | some level => exact Or.inr (hsource.percent level hreceived)
      · exact fun h => absurd (htimed h) (by decide)
  | readingTime =>
      simp only [displayStep, hpoint]
      exact ⟨⟨hinput.distance, hinput.angles, hinput.percent, hinput.bits⟩,
        fun _ => was_now hs rfl, h.shown⟩
  | drawingAngles =>
      simp only [displayStep, hpoint]
      refine ⟨⟨hinput.distance, ?_, hinput.percent, hinput.bits⟩, ?_, h.shown⟩
      · change s.oledSource.qAngle.getD d.input.angleTimeChar = [] ∨ _
        cases hreceived : s.oledSource.qAngle with
        | none => exact hinput.angles
        | some text => exact Or.inr (hsource.angles text hreceived)
      · exact fun _ => h.timed (Or.inl hpoint)
  | transmitting =>
      simp only [displayStep, hpoint] at htimed ⊢
      refine ⟨hinput, fun h => absurd (htimed h) (by decide), ?_⟩
      intro input hmem
      rcases List.mem_append.mp hmem with hold | hnew
      · exact h.shown input hold
      · rw [List.mem_singleton.mp hnew]
        exact ⟨hinput, h.timed (Or.inr hpoint)⟩

theorem screenSourced_of_run {board : Board} {history : List FirmwareInput}
    {s : FirmwareState} (hs : firmwareAfter board history = .ok s) :
    ScreenSourced board history s (displayAfter (seenBy board oledInputs history)) := by
  refine firmware_invariant
    (fun past s => ScreenSourced board past s (displayAfter (seenBy board oledInputs past)))
    (screenSourced_start board) ?_ ?_ hs
  · intro past i s hpast hidle hinv
    have hseen : seenBy board (anglesMeasured board) past <+:
        seenBy board (anglesMeasured board) (past ++ [i]) := by
      rw [seenBy_idle _ hpast hidle]
    rw [seenBy_idle oledInputs hpast hidle]
    exact hinv.later (List.prefix_refl _) (List.prefix_refl _) hseen
  · intro past i s s' hpast henabled hacted hinv
    have hseen : seenBy board (anglesMeasured board) past <+:
        seenBy board (anglesMeasured board) (past ++ [i]) := by
      rw [seenBy_enabled _ hpast henabled]
      exact List.prefix_append _ _
    have hputs : distancesPut s.uart <+: distancesPut s'.uart := by
      rw [distancesPut_acted hacted]
      exact List.prefix_append _ _
    rw [seenBy_enabled oledInputs hpast henabled]
    refine ScreenSourced.later ?_ hputs (trace_acted hacted) hseen
    cases i with
    | oled =>
        rw [oledInputs, displayAfter, stateAfter_snoc]
        exact hinv.step hpast
    | _ =>
        rw [oledInputs, List.append_nil]
        · exact hinv
        · exact fun h => by cases h

/-!
# What reaches the display
-/

/-- The percents are percents as long as the library reads no more than there is. -/
def CountsBytes (board : Board) (past : List FirmwareInput) : FirmwareInput -> Prop
  | .ota answer => Reached (firmwareAfter board past) fun s => answer.CountsBytes s.ota
  | _ => True

instance (board : Board) (past : List FirmwareInput) :
    (i : FirmwareInput) -> Decidable (CountsBytes board past i)
  | .ota _ => inferInstanceAs (Decidable (Reached _ _))
  | .appMain => isTrue trivial
  | .logs _ => isTrue trivial
  | .mqtt _ => isTrue trivial
  | .servo => isTrue trivial
  | .oled => isTrue trivial
  | .uart => isTrue trivial
  | .sensor => isTrue trivial
  | .motor _ => isTrue trivial
  | .imu _ => isTrue trivial
  | .alarm => isTrue trivial
  | .checkFails _ => isTrue trivial

theorem percentsBounded_of_run {board : Board} {history : List FirmwareInput}
    {s : FirmwareState} (hs : firmwareAfter board history = .ok s)
    (hcounts : EveryInput (CountsBytes board) history) : PercentsBounded s.ota := by
  refine firmware_invariant
    (fun past s => EveryInput (CountsBytes board) past -> PercentsBounded s.ota) ?_ ?_ ?_ hs
    hcounts
  · intro _
    exact ⟨(fun _ h => nomatch h), Nat.zero_le _⟩
  · intro past i s _ _ hinv hpast
    exact hinv (everyInput_snoc.mp hpast).1
  · intro past i s s' hs henabled hacted hinv hpast
    rcases everyInput_snoc.mp hpast with ⟨hcounts, hlast⟩
    have hbounded := hinv hcounts
    have hsystem : PercentsBounded s.otaSystem := ⟨hbounded.sent, hbounded.next⟩
    cases hacted with
    | ota hstep => exact percentsBounded_otaTask hsystem (hlast s hs) hstep
    | oled =>
        unfold FirmwareState.oledStep
        cases s.oled.point with
        | readingBits => exact percentsBounded_oledFrame hsystem
        | updating => exact percentsBounded_oledFrame hsystem
        | _ => exact hbounded
    | appMain =>
        have hota : (s.appMainStep board).ota = s.ota := samePart_of_acted .ota .appMain rfl
        rw [hota]
        exact hbounded
    | imu attempt =>
        have hota : (s.imuStep board attempt).ota = s.ota :=
          samePart_of_acted .ota (.imu attempt) rfl
        rw [hota]
        exact hbounded
    | _ => exact hbounded

theorem length_angles_le {board : Board} {history : List FirmwareInput} {text : List UInt8}
    (hmem : text ∈ seenBy board (anglesMeasured board) history) : text.length ≤ 63 := by
  rcases mem_observations hmem with ⟨_, i, mid, _, _, htext⟩
  split at htext
  · cases i with
    | imu attempt =>
        cases attempt with
        | failed rxBuf => cases htext
        | read rxBuf now =>
            rw [anglesMeasured] at htext
            split at htext
            · cases htext
            · rw [List.mem_singleton.mp htext]
              exact List.length_take_le _ _
    | _ => cases htext
  · cases htext

theorem valid_oledSource {board : Board} {history : List FirmwareInput} {s : FirmwareState}
    (hs : firmwareAfter board history = .ok s)
    (hcounts : EveryInput (CountsBytes board) history) : s.oledSource.Valid := by
  have hfound := sourceSourced_of_run hs
  have hbounded := percentsBounded_of_run hs hcounts
  constructor
  · intro text htext
    exact length_angles_le (hfound.angles text htext)
  · intro level hlevel
    rcases hfound.percent level hlevel with ⟨percent, hsent, rfl⟩
    have hle := hbounded.sent percent hsent
    rw [UInt32.toNat_ofNat_of_lt' (hle.trans_lt (by decide))]
    exact hle

theorem valid_oledInputs {board : Board} {history : List FirmwareInput}
    (hcounts : EveryInput (CountsBytes board) history) {source : OledSource}
    (hmem : source ∈ seenBy board oledInputs history) : source.Valid := by
  rcases mem_observations hmem with ⟨past, i, mid, hpast, hmid, hsource⟩
  split at hsource
  · cases i with
    | oled =>
        rw [oledInputs] at hsource
        rw [List.mem_singleton.mp hsource]
        have hpast' : past <+: history := (List.prefix_append past [_]).trans hpast
        exact valid_oledSource hmid (hcounts.of_past hpast')
    | _ => cases hsource
  · cases hsource

theorem levelDrawn_le {board : Board} {history : List FirmwareInput} {s : FirmwareState}
    (hs : firmwareAfter board history = .ok s)
    (hcounts : EveryInput (CountsBytes board) history) :
    (s.oled.levelDrawn s.oledSource).toNat ≤ 100 := by
  have hshows := shows_oledAfter fun source hmem => valid_oledInputs hcounts hmem
  have hkept : s.oled.otaPercentUint.toNat ≤ 100 := by
    cases sameOled_of_run hs with
    | before _ holed _ =>
        rw [holed]
        exact Nat.zero_le _
    | behind _ holed =>
        rw [holed, hshows.input_eq]
        exact hshows.valid.2
  rw [OledTask.levelDrawn]
  cases hreceived : s.oledSource.qOtaLevel with
  | none => exact hkept
  | some level => exact (valid_oledSource hs hcounts).2 level hreceived

/-- The values of the frames that have been shown, in order. -/
def framesShown (board : Board) (history : List FirmwareInput) : List FrameInput :=
  (displayAfter (seenBy board oledInputs history)).shown

theorem transmitted_of_run {board : Board} {history : List FirmwareInput}
    {s : FirmwareState} (hs : firmwareAfter board history = .ok s)
    (hcounts : EveryInput (CountsBytes board) history) :
    s.oled.transmitted =
      (if OledReady board s then [initCmd, screenBytes blank] else []) ++
        (framesShown board history).flatMap frameTransfers := by
  have hshows := shows_oledAfter fun source hmem => valid_oledInputs hcounts hmem
  have himages := hshows.transmitted
  cases sameOled_of_run hs with
  | before hnot holed hboot =>
      rw [hboot] at himages
      rw [holed, if_neg hnot, framesShown, List.self_eq_append_right.mp himages]
      rfl
  | behind hready holed =>
      rw [holed, if_pos hready, <- transmitted_boot]
      exact himages

/--
Behind the transfers of `oled_init`, the display receives the frames shown, and each is
the image of values that were measured, sent or set on the way.
-/
theorem screen_shows_sources {board : Board} {history : List FirmwareInput}
    {s : FirmwareState} (hs : firmwareAfter board history = .ok s)
    (hcounts : EveryInput (CountsBytes board) history) :
    s.oled.transmitted =
        (if OledReady board s then [initCmd, screenBytes blank] else []) ++
          (framesShown board history).flatMap frameTransfers ∧
      forall input, input ∈ framesShown board history ->
        Sourced board history s input ∧ Timed board history input :=
  ⟨transmitted_of_run hs hcounts, (screenSourced_of_run hs).shown⟩

/-- No byte is counted twice in the download of `quietRun`. -/
theorem quietRun_counts : EveryInput (CountsBytes quietBoard) quietRun := by
  decide +kernel

theorem quietRun_screen_shows_sources :
    exists s, firmwareAfter quietBoard quietRun = .ok s ∧
      s.oled.transmitted =
        (if OledReady quietBoard s then [initCmd, screenBytes blank] else []) ++
          (framesShown quietBoard quietRun).flatMap frameTransfers ∧
      forall input, input ∈ framesShown quietBoard quietRun ->
        Sourced quietBoard quietRun s input ∧ Timed quietBoard quietRun input := by
  rcases quietRun_ok with ⟨s, hs, _⟩
  exact ⟨s, hs, screen_shows_sources hs quietRun_counts⟩

end Tasks
end CarCleaner
