import CarCleaner.Tasks.Screen

/-!
# The clock on the screen

`time_sync` sets the clock once, the timer counts it on, and nothing sets it back.  The
display is created behind `time_sync`, so every frame shows a time that is no earlier than
the one of the frame in front of it, and none shows a time before the synchronisation.
-/

namespace CarCleaner
namespace Tasks

open Foundation
open Firmware
open Oled
open Clock

/-- `time_sync` has set the clock and its bit. -/
def Synced (board : Board) (s : FirmwareState) : Prop :=
  .call "time_sync" ∈ s.boot.done board.branches

theorem timeSync_once (branches : BootBranches) :
    (appMain branches).count (.call "time_sync") = 1 := by
  rcases branches with ⟨_ | _, _ | _⟩ <;> decide

/-!
# Steps
-/

section

variable {board : Board} {s s' : FirmwareState} {i : FirmwareInput}

theorem synced_of_oledTask (h : s.Running board .oledTask) : Synced board s := by
  refine mem_done_of_before ?_ ?_ h
  · exact List.count_pos_iff.mp (timeSync_once board.branches).symm.le
  · rcases board.branches with ⟨_ | _, _ | _⟩ <;> decide

theorem synced_appMainStep_iff :
    Synced board (s.appMainStep board) <->
      Synced board s ∨ (appMain board.branches)[s.pc]? = some (.call "time_sync") :=
  mem_done_appMainStep_iff (by decide)

theorem synced_iff_of_pc (hpc : s'.pc = s.pc) : Synced board s' <-> Synced board s := by
  rw [Synced, Synced, done_eq_of_pc hpc]

theorem now_appMainStep_of_not_at
    (h : (appMain board.branches)[s.pc]? ≠ some (.call "time_sync")) :
    (s.appMainStep board).now = s.now := by
  simp only [FirmwareState.appMainStep, if_neg h]
  split
  · rfl
  · rfl

theorem Synced.acted (h : Synced board s) (hacted : Acted board s i s') :
    Synced board s' ∧ s.now ≤ s'.now := by
  by_cases hi : i = .appMain
  · subst hi
    cases hacted
    have hnot : (appMain board.branches)[s.pc]? ≠ some (.call "time_sync") :=
      fun hat => not_mem_done_of_at (timeSync_once board.branches) hat h
    exact ⟨synced_appMainStep_iff.mpr (Or.inl h), (now_appMainStep_of_not_at hnot).ge⟩
  · refine ⟨(synced_iff_of_pc (pc_of_acted hi hacted)).mpr h, ?_⟩
    by_cases halarm : i = .alarm
    · subst halarm
      cases hacted
      exact Nat.le_succ _
    · have hnow : s'.now = s.now := by
        refine samePart_of_acted .now hacted ?_
        cases i with
        | appMain => exact absurd rfl hi
        | alarm => exact absurd rfl halarm
        | _ => rfl
      exact hnow.ge

/-- Only the call of `time_sync` synchronises the clock. -/
theorem timeSync_of_sync (h : ¬ Synced board s) (hacted : Acted board s i s')
    (h' : Synced board s') :
    i = .appMain ∧ (appMain board.branches)[s.pc]? = some (.call "time_sync") := by
  by_cases hi : i = .appMain
  · subst hi
    cases hacted
    exact ⟨rfl, (synced_appMainStep_iff.mp h').resolve_left h⟩
  · exact absurd ((synced_iff_of_pc (pc_of_acted hi hacted)).mp h') h

theorem now_of_sync (h : ¬ Synced board s) (hacted : Acted board s i s')
    (h' : Synced board s') : s'.now = board.sntpTime := by
  rcases timeSync_of_sync h hacted h' with ⟨rfl, hat⟩
  cases hacted
  simp only [FirmwareState.appMainStep, if_pos hat]

end

/-!
# Runs
-/

/-- The clocks of the frames shown so far, in order, and that of the frame being drawn. -/
structure ClockShown (board : Board) (s : FirmwareState) (d : Display) (clocks : List Nat) :
    Prop where
  shown : d.shown.map FrameInput.timeinfo = clocks.map localtimeR
  sorted : clocks.Pairwise fun earlier later => earlier ≤ later
  bounds : forall clock, clock ∈ clocks -> board.sntpTime ≤ clock ∧ clock ≤ s.now
  drawn : d.point = .drawingAngles ∨ d.point = .transmitting ->
    exists clock, d.input.timeinfo = localtimeR clock ∧ board.sntpTime ≤ clock ∧
      clock ≤ s.now ∧ forall earlier, earlier ∈ clocks -> earlier ≤ clock

theorem clockShown_boot (board : Board) (s : FirmwareState) :
    ClockShown board s .boot [] where
  shown := rfl
  sorted := List.Pairwise.nil
  bounds _ h := nomatch h
  drawn h := h.elim nofun nofun

theorem ClockShown.later {board : Board} {s s' : FirmwareState} {d : Display}
    {clocks : List Nat} (h : ClockShown board s d clocks) (hnow : s.now ≤ s'.now) :
    ClockShown board s' d clocks where
  shown := h.shown
  sorted := h.sorted
  bounds clock hmem := ⟨(h.bounds clock hmem).1, (h.bounds clock hmem).2.trans hnow⟩
  drawn := by
    intro hpoint
    rcases h.drawn hpoint with ⟨clock, htime, hlow, hhigh, hearlier⟩
    exact ⟨clock, htime, hlow, hhigh.trans hnow, hearlier⟩

theorem ClockShown.step {board : Board} {s : FirmwareState} {d : Display}
    {clocks : List Nat} (h : ClockShown board s d clocks) (hnow : board.sntpTime ≤ s.now) :
    exists clocks', ClockShown board s (displayStep d s.oledSource) clocks' := by
  have htimed := timed_displayStep d s.oledSource
  cases hpoint : d.point with
  | drawingDistance =>
      simp only [displayStep, hpoint] at htimed ⊢
      exact ⟨clocks, h.shown, h.sorted, h.bounds, fun h => absurd (htimed h) (by decide)⟩
  | readingBits =>
      simp only [displayStep, hpoint] at htimed ⊢
      exact ⟨clocks, h.shown, h.sorted, h.bounds, fun h => absurd (htimed h) (by decide)⟩
  | updating =>
      simp only [displayStep, hpoint] at htimed ⊢
      exact ⟨clocks, h.shown, h.sorted, h.bounds, fun h => absurd (htimed h) (by decide)⟩
  | readingTime =>
      simp only [displayStep, hpoint]
      refine ⟨clocks, h.shown, h.sorted, h.bounds, fun _ => ?_⟩
      exact ⟨s.now, rfl, hnow, le_rfl, fun earlier hmem => (h.bounds earlier hmem).2⟩
  | drawingAngles =>
      simp only [displayStep, hpoint]
      exact ⟨clocks, h.shown, h.sorted, h.bounds, fun _ => h.drawn (Or.inl hpoint)⟩
  | transmitting =>
      simp only [displayStep, hpoint] at htimed ⊢
      rcases h.drawn (Or.inr hpoint) with ⟨clock, htime, hlow, hhigh, hearlier⟩
      refine ⟨clocks ++ [clock], ?_, ?_, ?_, fun h => absurd (htimed h) (by decide)⟩
      · rw [List.map_append, List.map_append, h.shown, List.map_singleton, List.map_singleton,
          htime]
      · refine List.pairwise_append.mpr ⟨h.sorted, List.pairwise_singleton _ _, ?_⟩
        intro earlier hmem later hlater
        rw [List.mem_singleton.mp hlater]
        exact hearlier earlier hmem
      · intro other hmem
        rcases List.mem_append.mp hmem with hold | hnew
        · exact h.bounds other hold
        · rw [List.mem_singleton.mp hnew]
          exact ⟨hlow, hhigh⟩

/-- The clock is valid once it is synchronised, and no frame is drawn before. -/
structure ClockInv (board : Board) (history : List FirmwareInput) (s : FirmwareState) : Prop where
  synced : Synced board s -> board.sntpTime ≤ s.now
  unsynced : ¬ Synced board s -> displayAfter (seenBy board oledInputs history) = .boot
  clocks : exists clocks,
    ClockShown board s (displayAfter (seenBy board oledInputs history)) clocks

theorem ClockInv.acted {board : Board} {past : List FirmwareInput} {s s' : FirmwareState}
    {i : FirmwareInput} (h : ClockInv board past s) (hpast : firmwareAfter board past = .ok s)
    (henabled : s.Enabled board i) (hacted : Acted board s i s') :
    ClockInv board (past ++ [i]) s' := by
  have hseen := seenBy_enabled oledInputs hpast henabled
  by_cases hsynced : Synced board s
  · rcases hsynced.acted hacted with ⟨hsynced', hnow⟩
    refine ⟨fun _ => (h.synced hsynced).trans hnow, fun hnot => absurd hsynced' hnot, ?_⟩
    rcases h.clocks with ⟨clocks, hclocks⟩
    rw [hseen]
    cases i with
    | oled =>
        rw [oledInputs, displayAfter, stateAfter_snoc]
        rcases hclocks.step (h.synced hsynced) with ⟨clocks', hclocks'⟩
        exact ⟨clocks', hclocks'.later hnow⟩
    | _ => exact ⟨clocks, (List.append_nil (seenBy board oledInputs past)).symm ▸
        hclocks.later hnow⟩
  · have hboot := h.unsynced hsynced
    have hsame : seenBy board oledInputs (past ++ [i]) = seenBy board oledInputs past := by
      rw [hseen]
      cases i with
      | oled => exact absurd (synced_of_oledTask henabled.2) hsynced
      | _ => exact List.append_nil _
    refine ⟨fun hsynced' => (now_of_sync hsynced hacted hsynced').ge, fun _ => ?_, [], ?_⟩
    · rw [hsame]
      exact hboot
    · rw [hsame, hboot]
      exact clockShown_boot board s'

theorem clockInv_of_run {board : Board} {history : List FirmwareInput} {s : FirmwareState}
    (hs : firmwareAfter board history = .ok s) : ClockInv board history s := by
  refine firmware_invariant (ClockInv board) ?_ ?_ ?_ hs
  · exact ⟨fun h => absurd h List.not_mem_nil, fun _ => rfl, [], clockShown_boot board _⟩
  · intro past i s hpast hidle hinv
    have hseen := seenBy_idle oledInputs hpast hidle
    refine ⟨hinv.synced, ?_, ?_⟩
    · rw [hseen]
      exact hinv.unsynced
    · rw [hseen]
      exact hinv.clocks
  · intro past i s s' hpast henabled hacted hinv
    exact hinv.acted hpast henabled hacted

/-- The clocks of the frames never go back, and none is from before the synchronisation. -/
theorem clocks_of_frames {board : Board} {history : List FirmwareInput} {s : FirmwareState}
    (hs : firmwareAfter board history = .ok s)
    (hcounts : EveryInput (CountsBytes board) history) :
    s.oled.transmitted =
        (if OledReady board s then [initCmd, screenBytes blank] else []) ++
          (framesShown board history).flatMap frameTransfers ∧
      exists clocks : List Nat,
        (framesShown board history).map FrameInput.timeinfo = clocks.map localtimeR ∧
          clocks.Pairwise (fun earlier later => earlier ≤ later) ∧
          forall clock, clock ∈ clocks -> board.sntpTime ≤ clock ∧ clock ≤ s.now := by
  rcases (clockInv_of_run hs).clocks with ⟨clocks, hclocks⟩
  exact ⟨transmitted_of_run hs hcounts, clocks, hclocks.shown, hclocks.sorted, hclocks.bounds⟩

theorem quietRun_clocks_of_frames :
    exists s clocks, firmwareAfter quietBoard quietRun = .ok s ∧
      s.oled.transmitted =
        (if OledReady quietBoard s then [initCmd, screenBytes blank] else []) ++
          (framesShown quietBoard quietRun).flatMap frameTransfers ∧
      (framesShown quietBoard quietRun).map FrameInput.timeinfo = List.map localtimeR clocks ∧
      clocks.Pairwise (fun earlier later => earlier ≤ later) ∧
      forall clock, clock ∈ clocks -> quietBoard.sntpTime ≤ clock ∧ clock ≤ s.now := by
  rcases quietRun_ok with ⟨s, hs, _⟩
  rcases clocks_of_frames hs quietRun_counts with ⟨htransmitted, clocks, hclocks⟩
  exact ⟨s, clocks, hs, htransmitted, hclocks⟩

end Tasks
end CarCleaner
