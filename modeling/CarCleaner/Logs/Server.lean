import CarCleaner.Foundation.Leftovers
import CarCleaner.Foundation.Utf8
import CarCleaner.Logs.Delivery

/-!
# The server of the logs

The server prints every datagram as text, behind the address that it comes from.  Some
datagrams of the firmware are whole slots of early logs with zero bytes behind the text,
and a log that does not fit into its array may end inside a character.  On the console
there are the texts of the logs, as far as they fit.
-/

namespace CarCleaner
namespace Logs

open Foundation
open Firmware
open Wifi

/-!
# The server
-/

/-- What a turn of the loop ends with: a datagram or one of the two exceptions. -/
inductive ServerInput where
  | received (ip : List Char) (data : List UInt8)
  | keyboardInterrupt
  | exception (e : List Char)
deriving DecidableEq

structure Server where
  console : List Char
  running : Bool
deriving DecidableEq

def Server.boot : Server where
  console := []
  running := true

/-- At most the first KiB of a datagram, without what is no character. -/
def logMessage (data : List UInt8) : List Char :=
  decodeIgnore (data.take 1024)

def printedMessage (ip message : List Char) : List Char :=
  '[' :: ip ++ ']' :: ' ' :: message

/-- A turn of the loop. -/
def serverStep (s : Server) (i : ServerInput) : Server :=
  if s.running then
    match i with
    | .received ip data =>
        { s with console := s.console ++ printedMessage ip (logMessage data) }
    | .keyboardInterrupt =>
        { console := s.console ++ "\nSERVER STOP\n".toList, running := false }
    | .exception e =>
        { s with console := s.console ++ ("\nERROR CODE:".toList ++ e ++ ['\n']) }
  else
    s

def serverAfter (history : List ServerInput) : Server :=
  stateAfter serverStep Server.boot history

theorem serverAfter_received (ip : List Char) (received : List (List UInt8)) :
    serverAfter (received.map (.received ip)) =
      { console := received.flatMap fun data => printedMessage ip (logMessage data)
        running := true } := by
  induction received using List.reverseRecOn with
  | nil =>
      rfl
  | append_singleton past data ih =>
      rw [List.map_append, List.map_singleton, serverAfter, stateAfter_snoc, <- serverAfter, ih,
        List.flatMap_append, List.flatMap_singleton]
      rfl

/-!
# Datagrams of the firmware

A slot is written at most once, as long as the early logs fit into the buffer, so that
there is nothing behind its text but the zero bytes of the start.
-/

/-- A text that fits into the arrays, with zero bytes behind it. -/
def Padded (data : List UInt8) : Prop :=
  data.length ≤ 256 ∧ exists k, data = cString data ++ List.replicate k 0

theorem padded_cString (bytes : CharArray 256) : Padded bytes.text := by
  constructor
  · exact (List.takeWhile_prefix _).length_le.trans bytes.length_eq.le
  · exact ⟨0, by rw [CharArray.text, cString_cString, List.replicate_zero, List.append_nil]⟩

theorem padded_vsnprintf_zeros {text : List UInt8} (h : 0 ∉ text) :
    Padded ((CharArray.zeros earlyLogSize).vsnprintf text).bytes := by
  have hpos : 0 < earlyLogSize := by
    decide
  have hlength := ((CharArray.zeros earlyLogSize).vsnprintf text).length_eq
  have htext := CharArray.text_vsnprintf hpos (CharArray.zeros earlyLogSize) text
  have hbytes := (CharArray.bytes_vsnprintf_eq_paddedText_iff hpos _ h).mpr
    (CharArray.zeroBeyond_zeros _)
  rw [CharArray.text] at htext
  refine ⟨hlength.le.trans (by decide),
    earlyLogSize - (snprintfBytes earlyLogSize text).length, ?_⟩
  rw [htext]
  exact hbytes

structure SlotsPadded (s : LogSystem) : Prop where
  sent : forall data, data ∈ s.sent -> Padded data
  kept : forall slot, slot ∈ s.earlyLogBuf.kept -> Padded slot.bytes
  fresh : s.sock < 0 -> forall slot, slot ∈ s.earlyLogBuf.fresh ->
    slot = CharArray.zeros earlyLogSize

theorem SlotsPadded.of_same {s s' : LogSystem} (h : SlotsPadded s) (hsent : s'.sent = s.sent)
    (hearly : s'.earlyLogBuf = s.earlyLogBuf) (hsock : s'.sock < 0 -> s.sock < 0) :
    SlotsPadded s' := by
  constructor
  · rw [hsent]
    exact h.sent
  · rw [hearly]
    exact h.kept
  · intro hneg
    rw [hearly]
    exact h.fresh (hsock hneg)

theorem SlotsPadded.log_offline {past : List LogInput} {s : LogSystem} {text : List UInt8}
    {stack : CharArray 256} (h : SlotsPadded s) (hinv : Delivered past s)
    (hs : logsAfter past = .ok s) (hassumed : Assumed past (.log text stack))
    (hfree : 0 ∉ text) (honline : ¬ s.Online) :
    SlotsPadded (newHookPapertrailFunction s text stack) := by
  have hsock := hinv.sock_of_not_online honline
  have hroom : s.earlyLogBuf.next < earlyLogBufSize := by
    rw [(hinv.early hsock).2]
    exact (hassumed s hs).2 hsock
  rw [newHookPapertrailFunction_of_not_online honline]
  cases hfresh : s.earlyLogBuf.fresh with
  | nil =>
      have hlength := congrArg List.length hfresh
      rw [WrappedBuffer.fresh, List.length_drop, s.earlyLogBuf.length_eq, List.length_nil,
        Nat.sub_eq_zero_iff_le] at hlength
      exact absurd hroom (not_lt.mpr hlength)
  | cons slot rest =>
      have hslots := h.fresh hsock
      rw [hfresh] at hslots
      rcases WrappedBuffer.store_of_fresh hfresh (fun slot => slot.vsnprintf text) with
        ⟨hkept, hrest⟩
      constructor
      · exact h.sent
      · intro slot' hslot'
        change slot' ∈ (s.earlyLogBuf.store _).kept at hslot'
        rw [hkept] at hslot'
        rcases List.mem_append.mp hslot' with hold | hnew
        · exact h.kept slot' hold
        · rw [List.mem_singleton.mp hnew, hslots slot List.mem_cons_self]
          exact padded_vsnprintf_zeros hfree
      · intro _ slot' hslot'
        change slot' ∈ (s.earlyLogBuf.store _).fresh at hslot'
        rw [hrest] at hslot'
        exact hslots slot' (List.mem_cons_of_mem _ hslot')

theorem SlotsPadded.drain {s : LogSystem} (h : SlotsPadded s) (hpoint : s.point = .draining)
    (socket : Int) : SlotsPadded (espLogsPapertrailTask s socket) := by
  simp only [espLogsPapertrailTask, hpoint]
  split
  · next hpos =>
      constructor
      · intro data hdata
        rcases List.mem_append.mp hdata with hold | hnew
        · exact h.sent data hold
        · rcases List.mem_map.mp hnew with ⟨slot, hslot, rfl⟩
          exact h.kept slot hslot
      · intro slot hslot
        cases hslot
      · intro hneg
        exact absurd hpos (not_le.mpr hneg)
  · exact h.of_same rfl rfl fun hneg => hneg

theorem SlotsPadded.send {s : LogSystem} (h : SlotsPadded s) (hpoint : s.point = .sending)
    (socket : Int) : SlotsPadded (espLogsPapertrailTask s socket) := by
  simp only [espLogsPapertrailTask, hpoint]
  split
  · constructor
    · intro data hdata
      rcases List.mem_append.mp hdata with hold | hnew
      · exact h.sent data hold
      · rw [List.mem_singleton.mp hnew]
        exact padded_cString s.logBuffer
    · exact h.kept
    · exact h.fresh
  · exact h.of_same rfl rfl fun hneg => hneg

theorem SlotsPadded.sender {s : LogSystem} {socket : Int} (h : SlotsPadded s)
    (hcreate : s.point = .creatingSocket -> 0 ≤ socket) :
    SlotsPadded (espLogsPapertrailTask s socket) := by
  cases hpoint : s.point with
  | waitingForIp =>
      simp only [espLogsPapertrailTask, hpoint]
      split
      · exact h.of_same rfl rfl fun hneg => hneg
      · exact h
  | creatingSocket =>
      simp only [espLogsPapertrailTask, hpoint]
      exact h.of_same rfl rfl fun hneg => absurd (hcreate hpoint) (not_le.mpr hneg)
  | waitingForBit =>
      simp only [espLogsPapertrailTask, hpoint]
      split
      · exact h.of_same rfl rfl fun hneg => hneg
      · exact h
  | receiving =>
      simp only [espLogsPapertrailTask, hpoint]
      split
      · exact h.of_same rfl rfl fun hneg => hneg
      · exact h.of_same rfl rfl fun hneg => hneg
  | draining =>
      exact h.drain hpoint socket
  | sending =>
      exact h.send hpoint socket

/-!
# Texts of the logs
-/

/-- A log is a text without the character zero. -/
def LogInput.IsText : LogInput -> Prop
  | .log text _ => exists chars, text = utf8 chars ∧ '\x00' ∉ chars
  | _ => True

/-- The characters of a log that fit into the array of its path. -/
def fittedText (s : LogSystem) : LogInput -> List (List Char)
  | .log text _ =>
      if s.Online then
        [fitting 255 (decodeIgnore text)]
      else
        [fitting (earlyLogSize - 1) (decodeIgnore text)]
  | _ => []

def fittedLogs (history : List LogInput) : List (List Char) :=
  observations logStep fittedText LogSystem.boot history

theorem LogInput.IsText.zero_not_mem {text : List UInt8} {stack : CharArray 256}
    (h : (LogInput.log text stack).IsText) : 0 ∉ text := by
  rcases h with ⟨chars, rfl, hfree⟩
  exact zero_not_mem_utf8 hfree

theorem slotsPadded_of_assumed {history : List LogInput} (h : EveryInput Assumed history)
    (htexts : forall i, i ∈ history -> i.IsText) :
    forall s, logsAfter history = .ok s -> SlotsPadded s := by
  revert htexts
  refine h.induction (fun history => (forall i, i ∈ history -> i.IsText) ->
    forall s, logsAfter history = .ok s -> SlotsPadded s) ?_ ?_
  · intro _ s hs
    cases hs
    exact ⟨nofun, nofun, fun _ slot hslot => List.eq_of_mem_replicate hslot⟩
  · intro past i hpast hi ih htexts s' hs'
    rcases outcomeAfter_snoc_ok hs' with ⟨s, hs, hstep⟩
    have hslots := ih (fun j hj => htexts j (List.mem_append_left _ hj)) s hs
    cases i with
    | wifi event driver =>
        rcases logStep_wifi hstep with ⟨eTasks, rfl, _⟩
        exact hslots.of_same rfl rfl fun hneg => hneg
    | log text stack =>
        cases hstep
        by_cases honline : s.Online
        · rw [newHookPapertrailFunction_of_online honline]
          exact hslots.of_same rfl rfl fun hneg => hneg
        · have hfree := (htexts (.log text stack) (by simp)).zero_not_mem
          exact hslots.log_offline (delivered_of_assumed hpast s hs) hs hi hfree honline
    | sender socket =>
        cases hstep
        exact hslots.sender (hi s hs)

/-- What the recorded bytes are read as. -/
theorem map_decodeIgnore_recordedLogs {history : List LogInput} {s : LogSystem}
    (hs : logsAfter history = .ok s) (htexts : forall i, i ∈ history -> i.IsText) :
    (recordedLogs history).map decodeIgnore = fittedLogs history := by
  revert htexts
  refine reached_invariant (fun history _ => (forall i, i ∈ history -> i.IsText) ->
    (recordedLogs history).map decodeIgnore = fittedLogs history) ?_ ?_ hs
  · intro _
    rfl
  · intro past i s s' hpast ih _ htexts
    have hfitted : fittedLogs (past ++ [i]) = fittedLogs past ++ fittedText s i :=
      observations_snoc i fittedText hpast
    rw [recordedLogs_snoc hpast, hfitted, List.map_append,
      ih fun j hj => htexts j (List.mem_append_left _ hj), List.append_cancel_left_eq]
    cases i with
    | wifi event driver => rfl
    | sender socket => rfl
    | log text stack =>
        have htext := htexts (.log text stack) (by simp)
        have hfree := htext.zero_not_mem
        rcases htext with ⟨chars, hchars, _⟩
        have hdecoded : decodeIgnore text = chars := by
          have happend := decodeIgnore_utf8_append chars []
          rw [List.append_nil, <- hchars] at happend
          rw [happend]
          exact List.append_nil chars
        rw [recordedText, fittedText, hdecoded, snprintfBytes_of_nul_free hfree,
          snprintfBytes_of_nul_free hfree, hchars]
        split
        · rw [List.map_singleton, decodeIgnore_take_utf8]
        · rw [List.map_singleton, decodeIgnore_take_utf8]

/-!
# The console
-/

theorem Padded.visible_logMessage {data : List UInt8} (h : Padded data) :
    visible (logMessage data) = decodeIgnore (cString data) := by
  rcases h with ⟨hlength, k, hdata⟩
  rw [logMessage, List.take_of_length_le (hlength.trans (by decide))]
  conv_lhs => rw [hdata]
  exact visible_decodeIgnore_padded (zero_not_mem_cString data) k

theorem visible_printedMessage {ip : List Char} (hip : '\x00' ∉ ip) (message : List Char) :
    visible (printedMessage ip message) = printedMessage ip (visible message) := by
  have hprefix : '\x00' ∉ '[' :: ip ++ [']', ' '] := by
    simpa using hip
  have hsplit : forall text, printedMessage ip text = ('[' :: ip ++ [']', ' ']) ++ text := by
    intro text
    simp [printedMessage]
  rw [hsplit, hsplit, visible, List.filter_append]
  change visible ('[' :: ip ++ [']', ' ']) ++ visible message = _
  rw [visible_of_nul_free hprefix]

/--
The console shows texts of logs in the order of the logs, each once, and without a part of
a broken character; those that it does not show are on the way, unless the network has lost
them.
-/
theorem console_shows_logs {history : List LogInput} {s : LogSystem} {ip : List Char}
    {received : List (List UInt8)} (hassumed : EveryInput Assumed history)
    (htexts : forall i, i ∈ history -> i.IsText) (hs : logsAfter history = .ok s)
    (hip : '\x00' ∉ ip) (hreceived : received.Sublist s.sent) :
    exists shown : List (List Char),
      visible (serverAfter (received.map (.received ip))).console =
          shown.flatMap (printedMessage ip) ∧
        shown.Sublist (fittedLogs history) ∧
        (received = s.sent ->
          shown ++ (s.earlyTexts ++ s.heldTexts ++ s.queuedTexts).map decodeIgnore =
            fittedLogs history) := by
  have hslots := slotsPadded_of_assumed hassumed htexts s hs
  have hlogs : (s.sent.map fun data => decodeIgnore (cString data)) ++
      (s.earlyTexts ++ s.heldTexts ++ s.queuedTexts).map decodeIgnore = fittedLogs history := by
    have hrecorded := congrArg (List.map decodeIgnore)
      (delivered_of_assumed hassumed s hs).recorded
    rw [map_decodeIgnore_recordedLogs hs htexts] at hrecorded
    rw [<- hrecorded, LogSystem.texts, LogSystem.sentTexts]
    simp
  refine ⟨received.map fun data => decodeIgnore (cString data), ?_, ?_, ?_⟩
  · rw [serverAfter_received, visible, List.filter_flatMap, List.flatMap_map]
    apply List.flatMap_congr
    intro data hdata
    change visible _ = _
    rw [visible_printedMessage hip,
      (hslots.sent data (hreceived.subset hdata)).visible_logMessage]
  · rw [<- hlogs]
    exact (hreceived.map _).trans (List.sublist_append_left _ _)
  · intro hall
    rw [hall]
    exact hlogs

/-- A log in front of the address, one that does not fit, and one on its way. -/
def consoleRun : List LogInput :=
  [.log (utf8 "früh\n".toList) (CharArray.zeros 256),
    .wifi (.staGotIp [192, 168, 0, 7]) ⟨.ok, .ok⟩, .sender 54, .sender 54, .sender 54,
    .sender 54, .sender 54,
    .log (utf8 (List.replicate 254 'a' ++ "ü\n".toList)) (CharArray.zeros 256),
    .sender 54, .sender 54, .sender 54, .sender 54, .sender 54,
    .log (utf8 "bereit\n".toList) (CharArray.zeros 256)]

theorem console_shows_logs_consoleRun :
    exists s, logsAfter consoleRun = .ok s ∧ s.sent.length = 2 ∧
      exists shown : List (List Char),
        visible (serverAfter (s.sent.map (.received "192.168.0.7".toList))).console =
            shown.flatMap (printedMessage "192.168.0.7".toList) ∧
          shown.Sublist (fittedLogs consoleRun) ∧
          shown ++ (s.earlyTexts ++ s.heldTexts ++ s.queuedTexts).map decodeIgnore =
            fittedLogs consoleRun := by
  have htexts : forall i, i ∈ consoleRun -> i.IsText := by
    simp only [consoleRun, List.forall_mem_cons]
    exact ⟨⟨_, rfl, by decide⟩, trivial, trivial, trivial, trivial, trivial, trivial,
      ⟨_, rfl, by decide +kernel⟩, trivial, trivial, trivial, trivial, trivial,
      ⟨_, rfl, by decide⟩, nofun⟩
  refine ⟨_, rfl, by decide +kernel, ?_⟩
  have hip : '\x00' ∉ "192.168.0.7".toList := by
    decide
  rcases console_shows_logs (by decide +kernel) htexts rfl hip (List.Sublist.refl _) with
    ⟨shown, hconsole, hsublist, hall⟩
  exact ⟨shown, hconsole, hsublist, hall rfl⟩

end Logs
end CarCleaner
