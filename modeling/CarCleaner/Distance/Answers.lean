import CarCleaner.Distance.Task

/-!
# Which answers a distance comes from

Between a flush and the read that follows it the driver holds exactly the bytes that
arrived in between, so a distance is made of the first two bytes behind the flush.  Both
belong to one answer when the flush fell between two answers.  Nothing in the protocol
marks where an answer begins: a flush that falls between the two bytes of an answer
pairs its low byte with the high byte of the next one.
-/

namespace CarCleaner
namespace Distance

open Foundation

variable {answers : Nat -> Answer} {s : UartSystem}

/-- The bytes that arrived while the count went from `first` to `last`. -/
def bytesBetween (answers : Nat -> Answer) (first last : Nat) : List UInt8 :=
  (List.range' first (last - first)).map (sensorByte answers)

theorem bytesBetween_self (n : Nat) : bytesBetween answers n n = [] := by
  rw [bytesBetween, Nat.sub_self, List.range'_zero, List.map_nil]

theorem bytesBetween_succ {first last : Nat} (h : first ≤ last) :
    bytesBetween answers first (last + 1) =
      bytesBetween answers first last ++ [sensorByte answers last] := by
  rw [bytesBetween, Nat.succ_sub h, List.range'_concat, List.map_append, Nat.one_mul,
    Nat.add_sub_cancel' h]
  rfl

theorem bytesBetween_eq_cons_cons {first last : Nat} {high low : UInt8} {rest : List UInt8}
    (h : bytesBetween answers first last = high :: low :: rest) :
    high = sensorByte answers first ∧ low = sensorByte answers (first + 1) := by
  have hlength : 2 ≤ last - first := by
    have hlen := congrArg List.length h
    simp only [bytesBetween, List.length_map, List.length_range', List.length_cons] at hlen
    omega
  rcases Nat.exists_eq_add_of_le hlength with ⟨more, hmore⟩
  rw [bytesBetween, hmore, Nat.add_comm, List.range'_succ, List.range'_succ] at h
  simp only [List.map_cons, List.cons.injEq] at h
  exact ⟨h.1.symm, h.2.1.symm⟩

/-- The distance is made of two consecutive bytes of the sensor. -/
def Put.FromBytes (answers : Nat -> Answer) (put : Put) : Prop :=
  put.distanceCm =
    distanceCmOf
      (bigEndian (sensorByte answers put.flushedAt) (sensorByte answers (put.flushedAt + 1)))

def WasPut (puts : List Put) (distanceCm : Rat) : Prop :=
  exists put, put ∈ puts ∧ put.distanceCm = distanceCm

theorem WasPut.append {puts : List Put} {distanceCm : Rat} (h : WasPut puts distanceCm)
    (put : Put) : WasPut (puts ++ [put]) distanceCm := by
  rcases h with ⟨older, hmem, heq⟩
  exact ⟨older, List.mem_append_left _ hmem, heq⟩

theorem wasPut_append_self (puts : List Put) (put : Put) :
    WasPut (puts ++ [put]) put.distanceCm :=
  ⟨put, by simp, rfl⟩

theorem all_receiveRest {P : Rat -> Prop} {q : BoundedQueue Rat 10}
    (h : BoundedQueue.All P q) : BoundedQueue.All P (receiveRest q) := by
  unfold receiveRest
  cases hreceive : q.receive? with
  | none => exact h
  | some received => exact (h.receive? hreceive).2

structure LineInv (answers : Nat -> Answer) (s : UartSystem) : Prop where
  flushedAt_le : s.flushedAt ≤ s.arrived
  received_eq : s.point ≠ .flushing ->
    s.received = bytesBetween answers s.flushedAt s.arrived
  puts_fromBytes : forall put, put ∈ s.puts -> put.FromBytes answers
  qDistancePid_put : s.qDistancePid.All (WasPut s.puts)
  qDistance_put : s.qDistance.All (WasPut s.puts)

theorem lineInv_initial : LineInv answers .initial where
  flushedAt_le := le_rfl
  received_eq h := absurd rfl h
  puts_fromBytes _ h := nomatch h
  qDistancePid_put := BoundedQueue.all_empty _
  qDistance_put := BoundedQueue.all_empty _

theorem LineInv.uartReadBytes (h : LineInv answers s) (hpoint : s.point = .reading) :
    LineInv answers (uartReadBytes s) := by
  have hreceived := h.received_eq (by simp [hpoint])
  unfold Distance.uartReadBytes
  split
  · next high low rest hbytes =>
      have hboth := bytesBetween_eq_cons_cons (hreceived.symm.trans hbytes)
      refine ⟨h.flushedAt_le, fun hne => absurd rfl hne, ?_, ?_, ?_⟩
      · intro put hput
        rcases List.mem_append.mp hput with hold | hnew
        · exact h.puts_fromBytes put hold
        · rw [List.mem_singleton.mp hnew, Put.FromBytes, <- hboth.1, <- hboth.2]
      · exact .sendOrDrop (fun d hd => (h.qDistancePid_put d hd).append _)
          (wasPut_append_self _ _)
      · exact .sendOrDrop (fun d hd => (h.qDistance_put d hd).append _)
          (wasPut_append_self _ _)
  · exact ⟨h.flushedAt_le, fun hne => absurd rfl hne, h.puts_fromBytes,
      h.qDistancePid_put, h.qDistance_put⟩
  · exact ⟨h.flushedAt_le, fun hne => absurd rfl hne, h.puts_fromBytes,
      h.qDistancePid_put, h.qDistance_put⟩

theorem LineInv.uartTask (h : LineInv answers s) : LineInv answers (uartTask s) := by
  unfold Distance.uartTask
  split
  · exact ⟨le_rfl, fun _ => (bytesBetween_self _).symm, h.puts_fromBytes,
      h.qDistancePid_put, h.qDistance_put⟩
  · next hpoint =>
      exact ⟨h.flushedAt_le, fun _ => h.received_eq (by simp [hpoint]), h.puts_fromBytes,
        h.qDistancePid_put, h.qDistance_put⟩
  · next hpoint => exact h.uartReadBytes hpoint

theorem LineInv.sensorSends (h : LineInv answers s) :
    LineInv answers (sensorSends answers s) := by
  unfold Distance.sensorSends
  split
  · refine ⟨Nat.le_succ_of_le h.flushedAt_le, ?_, h.puts_fromBytes, h.qDistancePid_put,
      h.qDistance_put⟩
    intro hpoint
    exact (congrArg (· ++ [_]) (h.received_eq hpoint)).trans
      (bytesBetween_succ h.flushedAt_le).symm
  · exact h

theorem LineInv.step (h : LineInv answers s) (input : UartInput) :
    LineInv answers (uartStep answers s input) := by
  cases input with
  | task => exact h.uartTask
  | sensor => exact h.sensorSends
  | motorReceives => exact { h with qDistancePid_put := all_receiveRest h.qDistancePid_put }
  | oledReceives => exact { h with qDistance_put := all_receiveRest h.qDistance_put }

theorem lineInv_uartAfter (answers : Nat -> Answer) (history : List UartInput) :
    LineInv answers (uartAfter answers history) :=
  stateAfter_invariant (fun _ s => LineInv answers s) lineInv_initial
    (fun _ input h => h.step input) history

/-- A flush between two answers keeps them apart, and a flush within one does not. -/
theorem Put.FromBytes.eq_answer {put : Put} (h : put.FromBytes answers) :
    exists k,
      (put.flushedAt = 2 * k ∧ put.distanceCm = distanceCmOf (answers k).distanceMm) ∨
      (put.flushedAt = 2 * k + 1 ∧
        put.distanceCm =
          distanceCmOf (256 * (answers k).low.toNat + (answers (k + 1)).high.toNat)) := by
  unfold Put.FromBytes at h
  rw [bigEndian_eq] at h
  rcases Nat.even_or_odd' put.flushedAt with ⟨k, heven | hodd⟩
  · rw [heven, sensorByte_double, sensorByte_double_succ] at h
    exact ⟨k, Or.inl ⟨heven, h⟩⟩
  · rw [hodd, sensorByte_double_succ, show 2 * k + 1 + 1 = 2 * (k + 1) by omega,
      sensorByte_double] at h
    exact ⟨k, Or.inr ⟨hodd, h⟩⟩

/--
A distance is that of one answer when the flush before its request fell between two
answers, and otherwise pairs the low byte of an answer with the high byte of the next.
The queues hold nothing else.
-/
theorem distance_of_flush (answers : Nat -> Answer) (history : List UartInput) :
    (forall put, put ∈ (uartAfter answers history).puts ->
      exists k,
        (put.flushedAt = 2 * k ∧ put.distanceCm = distanceCmOf (answers k).distanceMm) ∨
        (put.flushedAt = 2 * k + 1 ∧
          put.distanceCm =
            distanceCmOf (256 * (answers k).low.toNat + (answers (k + 1)).high.toNat))) ∧
    (uartAfter answers history).qDistancePid.All (WasPut (uartAfter answers history).puts) ∧
    (uartAfter answers history).qDistance.All (WasPut (uartAfter answers history).puts) := by
  have h := lineInv_uartAfter answers history
  exact ⟨fun put hput => (h.puts_fromBytes put hput).eq_answer, h.qDistancePid_put,
    h.qDistance_put⟩

def alwaysFiftyCm : Nat -> Answer :=
  fun _ => { high := 1, low := 244 }

/-- The low byte of the first answer comes after the timeout and the second flush. -/
def lateLowByte : List UartInput :=
  [.task, .task, .sensor, .task, .task, .task, .sensor, .sensor, .task]

/-- The car stands 50 cm from a wall and is told that it is more than 60 m away. -/
theorem lateLowByte_mixes :
    (uartAfter alwaysFiftyCm lateLowByte).qDistance.items = [distanceCmOf 62465] ∧
      6246 < distanceCmOf 62465 ∧
      distanceCmOf (alwaysFiftyCm 0).distanceMm = 50 ∧
      ¬ (uartAfter alwaysFiftyCm lateLowByte).qDistance.All
          (fun distanceCm => exists k, distanceCm = distanceCmOf (alwaysFiftyCm k).distanceMm) := by
  have hitems : (uartAfter alwaysFiftyCm lateLowByte).qDistance.items =
      [distanceCmOf 62465] := rfl
  have hfar : 6246 < distanceCmOf 62465 := by
    decide +kernel
  have hnear : distanceCmOf (alwaysFiftyCm 0).distanceMm = 50 := by
    decide +kernel
  refine ⟨hitems, hfar, hnear, ?_⟩
  intro hall
  rcases hall (distanceCmOf 62465) (by simp [hitems]) with ⟨k, hk⟩
  have hsame : (alwaysFiftyCm k).distanceMm = (alwaysFiftyCm 0).distanceMm := rfl
  rw [hk, hsame, hnear] at hfar
  exact absurd hfar (by norm_num)

end Distance
end CarCleaner
