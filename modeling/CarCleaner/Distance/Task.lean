import CarCleaner.Foundation.BoundedQueue
import CarCleaner.Foundation.Histories
import CarCleaner.Foundation.MachineNumbers
import CarCleaner.Foundation.Rounding
import Mathlib.Data.Rat.Floor

/-!
# The distance task and its sensor

`uart_task` asks the sensor for a measurement with a `U` and reads two bytes.  The
sensor answers every `U` in order, each byte after any delay, so that the bytes it has
sent so far are a prefix of one stream.
-/

namespace CarCleaner
namespace Distance

open Foundation

/-- `(float)(distance_mm) / 10.0f`, a division in single precision. -/
def distanceCmOf (distanceMm : Nat) : Rat :=
  toPrecision 24 (distanceMm / 10)

/-!
# The sensor
-/

/-- The two bytes of one measurement in millimetres. -/
structure Answer where
  high : UInt8
  low : UInt8
deriving DecidableEq

def Answer.distanceMm (answer : Answer) : Nat :=
  256 * answer.high.toNat + answer.low.toNat

/-- The bytes of all answers, one answer after the other. -/
def sensorByte (answers : Nat -> Answer) (n : Nat) : UInt8 :=
  if n % 2 = 0 then (answers (n / 2)).high else (answers (n / 2)).low

theorem sensorByte_double (answers : Nat -> Answer) (k : Nat) :
    sensorByte answers (2 * k) = (answers k).high := by
  rw [sensorByte, if_pos (Nat.mul_mod_right 2 k), Nat.mul_div_cancel_left k two_pos]

theorem sensorByte_double_succ (answers : Nat -> Answer) (k : Nat) :
    sensorByte answers (2 * k + 1) = (answers k).low := by
  have hdiv : (2 * k + 1) / 2 = k := by
    omega
  rw [sensorByte, if_neg (by omega), hdiv]

/-!
# The loop
-/

/-- What the task does next. -/
inductive UartPoint where
  | flushing
  | requesting
  | reading
deriving DecidableEq

/-- A distance sent to the queues, and the bytes that had arrived at the last flush. -/
structure Put where
  distanceCm : Rat
  flushedAt : Nat
deriving DecidableEq

/--
The task, its queues and the serial line: `received` is what the driver holds, `requests`
counts the `U`s on the line and `arrived` the bytes that came back.
-/
structure UartSystem where
  point : UartPoint
  rxBuf : Vector UInt8 2
  distanceMm : Nat
  qDistancePid : BoundedQueue Rat 10
  qDistance : BoundedQueue Rat 10
  received : List UInt8
  requests : Nat
  arrived : Nat
  flushedAt : Nat
  puts : List Put
deriving DecidableEq

def UartSystem.initial : UartSystem where
  point := .flushing
  rxBuf := Vector.replicate 2 0
  distanceMm := 0
  qDistancePid := .empty
  qDistance := .empty
  received := []
  requests := 0
  arrived := 0
  flushedAt := 0
  puts := []

def uartFlush (s : UartSystem) : UartSystem :=
  { s with point := .requesting, received := [], flushedAt := s.arrived }

def uartWriteBytes (s : UartSystem) : UartSystem :=
  { s with point := .reading, requests := s.requests + 1 }

/-- The read when it returns: two bytes, or what had arrived when its timeout passed. -/
def uartReadBytes (s : UartSystem) : UartSystem :=
  match s.received with
  | high :: low :: rest =>
      let distanceCm := distanceCmOf (bigEndian high low)
      { s with
        point := .flushing
        rxBuf := (s.rxBuf.set 0 high Nat.two_pos).set 1 low Nat.one_lt_two
        distanceMm := bigEndian high low
        qDistancePid := s.qDistancePid.sendOrDrop distanceCm
        qDistance := s.qDistance.sendOrDrop distanceCm
        received := rest
        puts := s.puts ++ [{ distanceCm := distanceCm, flushedAt := s.flushedAt }] }
  | [byte] => { s with point := .flushing, rxBuf := s.rxBuf.set 0 byte Nat.two_pos, received := [] }
  | [] => { s with point := .flushing }

def uartTask (s : UartSystem) : UartSystem :=
  match s.point with
  | .flushing => uartFlush s
  | .requesting => uartWriteBytes s
  | .reading => uartReadBytes s

inductive UartInput where
  | task
  | sensor
  | motorReceives
  | oledReceives
deriving DecidableEq

/-- The sensor owes two bytes for each request. -/
def sensorSends (answers : Nat -> Answer) (s : UartSystem) : UartSystem :=
  if s.arrived < 2 * s.requests then
    { s with
      received := s.received ++ [sensorByte answers s.arrived]
      arrived := s.arrived + 1 }
  else
    s

def receiveRest (q : BoundedQueue Rat 10) : BoundedQueue Rat 10 :=
  (q.receive?.map Prod.snd).getD q

def uartStep (answers : Nat -> Answer) (s : UartSystem) : UartInput -> UartSystem
  | .task => uartTask s
  | .sensor => sensorSends answers s
  | .motorReceives => { s with qDistancePid := receiveRest s.qDistancePid }
  | .oledReceives => { s with qDistance := receiveRest s.qDistance }

def uartAfter (answers : Nat -> Answer) (history : List UartInput) : UartSystem :=
  stateAfter (uartStep answers) .initial history

end Distance
end CarCleaner
