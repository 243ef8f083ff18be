import CarCleaner.Foundation.Formatted
import CarCleaner.Foundation.Histories
import CarCleaner.Foundation.MachineNumbers

/-!
# The angles of the car

`gyroscope_accelerometer_task` calibrates the gyroscope with 200 samples and then
estimates three angles over exact rationals: roll and pitch by a complementary filter
of gyroscope and accelerometer, yaw by integration of the gyroscope alone.
-/

namespace CarCleaner
namespace Angles

open Foundation

def radToDeg : Rat := 5729578 / 100000

def calibrationSamples : Nat := 200

/-!
# Calibration
-/

inductive CalibrationSample where
  | failed
  | read (gZByte : Vector UInt8 2)
deriving DecidableEq

def gyroZOf (gZByte : Vector UInt8 2) : Int :=
  int16OfInt (bigEndian gZByte[0] gZByte[1])

def addSample (errorZSum : Int) : CalibrationSample -> Int
  | .failed => errorZSum
  | .read gZByte => errorZSum + gyroZOf gZByte

def gZErrorOf (samples : Vector CalibrationSample calibrationSamples) : Rat :=
  (stateAfter addSample 0 samples.toList : Int) / calibrationSamples

/-!
# The loop
-/

structure Mpu6050Data where
  accelX : Int
  accelY : Int
  accelZ : Int
  temp : Int
  gyroX : Int
  gyroY : Int
  gyroZ : Int
deriving DecidableEq, Repr

def Mpu6050Data.ofBytes (rxBuf : Vector UInt8 14) : Mpu6050Data where
  accelX := int16OfInt (bigEndian rxBuf[0] rxBuf[1])
  accelY := int16OfInt (bigEndian rxBuf[2] rxBuf[3])
  accelZ := int16OfInt (bigEndian rxBuf[4] rxBuf[5])
  temp := int16OfInt (bigEndian rxBuf[6] rxBuf[7])
  gyroX := int16OfInt (bigEndian rxBuf[8] rxBuf[9])
  gyroY := int16OfInt (bigEndian rxBuf[10] rxBuf[11])
  gyroZ := int16OfInt (bigEndian rxBuf[12] rxBuf[13])

/-- The static variables of the loop; `angleCharBuf` is what is sent to `q_angle`. -/
structure AnglesTask where
  rxBuf : Vector UInt8 14
  mpu6050Data : Mpu6050Data
  realX : Rat
  realY : Rat
  realZ : Rat
  gZError : Rat
  integrationTimeNow : Int
  integrationTimePrev : Int
  firstRun : Bool
  angleCharBuf : List UInt8
deriving DecidableEq

/-- The task in front of its loop, after a calibration that ends at `now`. -/
def AnglesTask.calibrated (samples : Vector CalibrationSample calibrationSamples)
    (now : Int) : AnglesTask where
  rxBuf := Vector.replicate 14 0
  mpu6050Data := ⟨0, 0, 0, 0, 0, 0, 0⟩
  realX := 0
  realY := 0
  realZ := 0
  gZError := gZErrorOf samples
  integrationTimeNow := 0
  integrationTimePrev := now
  firstRun := true
  angleCharBuf := []

def alpha : Rat := 98 / 100

/-- A rate of less than half a degree per second counts as none. -/
def filterGyro (rate : Rat) : Rat :=
  if |rate| < 1 / 2 then 0 else rate

/-- `snprintf(angle_char_buf, 64, "x:%3.1f y:%3.1f z:%3.1f", ...)`. -/
def angleText (x y z : Rat) : List UInt8 :=
  snprintfBytes 64
    (literal "x:" ++ padded 3 32 (fixedPoint 1 x) ++
      literal " y:" ++ padded 3 32 (fixedPoint 1 y) ++
      literal " z:" ++ padded 3 32 (fixedPoint 1 z))

/--
An attempt to read the sensor.  A failed one may leave anything in `rx_buf`; after a
successful one `esp_timer_get_time` returns `now`.
-/
inductive Attempt where
  | failed (rxBuf : Vector UInt8 14)
  | read (rxBuf : Vector UInt8 14) (now : Int)
deriving DecidableEq

/-- The complementary filter, with the estimate in front of it. -/
def fuse (estimate rate dt accelAngle : Rat) : Rat :=
  alpha * (estimate + rate * dt) + (1 - alpha) * accelAngle

def anglesLoop (atan2f : Rat -> Rat -> Rat) (s : AnglesTask) : Attempt -> AnglesTask
  | .failed rxBuf => { s with rxBuf := rxBuf }
  | .read rxBuf now =>
      let data := Mpu6050Data.ofBytes rxBuf
      let dt : Rat := (now - s.integrationTimePrev : Int) / 1000000
      let gx := filterGyro (data.gyroX / 131)
      let gy := filterGyro (data.gyroY / 131)
      let gz := filterGyro ((data.gyroZ - s.gZError) / 131)
      let ax : Rat := data.accelX / 16384
      let ay : Rat := data.accelY / 16384
      let az : Rat := data.accelZ / 16384
      let accelAngleRoll := atan2f ay az * radToDeg
      let accelAnglePitch := atan2f ax az * radToDeg
      let realX := if s.firstRun then accelAngleRoll else s.realX
      let realY := if s.firstRun then accelAnglePitch else s.realY
      let realX := fuse realX gx dt accelAngleRoll
      let realY := fuse realY gy dt accelAnglePitch
      let realZ := s.realZ + gz * dt
      { s with
        rxBuf := rxBuf
        mpu6050Data := data
        realX := realX
        realY := realY
        realZ := realZ
        integrationTimeNow := now
        integrationTimePrev := now
        firstRun := false
        angleCharBuf := angleText realX realY realZ }

def anglesAfter (atan2f : Rat -> Rat -> Rat) (start : AnglesTask)
    (attempts : List Attempt) : AnglesTask :=
  stateAfter (anglesLoop atan2f) start attempts

/-!
# What a frame contributes
-/

/-- The roll and the pitch that the accelerometer alone shows. -/
def rollOf (atan2f : Rat -> Rat -> Rat) (rxBuf : Vector UInt8 14) : Rat :=
  atan2f ((Mpu6050Data.ofBytes rxBuf).accelY / 16384)
    ((Mpu6050Data.ofBytes rxBuf).accelZ / 16384) * radToDeg

def pitchOf (atan2f : Rat -> Rat -> Rat) (rxBuf : Vector UInt8 14) : Rat :=
  atan2f ((Mpu6050Data.ofBytes rxBuf).accelX / 16384)
    ((Mpu6050Data.ofBytes rxBuf).accelZ / 16384) * radToDeg

/-- Rates in degrees per second. -/
def rateX (rxBuf : Vector UInt8 14) : Rat :=
  filterGyro ((Mpu6050Data.ofBytes rxBuf).gyroX / 131)

def rateY (rxBuf : Vector UInt8 14) : Rat :=
  filterGyro ((Mpu6050Data.ofBytes rxBuf).gyroY / 131)

def rateZ (gZError : Rat) (rxBuf : Vector UInt8 14) : Rat :=
  filterGyro (((Mpu6050Data.ofBytes rxBuf).gyroZ - gZError) / 131)

def secondsBetween (earlier later : Int) : Rat :=
  (later - earlier : Int) / 1000000

variable (atan2f : Rat -> Rat -> Rat) (s : AnglesTask) (rxBuf : Vector UInt8 14) (now : Int)

theorem realX_read :
    (anglesLoop atan2f s (.read rxBuf now)).realX =
      fuse (if s.firstRun then rollOf atan2f rxBuf else s.realX) (rateX rxBuf)
        (secondsBetween s.integrationTimePrev now) (rollOf atan2f rxBuf) := rfl

theorem realY_read :
    (anglesLoop atan2f s (.read rxBuf now)).realY =
      fuse (if s.firstRun then pitchOf atan2f rxBuf else s.realY) (rateY rxBuf)
        (secondsBetween s.integrationTimePrev now) (pitchOf atan2f rxBuf) := rfl

theorem realZ_read :
    (anglesLoop atan2f s (.read rxBuf now)).realZ =
      s.realZ + rateZ s.gZError rxBuf * secondsBetween s.integrationTimePrev now := rfl

theorem gZError_anglesAfter (attempts : List Attempt) :
    (anglesAfter atan2f s attempts).gZError = s.gZError := by
  refine stateAfter_invariant (fun _ (t : AnglesTask) => t.gZError = s.gZError) rfl ?_ attempts
  intro past attempt ih
  cases attempt with
  | failed rxBuf => exact ih
  | read rxBuf now => exact ih

end Angles
end CarCleaner
