import Breadcrumb.Uwb.Dw1000

/-!
The distance formula of `ss_init_run`. The program writes it in `float` and
`double`; here it is generic in both, so that what does not depend on rounding
is proved for the machine's arithmetic and for exact arithmetic at once.
-/

namespace Breadcrumb.Uwb

open Breadcrumb.Machine

/-- The C `float` operations of the distance formula. The program fixes their
order and where a value is narrowed to `float`; the rounding of each operation
belongs to the instance. -/
class CFloat (F : Type) where
  floatOfInt : Int → F
  floatLit : ℚ → F
  floatSub : F → F → F
  floatMul : F → F → F
  floatDiv : F → F → F

/-- The C `double` operations, and the conversions between the two formats. -/
class CDouble (F : outParam Type) (D : Type) where
  doubleOfInt : Int → D
  doubleOfFloat : F → D
  doubleLit : ℚ → D
  doubleSub : D → D → D
  doubleMul : D → D → D
  doubleDiv : D → D → D
  floatOfDouble : D → F
  intOfDouble : D → Int

/-- Arithmetic without rounding. -/
instance exactFloat : CFloat ℚ where
  floatOfInt x := x
  floatLit x := x
  floatSub x y := x - y
  floatMul x y := x * y
  floatDiv x y := x / y

/-- Arithmetic without rounding; the conversion to `int` truncates. -/
instance exactDouble : CDouble ℚ ℚ where
  doubleOfInt x := x
  doubleOfFloat x := x
  doubleLit x := x
  doubleSub x y := x - y
  doubleMul x y := x * y
  doubleDiv x y := x / y
  floatOfDouble x := x
  intOfDouble x := x.num.tdiv x.den

section Formula

variable {F : Type} (D : Type) [CFloat F] [CDouble F D]

open CFloat CDouble

/-- `998.4e6/2.0/1024.0/131072.0` -/
def freqOffsetMultiplier : D :=
  doubleDiv (doubleDiv (doubleDiv (doubleLit 998400000) (doubleLit 2)) (doubleLit 1024))
    (doubleLit 131072)

/-- `-1.0e6/6489.6e6` -/
def hertzToPpmMultiplierChan5 : D := doubleDiv (doubleLit (-1000000)) (doubleLit 6489600000)

/-- `1.0/499.2e6/128.0` -/
def dwtTimeUnits : D :=
  doubleDiv (doubleDiv (doubleLit 1) (doubleLit 499200000)) (doubleLit 128)

def speedOfLight : Int := 299702547

def distScale : D := doubleLit (951273 / 1000000)

def distOffset : D := doubleLit (34282 / 100000)

/-- The readings behind one range: the local timestamps, those embedded in the
response, and the carrier integrator. -/
structure Ranging where
  pollTxTs : Word32
  respRxTs : Word32
  pollRxTs : Word32
  respTxTs : Word32
  carrierIntegrator : Int
  deriving DecidableEq

/-- `rtd_init = resp_rx_ts - poll_tx_ts;` wraps, then is read as an `int32`. -/
def Ranging.rtdInit (r : Ranging) : Int := (r.respRxTs - r.pollTxTs).toInt

/-- `rtd_resp = resp_tx_ts - poll_rx_ts;` -/
def Ranging.rtdResp (r : Ranging) : Int := (r.respTxTs - r.pollRxTs).toInt

def Ranging.clockOffsetRatio (r : Ranging) : F :=
  floatOfDouble (doubleMul (doubleOfInt r.carrierIntegrator)
    (doubleDiv (doubleMul (freqOffsetMultiplier D) (hertzToPpmMultiplierChan5 D))
      (doubleLit 1000000)))

/-- `((rtd_init - rtd_resp * (1.0f - clockOffsetRatio)) / 2.0f) * DWT_TIME_UNITS` -/
def Ranging.tof (r : Ranging) : D :=
  doubleMul
    (doubleOfFloat (floatDiv
      (floatSub (floatOfInt r.rtdInit)
        (floatMul (floatOfInt r.rtdResp) (floatSub (floatLit 1) (r.clockOffsetRatio D))))
      (floatLit 2)))
    (dwtTimeUnits D)

def Ranging.distanceUncal (r : Ranging) : D := doubleMul (r.tof D) (doubleOfInt speedOfLight)

def Ranging.distance (r : Ranging) : D :=
  doubleSub (doubleMul (r.distanceUncal D) (distScale D)) (distOffset D)

end Formula

end Breadcrumb.Uwb
