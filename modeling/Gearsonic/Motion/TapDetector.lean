import Mathlib.Data.Rat.Cast.OfScientific
import Mathlib.Tactic.Common

/-!
# Short presses

`TapDetector`: counts short presses of one face button and reports a single, double or
triple tap once no further press can join it.
-/

namespace Gearsonic

structure TapDetector (K : Type) [Field K] where
  wasPressed : Bool := false
  /-- Taps are counted and the window after the last one is open. -/
  pending : Bool := false
  isVoid : Bool := false
  count : Nat := 0
  pressS : K := 0
  sinceReleaseS : K := 0

namespace TapDetector

def kMaxTaps : Nat := 3

/-- `TapDetector::Event`; no event is `none`. -/
inductive Event where
  | single
  | double
  | triple
deriving DecidableEq, Repr

variable {K : Type} [Field K] [LinearOrder K]

def kTapMaxS : K := 0.30
def kDoubleGapS : K := 0.35

def update (t : TapDetector K) (pressed voided : Bool) (dtS : K) :
    TapDetector K × Option Event :=
  let t := if voided then { t with isVoid := true, count := 0, pending := false } else t
  if t.isVoid then
    ({ t with isVoid := pressed || voided, wasPressed := pressed }, none)
  else if pressed then
    if !t.wasPressed then
      let joins := t.pending && decide (t.sinceReleaseS ≤ kDoubleGapS)
      ({ t with
        pressS := 0, count := if joins then t.count else 0, pending := false
        wasPressed := true }, none)
    else ({ t with pressS := t.pressS + dtS }, none)
  else if t.wasPressed then
    let t := { t with wasPressed := false }
    if kTapMaxS ≤ t.pressS then ({ t with count := 0 }, none)
    else if kMaxTaps ≤ t.count + 1 then ({ t with count := 0 }, some .triple)
    else ({ t with count := t.count + 1, pending := true, sinceReleaseS := 0 }, none)
  else if t.pending then
    let t := { t with sinceReleaseS := t.sinceReleaseS + dtS }
    if kDoubleGapS < t.sinceReleaseS then
      ({ t with pending := false, count := 0 },
        some (if t.count = 1 then .single else .double))
    else (t, none)
  else (t, none)

end TapDetector

end Gearsonic
