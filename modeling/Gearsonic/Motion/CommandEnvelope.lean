import Gearsonic.Common.FloatMath
import Gearsonic.Motion.InputHandler
import Mathlib.Tactic.Linarith
import Mathlib.Tactic.LinearCombination
import Mathlib.Tactic.NormNum

/-!
# The envelope of the movement command

Over the reals: whatever the facing angle, the stick, the navigation command and the selected mode
are, the command of a tick has a unit facing vector, a movement vector of known length and a speed
in the range of its mode. The stick and the navigation command are rotated into the facing frame
by two formulas; for the same facing they point the same way.

* `magnitude_rotateToFacing`: the rotation keeps lengths.
* `envelope`: the command of every tick, branch by branch.
* `stick_parallel_nav`: the two paths agree.
* `movement_envelope`: both together.
-/

namespace Gearsonic

namespace InputHandler

/-- The Euclidean length. -/
noncomputable def magnitude (v : Vec3 ℝ) : ℝ := √(v 0 ^ 2 + v 1 ^ 2 + v 2 ^ 2)

/-- The stick's deflection behind the dead zone, from 0 to 1. -/
noncomputable def rescaled (rawMag : ℝ) : ℝ := min ((rawMag - kDeadZone) / (1.0 - kDeadZone)) 1.0

/-- How far the left stick is deflected. -/
noncomputable def rawMag (c : PicoVRController ℝ) : ℝ := CMath.hypot c.leftAxis.1 c.leftAxis.2

/-- The stick is outside its dead zone, and drives. -/
def StickDrives (c : PicoVRController ℝ) : Prop := kDeadZone ≤ rawMag c

/-- A fresh navigation command is there while the stick is neutral, and is not at a stop. -/
def NavDrives (r : TickReads ℝ) (c : PicoVRController ℝ) (nav : NavCommand ℝ) : Prop :=
  ¬ StickDrives c ∧ r.nav = some nav ∧ r.arbMode = .normal ∧ r.navAgeMs < kNavStaleMs ∧
    kNavStopSpeed ≤ CMath.hypot nav.vx nav.vy

/-- The speeds of the stick in each mode. -/
structure StickSpeed (mode : Int) (speed : ℝ) : Prop where
  slowWalk : mode = LocomotionMode.slowWalk.toInt → 0.1 ≤ speed ∧ speed ≤ 0.6
  walk : mode = LocomotionMode.walk.toInt → speed = -1
  run : mode = LocomotionMode.run.toInt → 1.5 ≤ speed ∧ speed ≤ 4.5
  other : mode ≠ LocomotionMode.slowWalk.toInt → mode ≠ LocomotionMode.walk.toInt →
    mode ≠ LocomotionMode.run.toInt → 0 ≤ speed ∧ speed ≤ 1

/-- The speeds of a navigation command that moves. -/
def NavSpeed (mode : Int) (speed : ℝ) : Prop :=
  (mode = LocomotionMode.slowWalk.toInt ∧ 0.1 ≤ speed ∧ speed ≤ 0.6) ∨
    (mode = LocomotionMode.walk.toInt ∧ speed = -1)

/-- What holds of the command of a tick. The divisors are those of the branch that is taken. -/
structure Envelope (h : InputHandler ℝ) (r : TickReads ℝ) (c : PicoVRController ℝ) : Prop where
  stickDivisors : StickDrives c → rawMag c ≠ 0 ∧ (1.0 - kDeadZone : ℝ) ≠ 0
  navDivisor : ∀ nav, NavDrives r c nav → CMath.hypot nav.vx nav.vy ≠ 0
  facing : magnitude (h.buildCommand r c).2.facingDirection = 1
  neutral : ¬ StickDrives c → (∀ nav, ¬ NavDrives r c nav) →
    (h.buildCommand r c).2.locomotionMode = LocomotionMode.idle.toInt ∧
      magnitude (h.buildCommand r c).2.movementDirection = 0 ∧
      (h.buildCommand r c).2.movementSpeed = -1
  stick : StickDrives c →
    (h.buildCommand r c).2.locomotionMode = h.modeIndex ∧
      magnitude (h.buildCommand r c).2.movementDirection = rescaled (rawMag c) ∧
      0 ≤ rescaled (rawMag c) ∧ rescaled (rawMag c) ≤ 1 ∧
      StickSpeed h.modeIndex (h.buildCommand r c).2.movementSpeed
  nav : ∀ nav, NavDrives r c nav →
    magnitude (h.buildCommand r c).2.movementDirection = 1 ∧
      NavSpeed (h.buildCommand r c).2.locomotionMode (h.buildCommand r c).2.movementSpeed

variable {h : InputHandler ℝ} {r : TickReads ℝ} {c : PicoVRController ℝ} {nav : NavCommand ℝ}

/-! ## The branches -/

theorem buildCommand_stick (hstick : StickDrives c) :
    h.buildCommand r c = (h, h.stickCommand c.leftAxis.1 c.leftAxis.2 (rawMag c)) :=
  if_neg (not_lt.mpr hstick)

theorem buildCommand_nav (hnav : NavDrives r c nav) : h.buildCommand r c = h.navCommand nav := by
  obtain ⟨hstick, hsome, hmode, hage, -⟩ := hnav
  have hneutral : CMath.hypot c.leftAxis.1 c.leftAxis.2 < kDeadZone := not_le.mp hstick
  unfold buildCommand
  dsimp only
  rw [if_pos hneutral, hsome]
  exact if_pos ⟨hmode, hage⟩

/-- With no one driving the command idles. -/
theorem buildCommand_idle (hstick : ¬ StickDrives c) (hnav : ∀ nav, ¬ NavDrives r c nav) :
    ∃ angle height, (h.buildCommand r c).2 = idleCommand (facingVector angle) height := by
  have hneutral : CMath.hypot c.leftAxis.1 c.leftAxis.2 < kDeadZone := not_le.mp hstick
  unfold buildCommand
  dsimp only
  rw [if_pos hneutral]
  cases hsome : r.nav with
  | none => exact ⟨_, _, rfl⟩
  | some nav =>
    dsimp only
    by_cases hfresh : r.arbMode = .normal ∧ r.navAgeMs < kNavStaleMs
    · have hstop : ¬ kNavStopSpeed ≤ CMath.hypot nav.vx nav.vy := fun hmoves =>
        hnav nav ⟨hstick, hsome, hfresh.1, hfresh.2, hmoves⟩
      rw [if_pos hfresh]
      unfold navCommand
      dsimp only
      rw [if_neg hstop]
      exact ⟨_, _, rfl⟩
    · rw [if_neg hfresh]
      exact ⟨_, _, rfl⟩

/-! ## Directions -/

theorem magnitude_facingVector (angle : ℝ) : magnitude (facingVector angle) = 1 := by
  have hone : Real.cos angle ^ 2 + Real.sin angle ^ 2 + 0 ^ 2 = 1 := by
    rw [Real.cos_sq_add_sin_sq]
    norm_num
  exact (congrArg Real.sqrt hone).trans Real.sqrt_one

/-- The rotation into the facing frame keeps lengths. -/
theorem magnitude_rotateToFacing (angle left forward : ℝ) :
    magnitude (rotateToFacing (facingVector angle) left forward) =
      √(left ^ 2 + forward ^ 2) := by
  have hsum : (-Real.sin angle * left + Real.cos angle * forward) ^ 2 +
      (Real.cos angle * left + Real.sin angle * forward) ^ 2 + 0 ^ 2 =
        left ^ 2 + forward ^ 2 := by
    linear_combination (left ^ 2 + forward ^ 2) * Real.cos_sq_add_sin_sq angle
  exact congrArg Real.sqrt hsum

/-- Scaling before the rotation or after it. -/
theorem rotateToFacing_mul (face : Vec3 ℝ) (k left forward : ℝ) :
    rotateToFacing face (k * left) (k * forward) =
      fun i => k * rotateToFacing face left forward i := by
  funext i
  fin_cases i
  · change -face 1 * (k * left) + face 0 * (k * forward) = k * (-face 1 * left + face 0 * forward)
    ring
  · change face 0 * (k * left) + face 1 * (k * forward) = k * (face 0 * left + face 1 * forward)
    ring
  · exact (mul_zero k).symm

theorem sqrt_mul_sq (k x y : ℝ) (hk : 0 ≤ k) :
    √((k * x) ^ 2 + (k * y) ^ 2) = k * √(x ^ 2 + y ^ 2) := by
  have hsum : (k * x) ^ 2 + (k * y) ^ 2 = k ^ 2 * (x ^ 2 + y ^ 2) := by ring
  rw [hsum, Real.sqrt_mul (sq_nonneg k), Real.sqrt_sq hk]

/-! ## The stick -/

theorem rawMag_pos (hstick : StickDrives c) : 0 < rawMag c :=
  lt_of_lt_of_le (by norm_num [kDeadZone]) hstick

theorem rescaled_mem {x : ℝ} (hx : kDeadZone ≤ x) : 0 ≤ rescaled x ∧ rescaled x ≤ 1 := by
  have hwidth : (0 : ℝ) ≤ 1.0 - kDeadZone := by norm_num [kDeadZone]
  constructor
  · exact le_min (div_nonneg (sub_nonneg.mpr hx) hwidth) (by norm_num)
  · exact (min_le_right _ _).trans (by norm_num)

/-- The stick's movement vector is the rescaled magnitude times its direction. -/
theorem stick_direction (h : InputHandler ℝ) (lx ly x : ℝ) :
    (h.stickCommand lx ly x).movementDirection =
      fun i => rescaled x / x * rotateToFacing (facingVector h.facingAngle) (-lx) ly i := by
  rw [← rotateToFacing_mul, mul_comm _ (-lx), mul_comm _ ly]
  rfl

theorem magnitude_stick (h : InputHandler ℝ) (hstick : StickDrives c) :
    magnitude (h.stickCommand c.leftAxis.1 c.leftAxis.2 (rawMag c)).movementDirection =
      rescaled (rawMag c) := by
  have hpos := rawMag_pos hstick
  have hscale : 0 ≤ rescaled (rawMag c) / rawMag c :=
    div_nonneg (rescaled_mem hstick).1 hpos.le
  have hraw : √((-c.leftAxis.1) ^ 2 + c.leftAxis.2 ^ 2) = rawMag c := by
    rw [neg_sq]
    rfl
  rw [stick_direction, ← rotateToFacing_mul, magnitude_rotateToFacing, sqrt_mul_sq _ _ _ hscale,
    hraw, div_mul_cancel₀ _ hpos.ne']

theorem stick_speed (h : InputHandler ℝ) (lx ly : ℝ) {x : ℝ} (hx : kDeadZone ≤ x) :
    StickSpeed h.modeIndex (h.stickCommand lx ly x).movementSpeed := by
  obtain ⟨hlo, hhi⟩ := rescaled_mem hx
  have hspeed : (h.stickCommand lx ly x).movementSpeed =
      if h.modeIndex = LocomotionMode.slowWalk.toInt then 0.1 + 0.5 * rescaled x
      else if h.modeIndex = LocomotionMode.walk.toInt then -1
      else if h.modeIndex = LocomotionMode.run.toInt then 1.5 + 3.0 * rescaled x
      else rescaled x := rfl
  rw [hspeed]
  constructor
  · intro hmode
    rw [if_pos hmode]
    constructor <;> linarith
  · intro hmode
    rw [hmode, if_neg (by decide), if_pos rfl]
  · intro hmode
    rw [hmode, if_neg (by decide), if_neg (by decide), if_pos rfl]
    constructor <;> linarith
  · intro hslow hwalk hrun
    rw [if_neg hslow, if_neg hwalk, if_neg hrun]
    exact ⟨hlo, hhi⟩

/-! ## The navigation command -/

theorem nav_pos (hmoves : kNavStopSpeed ≤ CMath.hypot nav.vx nav.vy) :
    0 < CMath.hypot nav.vx nav.vy :=
  lt_of_lt_of_le (by norm_num [kNavStopSpeed]) hmoves

theorem nav_direction (h : InputHandler ℝ) (hmoves : kNavStopSpeed ≤ CMath.hypot nav.vx nav.vy) :
    (h.navCommand nav).2.movementDirection =
      fun i => (CMath.hypot nav.vx nav.vy)⁻¹ *
        rotateToFacing (h.navCommand nav).2.facingDirection nav.vy nav.vx i := by
  unfold navCommand
  dsimp only
  rw [if_pos hmoves, ← rotateToFacing_mul, div_eq_inv_mul, div_eq_inv_mul]

theorem navCommand_facing (h : InputHandler ℝ) (nav : NavCommand ℝ) :
    (h.navCommand nav).2.facingDirection = facingVector (h.facingAngle + nav.vyaw * kLoopDt) := by
  unfold navCommand
  dsimp only
  split <;> rfl

theorem magnitude_nav (h : InputHandler ℝ) (hmoves : kNavStopSpeed ≤ CMath.hypot nav.vx nav.vy) :
    magnitude (h.navCommand nav).2.movementDirection = 1 := by
  have hpos := nav_pos hmoves
  have hv : √(nav.vy ^ 2 + nav.vx ^ 2) = CMath.hypot nav.vx nav.vy := by
    rw [add_comm]
    rfl
  rw [nav_direction h hmoves, navCommand_facing, ← rotateToFacing_mul, magnitude_rotateToFacing,
    sqrt_mul_sq _ _ _ (inv_nonneg.mpr hpos.le), hv, inv_mul_cancel₀ hpos.ne']

theorem nav_speed (h : InputHandler ℝ) (hmoves : kNavStopSpeed ≤ CMath.hypot nav.vx nav.vy) :
    NavSpeed (h.navCommand nav).2.locomotionMode (h.navCommand nav).2.movementSpeed := by
  unfold navCommand
  dsimp only
  rw [if_pos hmoves]
  dsimp only
  by_cases hslow : CMath.hypot nav.vx nav.vy ≤ kNavSlowMax
  · rw [if_pos hslow, if_pos hslow]
    refine Or.inl ⟨rfl, le_max_right _ _, max_le (hslow.trans ?_) ?_⟩
    · norm_num [kNavSlowMax]
    · norm_num
  · rw [if_neg hslow, if_neg hslow]
    exact Or.inr ⟨rfl, rfl⟩

/-! ## The command of a tick -/

theorem envelope (h : InputHandler ℝ) (r : TickReads ℝ) (c : PicoVRController ℝ) :
    Envelope h r c where
  stickDivisors hstick := ⟨(rawMag_pos hstick).ne', by norm_num [kDeadZone]⟩
  navDivisor nav hnav := (nav_pos hnav.2.2.2.2).ne'
  facing := by
    by_cases hstick : StickDrives c
    · rw [buildCommand_stick hstick]
      exact magnitude_facingVector _
    · by_cases hnav : ∃ nav, NavDrives r c nav
      · obtain ⟨nav, hnav⟩ := hnav
        rw [buildCommand_nav hnav, navCommand_facing]
        exact magnitude_facingVector _
      · obtain ⟨angle, height, hidle⟩ := buildCommand_idle (h := h) hstick (not_exists.mp hnav)
        rw [hidle]
        exact magnitude_facingVector _
  neutral hstick hnav := by
    obtain ⟨angle, height, hidle⟩ := buildCommand_idle (h := h) hstick hnav
    rw [hidle]
    refine ⟨rfl, ?_, rfl⟩
    simp [magnitude, idleCommand]
  stick hstick := by
    rw [buildCommand_stick hstick]
    exact ⟨rfl, magnitude_stick h hstick, (rescaled_mem hstick).1, (rescaled_mem hstick).2,
      stick_speed h _ _ hstick⟩
  nav nav hnav := by
    rw [buildCommand_nav hnav]
    exact ⟨magnitude_nav h hnav.2.2.2.2, nav_speed h hnav.2.2.2.2⟩

/-- A stick deflected `k` times as far as `(-vy, vx)` moves along the navigation command, or
against it where `k` is negative, at the stick's magnitude. -/
theorem stick_parallel_nav {h h' : InputHandler ℝ} {r r' : TickReads ℝ}
    {c c' : PicoVRController ℝ} {k : ℝ} (hnav : NavDrives r c nav) (hstick : StickDrives c')
    (haxis : c'.leftAxis = (k * -nav.vy, k * nav.vx))
    (hfacing : (h'.buildCommand r' c').2.facingDirection =
      (h.buildCommand r c).2.facingDirection) :
    (h'.buildCommand r' c').2.movementDirection =
      fun i => rescaled (rawMag c') * (k / |k|) * (h.buildCommand r c).2.movementDirection i := by
  have hmoves := hnav.2.2.2.2
  have hraw : rawMag c' = |k| * CMath.hypot nav.vx nav.vy := by
    have hsum : (k * -nav.vy) ^ 2 + (k * nav.vx) ^ 2 =
        (|k| * nav.vx) ^ 2 + (|k| * nav.vy) ^ 2 := by
      rw [mul_pow |k|, mul_pow |k|, sq_abs]
      ring
    unfold rawMag
    rw [haxis]
    exact (congrArg Real.sqrt hsum).trans (sqrt_mul_sq _ _ _ (abs_nonneg k))
  rw [buildCommand_stick hstick, buildCommand_nav hnav] at hfacing ⊢
  have hface : facingVector h'.facingAngle = (h.navCommand nav).2.facingDirection := hfacing
  rw [nav_direction h hmoves, stick_direction, hface, haxis]
  funext i
  have hleft : -(k * -nav.vy) = k * nav.vy := by ring
  dsimp only
  rw [hleft, rotateToFacing_mul, hraw]
  have hv := (nav_pos hmoves).ne'
  by_cases hk : k = 0
  · rw [hk]
    simp
  · have habs : |k| ≠ 0 := abs_ne_zero.mpr hk
    field_simp

/-- A tick with a controller sample publishes the command that is built after the buttons, the
height and the facing angle. -/
theorem tick_publishes (h : InputHandler ℝ) (hctrl : r.ctrl = some c) :
    (h.tick r).1.movementBuf.getData = some ((h.tickControls c).1.buildCommand r c).2 := by
  unfold tick
  rw [hctrl]
  rfl

/-- Every command is in the envelope, from every state of the handler; and for the same facing a
navigation command and a stick deflected along it move in parallel. -/
theorem movement_envelope :
    (∀ (h : InputHandler ℝ) (r : TickReads ℝ) (c : PicoVRController ℝ), Envelope h r c) ∧
      ∀ (h h' : InputHandler ℝ) (r r' : TickReads ℝ) (c c' : PicoVRController ℝ)
        (nav : NavCommand ℝ) (k : ℝ), NavDrives r c nav → StickDrives c' →
        c'.leftAxis = (k * -nav.vy, k * nav.vx) →
        (h'.buildCommand r' c').2.facingDirection = (h.buildCommand r c).2.facingDirection →
        (h'.buildCommand r' c').2.movementDirection =
          fun i => rescaled (rawMag c') * (k / |k|) * (h.buildCommand r c).2.movementDirection i :=
  ⟨envelope, fun _ _ _ _ _ _ _ _ hnav hstick haxis hfacing =>
    stick_parallel_nav hnav hstick haxis hfacing⟩

end InputHandler

end Gearsonic
