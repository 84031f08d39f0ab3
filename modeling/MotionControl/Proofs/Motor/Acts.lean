import MotionControl.Proofs.Motor.Stops
import MotionControl.Proofs.Motor.Travel
import MotionControl.Proofs.Recording
import MotionControl.Proofs.Standstill
import MotionControl.Proofs.Braking

/-!
# What can come to a simulated motor

A simulated motor is commanded, time passes for it, and its driver and its effort are interfered
with. An act can do one of four things to its course, and what all of them keep holds of every motor
that has come from one at rest.

* `MotorAct`, `SimulatedChannel.after`: the acts, and a motor after some of them.
* `SimulatedChannel.actCase`: **all that an act can do to the course of a motor.**
* `SimulatedChannel.IsBounded`: the numbers of a motor are finite, its counters by far;
  `isBounded_after`: **they stay so** after any acts with finite numbers.
-/

namespace MotionControl

/-- Carries out a command. -/
def ChannelCommand.apply (c : SimulatedChannel) : ChannelCommand → SimulatedChannel
  | moveIncrements increments velocity accel => c.moveIncrements increments velocity accel
  | stopAbrupt => c.stopAbrupt
  | stopDecelerated => c.stopDecelerated
  | setZero => c.setZero
  | setEnabled enabled => c.setEnabled enabled
  | setTorqueLimit percent => { c with torqueLimit := percent }

/-- What can come to a simulated motor. -/
inductive MotorAct where
  | command (command : ChannelCommand)
  | influence (influence : Influence)

def MotorAct.apply (c : SimulatedChannel) : MotorAct → SimulatedChannel
  | .command given => given.apply c
  | .influence given => given.apply c

/-- The numbers of an act are those of a program: counters, times of 32 bits and finite speeds. -/
def MotorAct.InRange : MotorAct → Prop
  | .command (.moveIncrements increments velocity _) =>
    IsCounter increments ∧ velocity.rank < Single.infinityRank
  | .influence (.advance dt) => dt < UInt32.size
  | _ => True

instance : DecidablePred MotorAct.InRange
  | .command (.moveIncrements increments velocity _) =>
    inferInstanceAs (Decidable (IsCounter increments ∧ velocity.rank < Single.infinityRank))
  | .influence (.advance dt) => inferInstanceAs (Decidable (dt < UInt32.size))
  | .command .stopAbrupt | .command .stopDecelerated | .command .setZero
  | .command (.setEnabled _) | .command (.setTorqueLimit _)
  | .influence (.setFault _) | .influence (.overrideEffort _)
  | .influence (.setEffortInvalid _) => .isTrue trivial

namespace SimulatedChannel

open Single

variable {c next : SimulatedChannel} {act : MotorAct} {acts : List MotorAct}

/-- A motor after some acts. -/
def after (c : SimulatedChannel) (acts : List MotorAct) : SimulatedChannel :=
  acts.foldl MotorAct.apply c

/-! ## All that an act can do -/

/-- **All that an act can do to the course of a motor.** -/
inductive ActCase (c : SimulatedChannel) : MotorAct → SimulatedChannel → Prop where
  /-- The motor stays where it is, and goes to where it went or to where it is. -/
  | stay (act : MotorAct) (other : SimulatedChannel) (target : Single)
      (htarget : target = c.target ∨ target = c.steps)
      (hblocked : other.isBlocked = true → c.isBlocked = true) :
      ActCase c act
        { other with
          mechanics := c.mechanics, steps := c.steps, mechanical := c.mechanical, target
          velocity := c.velocity, accel := c.accel }
  /-- It is sent somewhere, or refuses to be sent. -/
  | depart (increments : Int) (velocity accel target : Single) (motion : Motion)
      (htarget : target = c.steps + .ofInt increments ∨ target = c.steps) :
      ActCase c (.command (.moveIncrements increments velocity accel))
        { c with target, velocity := velocity.abs, accel := accel.abs, motion }
  /-- Its way is cut to the braking distance. -/
  | brake (motion : Motion) (hbrakes : c.braking < c.remaining.abs) :
      ActCase c (.command .stopDecelerated)
        { c with target := c.steps + c.braking.round.withSignOf c.remaining, motion }
  /-- It travels for some time. -/
  | travel (dt time : Nat) (htime : time ≤ dt) :
      ActCase c (.influence (.advance dt)) (c.travel time)

theorem actCase (c : SimulatedChannel) (act : MotorAct) : c.ActCase act (act.apply c) := by
  cases act with
  | command given =>
    cases given with
    | moveIncrements increments velocity accel =>
      show c.ActCase _ (c.moveIncrements increments velocity accel)
      unfold moveIncrements
      dsimp only
      split
      · exact .depart increments velocity accel c.steps .resting (.inr rfl)
      · exact .depart increments velocity accel _ _ (.inl rfl)
    | stopAbrupt => exact .stay _ c.stopAbrupt c.steps (.inr rfl) (absurd · Bool.false_ne_true)
    | stopDecelerated =>
      show c.ActCase _ c.stopDecelerated
      unfold stopDecelerated
      split
      · exact .stay _ c c.target (.inl rfl) id
      · exact .stay _ { c with motion := .resting } c.steps (.inr rfl) id
      · dsimp only
        split
        · rename_i hbrakes
          exact .brake _ hbrakes
        · exact .stay _
            { c with motion := if c.target.eqValue c.steps then .resting else .stepping } c.target
            (.inl rfl) id
    | setZero => exact .stay _ c.setZero c.target (.inl rfl) id
    | setEnabled enabled =>
      cases enabled with
      | true => exact .stay _ { c with enabled := true } c.target (.inl rfl) id
      | false =>
        exact .stay _ { c with enabled := false }.stopAbrupt c.steps (.inr rfl)
          (absurd · Bool.false_ne_true)
    | setTorqueLimit percent =>
      exact .stay _ { c with torqueLimit := percent } c.target (.inl rfl) id
  | influence given =>
    cases given with
    | advance dt =>
      show c.ActCase _ (c.advance dt)
      rcases c.advance_cases dt with ⟨motion, -, hadvance⟩ | ⟨time, htime, hadvance⟩ <;>
        rw [hadvance]
      · exact .stay _ { c with isBlocked := false, motion } c.target (.inl rfl)
          (absurd · Bool.false_ne_true)
      · exact .travel dt time (travelTime?_le htime)
    | setFault fault => exact .stay _ { c with fault } c.target (.inl rfl) id
    | overrideEffort reading =>
      exact .stay _ { c with effortOverride := reading } c.target (.inl rfl) id
    | setEffortInvalid effortInvalid =>
      exact .stay _ { c with effortInvalid } c.target (.inl rfl) id

/-- **What every act keeps** holds after any acts. -/
theorem after_induction {P : SimulatedChannel → Prop} (hstart : P c)
    (hstep : ∀ {c next : SimulatedChannel} {act : MotorAct},
      act ∈ acts → c.ActCase act next → P c → P next) : P (c.after acts) :=
  List.foldlRecOn acts MotorAct.apply hstart fun c hc act hact => hstep hact (c.actCase act) hc

theorem mechanics_after (c : SimulatedChannel) (acts : List MotorAct) :
    (c.after acts).mechanics = c.mechanics :=
  after_induction (P := fun next => next.mechanics = c.mechanics) rfl
    fun _ hcase hsame => by cases hcase <;> exact hsame

/-! ## Numbers in range -/

/-- The numbers of a motor are finite, and its counters are near. -/
structure IsBounded (c : SimulatedChannel) : Prop where
  stops : c.mechanics.InRange
  velocity : c.velocity.rank < infinityRank
  forward : c.velocity.isNegative = false
  accel : c.accel.isNegative = false
  steps : c.steps.IsNear
  target : c.target.IsNear
  mechanical : c.mechanical.rank < infinityRank

namespace IsBounded

theorem ofPosition {mechanics : Mechanics} {position : Int} (hrange : mechanics.InRange)
    (h : IsCounter position) : (ofPosition mechanics position).IsBounded where
  stops := hrange
  velocity := finite_ofInt (n := 0) (by decide)
  forward := isNegative_ofNat 0
  accel := isNegative_ofNat 0
  steps := isNear_ofInt h.natAbs_le
  target := isNear_ofInt h.natAbs_le
  mechanical := finite_ofInt h.natAbs_le

/-- The way left is finite, and it is the exact one, rounded. -/
theorem remaining (h : c.IsBounded) :
    c.remaining.rank < infinityRank ∧
      c.remaining.units = roundUnits (c.target.units - c.steps.units) :=
  sub_of_near h.target h.steps

/-- **What is added to the position** is finite, is near, and goes towards the target. -/
theorem delta (h : c.IsBounded) {dt : Nat} (hdt : dt < UInt32.size) :
    (c.delta dt).rank < infinityRank ∧
      (c.delta dt).units.natAbs ≤ 2 ^ (57 + unitScale) ∧
      (c.steps.units ≤ c.target.units → 0 ≤ (c.delta dt).units) ∧
      (c.target.units ≤ c.steps.units → (c.delta dt).units ≤ 0) := by
  obtain ⟨hfinite, hunits⟩ := h.remaining
  have hdelta := finite_delta h.forward (isNaN_distance h.velocity hdt) h.steps.finite
    h.target.finite hfinite
  have hbetween := delta_between h.forward hdelta hfinite
  refine ⟨hdelta, ?_, delta_towards hbetween hunits⟩
  have hnear := natAbs_sub_of_near h.target h.steps
  rw [show c.target - c.steps = c.remaining from rfl] at hnear
  unfold Between at hbetween
  omega

/-- The sum with the position is finite. -/
theorem finite_sum (h : c.IsBounded) {dt : Nat} (hdt : dt < UInt32.size) :
    (c.mechanical + c.delta dt).rank < infinityRank := by
  obtain ⟨hdelta, hnear, -⟩ := h.delta hdt
  refine finite_add h.mechanical h.mechanical hdelta ?_
  rw [← natAbs_units]
  norm_num only [unitScale] at hnear
  omega

theorem travel (h : c.IsBounded) {dt : Nat} (hdt : dt < UInt32.size) :
    (c.travel dt).IsBounded where
  stops := h.stops
  velocity := h.velocity
  forward := h.forward
  accel := h.accel
  steps := by
    have hbetween := steps_travel_between h.forward (isNaN_distance h.velocity hdt)
      h.steps.finite h.target.finite
    exact isNear_of_between h.steps h.target hbetween.2.1 hbetween.2.2
  target := h.target
  mechanical := finite_clampToStops h.stops (h.finite_sum hdt)

/-- **One act** with finite numbers leaves them finite. -/
theorem step (h : c.IsBounded) (hact : act.InRange) (hcase : c.ActCase act next) :
    next.IsBounded := by
  cases hcase with
  | stay act other target htarget =>
    refine ⟨h.stops, h.velocity, h.forward, h.accel, h.steps, ?_, h.mechanical⟩
    rcases htarget with rfl | rfl
    · exact h.target
    · exact h.steps
  | depart increments velocity accel target motion htarget =>
    obtain ⟨hincrements, hvelocity⟩ := hact
    refine ⟨h.stops, (rank_abs velocity).trans_lt hvelocity, isNegative_abs velocity,
      isNegative_abs accel, h.steps, ?_, h.mechanical⟩
    rcases htarget with rfl | rfl
    · exact h.steps.add_ofInt hincrements.natAbs_le
    · exact h.steps
  | brake motion hbrakes =>
    refine ⟨h.stops, h.velocity, h.forward, h.accel, h.steps, ?_, h.mechanical⟩
    exact isNear_step h.steps h.target (isNegative_braking h.forward h.accel) hbrakes
  | travel dt time htime =>
    have hdt : dt < UInt32.size := hact
    exact h.travel (htime.trans_lt hdt)

end IsBounded

/-- **The numbers of a motor stay finite**, whatever comes to it. -/
theorem isBounded_after (hc : c.IsBounded) (hacts : ∀ act ∈ acts, act.InRange) :
    (c.after acts).IsBounded :=
  after_induction hc fun hact hcase h => h.step (hacts _ hact) hcase

end SimulatedChannel

end MotionControl
