import MotionControl.Proofs.Axis.Channels
import MotionControl.Proofs.Numeric.Sum

/-!
# A move that is done has been carried out

A move is done when no motor of the axis is stepping. A motor whose start delay is over has then
come to rest at the step counter where it was to go; one that still waits has not moved.

* `Journey`, `Arrives`: a motor on its way, from the command of a move on, and at its end.
* `Underway`: an axis on a move.
* `done_arrived`: **a move that is done has been carried out** by the motors that had time to start.
* `done_early`: it has not by the others, and a position is not always a sum.
-/

namespace MotionControl

/-! ## A motor on its way -/

namespace SimulatedChannel

/-- What has become of a motor `c` that was commanded a move and then given some time. -/
structure Journey (c : SimulatedChannel) (n : Int) (elapsed : Nat) (c' : SimulatedChannel) :
    Prop where
  zero : c'.zero = c.zero
  target : c'.target = c.steps + .ofInt n
  /-- It waits for the start delay to pass. -/
  waits : elapsed < c.mechanics.startDelay.toNat →
    c'.motion = .waiting (c.mechanics.startDelay.toNat - elapsed) ∧ c'.steps = c.steps
  /-- After that it steps, or rests at its target. -/
  goes : c.mechanics.startDelay.toNat ≤ elapsed →
    c'.motion = .stepping ∨ c'.motion = .resting ∧ c'.steps = c.steps + .ofInt n

theorem journey_moveIncrements {c : SimulatedChannel} {n : Int} (velocity accel : Single)
    (hn : n ≠ 0) (henabled : c.enabled = true) (hfree : c.fault = false) :
    c.Journey n 0 (c.moveIncrements n velocity accel) := by
  have hnot : ¬(n = 0 ∨ (!c.enabled) = true ∨ c.fault = true) := by
    simp [hn, henabled, hfree]
  unfold moveIncrements
  dsimp only
  rw [if_neg hnot]
  refine ⟨rfl, rfl, fun hdelay => ⟨?_, rfl⟩, fun hdelay => .inl ?_⟩
  · have hpositive : c.mechanics.startDelay ≠ 0 := by
      intro hzero
      rw [hzero] at hdelay
      exact absurd hdelay (by decide)
    exact if_neg hpositive
  · have hzero : c.mechanics.startDelay = 0 := UInt32.toNat_inj.1 (Nat.le_zero.1 hdelay)
    exact if_pos hzero

/-- A motor that travels keeps its target, and steps or rests there. -/
theorem travel_cases (dt : Nat) (c : SimulatedChannel) :
    (c.travel dt).zero = c.zero ∧ (c.travel dt).target = c.target ∧
      ((c.travel dt).motion = .stepping ∨
        (c.travel dt).motion = .resting ∧ (c.travel dt).steps = c.target) := by
  unfold travel
  dsimp only
  refine ⟨rfl, rfl, ?_⟩
  split
  · exact .inr ⟨rfl, rfl⟩
  · exact .inl rfl

/-- **Time takes a motor further on its way.** -/
theorem Journey.advance {c c' : SimulatedChannel} {n : Int} {elapsed : Nat}
    (h : c.Journey n elapsed c') (dt : Nat) : c.Journey n (elapsed + dt) (c'.advance dt) := by
  have travels (t : Nat) (hover : c.mechanics.startDelay.toNat ≤ elapsed + dt) :
      c.Journey n (elapsed + dt) ({ c' with isBlocked := false }.travel t) := by
    obtain ⟨hzero, htarget, hmotion⟩ := travel_cases t { c' with isBlocked := false }
    refine ⟨hzero.trans h.zero, htarget.trans h.target, fun hdelay => by omega, fun _ => ?_⟩
    exact hmotion.imp_right fun hrest => ⟨hrest.1, hrest.2.trans h.target⟩
  unfold SimulatedChannel.advance
  by_cases hdelay : elapsed < c.mechanics.startDelay.toNat
  · obtain ⟨hmotion, hsteps⟩ := h.waits hdelay
    simp only [hmotion]
    split
    · rename_i hshort
      refine ⟨h.zero, h.target, fun _ => ⟨?_, hsteps⟩, fun hover => by omega⟩
      rw [Nat.sub_add_eq]
    · exact travels _ (by omega)
  · rcases h.goes (Nat.le_of_not_lt hdelay) with hmotion | ⟨hmotion, hsteps⟩
    · simp only [hmotion]
      exact travels _ (by omega)
    · simp only [hmotion]
      exact ⟨h.zero, h.target, fun hshort => by omega, fun _ => .inr ⟨rfl, hsteps⟩⟩

/-- What has become of a motor `c` when its axis reports the move as done. -/
structure Arrives (c : SimulatedChannel) (n : Int) (elapsed : Nat) (c' : SimulatedChannel) :
    Prop where
  /-- If it has not had the time to start, it still waits where it was. -/
  waits : elapsed < c.mechanics.startDelay.toNat →
    c'.motion = .waiting (c.mechanics.startDelay.toNat - elapsed) ∧ c'.steps = c.steps
  /-- Otherwise it rests at its target. -/
  rests : c.mechanics.startDelay.toNat ≤ elapsed →
    c'.motion = .resting ∧ c'.steps = c.steps + .ofInt n
  /-- If its counter goes there without a loss, its position has gone by `n` increments. It wraps
  only where the sum is no counter. -/
  position : c.mechanics.startDelay.toNat ≤ elapsed → c.steps.MovesExactly n →
    c'.position = wrap (c.position + n)
  /-- So it has if the counter was whole and nothing has more than 24 bits. -/
  whole : c.mechanics.startDelay.toNat ≤ elapsed → ∀ k, c.steps.HasValue k →
    n.natAbs ≤ 2 ^ 24 → (k + n).natAbs ≤ 2 ^ 24 → c'.position = wrap (c.position + n)

/-- **A motor that does not step any more has arrived**, or has not started. -/
theorem Journey.arrives {c c' : SimulatedChannel} {n : Int} {elapsed : Nat}
    (h : c.Journey n elapsed c') (hstopped : c'.motion ≠ .stepping) : c.Arrives n elapsed c' := by
  have rests : c.mechanics.startDelay.toNat ≤ elapsed →
      c'.motion = .resting ∧ c'.steps = c.steps + .ofInt n :=
    fun hdelay => (h.goes hdelay).resolve_left hstopped
  have moved : c.mechanics.startDelay.toNat ≤ elapsed → c.steps.MovesExactly n →
      c'.position = wrap (c.position + n) := by
    intro hdelay hexact
    obtain ⟨-, hsteps⟩ := rests hdelay
    have hsum : c.steps.toCounter + n - c.zero = c.steps.toCounter - c.zero + n := by omega
    rw [SimulatedChannel.position, SimulatedChannel.position, hsteps, h.zero, hexact.toCounter_add,
      hsum]
    exact (Int.bmod_add_bmod ..).symm
  refine ⟨h.waits, rests, moved, ?_⟩
  intro hdelay k hvalue hn hsum
  exact moved hdelay (Single.movesExactly_of_hasValue hvalue hn hsum)

end SimulatedChannel

/-! ## An axis on a move -/

/-- What comes to an axis on a move: an update, or some time for each motor. -/
inductive Passage where
  | update (now : Nat)
  | advance (dt : Nat → Nat)

namespace Passage

def act : Passage → AxisAct SimulatedChannel
  | update now => .update now
  | advance dt => .sense fun i c => c.advance (dt i)

/-- The time that a motor is given. -/
def time (i : Nat) : Passage → Nat
  | update _ => 0
  | advance dt => dt i

end Passage

/-- The time that a motor is given in all. -/
def elapsed (passages : List Passage) (i : Nat) : Nat := (passages.map (Passage.time i)).sum

namespace Axis

/-- The increments that a call for a move has the motors go. -/
def increments? {C : Type} [MotorChannel C] (axis : Axis C) : AxisCall → Option Int
  | .moveTo request _ => some (axis.requestedIncrements request)
  | .moveIncrements increments .. => some increments
  | _ => none

/-- An axis that was commanded a move, after some time. -/
structure Underway (axis : Axis SimulatedChannel) (n : Int) (elapsed : Nat → Nat)
    (axis' : Axis SimulatedChannel) : Prop where
  length : axis'.channels.length = axis.channels.length
  journey : ∀ (i : Nat) c c', axis.channels[i]? = some c → axis'.channels[i]? = some c' →
    c.Journey n (elapsed i) c'
  origins : axis'.origins = axis.channels.map SimulatedChannel.position
  /-- The start of the move was noticed only after some motor had the time to start. -/
  started : axis'.state = .moving →
    ∃ (i : Nat) (c : SimulatedChannel), axis.channels[i]? = some c ∧
      c.mechanics.startDelay.toNat ≤ elapsed i

section

variable {axis axis' : Axis SimulatedChannel} {n : Int} {elapsed : Nat → Nat}

theorem issue_of_accepted {C : Type} [MotorChannel C] {axis : Axis C} {call : AxisCall} {n : Int}
    (hn : axis.increments? call = some n)
    (haccepted : Moment.accepted? ⟨axis, .call call⟩ = some call) :
    axis.allEnabled = true ∧
      ∃ velocity accel torque now, Moment.next ⟨axis, .call call⟩ =
        axis.issue n velocity accel torque now := by
  cases hrun : call.attempt.run axis with
  | error refusal axis' => simp [Moment.accepted?, hrun] at haccepted
  | ok u axis' =>
    have hnext : Moment.next ⟨axis, .call call⟩ = axis' := by simp [Moment.next, hrun]
    rw [hnext]
    cases call with
    | moveTo request now =>
      obtain ⟨-, -, henabled, -, -, rfl⟩ := tryMoveTo_ok.1 hrun
      cases hn
      exact ⟨henabled, _, _, _, _, rfl⟩
    | moveIncrements increments velocity accel torque now =>
      obtain ⟨-, -, henabled, -, -, rfl⟩ := tryMoveIncrements_ok.1 hrun
      cases hn
      exact ⟨henabled, _, _, _, _, rfl⟩
    | _ => cases hn

theorem underway_issue (velocity accel torque : Single) (now : Nat) (hn : n ≠ 0)
    (henabled : axis.allEnabled = true) (hfree : axis.anyFault = false) :
    axis.Underway n (fun _ => 0) (axis.issue n velocity accel torque now) := by
  have hchannels : (axis.issue n velocity accel torque now).channels =
      axis.channels.map fun c =>
        { c with torqueLimit := torque }.moveIncrements n velocity accel := by
    simp only [issue, if_neg hn]
    exact List.map_map
  have horigins : (axis.issue n velocity accel torque now).origins =
      axis.channels.map SimulatedChannel.position := by
    simp only [issue, if_neg hn]
    exact List.map_map
  have hstate : (axis.issue n velocity accel torque now).state = .startingMove now := by
    simp only [issue, if_neg hn]
  refine ⟨by simp [hchannels], ?_, horigins, ?_⟩
  · intro i c c' hc hc'
    rw [hchannels, List.getElem?_map, hc, Option.map_some, Option.some.injEq] at hc'
    subst hc'
    have hmem : c ∈ axis.channels := List.mem_of_getElem? hc
    have hc : c.enabled = true ∧ c.fault = false := by
      refine ⟨List.all_eq_true.1 henabled c hmem, Bool.eq_false_iff.2 fun hfault => ?_⟩
      have hany : axis.anyFault = true := List.any_eq_true.2 ⟨c, hmem, hfault⟩
      rw [hfree] at hany
      cases hany
    have hjourney : SimulatedChannel.Journey { c with torqueLimit := torque } n 0 _ :=
      SimulatedChannel.journey_moveIncrements velocity accel hn hc.1 hc.2
    exact ⟨hjourney.zero, hjourney.target, hjourney.waits, hjourney.goes⟩
  · intro hmoving
    rw [hstate] at hmoving
    cases hmoving

/-- A move that shows as started has a motor whose start delay is over. -/
theorem Underway.of_motionStarted (h : axis.Underway n elapsed axis')
    (hmotion : axis'.motionStarted = true) :
    ∃ (i : Nat) (c : SimulatedChannel), axis.channels[i]? = some c ∧
      c.mechanics.startDelay.toNat ≤ elapsed i := by
  obtain ⟨i, c', origin, hc', horigin, hshows⟩ := axis'.exists_of_motionStarted hmotion
  rw [h.origins, List.getElem?_map, Option.map_eq_some_iff] at horigin
  obtain ⟨c, hc, rfl⟩ := horigin
  have hjourney := h.journey i c c' hc hc'
  refine ⟨i, c, hc, Nat.le_of_not_lt fun hdelay => ?_⟩
  -- a motor that waits neither steps nor has moved
  obtain ⟨hwaits, hsteps⟩ := hjourney.waits hdelay
  rcases hshows with hstepping | hmoved
  · rw [SimulatedChannel.isStepping_of_waiting hwaits] at hstepping
    cases hstepping
  · refine hmoved ?_
    show c'.position = c.position
    rw [SimulatedChannel.position, SimulatedChannel.position, hsteps, hjourney.zero]

theorem Underway.update (h : axis.Underway n elapsed axis') {now : Nat}
    (hnext : (axis'.update now).1.state.isMoving = true) :
    axis.Underway n elapsed (axis'.update now).1 := by
  obtain ⟨-, hchannels, horigins, hstarted⟩ := (axis'.update_case now).moving_before hnext
  refine ⟨hchannels ▸ h.length, ?_, horigins.trans h.origins, ?_⟩
  · rw [hchannels]
    exact h.journey
  · intro hmoving
    rcases hstarted hmoving with hbefore | hmotion
    · exact h.started hbefore
    · exact h.of_motionStarted hmotion

theorem Underway.sense (h : axis.Underway n elapsed axis') (dt : Nat → Nat) :
    axis.Underway n (fun i => elapsed i + dt i) (axis'.sense fun i c => c.advance (dt i)) := by
  refine ⟨by simpa [Axis.sense] using h.length, ?_, h.origins, ?_⟩
  · intro i c c' hc hc'
    simp only [Axis.sense, List.getElem?_mapIdx] at hc'
    cases hbefore : axis'.channels[i]? with
    | none => simp [hbefore] at hc'
    | some before =>
      simp only [hbefore, Option.map_some, Option.some.injEq] at hc'
      subst hc'
      exact (h.journey i c before hc hbefore).advance (dt i)
  · intro hmoving
    obtain ⟨i, c, hc, hdelay⟩ := h.started hmoving
    exact ⟨i, c, hc, Nat.le_add_right_of_le hdelay⟩

theorem Underway.passage (h : axis'.state.isMoving = true → axis.Underway n elapsed axis')
    (passage : Passage) (hnext : (Moment.next ⟨axis', passage.act⟩).state.isMoving = true) :
    axis.Underway n (fun i => elapsed i + passage.time i) (Moment.next ⟨axis', passage.act⟩) := by
  cases passage with
  | update now =>
    obtain ⟨hbefore, -⟩ := (axis'.update_case now).moving_before hnext
    exact (h hbefore).update hnext
  | advance dt => exact (h hnext).sense dt

/-- **An axis that is still on its move is where the time has taken it.** -/
theorem underway_run (passages : List Passage)
    (h : axis'.state.isMoving = true → axis.Underway n elapsed axis')
    (hmoving : (axis'.run (passages.map Passage.act)).state.isMoving = true) :
    axis.Underway n (fun i => elapsed i + MotionControl.elapsed passages i)
      (axis'.run (passages.map Passage.act)) := by
  -- on the passages: the time of the first one goes over to the time before
  induction passages generalizing axis' elapsed with
  | nil => exact h hmoving
  | cons passage passages ih =>
    have hrest := ih (fun hnext => Underway.passage h passage hnext) hmoving
    have htime : (fun i => elapsed i + MotionControl.elapsed (passage :: passages) i) =
        fun i => elapsed i + passage.time i + MotionControl.elapsed passages i := by
      funext i
      rw [MotionControl.elapsed, List.map_cons, List.sum_cons, Nat.add_assoc]
      rfl
    rw [htime]
    exact hrest

end

end Axis

/-! ## Arrival -/

/-- What has become of a move by `n` increments of `axis` when it is reported as done. -/
structure Arrived (axis : Axis SimulatedChannel) (n : Int) (elapsed : Nat → Nat)
    (done : Axis SimulatedChannel) : Prop where
  length : done.channels.length = axis.channels.length
  /-- No motor is stepping. -/
  stopped : ∀ c ∈ done.channels, c.motion ≠ .stepping
  /-- Some motor has had the time to start. -/
  started : ∃ (i : Nat) (c : SimulatedChannel), axis.channels[i]? = some c ∧
    c.mechanics.startDelay.toNat ≤ elapsed i
  /-- If the motors have one start delay and are given the same time, all have had the time. -/
  together : ∀ (delay : UInt32) (time : Nat),
    (∀ c ∈ axis.channels, c.mechanics.startDelay = delay) → (∀ i, elapsed i = time) →
    delay.toNat ≤ time
  /-- Every motor has arrived, or still waits. -/
  motors : ∀ (i : Nat) c c', axis.channels[i]? = some c → done.channels[i]? = some c' →
    c.Arrives n (elapsed i) c'

/-- **A move that is done has been carried out** by every motor that has had the time to start. -/
theorem done_arrived {axis : Axis SimulatedChannel} {call : AxisCall} {n : Int}
    (hcall : axis.increments? call = some n) (hn : n ≠ 0) (hfree : axis.anyFault = false)
    (haccepted : Moment.accepted? ⟨axis, .call call⟩ = some call) (passages : List Passage)
    {last : Axis SimulatedChannel}
    (hlast : last = (Moment.next ⟨axis, .call call⟩).run (passages.map Passage.act))
    (hpending : last.pending = none) {now : Nat} (hdone : (last.update now).2 = some .done) :
    Arrived axis n (elapsed passages) (last.update now).1 := by
  obtain ⟨henabled, velocity, accel, torque, issued, hissue⟩ :=
    Axis.issue_of_accepted hcall haccepted
  have hcase := last.update_case now
  rw [hdone] at hcase
  obtain ⟨hmoving, hrest, hchannels⟩ := hcase.of_done hpending
  have hunder : axis.Underway n (elapsed passages) last := by
    have hstart := Axis.underway_issue velocity accel torque issued hn henabled hfree
    have hrun := Axis.underway_run passages (fun _ => hissue ▸ hstart)
      (by rw [← hlast, hmoving]; rfl)
    rw [← hlast] at hrun
    simpa using hrun
  have hstopped : ∀ c ∈ last.channels, c.motion ≠ .stepping := by
    intro c hc hstepping
    have hany : last.anyStepping = true :=
      List.any_eq_true.2 ⟨c, hc, beq_iff_eq.2 hstepping⟩
    rw [hrest] at hany
    cases hany
  have hstarted := hunder.started hmoving
  refine ⟨hchannels ▸ hunder.length, hchannels ▸ hstopped, hstarted, ?together, ?motors⟩
  case together =>
    intro delay time hdelay htime
    obtain ⟨i, c, hc, hover⟩ := hstarted
    rwa [hdelay c (List.mem_of_getElem? hc), htime i] at hover
  case motors =>
    intro i c c' hc hc'
    rw [hchannels] at hc'
    exact (hunder.journey i c c' hc hc').arrives (hstopped c' (List.mem_of_getElem? hc'))

/-- A move of two motors, of which one starts later. -/
def slidePassages : List Passage :=
  [.advance fun _ => 100, .update 2100, .advance fun _ => 100, .update 2200,
    .advance fun _ => 100, .update 2300, .advance fun _ => 100, .update 2400,
    .advance fun _ => 100]

theorem done_arrived_slide :
    Arrived ((slide [0, 150]).run (slideHoming 20)) 30 (elapsed slidePassages)
      (((Moment.next ⟨(slide [0, 150]).run (slideHoming 20),
        .call (.moveIncrements 30 100 100 50 2000)⟩).run
          (slidePassages.map Passage.act)).update 2500).1 :=
  done_arrived (show Axis.increments? _ (.moveIncrements 30 100 100 50 2000) = some 30 from rfl)
    (by decide) (by decide +kernel) (by decide +kernel) slidePassages rfl (by decide +kernel)
    (by decide +kernel)

/-! ## Moves that are done otherwise -/

/-- A move, which is given a tenth of a second and an update. -/
def slideMove (n : Int) (velocity : Single) (now : Nat) : List (AxisAct SimulatedChannel) :=
  .call (.moveIncrements n velocity 100 50 now) :: advanceUpdate (now + 100) 100

/-- A move back that is aborted half an increment away from zero. -/
def slideHalf : List (AxisAct SimulatedChannel) :=
  [.call (.moveIncrements (-1) 500 100 50 1300), .sense fun _ => SimulatedChannel.advance 1,
    .call .abort, .update 1301]

/-- **A move that is done need not have been carried out.** A motor may still wait for its start;
from half an increment below zero a motor comes to half an increment above, which is two
increments further; and a counter beyond 24 bits is rounded. -/
theorem done_early :
    (((slide [0, 150]).run (slideHoming 20)).channels.map SimulatedChannel.position = [0, 0] ∧
        Moment.event ⟨(slide [0, 150]).run (slideHoming 20 ++ slideMove 5 100 2000),
          .update 2101⟩ = some .done ∧
        (Moment.next ⟨(slide [0, 150]).run (slideHoming 20 ++ slideMove 5 100 2000),
          .update 2101⟩).channels.map (fun c => (c.position, c.motion)) =
            [(5, .resting), (0, .waiting 50)]) ∧
      (((slide [0]).run (slideHoming 13 ++ slideHalf)).channels.map
          SimulatedChannel.position = [-1] ∧
        Moment.event ⟨(slide [0]).run (slideHoming 13 ++ slideHalf ++ slideMove 1 500 1301),
          .update 1402⟩ = some .done ∧
        (Moment.next ⟨(slide [0]).run (slideHoming 13 ++ slideHalf ++ slideMove 1 500 1301),
          .update 1402⟩).channels.map SimulatedChannel.position = [1]) ∧
      ((slide [0]).run (slideHoming 13)).channels.map SimulatedChannel.position = [0] ∧
        Moment.event ⟨(slide [0]).run (slideHoming 13 ++ slideMove 16777217 1000000000 1300),
          .update 1401⟩ = some .done ∧
        (Moment.next ⟨(slide [0]).run (slideHoming 13 ++ slideMove 16777217 1000000000 1300),
          .update 1401⟩).channels.map SimulatedChannel.position = [16777216] := by
  decide +kernel

end MotionControl
