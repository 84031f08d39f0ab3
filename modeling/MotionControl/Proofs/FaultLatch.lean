import MotionControl.Proofs.Axis.Fault

/-!
# A fault bit is latched

An update that sees the fault bit of a drive leaves the axis in a fault, and no move is accepted
before the fault has been cleared without a fault bit. If the axis was not in a fault already, its
reference is lost as well, and a homing run has to be completed after that.

* `IsCleared`, `IsReferencedAgain`: what has to have come to the axis for a move.
* `fault_bit_latches`: **a fault bit is latched**, in every run.
* `fault_bit_passes`: a bit seen in another fault, or in the update that reports an event, leaves
  the reference alone.
-/

namespace MotionControl

variable {C : Type} [MotorChannel C]

/-! ## What has to come before a move -/

/-- A call leaves a fault, and no drive reports a fault bit. -/
def Moment.Clears (moment : Moment C) : Prop :=
  moment.axis.state.isFault = true ∧ moment.accepted? = some .clearFault ∧
    moment.axis.anyFault = false

/-- A fault has been cleared. -/
def IsCleared (past : List (Moment C)) : Prop := ∃ moment ∈ past, moment.Clears

/-- A fault has been cleared, and a homing run completed later. -/
def IsReferencedAgain (past : List (Moment C)) : Prop :=
  ∃ earlier moment later, past = earlier ++ moment :: later ∧ IsCleared earlier ∧
    moment.event = some .homed

section

variable {past : List (Moment C)} {moment : Moment C}

theorem isCleared_concat : IsCleared (past ++ [moment]) ↔ IsCleared past ∨ moment.Clears := by
  simp [IsCleared, or_and_right, exists_or]

theorem IsReferencedAgain.concat (h : IsReferencedAgain past) :
    IsReferencedAgain (past ++ [moment]) := by
  obtain ⟨earlier, homed, later, rfl, hcleared, hevent⟩ := h
  exact ⟨earlier, homed, later ++ [moment], by simp, hcleared, hevent⟩

theorem isReferencedAgain_of_homed (hcleared : IsCleared past)
    (hevent : moment.event = some .homed) : IsReferencedAgain (past ++ [moment]) :=
  ⟨past, moment, [], rfl, hcleared, hevent⟩

end

/-! ## The way out of a fault -/

namespace Axis

/-- How far an axis has come since a fault was latched. -/
inductive Recovers (past : List (Moment C)) (axis : Axis C) : Prop where
  | latched {fault : Fault} (hstate : axis.state = .fault fault)
  | cleared (hpast : IsCleared past)

/-- How far an axis has come since a fault was latched that has cost it the reference. -/
inductive RecoversReference (past : List (Moment C)) (axis : Axis C) : Prop where
  | latched {fault : Fault} (hstate : axis.state = .fault fault) (hhomed : axis.isHomed = false)
  | cleared (hpast : IsCleared past) (hhomed : axis.isHomed = false)
  | homed (hpast : IsReferencedAgain past)

section

variable {past : List (Moment C)} {axis : Axis C}

theorem isCleared_of_step (past : List (Moment C)) (act : AxisAct C) {fault : Fault}
    (hstate : axis.state = .fault fault) :
    ((Moment.next ⟨axis, act⟩).state = .fault fault ∨ IsCleared (past ++ [⟨axis, act⟩])) ∧
      (Moment.next ⟨axis, act⟩).isHomed = axis.isHomed := by
  obtain ⟨hhomed, hsame | ⟨hcall, hfree, -⟩⟩ := (Moment.step ⟨axis, act⟩).of_fault hstate
  · exact ⟨.inl (hsame.trans hstate), hhomed⟩
  · refine ⟨.inr (isCleared_concat.2 (.inr ⟨?_, hcall, hfree⟩)), hhomed⟩
    show axis.state.isFault = true
    rw [hstate]
    rfl

theorem Recovers.next (h : axis.Recovers past) (act : AxisAct C) :
    (Moment.next ⟨axis, act⟩).Recovers (past ++ [⟨axis, act⟩]) := by
  cases h with
  | latched hstate =>
    rcases isCleared_of_step past act hstate with ⟨hfault | hpast, -⟩
    · exact .latched hfault
    · exact .cleared hpast
  | cleared hpast => exact .cleared (isCleared_concat.2 (.inl hpast))

theorem RecoversReference.next (h : axis.RecoversReference past) (hsound : axis.IsSound)
    (act : AxisAct C) :
    (Moment.next ⟨axis, act⟩).RecoversReference (past ++ [⟨axis, act⟩]) := by
  cases h with
  | latched hstate hhomed =>
    obtain ⟨hfault | hpast, hsame⟩ := isCleared_of_step past act hstate
    · exact .latched hfault (hsame.trans hhomed)
    · exact .cleared hpast (hsame.trans hhomed)
  | cleared hpast hhomed =>
    by_cases hevent : Moment.event ⟨axis, act⟩ = some .homed
    · exact .homed (isReferencedAgain_of_homed hpast hevent)
    · -- without the end of a homing run the axis stays unreferenced
      have hiff := (Moment.step ⟨axis, act⟩).isHomed_iff hsound
      refine .cleared (isCleared_concat.2 (.inl hpast)) (Bool.eq_false_iff.2 ?_)
      simpa [hevent, hhomed] using hiff
  | homed hpast => exact .homed hpast.concat

/-- **No move is accepted in a fault before it has been cleared.** -/
theorem isCleared_of_move {fault : Fault} (hfault : axis.state = .fault fault)
    (later : List (AxisAct C)) {act : AxisAct C} {call : AxisCall}
    (hcall : Moment.accepted? ⟨axis.run later, act⟩ = some call) (hmove : call.isMove = true) :
    IsCleared (axis.moments later) := by
  have hrecovers : (axis.run later).Recovers (axis.moments later) :=
    run_induction (fun past axis => axis.Recovers past) (fun _ _ act h => h.next act) later
      (.latched hfault)
  have hstandby : (axis.run later).state = .standby := (Moment.standby_of_move hcall hmove).1
  cases hrecovers with
  | latched hstate =>
    rw [hstandby] at hstate
    cases hstate
  | cleared hpast => exact hpast

/-- **If the fault has cost the reference, a homing run has to be completed as well.** -/
theorem isReferencedAgain_of_move (hsound : axis.IsSound) {fault : Fault}
    (hfault : axis.state = .fault fault) (hlost : axis.isHomed = false)
    (later : List (AxisAct C)) {act : AxisAct C} {call : AxisCall}
    (hcall : Moment.accepted? ⟨axis.run later, act⟩ = some call) (hmove : call.isMove = true) :
    IsReferencedAgain (axis.moments later) := by
  have hrecovers : (axis.run later).IsSound ∧
      (axis.run later).RecoversReference (axis.moments later) :=
    run_induction (fun past axis => axis.IsSound ∧ axis.RecoversReference past)
      (fun _ _ act h => ⟨(Moment.step _).isSound h.1, h.2.next h.1 act⟩) later
      ⟨hsound, .latched hfault hlost⟩
  obtain ⟨hstandby, hhomed⟩ := Moment.standby_of_move hcall hmove
  have hstandby : (axis.run later).state = .standby := hstandby
  have hhomed : (axis.run later).isHomed = true := hhomed
  cases hrecovers.2 with
  | latched hstate =>
    rw [hstandby] at hstate
    cases hstate
  | cleared _ hunhomed =>
    rw [hhomed] at hunhomed
    cases hunhomed
  | homed hpast => exact hpast

end

end Axis

/-! ## Latching -/

/-- What becomes of an axis when an update with the axis `next` after it sees a fault bit. -/
structure BitLatched (axis next : Axis C) : Prop where
  /-- The axis is in a fault. -/
  fault : next.state.isFault = true
  /-- If it was in none before, the fault is that of the drive and the reference is lost. -/
  hardware : axis.state.isFault = false → next.state = .fault .hardware ∧ next.isHomed = false
  /-- If it was in one before, it stays as it was. -/
  earlier : axis.state.isFault = true → next.state = axis.state ∧ next.isHomed = axis.isHomed
  /-- No move is accepted before the fault has been cleared. -/
  cleared : ∀ later act call, Moment.accepted? ⟨next.run later, act⟩ = some call →
    call.isMove = true → IsCleared (next.moments later)
  /-- If the reference was lost, none is before a homing run has been completed after that. -/
  referenced : axis.state.isFault = false → ∀ later act call,
    Moment.accepted? ⟨next.run later, act⟩ = some call → call.isMove = true →
    IsReferencedAgain (next.moments later)

/-- **A fault bit is latched** by every update that sees it with no event to report. -/
theorem fault_bit_latches {settings : AxisSettings} {channels : List C} {start : Axis C}
    (hstart : Axis.ofChannels settings channels = .ok start) (acts : List (AxisAct C)) (now : Nat)
    (hpending : (start.run acts).pending = none) (hbit : (start.run acts).anyFault = true) :
    BitLatched (start.run acts) ((start.run acts).update now).1 := by
  have hsound := Axis.isSound_run hstart acts
  have hnext : ((start.run acts).update now).1.IsSound :=
    (Moment.step ⟨start.run acts, .update now⟩).isSound hsound
  have hlatch := Axis.update_latches now hpending hbit
  generalize start.run acts = axis at *
  generalize (axis.update now).1 = next at *
  rcases hlatch with ⟨hfree, hstate, hlost⟩ | ⟨fault, hstate, hsame, hhomed⟩
  · -- the bit is latched, and the reference is lost
    refine ⟨by rw [hstate]; rfl, fun _ => ⟨hstate, hlost⟩, ?_, ?_, ?_⟩
    · intro hfault
      rw [hfree] at hfault
      cases hfault
    · exact fun later act call => Axis.isCleared_of_move hstate later
    · exact fun _ later act call => Axis.isReferencedAgain_of_move hnext hstate hlost later
  · -- another fault has been latched before
    have hfault : axis.state.isFault = true := by rw [hstate]; rfl
    refine ⟨by rw [hsame]; rfl, ?_, fun _ => ⟨hsame.trans hstate.symm, hhomed⟩, ?_, ?_⟩
    · intro hfree
      rw [hfault] at hfree
      cases hfree
    · exact fun later act call => Axis.isCleared_of_move hsame later
    · intro hfree
      rw [hfault] at hfree
      cases hfree

/-- A fault bit that comes after a homing run. -/
theorem fault_bit_latches_spindle :
    BitLatched (spindle.run (spindleHoming ++ [.sense fun _ c => { c with fault := true }]))
      ((spindle.run (spindleHoming ++ [.sense fun _ c => { c with fault := true }])).update 14).1 :=
  fault_bit_latches spindle_isBuilt _ 14 (by decide +kernel) (by decide +kernel)

/-- The motor does not start on a move, which fails, and then its drive reports a fault bit. -/
def spindleStuck : List (AxisAct ScriptedChannel) :=
  spindleHoming ++
    [.sense fun _ c => { c with autoStart := false }, .call (.moveIncrements 100 100 100 50 13),
      .update 513, .sense fun _ c => { c with fault := true }]

/-- An update sees the bit, then the bit goes away and the fault is cleared. -/
def spindleFreed : List (AxisAct ScriptedChannel) :=
  [.update 514, .sense fun _ c => { c with fault := false }, .call .clearFault]

/-- A move of no length is done, and then the drive reports a fault bit. -/
def spindleDone : List (AxisAct ScriptedChannel) :=
  spindleHoming ++
    [.call (.moveIncrements 0 100 100 50 13), .sense fun _ c => { c with fault := true }]

/-- **A fault bit may pass.** Seen in another fault it leaves the axis referenced, so that a move is
accepted without another homing run; seen when the end of a move is reported it does not even put
the axis in a fault. -/
theorem fault_bit_passes :
    ((spindle.run spindleStuck).anyFault = true ∧
        ((spindle.run spindleStuck).update 514).1.isHomed = true ∧
        (Moment.accepted? ⟨(spindle.run spindleStuck).run spindleFreed,
          .call (.moveIncrements 100 100 100 50 515)⟩).isSome = true ∧
        ((spindle.run spindleStuck).moments spindleFreed).all
          (fun moment => moment.event != some .homed) = true) ∧
      (spindle.run spindleDone).anyFault = true ∧
        ((spindle.run spindleDone).update 14).1.state = .standby ∧
        ((spindle.run spindleDone).update 14).1.isHomed = true := by
  decide +kernel

end MotionControl
