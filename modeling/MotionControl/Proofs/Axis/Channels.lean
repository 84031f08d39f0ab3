import MotionControl.Proofs.Axis.Run

/-!
# The channels of an axis one by one

Calls and updates reach the channels of an axis by the commands of a channel only, and every
channel stays in its place.

* `Withstands`: a relation of channels to companions that no command breaks.
* `Axis.IsTied`: every channel is related to its companion.
* `exists_of_motionStarted`: the channel whose motion an axis shows.
* `CallCase.isTied`, `UpdateCase.isTied`: **so it is after a call and after an update.**
-/

namespace MotionControl

variable {B C : Type}

/-- No command breaks a relation of channels to companions. -/
structure Withstands [MotorChannel C] (R : B → C → Prop) : Prop where
  moveIncrements : ∀ increments velocity accel b c, R b c →
    R b (MotorChannel.moveIncrements increments velocity accel c)
  stopAbrupt : ∀ b c, R b c → R b (MotorChannel.stopAbrupt c)
  stopDecelerated : ∀ b c, R b c → R b (MotorChannel.stopDecelerated c)
  setZero : ∀ b c, R b c → R b (MotorChannel.setZero c)
  setEnabled : ∀ enabled b c, R b c → R b (MotorChannel.setEnabled enabled c)
  setTorqueLimit : ∀ percent b c, R b c → R b (MotorChannel.setTorqueLimit percent c)

namespace Axis

/-- Every channel is related to its companion. -/
def IsTied (R : B → C → Prop) (companions : List B) (axis : Axis C) : Prop :=
  List.Forall₂ R companions axis.channels

/-- The motion that an axis shows is that of one of its channels. -/
theorem exists_of_motionStarted [MotorChannel C] {axis : Axis C} (h : axis.motionStarted = true) :
    ∃ (i : Nat) (c : C) (origin : Int), axis.channels[i]? = some c ∧
      axis.origins[i]? = some origin ∧
        (MotorChannel.isStepping c = true ∨ MotorChannel.position c ≠ origin) := by
  obtain ⟨⟨c, origin⟩, hmem, hshows⟩ := List.any_eq_true.1 h
  obtain ⟨i, hi⟩ := List.mem_iff_getElem?.1 hmem
  obtain ⟨hc, horigin⟩ := List.getElem?_zip_eq_some.1 hi
  refine ⟨i, c, origin, hc, horigin, ?_⟩
  rwa [Bool.or_eq_true, bne_iff_ne] at hshows

section

variable {R : B → C → Prop} {companions : List B} {axis next : Axis C} {now : Nat}

theorem IsTied.mapChannels (h : axis.IsTied R companions) {f : C → C}
    (hf : ∀ b c, R b c → R b (f c)) : (axis.mapChannels f).IsTied R companions :=
  List.forall₂_map_right_iff.2 (h.imp hf)

theorem IsTied.of_mem (h : axis.IsTied R companions) {c : C} (hc : c ∈ axis.channels) :
    ∃ b ∈ companions, R b c := by
  obtain ⟨i, hi, rfl⟩ := List.getElem_of_mem hc
  have hbound : i < companions.length := h.length_eq ▸ hi
  exact ⟨companions[i], List.getElem_mem hbound, h.get hbound hi⟩

variable [MotorChannel C] (hR : Withstands R)

include hR

theorem IsTied.stopAll (h : axis.IsTied R companions) : axis.stopAll.IsTied R companions :=
  h.mapChannels hR.stopAbrupt

theorem IsTied.setAllEnabled (h : axis.IsTied R companions) (enabled : Bool) :
    (axis.setAllEnabled enabled).IsTied R companions :=
  h.mapChannels (hR.setEnabled enabled)

theorem IsTied.endDestress (h : axis.IsTied R companions) (state : AxisState) :
    (axis.endDestress state).IsTied R companions := by
  unfold Axis.endDestress
  split
  · exact h.setAllEnabled hR true
  · exact h

theorem IsTied.issue (h : axis.IsTied R companions) {increments : Int}
    {velocity accel torque : Single} :
    (axis.issue increments velocity accel torque now).IsTied R companions := by
  have hlimit := h.mapChannels (hR.setTorqueLimit torque)
  unfold Axis.issue
  dsimp only
  split
  · exact hlimit
  · exact hlimit.mapChannels (hR.moveIncrements increments velocity accel)

theorem IsTied.abort (h : axis.IsTied R companions) : axis.abort.IsTied R companions := by
  have hstopped : IsTied R companions { axis.stopAll with stopRequested := false } :=
    h.stopAll hR
  unfold Axis.abort
  dsimp only
  split
  · exact hstopped.endDestress hR axis.state
  · exact hstopped

theorem IsTied.walked (h : axis.IsTied R companions) {channels : List C}
    (hwalked : List.Forall₂ IsWalked axis.channels channels) :
    IsTied R companions { axis with channels } := by
  unfold IsTied at h ⊢
  refine List.forall₂_of_length_eq_of_get (h.length_eq.trans hwalked.length_eq) ?_
  intro i hi hi'
  have hbound : i < axis.channels.length := h.length_eq ▸ hi
  have hbefore := h.get hi hbound
  rcases hwalked.get hbound hi' with hsame | hstopped
  · rw [hsame]
    exact hbefore
  · rw [hstopped]
    exact hR.stopAbrupt _ _ hbefore

/-- **A call breaks no tie** that withstands the commands. -/
theorem CallCase.isTied {call : AxisCall} (h : axis.CallCase call next)
    (htied : axis.IsTied R companions) : next.IsTied R companions := by
  cases h with
  | move => exact htied.issue hR
  | @home maxTravel torque => exact htied.mapChannels (hR.setTorqueLimit torque)
  | stop => exact htied.mapChannels hR.stopDecelerated
  | clear | unfaulted | discard => exact htied
  | abort => exact htied.abort hR
  | enable => exact htied.setAllEnabled hR true
  | disable => exact (htied.abort hR).setAllEnabled hR false

theorem HomingCase.isTied {session : HomingSession} {event : Option AxisEvent}
    (h : axis.HomingCase session now next event) (htied : axis.IsTied R companions) :
    next.IsTied R companions := by
  cases h with
  | @fail channels failed fault hwalked =>
    have hstopped : ({ axis with channels }.stopAll).IsTied R companions :=
      (htied.walked hR hwalked).stopAll hR
    exact hstopped.endDestress hR (.homing failed)
  | wait | depart | retreat => exact htied
  | start =>
    have hlimit := htied.mapChannels (hR.setTorqueLimit session.torque)
    exact hlimit.mapChannels (hR.moveIncrements _ _ _)
  | seek hphase hwalk | find hphase hwalk => exact htied.walked hR (walked_of_walk hwalk)
  | zero => exact htied.mapChannels hR.setZero
  | release =>
    have hzeroed : (axis.mapChannels MotorChannel.setZero).IsTied R companions :=
      htied.mapChannels hR.setZero
    exact hzeroed.setAllEnabled hR false
  | settle => exact htied.setAllEnabled hR true

/-- **An update breaks no tie** that withstands the commands. -/
theorem UpdateCase.isTied {event : Option AxisEvent} (h : axis.UpdateCase now next event)
    (htied : axis.IsTied R companions) : next.IsTied R companions := by
  have hsampled : axis.sampleEffort.IsTied R companions := htied
  cases h with
  | report | rest | go | depart | giveUp | arrive => exact htied
  | hardware => exact (hsampled.stopAll hR).endDestress hR axis.state
  | fail => exact hsampled.stopAll hR
  | homing hpending hstate hcase => exact hcase.isTied hR hsampled

end

end Axis

end MotionControl
