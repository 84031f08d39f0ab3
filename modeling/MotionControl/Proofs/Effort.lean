import MotionControl.Proofs.Axis.Run
import MotionControl.Proofs.Numeric.Exact
import Mathlib.Data.List.DropRight

/-!
# What an effort monitor remembers

A monitor takes readings of its channels and is reset now and then. What it tells of a channel is a
function of the readings of that channel since the last reset: the last of them decides about the
torque limit, and the valid ones make the average.

* `EffortCall`, `EffortMonitor.run`: what comes to a monitor, in any order.
* `readings`: the readings of a channel since the last reset.
* `EffortSample.Remembers`, `remembers_run`: **a sample remembers its readings**, and no others.
* `hasTorqueLimit_run`: the torque limit in force is one, all along a run of an axis.
* `effort_follows_history`: **what a monitor tells of a channel**, and so **when a move fails for
  its torque**.
-/

namespace MotionControl

/-! ## Readings -/

/-- A reading of the effort of a channel. -/
structure EffortReading where
  /-- What the driver reports, if anything. -/
  effort : Option Single
  /-- Whether the channel was stepping. -/
  stepping : Bool
deriving DecidableEq

/-- A driver reports a valid effort: it is finite and within the largest magnitude. -/
structure IsValidEffort (reading : Option Single) (effort : Single) : Prop where
  present : reading = some effort
  finite : effort.isFinite = true
  bounded : effort.abs ≤ maxValidEffort

theorem validEffort?_eq_some_iff {reading : Option Single} {effort : Single} :
    validEffort? reading = some effort ↔ IsValidEffort reading effort := by
  rw [validEffort?, Option.filter_eq_some_iff, Bool.and_eq_true, decide_eq_true_eq]
  exact ⟨fun ⟨hpresent, hfinite, hbounded⟩ => ⟨hpresent, hfinite, hbounded⟩,
    fun h => ⟨h.present, h.finite, h.bounded⟩⟩

/-- What comes to a monitor. -/
inductive EffortCall where
  | sample (channel : Nat) (reading : EffortReading)
  | reset
deriving DecidableEq

/-- The reading of a channel that a call brings. -/
def EffortCall.readingOf? (channel : Nat) : EffortCall → Option EffortReading
  | sample other reading => if other = channel then some reading else none
  | reset => none

/-- The calls since the last reset. -/
def sinceReset (calls : List EffortCall) : List EffortCall := calls.rtakeWhile (· ≠ .reset)

/-- The readings of a channel since the last reset, the last one at the end. -/
def readings (channel : Nat) (calls : List EffortCall) : List EffortReading :=
  (sinceReset calls).filterMap (EffortCall.readingOf? channel)

/-- The efforts of the valid ones among some readings. -/
def validEfforts (readings : List EffortReading) : List Single :=
  readings.filterMap fun reading => validEffort? reading.effort

/-- The weighted average of some efforts, from the first one on. -/
def weightedAverage (alpha : Single) : List Single → Option Single
  | [] => none
  | first :: rest =>
    some (rest.foldl (fun previous effort => alpha * effort + (1 - alpha) * previous) first)

section

variable {channel other : Nat} {reading : EffortReading} {calls : List EffortCall}

theorem readings_reset : readings channel (calls ++ [.reset]) = [] := by
  rw [readings, sinceReset, List.rtakeWhile_concat_neg _ _ _ (by decide)]
  rfl

theorem readings_sample :
    readings channel (calls ++ [.sample other reading]) =
      readings channel calls ++ if other = channel then [reading] else [] := by
  rw [readings, sinceReset, List.rtakeWhile_concat_pos _ _ _ (by simp), List.filterMap_append]
  by_cases hsame : other = channel <;>
    simp [hsame, EffortCall.readingOf?, readings, sinceReset]

/-- One more effort goes into the average with its weight. -/
theorem weightedAverage_concat (alpha : Single) (efforts : List Single) (effort : Single) :
    weightedAverage alpha (efforts ++ [effort]) =
      some (EffortSample.average alpha (weightedAverage alpha efforts) effort) := by
  cases efforts with
  | nil => rfl
  | cons first rest =>
    rw [List.cons_append, weightedAverage, List.foldl_append]
    rfl

end

/-! ## One channel -/

namespace EffortSample

/-- The effort and the stepping of the last one of some readings: an effort that is not valid counts
as none, and nothing is stepping without a reading. -/
def lastOf (readings : List EffortReading) : Single × Bool :=
  readings.getLast?.elim (0, false) fun last => ((validEffort? last.effort).getD 0, last.stepping)

/-- A sample tells of some readings: it has the average of the valid ones, and the last one. -/
structure Remembers (alpha : Single) (readings : List EffortReading) (sample : EffortSample) :
    Prop where
  smoothed : sample.smoothed = weightedAverage alpha (validEfforts readings)
  last : (sample.raw, sample.wasStepping) = lastOf readings

section

variable {alpha limit : Single} {past : List EffortReading} {sample : EffortSample}

theorem remembers_nil (alpha : Single) : Remembers alpha [] {} := ⟨rfl, rfl⟩

/-- **A sample remembers one more reading.** -/
theorem Remembers.take (h : sample.Remembers alpha past) (reading : EffortReading) :
    (sample.take alpha reading.effort reading.stepping).Remembers alpha (past ++ [reading]) := by
  have hefforts : validEfforts (past ++ [reading]) =
      validEfforts past ++ (validEffort? reading.effort).toList := by
    simp [validEfforts, List.filterMap_append, List.filterMap_cons]
    cases validEffort? reading.effort <;> rfl
  unfold EffortSample.take
  cases heffort : validEffort? reading.effort with
  | some effort =>
    refine ⟨?_, by simp [lastOf, heffort]⟩
    rw [hefforts, heffort, Option.toList_some, weightedAverage_concat, ← h.smoothed]
  | none =>
    refine ⟨?_, by simp [lastOf, heffort]⟩
    rw [hefforts, heffort, Option.toList_none, List.append_nil]
    exact h.smoothed

/-- **The torque limit looks at the last reading only**: it is exceeded by a valid effort beyond it,
taken while stepping. -/
theorem Remembers.exceeds_iff (h : sample.Remembers alpha past) (hlimit : 0 ≤ limit) :
    sample.exceeds limit = true ↔
      ∃ last effort, past.getLast? = some last ∧ last.stepping = true ∧
        IsValidEffort last.effort effort ∧ limit < effort.abs := by
  have hnothing : ¬ limit < (0 : Single).abs := Single.not_lt_of_le hlimit
  have hlast := h.last
  rw [exceeds, Bool.and_eq_true, decide_eq_true_eq]
  cases hpast : past.getLast? with
  | none =>
    rw [lastOf, hpast] at hlast
    have hstill : sample.wasStepping = false := congrArg Prod.snd hlast
    simp [hstill]
  | some last =>
    rw [lastOf, hpast] at hlast
    have hraw : sample.raw = (validEffort? last.effort).getD 0 := congrArg Prod.fst hlast
    have hstepping : sample.wasStepping = last.stepping := congrArg Prod.snd hlast
    rw [hraw, hstepping]
    constructor
    · rintro ⟨hsteps, hover⟩
      cases heffort : validEffort? last.effort with
      | none =>
        rw [heffort] at hover
        exact absurd hover hnothing
      | some effort =>
        rw [heffort] at hover
        exact ⟨last, effort, rfl, hsteps, validEffort?_eq_some_iff.1 heffort, hover⟩
    · rintro ⟨_, effort, hlast, hsteps, hvalid, hover⟩
      cases hlast
      rw [validEffort?_eq_some_iff.2 hvalid]
      exact ⟨hsteps, hover⟩

/-- What has been read before the last reading makes no difference to the limit. -/
theorem exceeds_take_iff (alpha : Single) (reading : EffortReading) (sample : EffortSample)
    (hlimit : 0 ≤ limit) :
    (sample.take alpha reading.effort reading.stepping).exceeds limit = true ↔
      reading.stepping = true ∧
        ∃ effort, IsValidEffort reading.effort effort ∧ limit < effort.abs := by
  have hsame : (sample.take alpha reading.effort reading.stepping).exceeds limit =
      (({} : EffortSample).take alpha reading.effort reading.stepping).exceeds limit := by
    unfold EffortSample.take
    split <;> rfl
  rw [hsame, ((remembers_nil alpha).take reading).exceeds_iff hlimit]
  simp

end

end EffortSample

/-! ## Monitors -/

namespace EffortMonitor

/-- The monitor after a call. -/
def apply (monitor : EffortMonitor) : EffortCall → EffortMonitor
  | .sample channel reading => monitor.sample channel reading.effort reading.stepping
  | .reset => monitor.reset

/-- The monitor after some calls. -/
def run (monitor : EffortMonitor) (calls : List EffortCall) : EffortMonitor :=
  calls.foldl apply monitor

/-- The weight that a monitor gives to a reading: the one it is asked for, if that is above zero and
at most one. -/
def weight (alpha : Single) : Single := if 0 < alpha ∧ alpha ≤ 1 then alpha else defaultAlpha

section

variable {count channel : Nat}

theorem run_concat (monitor : EffortMonitor) (calls : List EffortCall) (call : EffortCall) :
    monitor.run (calls ++ [call]) = (monitor.run calls).apply call := by
  rw [run, run, List.foldl_append]
  rfl

theorem alpha_run (monitor : EffortMonitor) (calls : List EffortCall) :
    (monitor.run calls).alpha = monitor.alpha := by
  induction calls using List.reverseRecOn with
  | nil => rfl
  | append_singleton calls call ih =>
    rw [run_concat]
    cases call <;> exact ih

theorem length_run (monitor : EffortMonitor) (calls : List EffortCall) :
    (monitor.run calls).samples.length = monitor.samples.length := by
  induction calls using List.reverseRecOn with
  | nil => rfl
  | append_singleton calls call ih =>
    rw [run_concat, ← ih]
    cases call with
    | sample channel reading => exact List.length_modify ..
    | reset => exact List.length_map ..

/-- **A sample remembers the readings of its channel since the last reset**, whatever has come to
the monitor. -/
theorem remembers_run (alpha : Single) (hchannel : channel < min count maxChannels)
    (calls : List EffortCall) :
    ∃ sample, ((ofCount count alpha).run calls).samples[channel]? = some sample ∧
      sample.Remembers (weight alpha) (readings channel calls) := by
  -- on the calls from the last one back: only a reset and a reading of the channel change its
  -- sample
  induction calls using List.reverseRecOn with
  | nil =>
    refine ⟨{}, ?_, EffortSample.remembers_nil _⟩
    simp [run, ofCount, hchannel]
  | append_singleton calls call ih =>
    obtain ⟨sample, hsample, hremembers⟩ := ih
    rw [run_concat]
    cases call with
    | reset =>
      refine ⟨{}, ?_, ?_⟩
      · show
          (((ofCount count alpha).run calls).samples.map fun _ => ({} : EffortSample))[channel]? =
            some {}
        rw [List.getElem?_map, hsample]
        rfl
      · rw [readings_reset]
        exact EffortSample.remembers_nil _
    | sample other reading =>
      have hweight : ((ofCount count alpha).run calls).alpha = weight alpha := alpha_run ..
      rw [readings_sample, apply, EffortMonitor.sample, hweight]
      by_cases hsame : other = channel
      · refine ⟨sample.take (weight alpha) reading.effort reading.stepping, ?_, ?_⟩
        · rw [hsame, List.getElem?_modify_eq, hsample]
          rfl
        · rw [if_pos hsame]
          exact hremembers.take reading
      · refine ⟨sample, ?_, ?_⟩
        · rw [List.getElem?_modify_ne _ _ hsame, hsample]
        · rwa [if_neg hsame, List.append_nil]

/-- A monitor knows nothing of a channel that it has not been made for. -/
theorem samples_run_of_le (alpha : Single) (hchannel : min count maxChannels ≤ channel)
    (calls : List EffortCall) :
    ((ofCount count alpha).run calls).samples[channel]? = none := by
  rw [List.getElem?_eq_none_iff, length_run]
  simpa [ofCount] using hchannel

end

end EffortMonitor

/-! ## The torque limit of an axis -/

theorem zero_le_of_isTorqueLimit {limit : Single} (h : isTorqueLimit limit = true) : 0 ≤ limit := by
  rw [isTorqueLimit, Bool.and_eq_true, Single.isPositive, Bool.and_eq_true, decide_eq_true_eq] at h
  have hlt : Single.lt 0 limit = true := h.1.2
  show Single.le 0 limit = true
  simp only [Single.lt, Single.le, Bool.and_eq_true, decide_eq_true_eq] at hlt ⊢
  exact ⟨hlt.1, Int.le_of_lt hlt.2⟩

namespace Axis

variable {C : Type} [MotorChannel C] {axis next : Axis C} {now : Nat}

/-- The torque limit in force is a percentage that a torque limit can have. -/
def HasTorqueLimit {C : Type} (axis : Axis C) : Prop := isTorqueLimit axis.torqueLimit = true

theorem torqueLimit_issue (increments : Int) (velocity accel torque : Single) :
    (axis.issue increments velocity accel torque now).torqueLimit = torque := by
  unfold issue
  dsimp only
  split <;> rfl

theorem torqueLimit_endDestress (state : AxisState) :
    (axis.endDestress state).torqueLimit = axis.torqueLimit := by
  unfold endDestress
  split <;> rfl

theorem torqueLimit_abort : axis.abort.torqueLimit = axis.torqueLimit := by
  unfold abort
  dsimp only
  split
  · exact torqueLimit_endDestress _
  · rfl

/-- **An accepted call keeps the torque limit**, or puts one in force that is a torque limit. -/
theorem HasTorqueLimit.call {call : AxisCall} (h : axis.HasTorqueLimit)
    (hrun : call.attempt.run axis = .ok () next) : next.HasTorqueLimit := by
  unfold HasTorqueLimit at h ⊢
  cases call with
  | moveTo request asked =>
    obtain ⟨-, husable, -, -, -, rfl⟩ := tryMoveTo_ok.1 hrun
    rw [torqueLimit_issue]
    simp only [MoveRequest.isUsable, Bool.and_eq_true] at husable
    exact husable.2
  | moveIncrements increments velocity accel torque asked =>
    obtain ⟨-, husable, -, -, -, rfl⟩ := tryMoveIncrements_ok.1 hrun
    rw [torqueLimit_issue]
    simp only [Bool.and_eq_true] at husable
    exact husable.2
  | home maxTravel torque asked =>
    obtain ⟨-, husable, -, rfl⟩ := tryHome_ok.1 hrun
    rw [Bool.and_eq_true] at husable
    exact husable.2
  | stopDecelerated =>
    obtain ⟨-, rfl⟩ := tryStopDecelerated_ok.1 hrun
    exact h
  | clearFault =>
    have hclear := tryClearFault_ok.1 hrun
    split at hclear
    · obtain ⟨-, rfl⟩ := hclear
      exact h
    · exact hclear ▸ h
  | abort => cases hrun; rwa [torqueLimit_abort]
  | discardPending => cases hrun; exact h
  | enable => cases hrun; exact h
  | disable =>
    cases hrun
    rw [← axis.torqueLimit_abort] at h
    exact h

/-- **An update keeps the torque limit**: a homing run puts its own in force again. -/
theorem UpdateCase.torqueLimit_eq {event : Option AxisEvent} (h : axis.UpdateCase now next event)
    (hsound : axis.IsSound) : next.torqueLimit = axis.torqueLimit := by
  cases h with
  | report | rest | go | depart | giveUp | fail | arrive => rfl
  | hardware => exact torqueLimit_endDestress _
  | homing _ hstate hcase =>
    cases hcase with
    | fail => exact torqueLimit_endDestress _
    | start => exact (hsound.session _ hstate).limit.symm
    | wait | depart | seek | find | retreat | zero | settle | release => rfl

/-- **The torque limit in force is one, all along a run.** -/
theorem hasTorqueLimit_run {settings : AxisSettings} {channels : List C} {start : Axis C}
    (hstart : ofChannels settings channels = .ok start) (acts : List (AxisAct C)) :
    (start.run acts).HasTorqueLimit := by
  have hbegin : start.IsSound ∧ start.HasTorqueLimit := by
    refine ⟨isSound_of_ofChannels hstart, ?_⟩
    unfold ofChannels at hstart
    split at hstart
    · cases hstart
    · cases hstart
      show isTorqueLimit 100 = true
      decide
  refine (run_induction (fun _ axis => axis.IsSound ∧ axis.HasTorqueLimit) ?_ acts hbegin).2
  intro past axis act ⟨hsound, hlimit⟩
  refine ⟨(Moment.step ⟨axis, act⟩).isSound hsound, ?_⟩
  cases act with
  | sense feedback => exact hlimit
  | update now =>
    have hsame := (axis.update_case now).torqueLimit_eq hsound
    exact (congrArg isTorqueLimit hsame).trans hlimit
  | call call =>
    cases hrun : call.attempt.run axis with
    | ok u next =>
      have hnext : Moment.next ⟨axis, .call call⟩ = next := by simp only [Moment.next, hrun]
      rw [hnext]
      exact hlimit.call hrun
    | error refusal next =>
      have hnext : Moment.next ⟨axis, .call call⟩ = axis := by
        simp only [Moment.next, hrun]
        exact call.attempt_atomic _ _ _ hrun
      rwa [hnext]

/-! ## A move that fails for its torque -/

/-- A channel is stepping with a valid effort beyond a torque limit. -/
def Overloads (limit : Single) (c : C) : Prop :=
  MotorChannel.isStepping c = true ∧
    ∃ effort, IsValidEffort (MotorChannel.effort? c) effort ∧ limit < effort.abs

/-- **The readings of an update are beyond the torque limit exactly if a channel is**, the first one
or any other. -/
theorem anyOverLimit_sampleEffort_iff
    (hsamples : axis.monitor.samples.length = axis.channels.length)
    (hlimit : 0 ≤ axis.torqueLimit) :
    axis.sampleEffort.anyOverLimit = true ↔ ∃ c ∈ axis.channels, Overloads axis.torqueLimit c := by
  have htake (c : C) (sample : EffortSample) :
      (sample.take axis.monitor.alpha (MotorChannel.effort? c) (MotorChannel.isStepping c)).exceeds
        axis.torqueLimit = true ↔ Overloads axis.torqueLimit c :=
    EffortSample.exceeds_take_iff axis.monitor.alpha
      ⟨MotorChannel.effort? c, MotorChannel.isStepping c⟩ sample hlimit
  have hany : axis.sampleEffort.anyOverLimit = true ↔
      ∃ (i : Nat) (c : C), axis.channels[i]? = some c ∧ Overloads axis.torqueLimit c := by
    show List.any (List.zipWith _ axis.channels axis.monitor.samples) _ = true ↔ _
    rw [List.any_eq_true]
    constructor
    · rintro ⟨sample, hmem, hover⟩
      obtain ⟨i, hi⟩ := List.mem_iff_getElem?.1 hmem
      obtain ⟨c, before, hc, -, rfl⟩ := List.getElem?_zipWith_eq_some.1 hi
      exact ⟨i, c, hc, (htake c before).1 hover⟩
    · rintro ⟨i, c, hc, hover⟩
      obtain ⟨hi, -⟩ := List.getElem?_eq_some_iff.1 hc
      have hbefore : axis.monitor.samples[i]? = some _ :=
        List.getElem?_eq_getElem (hsamples ▸ hi)
      exact ⟨_, List.mem_of_getElem? (List.getElem?_zipWith_eq_some.2 ⟨c, _, hc, hbefore, rfl⟩),
        (htake c _).2 hover⟩
  rw [hany]
  constructor
  · rintro ⟨i, c, hc, hover⟩
    exact ⟨c, List.mem_of_getElem? hc, hover⟩
  · rintro ⟨c, hmem, hover⟩
    obtain ⟨i, hi⟩ := List.mem_iff_getElem?.1 hmem
    exact ⟨i, c, hi, hover⟩

/-- An update of a move that has started reports a torque fault if a reading is beyond the limit. -/
theorem update_moving_iff (hpending : axis.pending = none) (hstate : axis.state = .moving)
    (hfree : axis.anyFault = false) :
    (axis.update now).2 = some (.fault .motionTorque) ↔ axis.sampleEffort.anyOverLimit = true := by
  have hmoving : axis.sampleEffort.state = .moving := hstate
  rw [update_of_free hpending (.inr hfree), updateState, hmoving]
  unfold updateMoving
  cases axis.sampleEffort.anyOverLimit with
  | true => simp [failMove]
  | false =>
    simp only [Bool.false_eq_true, if_false]
    split
    · simp
    · simp only [finish]
      split <;> simp

end Axis

/-! ## History -/

/-- What a monitor that has been made for `count` channels tells of a channel after some calls. -/
structure FollowsHistory (count : Nat) (alpha : Single) (calls : List EffortCall) (channel : Nat)
    (monitor : EffortMonitor) : Prop where
  /-- The last reading is beyond a torque limit if it is valid, beyond the limit, and was taken
  while stepping. -/
  exceeds : channel < min count maxChannels → ∀ limit, 0 ≤ limit →
    (monitor.exceeds channel limit = true ↔
      ∃ last effort, (readings channel calls).getLast? = some last ∧ last.stepping = true ∧
        IsValidEffort last.effort effort ∧ limit < effort.abs)
  /-- The average is that of the valid readings. -/
  smoothed : channel < min count maxChannels →
    monitor.smoothed? channel =
      weightedAverage (EffortMonitor.weight alpha) (validEfforts (readings channel calls))
  /-- Nothing is told of any other channel. -/
  silent : min count maxChannels ≤ channel →
    (∀ limit, monitor.exceeds channel limit = false) ∧ monitor.smoothed? channel = none ∧
      monitor.raw channel = 0

/-- **What a monitor tells of a channel follows from the readings of that channel since the last
reset.** So an update of a move reports a torque fault exactly if a channel is stepping with a valid
effort beyond the torque limit. -/
theorem effort_follows_history {C : Type} [MotorChannel C] (count : Nat) (alpha : Single)
    (calls : List EffortCall) (channel : Nat) {settings : AxisSettings} {channels : List C}
    {start : Axis C} (hstart : Axis.ofChannels settings channels = .ok start)
    (acts : List (AxisAct C)) (now : Nat) :
    FollowsHistory count alpha calls channel ((EffortMonitor.ofCount count alpha).run calls) ∧
      ((start.run acts).state = .moving → (start.run acts).pending = none →
        (start.run acts).anyFault = false →
        (((start.run acts).update now).2 = some (.fault .motionTorque) ↔
          ∃ c ∈ (start.run acts).channels, Axis.Overloads (start.run acts).torqueLimit c)) := by
  refine ⟨⟨?exceeds, ?smoothed, ?silent⟩, ?move⟩
  case exceeds =>
    intro hchannel limit hlimit
    obtain ⟨sample, hsample, hremembers⟩ := EffortMonitor.remembers_run alpha hchannel calls
    rw [EffortMonitor.exceeds, hsample, Option.any_some]
    exact hremembers.exceeds_iff hlimit
  case smoothed =>
    intro hchannel
    obtain ⟨sample, hsample, hremembers⟩ := EffortMonitor.remembers_run alpha hchannel calls
    rw [EffortMonitor.smoothed?, hsample, Option.bind_some]
    exact hremembers.smoothed
  case silent =>
    intro hchannel
    have hnone := EffortMonitor.samples_run_of_le alpha hchannel calls
    simp [EffortMonitor.exceeds, EffortMonitor.smoothed?, EffortMonitor.raw, hnone]
  case move =>
    intro hstate hpending hfree
    rw [Axis.update_moving_iff hpending hstate hfree]
    exact Axis.anyOverLimit_sampleEffort_iff (Axis.isSound_run hstart acts).samples
      (zero_le_of_isTorqueLimit (Axis.hasTorqueLimit_run hstart acts))

/-- Readings of a channel, with a reset, an invalid one and one of another channel among them. -/
def mixedReadings : List EffortCall :=
  [.sample 0 ⟨some 90, true⟩, .reset, .sample 0 ⟨some 40, true⟩, .sample 0 ⟨some 150, true⟩,
    .sample 1 ⟨some 99, true⟩, .sample 0 ⟨none, false⟩, .sample 0 ⟨some (-80), true⟩]

/-- A move is under way, and its motor meets a load. -/
def spindleLoaded : List (AxisAct ScriptedChannel) :=
  spindleHoming ++ [.call (.moveIncrements 100 100 100 50 13), .update 14,
    .sense fun _ c => { c with effort := some (-80) }]

/-- The last reading is beyond a limit, the average has two readings, and a load fails a move. -/
theorem effort_follows_history_spindle :
    ((EffortMonitor.ofCount 1 0.5).run mixedReadings).exceeds 0 50 = true ∧
      ((EffortMonitor.ofCount 1 0.5).run mixedReadings).smoothed? 0 = some (-20) ∧
      ((spindle.run spindleLoaded).update 15).2 = some (.fault .motionTorque) := by
  have hfollows := effort_follows_history 1 0.5 mixedReadings 0 spindle_isBuilt spindleLoaded 15
  refine ⟨?exceeds, ?smoothed, ?move⟩
  case exceeds =>
    refine (hfollows.1.exceeds (by decide) 50 (by decide)).2 ⟨⟨some (-80), true⟩, -80, ?_⟩
    exact ⟨by decide, rfl, ⟨rfl, by decide, by decide⟩, by decide⟩
  case smoothed => exact (hfollows.1.smoothed (by decide)).trans (by decide)
  case move =>
    have hchannel : ∃ c ∈ (spindle.run spindleLoaded).channels,
        c.stepping = true ∧ c.effort = some (-80) := by decide +kernel
    obtain ⟨c, hmem, hstepping, heffort⟩ := hchannel
    have hlimit : (spindle.run spindleLoaded).torqueLimit = 50 := by decide +kernel
    refine (hfollows.2 (by decide +kernel) (by decide +kernel) (by decide +kernel)).2 ⟨c, hmem, ?_⟩
    rw [hlimit]
    exact ⟨hstepping, -80, ⟨heffort, by decide, by decide⟩, by decide⟩

end MotionControl
