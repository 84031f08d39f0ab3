import MotionControl.Axis.Basic
import MotionControl.Dispense.Manager
import MotionControl.Proofs.Numeric.Width
import MotionControl.Proofs.Text.Line

/-!
# Lines that the machine writes

The names and words of the machine are short enough that each of its lines has room, whatever the
position of an axis and the volume of a report; the volumes in the status line of a dispense have to
be below a hundred million.

* `AxisStatus.IsOwn`, `Report.IsOwn`, `DispenseStatus.IsOwn`: a line with the machine's own words.
* `Axis.isOwn_status`: an axis writes such a status line.
* `lines_written_whole`: **such lines are not cut**.
-/

namespace MotionControl

/-! ## The machine's own words -/

theorem AxisState.size_name_le (state : AxisState) : state.name.utf8ByteSize ≤ 12 := by
  cases state <;> rw [name] <;> decide

theorem HomingPhase.size_name_le (phase : HomingPhase) : phase.name.utf8ByteSize ≤ 20 := by
  cases phase with
  | leg l stage => cases l <;> cases stage <;> decide
  | setZero => decide
  | destress => rw [name]; decide

theorem Fault.size_token_le (fault : Fault) : fault.token.utf8ByteSize ≤ 24 := by
  cases fault with
  | motionTorque => decide
  | homing failure => cases failure <;> decide
  | timeout deadline => cases deadline <;> decide
  | hardware => decide

theorem DispensePhase.size_name_le (phase : DispensePhase) : phase.name.utf8ByteSize ≤ 8 := by
  cases phase <;> decide

theorem DispenseKind.size_token_le (kind : DispenseKind) : kind.token.utf8ByteSize ≤ 6 := by
  cases kind <;> decide

theorem DispenseOutcome.size_token_le (outcome : DispenseOutcome) :
    outcome.token.utf8ByteSize ≤ 9 := by
  cases outcome <;> rw [token] <;> decide

/-- A word that may be absent, where a dash is written. -/
theorem size_orDash_le {word : Option String} {n : Nat} (hn : 0 < n)
    (h : ∀ w ∈ word, w.utf8ByteSize ≤ n) : (orDash word).utf8ByteSize ≤ n := by
  cases word with
  | none => exact hn
  | some w => exact h w rfl

/-- A count of increments has at most ten digits. -/
theorem size_integerPieces_le {n : Int} (hlow : counterMin ≤ n) (hhigh : n ≤ counterMax) :
    (String.join (integerPieces n)).utf8ByteSize ≤ 11 := by
  have hdigits : (Nat.repr n.natAbs).utf8ByteSize ≤ 10 := by
    refine size_repr_le (by decide) ?_
    simp only [counterMin, counterMax] at hlow hhigh
    omega
  have hsign : (String.join (if n < 0 then ["-"] else [])).utf8ByteSize ≤ 1 := by
    split <;> decide
  rw [integerPieces, String.join_append, String.utf8ByteSize_append, String.join_cons,
    String.join_nil, String.append_empty]
  omega

/-! ## The status line of an axis -/

namespace AxisStatus

/-- A snapshot with a name, words and efforts as an axis has them. -/
structure IsOwn (status : AxisStatus) : Prop where
  name : status.name.utf8ByteSize ≤ maxLabelBytes
  state : ∃ state : AxisState, status.state = state.name
  phase : ∀ word ∈ status.phase, ∃ phase : HomingPhase, word = phase.name
  channels : status.torque.length ≤ maxChannels
  torque : ∀ effort ∈ status.torque, effort.abs ≤ 999

/-- Each effort takes a separator and six bytes. -/
theorem size_torqueCalls_le {torque : List Single} (h : ∀ effort ∈ torque, effort.abs ≤ 999) :
    (String.join (torqueCalls torque).flatten).utf8ByteSize ≤ 7 * torque.length := by
  have hempty : "".utf8ByteSize = 0 := rfl
  have hcomma : ",".utf8ByteSize = 1 := rfl
  -- the efforts after the first have a comma before them
  have hrest (rest : List Single) (hr : ∀ effort ∈ rest, effort.abs ≤ 999) :
      (String.join (rest.map fun x => "," :: x.fixedPieces 1).flatten).utf8ByteSize ≤
        7 * rest.length := by
    induction rest with
    | nil => exact Nat.le_refl 0
    | cons x rest ih =>
      have hx := Single.size_effort_le (hr x (.head _))
      have hmore := ih fun effort hmem => hr effort (.tail _ hmem)
      rw [List.map_cons, List.flatten_cons, String.join_append, String.join_cons,
        String.utf8ByteSize_append, String.utf8ByteSize_append, List.length_cons]
      omega
  cases torque with
  | nil => exact Nat.le_refl 0
  | cons x rest =>
    have hx := Single.size_effort_le (h x (.head _))
    have hmore := hrest rest fun effort hmem => h effort (.tail _ hmem)
    rw [torqueCalls, List.flatten_cons, String.join_append, String.join_cons,
      String.utf8ByteSize_append, String.utf8ByteSize_append, List.length_cons]
    omega

theorem IsOwn.size_le {status : AxisStatus} (h : status.IsOwn) :
    (Line.fullText status.calls).utf8ByteSize ≤ Line.maxLength := by
  obtain ⟨state, hstate⟩ := h.state
  have hname := h.name
  have hword := state.size_name_le
  have hphase : (orDash status.phase).utf8ByteSize ≤ 20 := by
    refine size_orDash_le (by decide) fun word hmem => ?_
    obtain ⟨phase, rfl⟩ := h.phase word hmem
    exact phase.size_name_le
  have hhomed : (if status.isHomed then "1" else "0").utf8ByteSize = 1 := by
    cases status.isHomed <;> rfl
  have hposition := status.position.size_volumePieces_le
  have htorque := size_torqueCalls_le h.torque
  have hchannels := h.channels
  have hfixed : "AXIS ".utf8ByteSize = 5 ∧ " state=".utf8ByteSize = 7 ∧
      " phase=".utf8ByteSize = 7 ∧ " homed=".utf8ByteSize = 7 ∧ " pos=".utf8ByteSize = 5 ∧
      " torque=".utf8ByteSize = 8 := by decide
  simp only [Line.fullText, calls, volumePieces, List.flatten_cons, String.join_append,
    String.join_cons, String.join_nil, String.append_empty, String.utf8ByteSize_append, hfixed,
    hhomed, hstate]
  simp only [maxLabelBytes, maxChannels, Line.maxLength] at hname hchannels ⊢
  omega

end AxisStatus

/-- An axis writes its own name and words. -/
theorem Axis.isOwn_status {C : Type} [MotorChannel C] {axis : Axis C}
    (hchannels : axis.monitor.samples.length ≤ maxChannels)
    (htorque : ∀ sample ∈ axis.monitor.samples, (sample.smoothed.getD 0).abs ≤ 999) :
    axis.status.IsOwn where
  name := axis.settings.name.fits
  state := ⟨axis.state, rfl⟩
  phase := by
    intro word hmem
    simp only [Axis.status, Axis.phaseName?] at hmem
    split at hmem
    · rename_i session _
      exact ⟨session.phase, (Option.some.inj hmem).symm⟩
    · cases hmem
  channels := by rwa [Axis.status, List.length_map]
  torque := by
    simp only [Axis.status, List.mem_map, forall_exists_index, and_imp, forall_apply_eq_imp_iff₂]
    exact htorque

/-! ## Reports -/

namespace Report

/-- A report of an axis, with a fault or an outcome of the machine. -/
def IsOwn : Report → Prop
  | done source | homed source | stopped source | aborted source =>
    source.utf8ByteSize ≤ maxLabelBytes
  | error source reason =>
    source.utf8ByteSize ≤ maxLabelBytes ∧ ∃ fault : Fault, reason = fault.token
  | dispensed word _ => ∃ outcome : DispenseOutcome, word = outcome.token

theorem IsOwn.size_le {report : Report} (h : report.IsOwn) :
    (Line.fullText report.calls).utf8ByteSize ≤ Line.maxLength := by
  have hfixed : "DONE ".utf8ByteSize = 5 ∧ "HOMED ".utf8ByteSize = 6 ∧
      "STOPPED ".utf8ByteSize = 8 ∧ "ABORTED ".utf8ByteSize = 8 ∧ "ERROR ".utf8ByteSize = 6 ∧
      "DISPENSED ".utf8ByteSize = 10 ∧ " ".utf8ByteSize = 1 := by decide
  cases report with
  | done source | homed source | stopped source | aborted source =>
    simp only [IsOwn, maxLabelBytes] at h
    simp only [Line.fullText, calls, List.flatten_singleton, String.join_cons, String.join_nil,
      String.append_empty, String.utf8ByteSize_append, hfixed, Line.maxLength]
    omega
  | error source reason =>
    obtain ⟨hsource, fault, rfl⟩ := h
    have hfault := fault.size_token_le
    simp only [maxLabelBytes] at hsource
    simp only [Line.fullText, calls, List.flatten_singleton, String.join_cons, String.join_nil,
      String.append_empty, String.utf8ByteSize_append, hfixed, Line.maxLength]
    omega
  | dispensed word volume =>
    obtain ⟨outcome, rfl⟩ := h
    have hword := outcome.size_token_le
    have hvolume := volume.size_volumePieces_le
    simp only [Line.fullText, calls, volumePieces, List.flatten_singleton, String.join_append,
      String.join_cons, String.join_nil, String.append_empty, String.utf8ByteSize_append, hfixed,
      Line.maxLength]
    omega

end Report

/-! ## The status line of a dispense -/

namespace DispenseStatus

/-- A snapshot with the words of a dispense, a count of increments and volumes that are not negative
and below a hundred million. -/
structure IsOwn (status : DispenseStatus) : Prop where
  phase : ∃ phase : DispensePhase, status.phase = phase.name
  kind : ∀ word ∈ status.kind, ∃ kind : DispenseKind, word = kind.token
  outcome : ∀ word ∈ status.lastOutcome, ∃ outcome : DispenseOutcome, word = outcome.token
  remaining : counterMin ≤ status.remaining ∧ status.remaining ≤ counterMax
  dispensed : 0 ≤ status.dispensed ∧ status.dispensed < 100000000
  target : 0 ≤ status.target ∧ status.target < 100000000
  lastCompleted : 0 ≤ status.lastCompleted ∧ status.lastCompleted < 100000000
  faulted : ∀ volume ∈ status.faulted, 0 ≤ volume ∧ volume < 100000000

theorem IsOwn.size_le {status : DispenseStatus} (h : status.IsOwn) :
    (Line.fullText status.calls).utf8ByteSize ≤ Line.maxLength := by
  obtain ⟨phase, hphase⟩ := h.phase
  have hword := phase.size_name_le
  have hkind : (orDash status.kind).utf8ByteSize ≤ 6 := by
    refine size_orDash_le (by decide) fun word hmem => ?_
    obtain ⟨kind, rfl⟩ := h.kind word hmem
    exact kind.size_token_le
  have houtcome : (orDash status.lastOutcome).utf8ByteSize ≤ 9 := by
    refine size_orDash_le (by decide) fun word hmem => ?_
    obtain ⟨outcome, rfl⟩ := h.outcome word hmem
    exact outcome.size_token_le
  have hremaining := size_integerPieces_le h.remaining.1 h.remaining.2
  have hdispensed := Single.size_smallVolume_le h.dispensed.1 h.dispensed.2
  have htarget := Single.size_smallVolume_le h.target.1 h.target.2
  have hlast := Single.size_smallVolume_le h.lastCompleted.1 h.lastCompleted.2
  have hfaulted : (String.join (volumePieces? status.faulted)).utf8ByteSize ≤ 12 := by
    cases hvolume : status.faulted with
    | none => decide
    | some volume =>
      have hbounds := h.faulted volume hvolume
      exact Single.size_smallVolume_le hbounds.1 hbounds.2
  have hfixed : "DISPENSE phase=".utf8ByteSize = 15 ∧ " kind=".utf8ByteSize = 6 ∧
      " dispensed=".utf8ByteSize = 11 ∧ " target=".utf8ByteSize = 8 ∧
      " remaining=".utf8ByteSize = 11 ∧ " last=".utf8ByteSize = 6 ∧
      " outcome=".utf8ByteSize = 9 ∧ " faulted=".utf8ByteSize = 9 := by decide
  simp only [Line.fullText, calls, volumePieces, List.flatten_singleton, String.join_append,
    String.join_cons, String.join_nil, String.append_empty, String.utf8ByteSize_append, hfixed,
    hphase, Line.maxLength]
  omega

end DispenseStatus

/-! ## Whole lines -/

/-- **The lines of the machine are not cut**: the status line of an axis at any position, a report
with any volume, and the status line of a dispense with volumes below a hundred million. -/
theorem lines_written_whole :
    (∀ status : AxisStatus, status.IsOwn → status.line = Line.fullText status.calls) ∧
      (∀ report : Report, report.IsOwn → report.line = Line.fullText report.calls) ∧
      ∀ status : DispenseStatus, status.IsOwn → status.line = Line.fullText status.calls :=
  ⟨fun _ h => Line.render_eq_fullText h.size_le, fun _ h => Line.render_eq_fullText h.size_le,
    fun _ h => Line.render_eq_fullText h.size_le⟩

/-- The longest name and words, the lowest position and four of the lowest efforts. -/
def AxisStatus.longest : AxisStatus where
  name := "".pushn 'a' maxLabelBytes
  state := (AxisState.startingMove 0).name
  phase := some (HomingPhase.leg .rapidSearch .waitStart).name
  isHomed := true
  position := ⟨0xff7fffff⟩
  torque := List.replicate maxChannels (-999)

theorem AxisStatus.isOwn_longest : longest.IsOwn where
  name := by decide
  state := ⟨.startingMove 0, rfl⟩
  phase word hmem := ⟨_, (Option.some.inj hmem).symm⟩
  channels := by decide
  torque effort hmem := by
    obtain rfl : effort = -999 := List.eq_of_mem_replicate hmem
    decide

/-- A dispense of just below a hundred million that has failed before. -/
def DispenseStatus.longest : DispenseStatus where
  phase := DispensePhase.resuming.name
  kind := some DispenseKind.inject.token
  dispensed := 99999992
  target := 99999992
  remaining := counterMin
  lastCompleted := 99999992
  lastOutcome := some DispenseOutcome.completed.token
  faulted := some 99999992

theorem DispenseStatus.isOwn_longest : longest.IsOwn where
  phase := ⟨.resuming, rfl⟩
  kind word hmem := ⟨_, (Option.some.inj hmem).symm⟩
  outcome word hmem := ⟨_, (Option.some.inj hmem).symm⟩
  remaining := by decide
  dispensed := by decide
  target := by decide
  lastCompleted := by decide
  faulted volume hmem := by
    obtain rfl : volume = 99999992 := (Option.some.inj hmem).symm
    decide

/-- The longest status lines: a byte is left in that of an axis, three in that of a dispense. -/
theorem lines_written_whole_longest :
    AxisStatus.longest.line = Line.fullText AxisStatus.longest.calls ∧
      (Report.error "extruder" Fault.hardware.token).line =
        Line.fullText (Report.error "extruder" Fault.hardware.token).calls ∧
      DispenseStatus.longest.line = Line.fullText DispenseStatus.longest.calls ∧
      AxisStatus.longest.line.utf8ByteSize = 159 ∧
      DispenseStatus.longest.line.utf8ByteSize = 157 :=
  ⟨lines_written_whole.1 _ AxisStatus.isOwn_longest,
    lines_written_whole.2.1 _ ⟨by decide, .hardware, rfl⟩,
    lines_written_whole.2.2 _ DispenseStatus.isOwn_longest, by decide +kernel, by decide +kernel⟩

end MotionControl
