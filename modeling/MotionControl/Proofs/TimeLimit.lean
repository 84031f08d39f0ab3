import MotionControl.Program.Session
import MotionControl.Proofs.Script

/-!
# When a run has timed out

A run with a limit of ticks stops when they are spent. It has timed out if the limit left work
undone, and then the program exits with 2. But the run finds out that its script is at the end only
when it looks for a further line, and at the limit it does not look any more. A run that stops
elsewhere comes to no verdict of its own, and leaves the one of an earlier run on the same bench.

* `ScriptRun.hasWork`: whether something is left to do.
* `Follows.ticks_le`: **the limit is never overrun**.
* `Reaches.stop_iff`: at the limit a run has timed out when something is left to do, or the end of
  its script is not found.
* `ScriptRun.stop_of_left`: elsewhere the verdict of an earlier run stays.
* `run_timedOut_iff`: **a run has timed out exactly when it stops at the limit in one of these two
  ways**, or an earlier one has.
* `run_timedOut_without_work`: a script of one command, which is done in the last tick, times out.
-/

namespace MotionControl

/-! ## What is left to do -/

/-- Whether something is left to do: the rest of the script asks for something, its last wait is not
over, or the machine is in motion. -/
def ScriptRun.hasWork (rest : List (Option String)) (run : ScriptRun) : Bool :=
  rest.any (fun line => line.any (LineKind.of · != .blank)) || run.isHeld ||
    !run.bench.machine.isQuiescent

namespace ScriptRun

/-- A run that has found the end of its script is not held any more. -/
def IsSettled (run : ScriptRun) : Prop := run.isEnded = true → run.hold = none

/-- Only finding the end of the script tells that it is found. -/
theorem isEnded_act (deed : Deed) (run : ScriptRun) :
    (deed.act run).isEnded = (run.isEnded || deed == .close) := by
  cases deed with
  | pass => exact (Bool.or_false _).symm
  | close => exact (Bool.or_true _).symm
  | take line => exact (run.isEnded_take line).trans (Bool.or_false _).symm

theorem isEnded_after (run : ScriptRun) (deeds : List Deed) :
    (run.after deeds).isEnded = (run.isEnded || deeds.contains .close) := by
  induction deeds generalizing run with
  | nil => exact (Bool.or_false _).symm
  | cons deed deeds ih =>
    rw [after_cons, ih, isEnded_act, List.contains_cons, Bool.or_assoc]
    congr 2
    exact Bool.beq_comm

end ScriptRun

/-- What is wanted before the ticks are spent. -/
theorem ScriptRun.isSpent_of_demand {limit : Option Nat} {run : ScriptRun} {demand : Demand}
    (h : run.demand limit = demand) (hgoes : ∀ timedOut, demand ≠ .stop timedOut) :
    run.isSpent limit = false :=
  Bool.eq_false_iff.2 fun hspent => hgoes _ (h.symm.trans (if_pos hspent))

theorem ScriptRun.ticks_lt_of_demand {most : Nat} {run : ScriptRun} {demand : Demand}
    (h : run.demand (some most) = demand) (hgoes : ∀ timedOut, demand ≠ .stop timedOut) :
    run.bench.tally.ticks < most := by
  have hleft := isSpent_of_demand h hgoes
  simpa [isSpent] using hleft

/-- A deed is at most one tick, and the ticks were not spent before it. -/
theorem ScriptRun.ticks_act_le {most : Nat} {run : ScriptRun} {demand : Demand} (deed : Deed)
    (h : run.demand (some most) = demand) (hgoes : ∀ timedOut, demand ≠ .stop timedOut) :
    (deed.act run).bench.tally.ticks ≤ most := by
  have hroom := ticks_lt_of_demand h hgoes
  have hone : deed.tick?.toList.length ≤ 1 := by cases deed.tick? <;> simp
  rw [(deed.act_counts run).2.1]
  omega

namespace Follows

variable {limit : Option Nat} {run : ScriptRun} {script : List String} {deeds : List Deed}

/-- No line is taken after the end of the script was found, so nothing holds it again. -/
theorem isSettled (h : Follows limit run script deeds) (hrun : run.IsSettled) :
    (run.after deeds).IsSettled := by
  induction h with
  | nil => exact hrun
  | pass _ _ ih =>
    rw [ScriptRun.after_cons]
    exact ih hrun
  | @take run line script deeds hdemand hrest ih =>
    have hopen := (ScriptRun.isEnded_act (.take line) run).trans
      (congrArg (· || _) (ScriptRun.demand_eq_line hdemand).2)
    have hnext : (run.take line).IsSettled := fun hended =>
      absurd (hopen.symm.trans hended) Bool.false_ne_true
    rw [ScriptRun.after_cons]
    exact ih hnext
  | close _ _ ih =>
    rw [ScriptRun.after_cons]
    exact ih fun _ => rfl

/-- **The limit is never overrun**, unless it was before. -/
theorem ticks_le {most : Nat} (h : Follows (some most) run script deeds) :
    (run.after deeds).bench.tally.ticks ≤ max run.bench.tally.ticks most := by
  have hnext : ∀ {before after final : Nat}, after ≤ most → final ≤ max after most →
      final ≤ max before most := by omega
  induction h with
  | nil => exact Nat.le_max_left _ _
  | pass hdemand _ ih =>
    have hstep := ScriptRun.ticks_act_le .pass hdemand (by simp)
    rw [Deed.act] at hstep
    rw [ScriptRun.after_cons, Deed.act]
    exact hnext hstep ih
  | @take _ line _ _ hdemand _ ih =>
    have hstep := ScriptRun.ticks_act_le (.take line) hdemand (by simp)
    rw [Deed.act] at hstep
    rw [ScriptRun.after_cons, Deed.act]
    exact hnext hstep ih
  | close hdemand _ ih =>
    have hstep := ScriptRun.ticks_act_le .close hdemand (by simp)
    rw [Deed.act] at hstep
    rw [ScriptRun.after_cons, Deed.act]
    exact hnext hstep ih

end Follows

/-! ## The verdict -/

/-- A run that stops before the limit leaves the verdict as it is. -/
theorem ScriptRun.stop_of_left {limit : Option Nat} {run : ScriptRun} {timedOut : Bool}
    (h : run.demand limit = .stop timedOut) (hleft : run.isSpent limit = false) :
    timedOut = run.bench.tally.timedOut := by
  rw [demand, if_neg (Bool.eq_false_iff.1 hleft)] at h
  split at h
  · cases h
  split at h
  · cases h
  split at h
  · exact (Demand.stop.inj h).symm
  · cases h

namespace Reaches

variable {limit : Option Nat} {run : ScriptRun} {script rest : List (Option String)}
  {deeds : List Deed} {ending : Ending}

/-- **A run with a limit is let go on for long enough.** -/
theorem length_lt (h : Reaches limit run script deeds rest) (hlimit : limit.isSome = true) :
    deeds.length < limit.getD clockEnd + script.length + 2 := by
  obtain ⟨most, rfl⟩ := Option.isSome_iff_exists.1 hlimit
  have hlength := h.follows.length_le
  have hclose : (if run.isEnded then 0 else 1) ≤ 1 := by split <;> decide
  have hticks := h.follows.ticks_le
  rw [(run.counts_after deeds).1] at hticks
  have hlines := congrArg List.length h.lines
  rw [List.length_append, List.length_map] at hlines
  rw [Option.getD_some]
  omega

/-- Where the end of the script is found, only motion is left to be work. -/
theorem hasWork_of_close (h : Reaches limit run script deeds rest) (hopen : run.isEnded = false)
    (hclose : Deed.close ∈ deeds) :
    (run.after deeds).hasWork rest = !(run.after deeds).bench.machine.isQuiescent := by
  have hended : (run.after deeds).isEnded = true := by
    rw [ScriptRun.isEnded_after, List.contains_iff_mem.2 hclose, Bool.or_true]
  have hsettled : run.IsSettled := fun hended =>
    absurd (hopen.symm.trans hended) Bool.false_ne_true
  have hfree : (run.after deeds).isHeld = false := by
    rw [ScriptRun.isHeld, h.follows.isSettled hsettled hended]
  rw [ScriptRun.hasWork, h.closed hclose, hfree]
  rfl

/-- **At the limit a run has timed out when something is left to do**, or the end of the script is
not found. -/
theorem stop_iff (h : Reaches limit run script deeds rest) (hopen : run.isEnded = false)
    (hspent : (run.after deeds).isSpent limit = true) :
    (run.after deeds).demand limit = .stop true ↔
      (run.after deeds).hasWork rest = true ∨ Deed.close ∉ deeds := by
  rw [ScriptRun.demand, if_pos hspent, ScriptRun.isEnded_after, hopen]
  by_cases hclose : Deed.close ∈ deeds
  · rw [h.hasWork_of_close hopen hclose, List.contains_iff_mem.2 hclose]
    simp [hclose]
  · simp [hclose]

/-- So a run has timed out when it ends at the limit in one of these two ways, or elsewhere on a
bench where an earlier one has. -/
theorem timedOut_iff (h : Reaches limit run script deeds rest) (hopen : run.isEnded = false)
    (hdue : ending.IsDue limit (run.after deeds) rest
      (deeds.length = limit.getD clockEnd + script.length + 2)) :
    ending = .finished true ↔
      (run.after deeds).isSpent limit = true ∧
          ((run.after deeds).hasWork rest = true ∨ .close ∉ deeds) ∨
        (run.after deeds).isSpent limit = false ∧ run.bench.tally.timedOut = true ∧
          ∃ timedOut, ending = .finished timedOut := by
  cases ending with
  | finished timedOut =>
    have hstop : (run.after deeds).demand limit = .stop timedOut := hdue
    rcases Bool.eq_false_or_eq_true ((run.after deeds).isSpent limit) with hspent | hleft
    · have hverdict := h.stop_iff hopen hspent
      rw [hstop, Demand.stop.injEq] at hverdict
      simp [hspent, hverdict]
    · have hearlier := ScriptRun.stop_of_left hstop hleft
      rw [ScriptRun.timedOut_after] at hearlier
      simp [hleft, hearlier]
  | unreadable =>
    -- a line is wanted only before the limit
    have hroom := ScriptRun.isSpent_of_demand hdue.1 (by simp)
    simp [hroom]
  | unfinished =>
    -- without a limit the ticks are not spent
    have hnone : limit.isSome = false :=
      Bool.eq_false_iff.2 fun hlimit => Nat.ne_of_lt (h.length_lt hlimit) hdue
    rw [Option.isSome_eq_false_iff, Option.isNone_iff_eq_none] at hnone
    simp [hnone, ScriptRun.isSpent]

/-- With a limit, 2 is the exit code of a run that has timed out, and of no other. -/
theorem exitCode_eq_two_iff (h : Reaches limit run script deeds rest)
    (hdue : ending.IsDue limit (run.after deeds) rest
      (deeds.length = limit.getD clockEnd + script.length + 2)) (hlimit : limit.isSome = true) :
    ending.exitCode = 2 ↔ ending = .finished true := by
  cases ending with
  | finished timedOut => cases timedOut <;> decide
  | unreadable => decide
  | unfinished => exact absurd hdue (Nat.ne_of_lt (h.length_lt hlimit))

end Reaches

/-- **A run has timed out exactly when it stops at the limit with work left, or without when it has
not found the end of its script.** A run that is done before the limit has timed out if an earlier
run on the bench has, which on a new bench there is not. The program then exits with 2, and with a
limit for no other reason. -/
theorem run_timedOut_iff (bench : Bench) (script : List (Option String)) (limit : Option Nat) :
    ∃ deeds rest final, Reaches limit { bench } script deeds rest ∧
      final = ({ bench } : ScriptRun).after deeds ∧
      (bench.run script limit).1 = final.bench.endedBy (bench.run script limit).2 ∧
      ((bench.run script limit).2 = .finished true ↔
        final.isSpent limit = true ∧ (final.hasWork rest = true ∨ .close ∉ deeds) ∨
          final.isSpent limit = false ∧ bench.tally.timedOut = true ∧
            ∃ timedOut, (bench.run script limit).2 = .finished timedOut) ∧
      (limit.isSome = true → ((bench.run script limit).2.exitCode = 2 ↔
        (bench.run script limit).2 = .finished true)) := by
  obtain ⟨deeds, rest, hreaches, hbench, hdue⟩ := ScriptRun.runFor_reaches limit
    (limit.getD clockEnd + script.length + 2) script { bench }
  exact ⟨deeds, rest, _, hreaches, rfl, hbench, hreaches.timedOut_iff rfl hdue,
    hreaches.exitCode_eq_two_iff hdue⟩

/-- A homing run is stopped on its way, and the program exits with 2. -/
theorem run_timedOut_iff_spindle :
    ∃ bench, Bench.ofSetup spindleSetup 10 = .ok bench ∧ (some 2 : Option Nat).isSome = true ∧
      (bench.run [some "home x 0.01 99"] (some 2)).2.exitCode = 2 ∧
      ∃ deeds rest final,
        Reaches (some 2) { bench } [some "home x 0.01 99"] deeds rest ∧
          final = ({ bench } : ScriptRun).after deeds ∧
          (bench.run [some "home x 0.01 99"] (some 2)).1 = final.bench.conclude true ∧
          final.isSpent (some 2) = true ∧ (final.hasWork rest = true ∨ .close ∉ deeds) := by
  have hending : (Bench.ofSetup spindleSetup 10).toOption.map
      (fun bench => (bench.run [some "home x 0.01 99"] (some 2)).2) = some (.finished true) := by
    decide +kernel
  cases hbench : Bench.ofSetup spindleSetup 10 with
  | error error =>
    rw [hbench] at hending
    cases hending
  | ok bench =>
    rw [hbench] at hending
    have htimedOut : (bench.run [some "home x 0.01 99"] (some 2)).2 = .finished true :=
      Option.some.inj hending
    obtain ⟨deeds, rest, final, hreaches, hfinal, hend, hverdict, hcode⟩ :=
      run_timedOut_iff bench [some "home x 0.01 99"] (some 2)
    rw [htimedOut] at hend
    -- no run has timed out on a new bench before
    have hnew : bench.tally.timedOut = false := by rw [(Bench.new_of_ofSetup hbench).1]
    have hspent := (hverdict.1 htimedOut).resolve_right (by simp [hnew])
    exact ⟨bench, rfl, rfl, (hcode rfl).2 htimedOut, deeds, rest, final, hreaches, hfinal, hend,
      hspent⟩

/-- **A script that is done in the last tick times out**: its one command is carried out, nothing is
in motion, and nothing is left to do. -/
theorem run_timedOut_without_work :
    ∃ bench, Bench.ofSetup spindleSetup 10 = .ok bench ∧
      (bench.run [some "status"] (some 1)).2 = .finished true ∧
      ∃ deeds, Reaches (some 1) { bench } [some "status"] deeds [] ∧
        (bench.run [some "status"] (some 1)).1 =
          (({ bench } : ScriptRun).after deeds).bench.conclude true ∧
        (({ bench } : ScriptRun).after deeds).hasWork [] = false := by
  have hfacts : (Bench.ofSetup spindleSetup 10).toOption.map (fun bench =>
      let run : ScriptRun := { bench }
      (run.demand (some 1), (run.take "status").demand (some 1), (run.take "status").hasWork [])) =
        some (.line, .stop true, false) := by
    decide +kernel
  cases hbench : Bench.ofSetup spindleSetup 10 with
  | error error =>
    rw [hbench] at hfacts
    cases hfacts
  | ok bench =>
    rw [hbench] at hfacts
    have htriple := Option.some.inj hfacts
    simp only [Prod.mk.injEq] at htriple
    obtain ⟨hline, hstop, hwork⟩ := htriple
    have hreaches : Reaches (some 1) { bench } [some "status"] [.take "status"] [] :=
      (Reaches.nil _ _ []).take hline
    have hrun : bench.run [some "status"] (some 1) =
        ((({ bench } : ScriptRun).take "status").bench.conclude true, .finished true) := by
      simp only [Bench.run, ScriptRun.runFor, hline, hstop]
    exact ⟨bench, rfl, congrArg Prod.snd hrun, [.take "status"], hreaches, congrArg Prod.fst hrun,
      hwork⟩

end MotionControl
