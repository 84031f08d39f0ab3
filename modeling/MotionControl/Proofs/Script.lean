import MotionControl.Proofs.Bench.Deeds

/-!
# A script is carried out faithfully

A run hands the lines of a script to the machine, each of them once, in their order and to a tick
of its own, and no line before what the script waits for has come.

* `Hold.IsOver`: what a script waits for has come.
* `Follows.released`: a line is taken after a wait only when the wait is over.
* `Follows.found`: the first line after a wait finds the machine quiescent.
* `CarriedOut`: what is right about the deeds of a run.
* `script_carried_out`: **every script is carried out faithfully on a new bench**.
-/

namespace MotionControl

/-! ## Waits -/

/-- What a script waits for has come. -/
def Hold.IsOver (bench : Bench) : Hold → Prop
  | untilQuiescent => bench.machine.isQuiescent = true
  | untilTime time => time ≤ bench.now

theorem ScriptRun.isOver_of_free {run : ScriptRun} {hold : Hold} (hhold : run.hold = some hold)
    (hfree : run.isHeld = false) : hold.IsOver run.bench := by
  unfold isHeld at hfree
  rw [hhold] at hfree
  cases hold with
  | untilQuiescent => simpa [Hold.IsOver] using hfree
  | untilTime time => simpa [Hold.IsOver] using hfree

namespace Follows

variable {limit : Option Nat} {run : ScriptRun} {script : List String} {between rest : List Deed}
  {handed : String}

/-- **A held script goes on when its wait is over**: ticks are passed until then. -/
theorem released {hold : Hold} (h : Follows limit run script (between ++ .take handed :: rest))
    (hhold : run.hold = some hold) :
    ∃ passes others, between = passes ++ others ∧ (∀ deed ∈ passes, deed = .pass) ∧
      others.head? ≠ some .pass ∧ hold.IsOver (run.after passes).bench := by
  induction between generalizing run script with
  | nil =>
    cases h with
    | take hdemand =>
      have hover := ScriptRun.isOver_of_free hhold (ScriptRun.demand_eq_line hdemand).1
      exact ⟨[], [], rfl, fun _ h => (List.not_mem_nil h).elim, nofun, hover⟩
  | cons deed between ih =>
    cases h with
    | pass hdemand hrest =>
      obtain ⟨passes, others, rfl, hpasses, hothers, hover⟩ := ih hrest hhold
      refine ⟨.pass :: passes, others, rfl, ?_, hothers, hover⟩
      intro deed hdeed
      rcases List.mem_cons.1 hdeed with rfl | hdeed
      · rfl
      · exact hpasses deed hdeed
    | take hdemand | close hdemand =>
      have hover := ScriptRun.isOver_of_free hhold (ScriptRun.demand_eq_line hdemand).1
      exact ⟨[], _, rfl, fun _ h => (List.not_mem_nil h).elim, nofun, hover⟩

/-- **A line after a timed wait is not taken before its time**, which the end of the clock may cut
short. -/
theorem waited {since duration : Nat}
    (h : Follows limit run script (between ++ .take handed :: rest))
    (hhold : run.hold = some (.untilTime (later since duration))) :
    since + duration ≤ (run.after between).bench.now ∨
      clockEnd ≤ (run.after between).bench.now := by
  obtain ⟨passes, others, rfl, -, -, hover⟩ := h.released hhold
  have hdue : later since duration ≤ (run.after passes).bench.now := hover
  have hlater := (run.after passes).le_now_after others
  rw [ScriptRun.after_append]
  unfold later at hdue
  omega

/-- The script is held until the machine is quiescent, or nothing has happened since then. -/
def IsCalm (run : ScriptRun) : Prop :=
  run.hold = some .untilQuiescent ∨ run.hold = none ∧ run.bench.machine.isQuiescent = true

/-- A line or the end of the script finds a calm run quiescent. -/
theorem isQuiescent_of_line (hcalm : IsCalm run) (hdemand : run.demand limit = .line) :
    run.bench.machine.isQuiescent = true := by
  rcases hcalm with hheld | ⟨-, hrest⟩
  · exact ScriptRun.isOver_of_free hheld (ScriptRun.demand_eq_line hdemand).1
  · exact hrest

/-- A tick does not end the calm: without a hold a tick is passed only in motion. -/
theorem IsCalm.pass (hcalm : IsCalm run) (hdemand : run.demand limit = .tick) :
    IsCalm run.pass := by
  rcases hcalm with hheld | ⟨hnone, hquiescent⟩
  · exact .inl hheld
  · rcases ScriptRun.demand_eq_tick hdemand with hheld | ⟨-, hmoving⟩
    · rw [ScriptRun.isHeld, hnone] at hheld
      cases hheld
    · rw [hquiescent] at hmoving
      cases hmoving

/-- Nor does a line that hands nothing to the machine. -/
theorem IsCalm.take {line : String} (hcalm : IsCalm run) (hdemand : run.demand limit = .line)
    (hidle : (LineKind.of line).isIdle = true) : IsCalm (run.take line) := by
  have hquiescent := isQuiescent_of_line hcalm hdemand
  rw [← ScriptLine.kind_read run.bench.now line] at hidle
  unfold ScriptRun.take
  cases hread : ScriptLine.read run.bench.now line with
  | blank | malformed => exact .inr ⟨rfl, hquiescent⟩
  | wait | command =>
    rw [hread] at hidle
    cases hidle

/-- **The next line after a wait finds the machine quiescent**, whatever blanks and malformed
directives come in between. -/
theorem found (h : Follows limit run script (between ++ .take handed :: rest))
    (hidle : ∀ deed ∈ between, deed.isIdle = true) (hcalm : IsCalm run) :
    (run.after between).bench.machine.isQuiescent = true := by
  induction between generalizing run script with
  | nil =>
    cases h with
    | take hdemand => exact isQuiescent_of_line hcalm hdemand
  | cons deed between ih =>
    have hidle' : ∀ deed ∈ between, deed.isIdle = true := fun deed hdeed =>
      hidle deed (.tail _ hdeed)
    rw [ScriptRun.after_cons]
    cases h with
    | pass hdemand hrest => exact ih hrest hidle' (hcalm.pass hdemand)
    | @take _ line _ _ hdemand hrest =>
      have hline : (LineKind.of line).isIdle = true := hidle (.take line) (.head _)
      have hfound := ih hrest hidle' (hcalm.take hdemand hline)
      exact hfound
    | close hdemand hrest =>
      have hquiescent := isQuiescent_of_line hcalm hdemand
      have hnext : IsCalm run.close := .inr ⟨rfl, hquiescent⟩
      exact ih hrest hidle' hnext

end Follows

/-! ## Places in a run -/

theorem ScriptRun.hold_of_wait {run : ScriptRun} {line : String} {hold : Hold}
    (h : ScriptLine.read run.bench.now line = .wait hold) : (run.take line).hold = some hold := by
  unfold take
  rw [h]

theorem ScriptRun.after_take (run : ScriptRun) (before more : List Deed) (line : String) :
    run.after (before ++ .take line :: more) = ((run.after before).take line).after more := by
  rw [after_append, after_cons, Deed.act]

/-- What follows a line at some place follows the script there. -/
theorem Follows.of_take {limit : Option Nat} {run : ScriptRun} {script : List String}
    {before more : List Deed} {line : String}
    (h : Follows limit run script (before ++ .take line :: more)) :
    ∃ script', Follows limit ((run.after before).take line) script' more := by
  obtain ⟨script', hrest⟩ := h.rest
  cases hrest with
  | take hdemand hmore => exact ⟨_, hmore⟩

/-- A run that has come to its end has reached the limit, or has nothing left to do. -/
theorem Follows.complete {limit : Option Nat} {run : ScriptRun} {script : List String}
    {deeds : List Deed} (h : Follows limit run script deeds) (hopen : run.isEnded = false)
    (hending : (∃ timedOut, (run.after deeds).demand limit = .stop timedOut) ∨
      deeds.length = limit.getD clockEnd + script.length + 2) :
    limit.getD clockEnd ≤ (run.after deeds).bench.tally.ticks ∨
      deeds.filterMap Deed.line? = script ∧
        (run.after deeds).bench.machine.isQuiescent = true := by
  rcases hending with ⟨timedOut, hstop⟩ | hlength
  · rcases ScriptRun.demand_eq_stop hstop with hspent | ⟨hended, hrest⟩
    · cases limit with
      | none => cases hspent
      | some most => exact .inl (of_decide_eq_true hspent)
    · exact .inr ⟨h.taken_all hopen hended, hrest⟩
  · -- all but a few of that many deeds are ticks
    have hbound := h.length_le
    rw [hopen, if_neg Bool.false_ne_true] at hbound
    have hticks := (run.counts_after deeds).1
    exact .inl (by omega)

/-! ## Faithfulness -/

/-- The bench after some deeds. -/
def Bench.after (bench : Bench) (deeds : List Deed) : Bench :=
  (({ bench } : ScriptRun).after deeds).bench

/-- What some deeds write on a bench. -/
def Bench.transcripts (bench : Bench) (deeds : List Deed) : List Transcript :=
  ({ bench } : ScriptRun).transcripts deeds

/-- What is right about the deeds by which a new bench carries out a script. -/
structure CarriedOut (script : List String) (limit : Option Nat) (bench : Bench)
    (deeds : List Deed) : Prop where
  /-- The lines of the script are taken from its beginning, in their order. -/
  taken : deeds.filterMap Deed.line? <+: script
  /-- The run stops when all of them are taken and the machine is quiescent, unless the limit is
  reached before, or the end of the clock. -/
  complete : limit.getD clockEnd ≤ (bench.after deeds).tally.ticks ∨
    deeds.filterMap Deed.line? = script ∧ (bench.after deeds).machine.isQuiescent = true
  /-- A line that hands something to the machine is one tick with it. Other lines are no ticks, and
  change neither the machine nor the clock. -/
  ticked : ∀ before deed rest, deeds = before ++ deed :: rest →
    deed.Ticks (bench.after before) (bench.after (before ++ [deed]))
  /-- After a wait only ticks are passed until it is over. -/
  released : ∀ before line hold between handed rest,
    deeds = before ++ .take line :: (between ++ .take handed :: rest) →
    ScriptLine.read (bench.after before).now line = .wait hold →
    ∃ passes others, between = passes ++ others ∧ (∀ deed ∈ passes, deed = .pass) ∧
      others.head? ≠ some .pass ∧ hold.IsOver (bench.after (before ++ .take line :: passes))
  /-- The first line after a wait for the machine, blanks and malformed directives apart, finds it
  quiescent. -/
  found : ∀ before line between handed rest,
    deeds = before ++ .take line :: (between ++ .take handed :: rest) →
    ScriptLine.read (bench.after before).now line = .wait .untilQuiescent →
    (∀ deed ∈ between, deed.isIdle = true) →
    (bench.after (before ++ .take line :: between)).machine.isQuiescent = true
  /-- No line is taken before the time of a wait has passed, or the clock has come to its end. -/
  waited : ∀ before line duration between handed rest,
    deeds = before ++ .take line :: (between ++ .take handed :: rest) →
    ScriptLine.read (bench.after before).now line =
      .wait (.untilTime (later (bench.after before).now duration)) →
    (bench.after before).now + duration ≤ (bench.after (before ++ .take line :: between)).now ∨
      clockEnd ≤ (bench.after (before ++ .take line :: between)).now
  /-- The output is what the deeds write, one after the other, each with its reply first. -/
  output : (bench.after deeds).output = (bench.transcripts deeds).flatMap Transcript.lines
  /-- There is a reply for each line that hands something to the machine and for each malformed
  directive, and no other. -/
  replied : (bench.transcripts deeds).map (fun transcript => transcript.reply.isSome) =
    deeds.map Deed.isAnswered
  ticks : (bench.after deeds).tally.ticks = (deeds.filterMap Deed.tick?).length
  commands : (bench.after deeds).tally.commands = (deeds.filterMap Deed.command?).length
  rejected : (bench.after deeds).tally.rejected =
    (bench.after deeds).output.countP isRejection
  reports : (bench.after deeds).tally.reports = (bench.after deeds).output.countP isReport

/-- Nothing has happened on a new bench. -/
theorem Bench.new_of_ofSetup {setup : BenchSetup} {tickLength : Nat} {bench : Bench}
    (h : ofSetup setup tickLength = .ok bench) : bench.tally = {} ∧ bench.output = [] := by
  simp only [ofSetup, bind, Except.bind] at h
  split at h
  · cases h
  · cases h
    exact ⟨rfl, rfl⟩

section

variable {bench : Bench}

/-- On a new bench everything that is counted was done by the deeds. -/
theorem Bench.counts_of_new (htally : bench.tally = {}) (deeds : List Deed) :
    (bench.after deeds).tally.ticks = (deeds.filterMap Deed.tick?).length ∧
      (bench.after deeds).tally.commands = (deeds.filterMap Deed.command?).length := by
  obtain ⟨hticks, hcommands⟩ := ({ bench } : ScriptRun).counts_after deeds
  rw [htally] at hticks hcommands
  exact ⟨hticks.trans (Nat.zero_add _), hcommands.trans (Nat.zero_add _)⟩

/-- And everything that is written was written by them. -/
theorem Bench.writes_of_new (htally : bench.tally = {}) (houtput : bench.output = [])
    (deeds : List Deed) :
    (bench.after deeds).output = (bench.transcripts deeds).flatMap Transcript.lines ∧
      (bench.after deeds).tally.rejected = (bench.after deeds).output.countP isRejection ∧
      (bench.after deeds).tally.reports = (bench.after deeds).output.countP isReport := by
  have hwrites := ({ bench } : ScriptRun).after_writes deeds
  have hwritten : (bench.after deeds).output =
      (bench.transcripts deeds).flatMap Transcript.lines := by
    rw [Bench.after, hwrites.output, houtput, List.nil_append]
    rfl
  have hrejected := hwrites.rejected
  have hreports := hwrites.reports
  rw [htally] at hrejected hreports
  refine ⟨hwritten, ?_, ?_⟩
  · rw [hwritten]
    exact hrejected.trans (Nat.zero_add _)
  · rw [hwritten]
    exact hreports.trans (Nat.zero_add _)

/-- Deeds that follow a script carry it out. -/
theorem Follows.carriedOut {script : List String} {limit : Option Nat} {deeds : List Deed}
    (h : Follows limit { bench } script deeds) (htally : bench.tally = {})
    (houtput : bench.output = [])
    (hending : (∃ timedOut, (({ bench } : ScriptRun).after deeds).demand limit = .stop timedOut) ∨
      deeds.length = limit.getD clockEnd + script.length + 2) :
    CarriedOut script limit bench deeds := by
  obtain ⟨hticks, hcommands⟩ := Bench.counts_of_new htally deeds
  obtain ⟨hwritten, hrejected, hreports⟩ := Bench.writes_of_new htally houtput deeds
  refine
    { taken := h.taken
      complete := h.complete rfl hending
      ticked := ?ticked
      released := ?released
      found := ?found
      waited := ?waited
      output := hwritten
      replied := ({ bench } : ScriptRun).isSome_replies deeds
      ticks := hticks
      commands := hcommands
      rejected := hrejected
      reports := hreports }
  case ticked =>
    rintro before deed rest rfl
    unfold Bench.after
    rw [ScriptRun.after_append]
    exact deed.act_ticks _
  case released =>
    rintro before line hold between handed rest rfl hread
    obtain ⟨script', hrest⟩ := h.of_take
    have hreleased := hrest.released (ScriptRun.hold_of_wait hread)
    simp only [Bench.after, ScriptRun.after_take]
    exact hreleased
  case found =>
    rintro before line between handed rest rfl hread hidle
    obtain ⟨script', hrest⟩ := h.of_take
    have hfound := hrest.found hidle (.inl (ScriptRun.hold_of_wait hread))
    rw [Bench.after, ScriptRun.after_take]
    exact hfound
  case waited =>
    rintro before line duration between handed rest rfl hread
    obtain ⟨script', hrest⟩ := h.of_take
    have hwaited := hrest.waited (ScriptRun.hold_of_wait hread)
    simp only [Bench.after, ScriptRun.after_take]
    exact hwaited

end

/-- **Every script of readable lines is carried out faithfully** on a new bench, whatever its
machine, the length of its ticks and the limit of ticks are: the run is made of deeds, each of them
what it needs next, and they carry the script out. The verdict of the run is noted after them. -/
theorem script_carried_out {setup : BenchSetup} {tickLength : Nat} {bench : Bench}
    (hbench : Bench.ofSetup setup tickLength = .ok bench) (script : List String)
    (limit : Option Nat) :
    ∃ deeds, Follows limit { bench } script deeds ∧
      (bench.run (script.map some) limit).1 =
        (bench.after deeds).endedBy (bench.run (script.map some) limit).2 ∧
        CarriedOut script limit bench deeds := by
  obtain ⟨htally, houtput⟩ := Bench.new_of_ofSetup hbench
  obtain ⟨deeds, hfollows, hrun, hending⟩ := ScriptRun.runFor_follows limit
    (limit.getD clockEnd + script.length + 2) script { bench }
  refine ⟨deeds, hfollows, ?_, hfollows.carriedOut htally houtput ?_⟩
  · unfold Bench.run
    rw [List.length_map]
    exact hrun
  · rcases hending with ⟨timedOut, -, hstop⟩ | ⟨-, hlength⟩
    · exact .inl ⟨timedOut, hstop⟩
    · exact .inr hlength

/-- A bench with an axis of one motor. -/
def spindleSetup : BenchSetup where
  settings := { axes := [{ name := ⟨"x", by decide⟩ }] }
  entries := []

/-- A script with both waits, a blank line and two lines that cannot be read. -/
def spindleScript : List String :=
  ["home x 0.01 99  # goes nowhere", "", "wait", "wait soon", "enable y", "WAIT 25", "jump"]

/-- The first wait lasts until the homing run has failed. -/
theorem script_carried_out_spindle :
    ∃ bench, Bench.ofSetup spindleSetup 10 = .ok bench ∧
      (bench.run (spindleScript.map some) none).1.output =
        ["OK", "AXIS x state=Homing phase=RapidSearchWaitStart homed=0 pos=0.000 torque=0.0",
          "ERROR x homing_stop_not_reached", "ERR invalid_number", "ERR unknown_axis",
          "ERR unknown_command"] ∧
      ∃ deeds, Follows none { bench } spindleScript deeds ∧
        (bench.run (spindleScript.map some) none).1 =
          (bench.after deeds).endedBy (bench.run (spindleScript.map some) none).2 ∧
          CarriedOut spindleScript none bench deeds := by
  have hwritten : (Bench.ofSetup spindleSetup 10).toOption.map
      (fun bench => (bench.run (spindleScript.map some) none).1.output) =
        some ["OK", "AXIS x state=Homing phase=RapidSearchWaitStart homed=0 pos=0.000 torque=0.0",
          "ERROR x homing_stop_not_reached", "ERR invalid_number", "ERR unknown_axis",
          "ERR unknown_command"] := by
    decide +kernel
  cases hbench : Bench.ofSetup spindleSetup 10 with
  | error error =>
    rw [hbench] at hwritten
    cases hwritten
  | ok bench =>
    rw [hbench] at hwritten
    exact ⟨bench, rfl, Option.some.inj hwritten, script_carried_out hbench spindleScript none⟩

end MotionControl
