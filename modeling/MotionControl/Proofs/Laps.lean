import MotionControl.Proofs.TimeLimit

/-!
# A run with a limit of ticks ends

A run goes on in laps. A lap looks at the limit and at what holds the script. If nothing does, it
reads lines, up to one that holds the script or is handed to the machine. It ends with a tick, or
with a wait and no tick, or it is the last one. Neither the ticks nor the waits that are left get
fewer in every lap, but together they do.

* `ScriptRun.lap`: one lap.
* `ScriptRun.lap_spends`: **a lap passes a tick, or takes a wait from the script, or is the last**.
* `ScriptRun.lap_wellFounded`: no run with a limit goes on for ever.
* `Concludes`: the laps of a run up to its end.
* `Concludes.exists_runFor`: laps come to what the demands of a run come to.
* `limited_run_ends`: **a run with a limit ends**, after no more ticks than the limit leaves, and
  with no more laps without a tick than the waits of the script and the last lap.
-/

namespace MotionControl

/-! ## Laps -/

/-- What a lap comes to. -/
inductive Lap where
  /-- The run is over. -/
  | last (bench : Bench) (ending : Ending)
  /-- A tick was passed, and the run goes on with the rest of the script. -/
  | ticked (rest : List (Option String)) (next : ScriptRun)
  /-- No tick was passed: the rest of the script has to wait. -/
  | waiting (rest : List (Option String)) (next : ScriptRun)

namespace ScriptRun

/-- Reads lines up to one that holds the script or is handed to the machine. At the end of the
script there is nothing to do but to let the machine come to rest. -/
def seek : List (Option String) → ScriptRun → Lap
  | [], run =>
    let closed := run.close
    if closed.bench.machine.isQuiescent then
      .last closed.bench (.finished closed.bench.tally.timedOut)
    else .ticked [] closed.pass
  | none :: _, run => .last run.bench .unreadable
  | some line :: rest, run =>
    match LineKind.of line with
    | .blank | .malformed => seek rest (run.take line)
    | .wait => .waiting rest (run.take line)
    | .command _ => .ticked rest (run.take line)

/-- One lap of a run with a script. -/
def lap (limit : Option Nat) (script : List (Option String)) (run : ScriptRun) : Lap :=
  match run.demand limit with
  | .stop timedOut => .last (run.bench.conclude timedOut) (.finished timedOut)
  | .tick => .ticked script run.pass
  | .line => run.seek script

end ScriptRun

/-! ## What a lap spends -/

/-- Whether a line of a script is a wait. -/
def isWait (line : Option String) : Bool := line.any (LineKind.of · == .wait)

theorem countP_isWait_cons (line : String) (rest : List (Option String)) :
    (some line :: rest).countP isWait =
      rest.countP isWait + if LineKind.of line = .wait then 1 else 0 := by
  simp [List.countP_cons, isWait]

/-- A lap that begins after so many ticks and with so many waits in the script passes a tick, or
takes a wait, or ends the run. -/
def Lap.Spends (ticks waits : Nat) : Lap → Prop
  | last bench ending => bench.tally.ticks = ticks ∧ ending ≠ .unfinished
  | ticked rest next => next.bench.tally.ticks = ticks + 1 ∧ rest.countP isWait ≤ waits
  | waiting rest next => next.bench.tally.ticks = ticks ∧ rest.countP isWait < waits

/-- The rest of the script and the run with which a lap goes on. -/
def Lap.next? : Lap → Option (List (Option String) × ScriptRun)
  | last _ _ => none
  | ticked rest next | waiting rest next => some (rest, next)

namespace ScriptRun

theorem ticks_pass (run : ScriptRun) :
    run.pass.bench.tally.ticks = run.bench.tally.ticks + 1 :=
  (Bench.gauge_tick none run.bench).2.2.1

/-- Taking a line passes a tick if the line is handed to the machine. -/
theorem ticks_take (line : String) (run : ScriptRun) :
    (run.take line).bench.tally.ticks =
      run.bench.tally.ticks + (LineKind.of line).handed?.toList.length := by
  have hticks := ((Deed.take line).act_counts run).2.1
  rw [Deed.act, Deed.tick?] at hticks
  rw [hticks]
  cases (LineKind.of line).handed? <;> rfl

/-- Lines are read up to a tick, a wait or the end of the run. -/
theorem seek_spends (script : List (Option String)) (run : ScriptRun) :
    (run.seek script).Spends run.bench.tally.ticks (script.countP isWait) := by
  induction script generalizing run with
  | nil =>
    unfold seek
    dsimp only
    split
    · exact ⟨rfl, nofun⟩
    · exact ⟨run.close.ticks_pass, Nat.le_refl _⟩
  | cons line rest ih =>
    cases line with
    | none => exact ⟨rfl, nofun⟩
    | some line =>
      have hticks := run.ticks_take line
      unfold seek
      rw [countP_isWait_cons]
      cases hkind : LineKind.of line with
      | blank | malformed =>
        -- a line that does neither costs nothing
        rw [hkind] at hticks
        have hrest := ih (run.take line)
        rw [hticks] at hrest
        exact hrest
      | wait =>
        rw [hkind] at hticks
        exact ⟨hticks, Nat.lt_succ_self _⟩
      | command text =>
        rw [hkind] at hticks
        exact ⟨hticks, Nat.le_refl _⟩

/-- **A lap passes a tick, or takes a wait from the script, or is the last one.** -/
theorem lap_spends {limit : Option Nat} {script : List (Option String)} {run : ScriptRun}
    {lap : Lap} (hlap : run.lap limit script = lap) :
    lap.Spends run.bench.tally.ticks (script.countP isWait) := by
  subst hlap
  unfold ScriptRun.lap
  cases run.demand limit with
  | stop timedOut => exact ⟨rfl, nofun⟩
  | tick => exact ⟨run.ticks_pass, Nat.le_refl _⟩
  | line => exact run.seek_spends script

/-- A run that goes on has not reached the limit. -/
theorem ticks_lt_of_next {most : Nat} {script : List (Option String)} {run : ScriptRun}
    {place : List (Option String) × ScriptRun}
    (hnext : (run.lap (some most) script).next? = some place) :
    run.bench.tally.ticks < most := by
  unfold lap at hnext
  cases hdemand : run.demand (some most) with
  | stop timedOut =>
    rw [hdemand] at hnext
    cases hnext
  | tick | line => exact ticks_lt_of_demand hdemand (by simp)

/-- The ticks that the limit leaves, and the waits of the script. -/
def remaining (most : Nat) (script : List (Option String)) (run : ScriptRun) : Nat :=
  most - run.bench.tally.ticks + script.countP isWait

/-- **Each lap but the last leaves less.** -/
theorem remaining_lt {most : Nat} {script rest : List (Option String)} {run next : ScriptRun}
    (hnext : (run.lap (some most) script).next? = some (rest, next)) :
    next.remaining most rest < run.remaining most script := by
  have hroom := ticks_lt_of_next hnext
  unfold remaining
  cases hlap : run.lap (some most) script with
  | last bench ending =>
    rw [hlap] at hnext
    cases hnext
  | ticked | waiting =>
    -- there is a tick less in the one case, and a wait less in the other
    rw [hlap] at hnext
    cases hnext
    obtain ⟨hticks, hwaits⟩ := lap_spends hlap
    omega

/-- **No run with a limit goes on for ever.** -/
theorem lap_wellFounded (most : Nat) :
    WellFounded fun next this : List (Option String) × ScriptRun =>
      (this.2.lap (some most) this.1).next? = some next :=
  Subrelation.wf remaining_lt
    (measure fun this : List (Option String) × ScriptRun => this.2.remaining most this.1).wf

end ScriptRun

/-! ## All laps of a run -/

/-- The laps of a run up to its end: some pass a tick, the others are tickless. -/
inductive Concludes (limit : Option Nat) :
    List (Option String) → ScriptRun → (ticked tickless : Nat) → Bench × Ending → Prop where
  | last {script : List (Option String)} {run : ScriptRun} {bench : Bench} {ending : Ending}
      (hlap : run.lap limit script = .last bench ending) :
      Concludes limit script run 0 1 (bench, ending)
  | ticked {script rest : List (Option String)} {run next : ScriptRun} {ticked tickless : Nat}
      {result : Bench × Ending} (hlap : run.lap limit script = .ticked rest next)
      (hrest : Concludes limit rest next ticked tickless result) :
      Concludes limit script run (ticked + 1) tickless result
  | waiting {script rest : List (Option String)} {run next : ScriptRun} {ticked tickless : Nat}
      {result : Bench × Ending} (hlap : run.lap limit script = .waiting rest next)
      (hrest : Concludes limit rest next ticked tickless result) :
      Concludes limit script run ticked (tickless + 1) result

/-- With a limit the laps of a run come to an end. -/
theorem exists_concludes (most : Nat) (script : List (Option String)) (run : ScriptRun) :
    ∃ ticked tickless result, Concludes (some most) script run ticked tickless result := by
  induction hplace : (script, run) using (ScriptRun.lap_wellFounded most).induction
    generalizing script run with
  | h place ih =>
    subst hplace
    cases hlap : run.lap (some most) script with
    | last bench ending => exact ⟨0, 1, (bench, ending), .last hlap⟩
    | ticked rest next =>
      have hnext := congrArg Lap.next? hlap
      obtain ⟨ticked, tickless, result, hrest⟩ := ih (rest, next) hnext rest next rfl
      exact ⟨ticked + 1, tickless, result, .ticked hlap hrest⟩
    | waiting rest next =>
      have hnext := congrArg Lap.next? hlap
      obtain ⟨ticked, tickless, result, hrest⟩ := ih (rest, next) hnext rest next rfl
      exact ⟨ticked, tickless + 1, result, .waiting hlap hrest⟩

namespace Concludes

variable {limit : Option Nat} {script : List (Option String)} {run : ScriptRun}
  {ticked tickless : Nat} {result : Bench × Ending}

/-- The ticked laps are the ticks that are counted, each tickless lap but the last takes a wait, and
the run is really over. -/
theorem counts (h : Concludes limit script run ticked tickless result) :
    result.1.tally.ticks = run.bench.tally.ticks + ticked ∧
      tickless ≤ script.countP isWait + 1 ∧ result.2 ≠ .unfinished := by
  induction h with
  | last hlap =>
    obtain ⟨hticks, hover⟩ := ScriptRun.lap_spends hlap
    exact ⟨hticks, Nat.le_add_left _ _, hover⟩
  | ticked hlap _ ih | waiting hlap _ ih =>
    obtain ⟨hspent, hwaits⟩ := ScriptRun.lap_spends hlap
    obtain ⟨hticks, htickless, hover⟩ := ih
    exact ⟨by omega, by omega, hover⟩

/-- No lap is ticked at the limit. -/
theorem ticked_le {most : Nat} (h : Concludes (some most) script run ticked tickless result) :
    ticked ≤ most - run.bench.tally.ticks := by
  induction h with
  | last => exact Nat.zero_le _
  | ticked hlap _ ih | waiting hlap _ ih =>
    have hroom := ScriptRun.ticks_lt_of_next (congrArg Lap.next? hlap)
    obtain ⟨hspent, -⟩ := ScriptRun.lap_spends hlap
    omega

end Concludes

/-! ## Laps and demands -/

/-- What a run comes to when it goes on after a lap, for at most `n` demands. -/
def Lap.goOn (limit : Option Nat) (n : Nat) : Lap → Bench × Ending
  | last bench ending => (bench, ending)
  | ticked rest next | waiting rest next => ScriptRun.runFor limit n rest next

namespace ScriptRun

variable {limit : Option Nat} {run : ScriptRun}

/-- After a line that does nothing, a further line is wanted. -/
theorem demand_take {line : String} (hdemand : run.demand limit = .line)
    (hidle : (LineKind.of line).isIdle = true) : (run.take line).demand limit = .line := by
  have hroom := isSpent_of_demand hdemand (by simp)
  have hopen := (demand_eq_line hdemand).2
  have hfree (bench : Bench) (hticks : bench.tally.ticks = run.bench.tally.ticks) :
      ({ run with bench, hold := none } : ScriptRun).demand limit = .line := by
    simp only [isSpent] at hroom
    simp [demand, isSpent, isHeld, hticks, hroom, hopen]
  rw [← ScriptLine.kind_read run.bench.now line] at hidle
  unfold take
  cases hread : ScriptLine.read run.bench.now line with
  | blank | malformed => exact hfree _ rfl
  | wait | command =>
    rw [hread] at hidle
    cases hidle

/-- Once the end of the script is found, the run stops or passes a tick. -/
theorem demand_close (hdemand : run.demand limit = .line) :
    run.close.demand limit =
      if run.close.bench.machine.isQuiescent then .stop run.close.bench.tally.timedOut
      else .tick := by
  have hroom := isSpent_of_demand hdemand (by simp)
  have hclosed : run.close.isSpent limit = false := hroom
  rw [demand, hclosed]
  rfl

/-- The lines that are read in one lap are some demands. -/
theorem runFor_seek (script : List (Option String)) (hdemand : run.demand limit = .line) :
    ∃ k, ∀ n, runFor limit (n + k) script run = (run.seek script).goOn limit n := by
  induction script generalizing run with
  | nil =>
    -- finding the end is a demand of its own
    refine ⟨2, fun n => ?_⟩
    simp only [runFor, seek, hdemand, demand_close hdemand]
    cases run.close.bench.machine.isQuiescent <;> rfl
  | cons line rest ih =>
    cases line with
    | none =>
      refine ⟨1, fun n => ?_⟩
      simp only [runFor, seek, hdemand]
      rfl
    | some line =>
      cases hkind : LineKind.of line with
      | blank | malformed =>
        obtain ⟨k, hrest⟩ := ih (demand_take hdemand (by rw [hkind]; rfl))
        refine ⟨k + 1, fun n => ?_⟩
        simp only [runFor, seek, hdemand, hkind]
        exact hrest n
      | wait | command =>
        refine ⟨1, fun n => ?_⟩
        simp only [runFor, seek, hdemand, hkind]
        rfl

/-- **A lap is some demands of the run.** -/
theorem runFor_lap (limit : Option Nat) (script : List (Option String)) (run : ScriptRun) :
    ∃ k, ∀ n, runFor limit (n + k) script run = (run.lap limit script).goOn limit n := by
  unfold lap
  cases hdemand : run.demand limit with
  | stop timedOut | tick =>
    refine ⟨1, fun n => ?_⟩
    simp only [runFor, hdemand]
    rfl
  | line => exact runFor_seek script hdemand

/-- A run that has come to its end is not changed by more demands. -/
theorem runFor_of_le {n m : Nat} (hle : n ≤ m) {script : List (Option String)}
    (hover : (runFor limit n script run).2 ≠ .unfinished) :
    runFor limit m script run = runFor limit n script run := by
  induction n generalizing m script run with
  | zero => exact absurd rfl hover
  | succ n ih =>
    cases m with
    | zero => exact absurd hle (Nat.not_succ_le_zero n)
    | succ m =>
      have hle := Nat.le_of_succ_le_succ hle
      unfold runFor at hover ⊢
      cases hdemand : run.demand limit with
      | stop timedOut => rfl
      | tick =>
        rw [hdemand] at hover
        exact ih hle hover
      | line =>
        rw [hdemand] at hover
        cases script with
        | nil => exact ih hle hover
        | cons line rest =>
          cases line with
          | none => rfl
          | some line => exact ih hle hover

end ScriptRun

/-- **Laps come to what the demands of a run come to**, if it is let go on for long enough. -/
theorem Concludes.exists_runFor {limit : Option Nat} {script : List (Option String)}
    {run : ScriptRun} {ticked tickless : Nat} {result : Bench × Ending}
    (h : Concludes limit script run ticked tickless result) :
    ∃ n, ScriptRun.runFor limit n script run = result := by
  induction h with
  | @last script run bench ending hlap =>
    obtain ⟨k, hrun⟩ := run.runFor_lap limit script
    have hover := hrun 0
    rw [hlap] at hover
    exact ⟨0 + k, hover⟩
  | @ticked script rest run next _ _ _ hlap _ ih | @waiting script rest run next _ _ _ hlap _ ih =>
    obtain ⟨n, hnext⟩ := ih
    obtain ⟨k, hrun⟩ := run.runFor_lap limit script
    have hlater := hrun n
    rw [hlap] at hlater
    exact ⟨n + k, hlater.trans hnext⟩

/-- A run with a limit is not cut short. -/
theorem Bench.run_ne_unfinished (bench : Bench) (script : List (Option String)) (most : Nat) :
    (bench.run script (some most)).2 ≠ .unfinished := by
  obtain ⟨deeds, rest, hreaches, -, hdue⟩ := ScriptRun.runFor_reaches (some most)
    (most + script.length + 2) script { bench }
  intro hunfinished
  have hcut : (ScriptRun.runFor (some most) (most + script.length + 2) script { bench }).2 =
      .unfinished := hunfinished
  rw [hcut] at hdue
  exact Nat.ne_of_lt (hreaches.length_lt rfl) hdue

/-- So laps come to what the run comes to. -/
theorem Concludes.eq_run {bench : Bench} {script : List (Option String)}
    {most ticked tickless : Nat} {result : Bench × Ending}
    (h : Concludes (some most) script { bench } ticked tickless result) :
    bench.run script (some most) = result := by
  obtain ⟨n, hrun⟩ := h.exists_runFor
  have hover := h.counts.2.2
  rw [← hrun] at hover ⊢
  -- neither number of demands cuts the run short, so the smaller one tells how it ends
  have hwhole := bench.run_ne_unfinished script most
  unfold Bench.run at hwhole ⊢
  rcases Nat.le_total n ((some most).getD clockEnd + script.length + 2) with hle | hle
  · exact ScriptRun.runFor_of_le hle hover
  · exact (ScriptRun.runFor_of_le hle hwhole).symm

/-- **A run with a limit of ticks ends**, whatever the bench, the length of its ticks and the script
are: its laps come to an end. Those with a tick are the ticks that the bench counts, and no more
than the limit leaves. Those without are no more than the waits of the script and the last lap. -/
theorem limited_run_ends (bench : Bench) (script : List (Option String)) (most : Nat) :
    ∃ ticked tickless,
      Concludes (some most) script { bench } ticked tickless (bench.run script (some most)) ∧
      (bench.run script (some most)).1.tally.ticks = bench.tally.ticks + ticked ∧
      ticked ≤ most - bench.tally.ticks ∧ tickless ≤ script.countP isWait + 1 ∧
      (bench.run script (some most)).2 ≠ .unfinished := by
  obtain ⟨ticked, tickless, result, hlaps⟩ := exists_concludes most script { bench }
  obtain ⟨hticks, htickless, hover⟩ := hlaps.counts
  have hlimit := hlaps.ticked_le
  obtain rfl := hlaps.eq_run
  exact ⟨ticked, tickless, hlaps, hticks, hlimit, htickless, hover⟩

/-- Waits that are over at once take no tick, one after the other. -/
example :
    (Bench.ofSetup spindleSetup 10).toOption.map (fun bench =>
      let (final, ending) := bench.run [some "wait 0", some "wait", some "wait 0"] (some 1)
      (final.tally.ticks, ending)) = some (0, .finished false) := by
  decide +kernel

end MotionControl
