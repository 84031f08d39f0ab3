import MotionControl.Proofs.Bench.Output

/-!
# What a run of a script does

A run goes through a script by deeds: it passes a tick, takes a line or finds the end of the
script. What a deed does is told here without the clock.

* `Deed`, `ScriptRun.after`: the deeds of a run, and the run after some of them.
* `Deed.tick?`: the tick that a deed is, with the line that it is given.
* `Deed.act_ticks`, `after_writes`: **a deed is one tick or none**, and writes its transcript.
* `Follows`: every deed is what the run needs next, and the lines are those of the script.
* `Reaches`, `runFor_reaches`: **a run comes through a script up to where it stops**, or to a line
  that cannot be read.
* `runFor_follows`: **a run of a script of readable lines follows it**.
-/

namespace MotionControl

/-! ## Lines -/

/-- What a line is, whenever it is read. -/
inductive LineKind where
  /-- Nothing is left of the line without its comment. -/
  | blank
  /-- The line is a directive that holds the script. -/
  | wait
  /-- The line is a directive with a wrong argument. -/
  | malformed
  /-- The line hands its content to the machine. -/
  | command (text : String)
deriving DecidableEq, Repr

namespace LineKind

/-- Whether a directive can be given such arguments. -/
def isDuration : List String → Bool
  | [] => true
  | [duration] => (parseWhole? UInt64.size duration).isSome
  | _ => false

def of (line : String) : LineKind :=
  match words (ScriptLine.content line) with
  | [] => blank
  | word :: rest =>
    if foldCase word = "wait" then (if isDuration rest then wait else malformed)
    else command (ScriptLine.content line)

/-- The text that is handed to the machine. -/
def handed? : LineKind → Option String
  | command text => some text
  | blank | wait | malformed => none

/-- Whether the line is answered: a command is, and a malformed directive. -/
def isAnswered : LineKind → Bool
  | command _ | malformed => true
  | blank | wait => false

/-- Whether the line neither holds the script nor hands anything to the machine. -/
def isIdle : LineKind → Bool
  | blank | malformed => true
  | wait | command _ => false

end LineKind

def ScriptLine.kind : ScriptLine → LineKind
  | blank => .blank
  | wait _ => .wait
  | malformed _ => .malformed
  | command text => .command text

/-- **Whatever the time is, a line is read as what it is.** -/
theorem ScriptLine.kind_read (now : Nat) (line : String) : (read now line).kind = .of line := by
  unfold read LineKind.of
  dsimp only
  cases words (content line) with
  | nil => rfl
  | cons word rest =>
    dsimp only
    split
    · unfold readWait LineKind.isDuration
      cases rest with
      | nil => rfl
      | cons duration others =>
        cases others with
        | cons => rfl
        | nil =>
          dsimp only
          rcases Option.eq_none_or_eq_some (parseWhole? UInt64.size duration) with
            hnone | ⟨duration, hsome⟩
          · simp [hnone, kind]
          · simp [hsome, kind]
    · rfl

/-! ## Deeds -/

/-- What a run does at a demand. -/
inductive Deed where
  /-- It passes a tick without a line. -/
  | pass
  /-- It takes the next line of the script. -/
  | take (line : String)
  /-- It finds the end of the script. -/
  | close
deriving DecidableEq, Repr

namespace Deed

def act : Deed → ScriptRun → ScriptRun
  | pass, run => run.pass
  | take line, run => run.take line
  | close, run => run.close

/-- The line that is taken. -/
def line? : Deed → Option String
  | take line => some line
  | pass | close => none

/-- The line that is given to the tick, if the deed is a tick. -/
def tick? : Deed → Option (Option String)
  | pass => some none
  | take line => (LineKind.of line).handed?.map some
  | close => none

/-- The command that is handed to the machine, if the line is one. -/
def command? (deed : Deed) : Option Command := deed.tick?.bind Bench.command?

/-- Whether the deed is to be answered. -/
def isAnswered : Deed → Bool
  | take line => (LineKind.of line).isAnswered
  | pass | close => false

/-- Whether the deed neither holds the script nor hands anything to the machine. -/
def isIdle : Deed → Bool
  | take line => (LineKind.of line).isIdle
  | pass | close => true

/-- What a deed writes. -/
def transcript (run : ScriptRun) : Deed → Transcript
  | pass => run.bench.tickTranscript none
  | take line =>
    match ScriptLine.read run.bench.now line with
    | .command text => run.bench.tickTranscript (some text)
    | .malformed error => { reply := some (.rejected error.token) }
    | .blank | .wait _ => {}
  | close => {}

/-- A deed is a tick with its line, or changes nothing but what is written. -/
def Ticks (deed : Deed) (bench next : Bench) : Prop :=
  match deed.tick? with
  | some line => next = bench.tick line
  | none => next.gauge = bench.gauge

/-- **A deed is one tick or none.** -/
theorem act_ticks (deed : Deed) (run : ScriptRun) : deed.Ticks run.bench (deed.act run).bench := by
  unfold Ticks act tick?
  cases deed with
  | pass => rfl
  | close => rfl
  | take line =>
    dsimp only
    unfold ScriptRun.take
    rw [← ScriptLine.kind_read run.bench.now line]
    cases ScriptLine.read run.bench.now line with
    | blank | wait | command => rfl
    | malformed error => exact Bench.gauge_answer run.bench (.rejected error.token)

/-- A tick takes its time and is counted, and so is the command that it is given. There is no
verdict yet. -/
theorem act_counts (deed : Deed) (run : ScriptRun) :
    (deed.act run).bench.now =
        run.bench.now + deed.tick?.toList.length * run.bench.tickLength ∧
      (deed.act run).bench.tally.ticks = run.bench.tally.ticks + deed.tick?.toList.length ∧
      (deed.act run).bench.tally.commands =
        run.bench.tally.commands + deed.command?.toList.length ∧
      (deed.act run).bench.tally.timedOut = run.bench.tally.timedOut := by
  have hdeed := deed.act_ticks run
  unfold Ticks at hdeed
  unfold command?
  cases htick : deed.tick? with
  | none =>
    rw [htick] at hdeed
    simp only [Bench.gauge, Prod.mk.injEq] at hdeed
    obtain ⟨-, -, hnow, hticks, hcommands, htimedOut⟩ := hdeed
    simp [hnow, hticks, hcommands, htimedOut]
  | some line =>
    rw [htick] at hdeed
    obtain ⟨hnow, -, hticks, hcommands, htimedOut⟩ := Bench.gauge_tick line run.bench
    simp [hdeed, hnow, hticks, hcommands, htimedOut]

/-- A deed writes its transcript. -/
theorem act_writes (deed : Deed) (run : ScriptRun) :
    run.bench.Writes (deed.transcript run).lines (deed.act run).bench := by
  unfold act transcript
  cases deed with
  | pass => exact Bench.tick_writes none run.bench
  | close => exact .nothing rfl rfl rfl
  | take line =>
    dsimp only
    unfold ScriptRun.take
    cases ScriptLine.read run.bench.now line with
    | blank | wait => exact .nothing rfl rfl rfl
    | malformed error => exact Bench.answer_writes run.bench (.rejected error.token)
    | command text => exact Bench.tick_writes (some text) run.bench

/-- There is a reply where there is something to answer. -/
theorem isSome_reply (deed : Deed) (run : ScriptRun) :
    (deed.transcript run).reply.isSome = deed.isAnswered := by
  unfold transcript isAnswered
  cases deed with
  | pass => exact Bench.isSome_reply none run.bench
  | close => rfl
  | take line =>
    dsimp only
    rw [← ScriptLine.kind_read run.bench.now line]
    cases ScriptLine.read run.bench.now line with
    | blank | wait | malformed => rfl
    | command text => exact Bench.isSome_reply (some text) run.bench

end Deed

/-! ## Some deeds -/

theorem length_filterMap_cons {α β : Type} (f : α → Option β) (a : α) (l : List α) :
    ((a :: l).filterMap f).length = (f a).toList.length + (l.filterMap f).length := by
  rw [List.filterMap_cons]
  cases f a with
  | none => exact (Nat.zero_add _).symm
  | some b => exact Nat.add_comm _ _

namespace ScriptRun

/-- Taking a line does not find the end of the script. -/
theorem isEnded_take (line : String) (run : ScriptRun) :
    (run.take line).isEnded = run.isEnded := by
  unfold take
  split <;> rfl

/-- The run after some deeds. -/
def after (run : ScriptRun) (deeds : List Deed) : ScriptRun :=
  deeds.foldl (fun run deed => deed.act run) run

theorem after_cons (run : ScriptRun) (deed : Deed) (deeds : List Deed) :
    run.after (deed :: deeds) = (deed.act run).after deeds := rfl

theorem after_append (run : ScriptRun) (deeds more : List Deed) :
    run.after (deeds ++ more) = (run.after deeds).after more :=
  List.foldl_append

/-- What each of some deeds writes. -/
def transcripts : ScriptRun → List Deed → List Transcript
  | _, [] => []
  | run, deed :: deeds => deed.transcript run :: transcripts (deed.act run) deeds

/-- **Deeds write their transcripts, one after the other.** -/
theorem after_writes (run : ScriptRun) (deeds : List Deed) :
    run.bench.Writes ((run.transcripts deeds).flatMap Transcript.lines)
      (run.after deeds).bench := by
  induction deeds generalizing run with
  | nil => exact .nothing rfl rfl rfl
  | cons deed deeds ih => exact (deed.act_writes run).trans (ih (deed.act run))

/-- There is a reply for each deed that is to be answered. -/
theorem isSome_replies (run : ScriptRun) (deeds : List Deed) :
    (run.transcripts deeds).map (fun transcript => transcript.reply.isSome) =
      deeds.map Deed.isAnswered := by
  induction deeds generalizing run with
  | nil => rfl
  | cons deed deeds ih =>
    rw [transcripts, List.map_cons, List.map_cons, deed.isSome_reply run, ih]

/-- The ticks are counted, and the commands that are handed out. -/
theorem counts_after (run : ScriptRun) (deeds : List Deed) :
    (run.after deeds).bench.tally.ticks =
        run.bench.tally.ticks + (deeds.filterMap Deed.tick?).length ∧
      (run.after deeds).bench.tally.commands =
        run.bench.tally.commands + (deeds.filterMap Deed.command?).length := by
  induction deeds generalizing run with
  | nil => exact ⟨rfl, rfl⟩
  | cons deed deeds ih =>
    obtain ⟨-, hticks, hcommands, -⟩ := deed.act_counts run
    obtain ⟨hticks', hcommands'⟩ := ih (deed.act run)
    rw [after_cons, hticks', hcommands', hticks, hcommands, length_filterMap_cons,
      length_filterMap_cons]
    omega

/-- Deeds leave the verdict of an earlier run as it is. -/
theorem timedOut_after (run : ScriptRun) (deeds : List Deed) :
    (run.after deeds).bench.tally.timedOut = run.bench.tally.timedOut := by
  induction deeds generalizing run with
  | nil => rfl
  | cons deed deeds ih => exact (ih (deed.act run)).trans (deed.act_counts run).2.2.2

/-- The clock never goes back. -/
theorem le_now_after (run : ScriptRun) (deeds : List Deed) :
    run.bench.now ≤ (run.after deeds).bench.now := by
  induction deeds generalizing run with
  | nil => exact Nat.le_refl _
  | cons deed deeds ih =>
    have hdeed : run.bench.now ≤ (deed.act run).bench.now := by
      rw [(deed.act_counts run).1]
      exact Nat.le_add_right _ _
    exact Nat.le_trans hdeed (ih (deed.act run))

/-! ## Demands -/

/-- A line is taken when nothing holds the script any more, and its end is not found. -/
theorem demand_eq_line {limit : Option Nat} {run : ScriptRun} (h : run.demand limit = .line) :
    run.isHeld = false ∧ run.isEnded = false := by
  unfold demand at h
  split at h
  · cases h
  split at h
  · cases h
  rename_i hheld
  split at h
  · rename_i hended
    exact ⟨Bool.not_eq_true _ ▸ hheld, by simpa using hended⟩
  · split at h <;> cases h

/-- A tick is passed without a line for two reasons. -/
theorem demand_eq_tick {limit : Option Nat} {run : ScriptRun} (h : run.demand limit = .tick) :
    run.isHeld = true ∨ run.isEnded = true ∧ run.bench.machine.isQuiescent = false := by
  unfold demand at h
  split at h
  · cases h
  split at h
  · rename_i hheld
    exact .inl hheld
  split at h
  · cases h
  rename_i hended
  split at h
  · cases h
  · rename_i hmoving
    exact .inr ⟨by simpa using hended, Bool.not_eq_true _ ▸ hmoving⟩

/-- A run stops at the limit, or when its script is done and nothing is in motion. -/
theorem demand_eq_stop {limit : Option Nat} {run : ScriptRun} {timedOut : Bool}
    (h : run.demand limit = .stop timedOut) :
    run.isSpent limit = true ∨ run.isEnded = true ∧ run.bench.machine.isQuiescent = true := by
  unfold demand at h
  split at h
  · rename_i hspent
    exact .inl hspent
  split at h
  · cases h
  split at h
  · cases h
  rename_i hended
  split at h
  · rename_i hrest
    exact .inr ⟨by simpa using hended, hrest⟩
  · cases h

end ScriptRun

/-! ## Following a script -/

/-- Each deed is what the run needs next, and the lines are those of the script in their order. -/
inductive Follows (limit : Option Nat) : ScriptRun → List String → List Deed → Prop where
  | nil (run : ScriptRun) (script : List String) : Follows limit run script []
  | pass {run : ScriptRun} {script : List String} {deeds : List Deed}
      (hdemand : run.demand limit = .tick) (hrest : Follows limit run.pass script deeds) :
      Follows limit run script (.pass :: deeds)
  | take {run : ScriptRun} {line : String} {script : List String} {deeds : List Deed}
      (hdemand : run.demand limit = .line) (hrest : Follows limit (run.take line) script deeds) :
      Follows limit run (line :: script) (.take line :: deeds)
  | close {run : ScriptRun} {deeds : List Deed}
      (hdemand : run.demand limit = .line) (hrest : Follows limit run.close [] deeds) :
      Follows limit run [] (.close :: deeds)

/-- The deeds follow the lines that they take from a script, and leave the rest of it. -/
structure Reaches (limit : Option Nat) (run : ScriptRun) (script : List (Option String))
    (deeds : List Deed) (rest : List (Option String)) : Prop where
  lines : script = (deeds.filterMap Deed.line?).map some ++ rest
  follows : Follows limit run (deeds.filterMap Deed.line?) deeds
  /-- The end of the script is found where nothing is left of it. -/
  closed : .close ∈ deeds → rest = []

/-- A bench on which a run has ended so: if it was over, its verdict is noted. -/
def Bench.endedBy (bench : Bench) : Ending → Bench
  | .finished timedOut => bench.conclude timedOut
  | .unreadable | .unfinished => bench

/-- A run ends so when it has come so far and its deeds are as many as it is let go on for, or not:
it stops, or wants a line that cannot be read, or is cut short. -/
def Ending.IsDue (limit : Option Nat) (run : ScriptRun) (rest : List (Option String))
    (isFull : Prop) : Ending → Prop
  | finished timedOut => run.demand limit = .stop timedOut
  | unreadable => run.demand limit = .line ∧ rest.head? = some none
  | unfinished => isFull

namespace Reaches

variable {limit : Option Nat} {run : ScriptRun} {script rest : List (Option String)}
  {deeds : List Deed}

theorem nil (limit : Option Nat) (run : ScriptRun) (script : List (Option String)) :
    Reaches limit run script [] script :=
  ⟨rfl, .nil run [], nofun⟩

theorem pass (h : Reaches limit run.pass script deeds rest) (hdemand : run.demand limit = .tick) :
    Reaches limit run script (.pass :: deeds) rest where
  lines := h.lines
  follows := .pass hdemand h.follows
  closed hmem := h.closed (by simpa using hmem)

theorem take {line : String} (h : Reaches limit (run.take line) script deeds rest)
    (hdemand : run.demand limit = .line) :
    Reaches limit run (some line :: script) (.take line :: deeds) rest where
  lines := congrArg (some line :: ·) h.lines
  follows := .take hdemand h.follows
  closed hmem := h.closed (by simpa using hmem)

theorem close (h : Reaches limit run.close [] deeds rest) (hdemand : run.demand limit = .line) :
    Reaches limit run [] (.close :: deeds) rest where
  lines := h.lines
  follows := by
    have hnone := List.map_eq_nil_iff.1 (List.append_eq_nil_iff.1 h.lines.symm).1
    have hfollows := h.follows
    rw [hnone] at hfollows
    exact hnone ▸ .close hdemand hfollows
  closed _ := (List.append_eq_nil_iff.1 h.lines.symm).2

end Reaches

/-- **A run of a script comes through it**, up to where it stops or finds a line that cannot be
read, or for as many deeds as it is let go on. -/
theorem ScriptRun.runFor_reaches (limit : Option Nat) (n : Nat) (script : List (Option String))
    (run : ScriptRun) :
    ∃ deeds rest, Reaches limit run script deeds rest ∧
      (runFor limit n script run).1 =
        (run.after deeds).bench.endedBy (runFor limit n script run).2 ∧
      (runFor limit n script run).2.IsDue limit (run.after deeds) rest (deeds.length = n) := by
  induction n generalizing script run with
  | zero => exact ⟨[], script, .nil limit run script, rfl, rfl⟩
  | succ n ih =>
    unfold runFor
    cases hdemand : run.demand limit with
    | stop timedOut => exact ⟨[], script, .nil limit run script, rfl, hdemand⟩
    | tick =>
      obtain ⟨deeds, rest, hreaches, hbench, hdue⟩ := ih script run.pass
      refine ⟨.pass :: deeds, rest, hreaches.pass hdemand, ?_⟩
      rw [after_cons, List.length_cons, Nat.add_right_cancel_iff]
      exact ⟨hbench, hdue⟩
    | line =>
      cases script with
      | nil =>
        obtain ⟨deeds, rest, hreaches, hbench, hdue⟩ := ih [] run.close
        refine ⟨.close :: deeds, rest, hreaches.close hdemand, ?_⟩
        rw [after_cons, List.length_cons, Nat.add_right_cancel_iff]
        exact ⟨hbench, hdue⟩
      | cons line script =>
        cases line with
        | none => exact ⟨[], none :: script, .nil limit run (none :: script), rfl, hdemand, rfl⟩
        | some line =>
          obtain ⟨deeds, rest, hreaches, hbench, hdue⟩ := ih script (run.take line)
          refine ⟨.take line :: deeds, rest, hreaches.take hdemand, ?_⟩
          rw [after_cons, List.length_cons, Nat.add_right_cancel_iff]
          exact ⟨hbench, hdue⟩

/-- Deeds that follow some lines follow a script that goes on, unless they find the end of it. -/
theorem Follows.extend {limit : Option Nat} {run : ScriptRun} {script more : List String}
    {deeds : List Deed} (h : Follows limit run script deeds)
    (hclosed : .close ∈ deeds → more = []) : Follows limit run (script ++ more) deeds := by
  induction h with
  | nil run script => exact .nil run (script ++ more)
  | pass hdemand _ ih => exact .pass hdemand (ih fun hmem => hclosed (.tail _ hmem))
  | take hdemand _ ih => exact .take hdemand (ih fun hmem => hclosed (.tail _ hmem))
  | close hdemand _ ih =>
    obtain rfl := hclosed (.head _)
    exact .close hdemand (ih fun _ => rfl)

/-- **A run of a script of readable lines follows it**, up to where it stops, or for as many deeds
as it is let go on. -/
theorem ScriptRun.runFor_follows (limit : Option Nat) (n : Nat) (script : List String)
    (run : ScriptRun) :
    ∃ deeds, Follows limit run script deeds ∧
      (runFor limit n (script.map some) run).1 =
        (run.after deeds).bench.endedBy (runFor limit n (script.map some) run).2 ∧
      ((∃ timedOut, (runFor limit n (script.map some) run).2 = .finished timedOut ∧
          (run.after deeds).demand limit = .stop timedOut) ∨
        (runFor limit n (script.map some) run).2 = .unfinished ∧ deeds.length = n) := by
  obtain ⟨deeds, rest, hreaches, hbench, hdue⟩ := runFor_reaches limit n (script.map some) run
  obtain ⟨taken, more, rfl, htaken, rfl⟩ := List.map_eq_append_iff.1 hreaches.lines
  obtain rfl : taken = deeds.filterMap Deed.line? :=
    (List.map_inj_right fun _ _ => Option.some.inj).1 htaken
  refine ⟨deeds, hreaches.follows.extend fun hmem => ?_, hbench, ?_⟩
  · exact List.map_eq_nil_iff.1 (hreaches.closed hmem)
  · cases hending : (runFor limit n (List.map some _) run).2 with
    | finished timedOut =>
      rw [hending] at hdue
      exact .inl ⟨timedOut, rfl, hdue⟩
    | unfinished =>
      rw [hending] at hdue
      exact .inr ⟨rfl, hdue⟩
    | unreadable =>
      -- no line of the script is unreadable
      rw [hending] at hdue
      have hmem := List.mem_of_mem_head? hdue.2
      simp at hmem

namespace Follows

variable {limit : Option Nat} {run : ScriptRun} {script : List String} {deeds more : List Deed}

/-- The rest of the deeds follows the rest of the script. -/
theorem rest (h : Follows limit run script (deeds ++ more)) :
    ∃ script', Follows limit (run.after deeds) script' more := by
  induction deeds generalizing run script with
  | nil => exact ⟨script, h⟩
  | cons deed deeds ih =>
    rw [ScriptRun.after_cons]
    cases h with
    | pass _ hrest | take _ hrest | close _ hrest =>
      have hnext := ih hrest
      exact hnext

/-- The lines are taken from the beginning of the script, in their order. -/
theorem taken (h : Follows limit run script deeds) : deeds.filterMap Deed.line? <+: script := by
  induction h with
  | nil => exact List.nil_prefix
  | pass _ _ ih | close _ _ ih => exact ih
  | take _ _ ih => exact List.cons_prefix_cons.2 ⟨rfl, ih⟩

/-- When the end of the script is found, every line has been taken. -/
theorem taken_all (h : Follows limit run script deeds) (hopen : run.isEnded = false)
    (hended : (run.after deeds).isEnded = true) : deeds.filterMap Deed.line? = script := by
  induction h with
  | nil =>
    rw [ScriptRun.after, List.foldl_nil, hopen] at hended
    cases hended
  | @pass run script deeds hdemand hrest ih =>
    have hstill : run.pass.isEnded = false := hopen
    rw [ScriptRun.after_cons] at hended
    exact ih hstill hended
  | @take run line script deeds hdemand hrest ih =>
    have hstill := (run.isEnded_take line).trans hopen
    rw [ScriptRun.after_cons] at hended
    exact congrArg (line :: ·) (ih hstill hended)
  | close _ hrest => exact List.prefix_nil.1 hrest.taken

/-- Each deed is a tick, or takes a line, or is the one that finds the end of the script. -/
theorem length_le (h : Follows limit run script deeds) :
    deeds.length ≤ (deeds.filterMap Deed.tick?).length + script.length +
      if run.isEnded then 0 else 1 := by
  induction h with
  | nil => simp
  | @pass run script deeds hdemand hrest ih =>
    have hsame : run.pass.isEnded = run.isEnded := rfl
    rw [hsame] at ih
    rw [length_filterMap_cons, List.length_cons]
    simp only [Deed.tick?, Option.toList_some, List.length_singleton]
    omega
  | @take run line script deeds hdemand hrest ih =>
    rw [run.isEnded_take line] at ih
    rw [length_filterMap_cons, List.length_cons, List.length_cons]
    omega
  | @close run deeds hdemand hrest ih =>
    have hopen := (ScriptRun.demand_eq_line hdemand).2
    have hclosed : run.close.isEnded = true := rfl
    rw [hclosed, if_pos rfl] at ih
    rw [length_filterMap_cons, List.length_cons, hopen, if_neg Bool.false_ne_true]
    omega

end Follows

end MotionControl
