import MotionControl.Bench.Run
import MotionControl.Proofs.Text.Line

/-!
# What a bench writes

Every line that a bench writes begins with a head that tells its kind, so what a bench has counted
can be counted again in its output.

* `isRejection`, `isReport`: the kind of a line, read off its text.
* `Bench.Writes`: some lines are added to the output, and what they tell is counted.
* `Transcript`: what one tick writes: the reply first, then the reports, and the status last.
* `Bench.tick_writes`: **a tick writes its transcript**.
-/

namespace MotionControl

/-! ## Kinds of lines -/

/-- Whether a line begins with one of some heads. -/
def beginsWith (heads : List String) (line : String) : Bool :=
  heads.any fun head => head.toList.isPrefixOf line.toList

def rejectionHeads : List String := ["ERR "]

def reportHeads : List String :=
  ["DONE ", "HOMED ", "STOPPED ", "ABORTED ", "ERROR ", "DISPENSED "]

def statusHeads : List String := ["AXIS ", "DISPENSE phase="]

/-- Whether a line tells that a command or a line was rejected. -/
def isRejection : String → Bool := beginsWith rejectionHeads

/-- Whether a line is a report. -/
def isReport : String → Bool := beginsWith reportHeads

theorem beginsWith_render {heads : List String} {head : String} {pieces : List String}
    {calls : List (List String)} (hhead : head ∈ heads)
    (hroom : head.utf8ByteSize ≤ Line.maxLength) :
    beginsWith heads (Line.render ((head :: pieces) :: calls)) = true :=
  List.any_eq_true.2 ⟨head, hhead, List.isPrefixOf_iff_prefix.2 (Line.prefix_render hroom)⟩

/-- Of two heads of one line, one begins with the other. -/
theorem not_beginsWith {heads others : List String} {line : String}
    (hapart : ∀ head ∈ heads, ∀ other ∈ others,
      ¬ head.toList <+: other.toList ∧ ¬ other.toList <+: head.toList)
    (hline : beginsWith heads line = true) : beginsWith others line = false := by
  obtain ⟨head, hhead, hbegins⟩ := List.any_eq_true.1 hline
  refine List.any_eq_false.2 fun other hother hbegins' => ?_
  obtain ⟨hhere, hthere⟩ := hapart head hhead other hother
  rcases List.prefix_or_prefix_of_prefix (List.isPrefixOf_iff_prefix.1 hbegins)
    (List.isPrefixOf_iff_prefix.1 hbegins') with hfirst | hsecond
  · exact hhere hfirst
  · exact hthere hsecond

/-- Whether a reply tells of a rejection. -/
def Reply.isRejected : Reply → Bool
  | accepted => false
  | rejected _ => true

theorem isRejection_reply (reply : Reply) : isRejection reply.line = reply.isRejected := by
  cases reply with
  | accepted => decide +kernel
  | rejected reason => exact beginsWith_render (.head _) (by decide)

theorem isReport_reply (reply : Reply) : isReport reply.line = false := by
  cases reply with
  | accepted => decide +kernel
  | rejected reason =>
    refine not_beginsWith ?_ (isRejection_reply (.rejected reason))
    decide

theorem isReport_report (report : Report) : isReport report.line = true := by
  cases report <;> exact beginsWith_render (by decide) (by decide)

theorem isRejection_report (report : Report) : isRejection report.line = false := by
  refine not_beginsWith ?_ (isReport_report report)
  decide

theorem beginsWith_status {C : Type} [MotorChannel C] {machine : Machine C} :
    ∀ line ∈ machine.statusLines, beginsWith statusHeads line = true := by
  intro line hline
  rcases List.mem_append.1 hline with haxis | hdispense
  · obtain ⟨axis, -, rfl⟩ := List.mem_map.1 haxis
    exact beginsWith_render (by decide) (by decide)
  · obtain ⟨station, -, rfl⟩ := List.mem_map.1 hdispense
    exact beginsWith_render (by decide) (by decide)

/-! ## What is written is counted -/

namespace Bench

/-- A bench goes over to another one by writing some lines, and counts them by their kind. -/
structure Writes (bench : Bench) (lines : List String) (next : Bench) : Prop where
  output : next.output = bench.output ++ lines
  rejected : next.tally.rejected = bench.tally.rejected + lines.countP isRejection
  reports : next.tally.reports = bench.tally.reports + lines.countP isReport

variable {bench next after : Bench} {lines more : List String}

theorem Writes.nothing (houtput : next.output = bench.output)
    (hrejected : next.tally.rejected = bench.tally.rejected)
    (hreports : next.tally.reports = bench.tally.reports) : bench.Writes [] next :=
  ⟨by rw [houtput, List.append_nil], hrejected, hreports⟩

theorem Writes.trans (h : bench.Writes lines next) (hmore : next.Writes more after) :
    bench.Writes (lines ++ more) after := by
  refine ⟨?output, ?rejected, ?reports⟩
  case output => rw [hmore.output, h.output, List.append_assoc]
  case rejected => rw [hmore.rejected, h.rejected, List.countP_append, Nat.add_assoc]
  case reports => rw [hmore.reports, h.reports, List.countP_append, Nat.add_assoc]

theorem output_write (line : String) (bench : Bench) :
    (bench.write line).output = bench.output ++ [line] := by
  simp [output, write]

theorem answer_writes (bench : Bench) (reply : Reply) :
    bench.Writes [reply.line] (bench.answer reply) := by
  have hrejection := isRejection_reply reply
  have hreport := isReport_reply reply
  refine ⟨?output, ?rejected, ?reports⟩
  case output => cases reply <;> exact output_write _ bench
  case rejected =>
    rw [List.countP_singleton, hrejection]
    cases reply <;> rfl
  case reports =>
    rw [List.countP_singleton, hreport]
    cases reply <;> rfl

theorem publish_writes (bench : Bench) (event : MachineEvent) :
    bench.Writes [(bench.machine.report event).line] (bench.publish event) := by
  refine ⟨output_write _ bench, ?rejected, ?reports⟩
  case rejected =>
    rw [List.countP_singleton, isRejection_report]
    rfl
  case reports =>
    rw [List.countP_singleton, isReport_report]
    rfl

theorem publishAll_writes (bench : Bench) (events : List MachineEvent) :
    bench.Writes (events.map fun event => (bench.machine.report event).line)
      (events.foldl publish bench) := by
  induction events generalizing bench with
  | nil => exact .nothing rfl rfl rfl
  | cons event events ih => exact (publish_writes bench event).trans (ih (bench.publish event))

theorem write_status {line : String} (hline : beginsWith statusHeads line = true) :
    bench.Writes [line] (bench.write line) := by
  have hrejection : isRejection line = false := not_beginsWith (by decide) hline
  have hreport : isReport line = false := not_beginsWith (by decide) hline
  refine ⟨output_write _ bench, ?rejected, ?reports⟩
  case rejected =>
    rw [List.countP_singleton, hrejection]
    rfl
  case reports =>
    rw [List.countP_singleton, hreport]
    rfl

theorem writeAll_writes (bench : Bench) {lines : List String}
    (hlines : ∀ line ∈ lines, beginsWith statusHeads line = true) :
    bench.Writes lines (lines.foldl (fun bench line => bench.write line) bench) := by
  induction lines generalizing bench with
  | nil => exact .nothing rfl rfl rfl
  | cons line lines ih =>
    have hrest := ih (bench.write line) fun other hother => hlines other (.tail _ hother)
    exact (write_status (hlines line (.head _))).trans hrest

theorem writeStatus_writes (bench : Bench) :
    bench.Writes bench.machine.statusLines bench.writeStatus :=
  writeAll_writes bench beginsWith_status

end Bench

/-! ## A tick -/

/-- What is written in one go: at most one reply, then the reports, and the status last. -/
structure Transcript where
  reply : Option Reply := none
  reports : List Report := []
  status : List String := []

def Transcript.lines (transcript : Transcript) : List String :=
  transcript.reply.toList.map Reply.line ++ transcript.reports.map Report.line ++
    transcript.status

namespace Bench

/-- What an update writes. -/
def updateTranscript (command : Option Command) (bench : Bench) : Transcript :=
  let (machine, output) := bench.machine.tick bench.now command
  { reply := output.replyMessage
    reports := output.events.map machine.report
    status := if output.telemetryDue then machine.statusLines else [] }

/-- What a tick writes. A line that is no command is answered in place of a command. -/
def tickTranscript (line : Option String) (bench : Bench) : Transcript :=
  match line with
  | none => bench.updateTranscript none
  | some text =>
    match Command.parse text with
    | .ok command => bench.updateTranscript (some command)
    | .error error =>
      { bench.updateTranscript none with reply := some (.rejected error.token) }

variable {bench : Bench}

/-- What neither a reply nor a report nor the status changes. -/
def gauge (bench : Bench) : Machine SimulatedChannel × Nat × Nat × Nat × Nat × Bool :=
  (bench.machine, bench.tickLength, bench.now, bench.tally.ticks, bench.tally.commands,
    bench.tally.timedOut)

theorem gauge_answer (bench : Bench) (reply : Reply) :
    (bench.answer reply).gauge = bench.gauge := by
  cases reply <;> rfl

theorem gauge_publishAll (bench : Bench) (events : List MachineEvent) :
    (events.foldl publish bench).gauge = bench.gauge := by
  induction events generalizing bench with
  | nil => rfl
  | cons event events ih => exact ih (bench.publish event)

theorem gauge_writeAll (bench : Bench) (lines : List String) :
    (lines.foldl (fun bench line => bench.write line) bench).gauge = bench.gauge := by
  induction lines generalizing bench with
  | nil => rfl
  | cons line lines ih => exact ih (bench.write line)

theorem gauge_writeStatus (bench : Bench) : bench.writeStatus.gauge = bench.gauge :=
  gauge_writeAll bench bench.machine.statusLines

theorem gauge_update (command : Option Command) (bench : Bench) :
    (bench.update command).gauge =
      ((bench.machine.tick bench.now command).1, bench.tickLength, bench.now, bench.tally.ticks,
        bench.tally.commands, bench.tally.timedOut) := by
  unfold update
  generalize bench.machine.tick bench.now command = ticked
  obtain ⟨machine, output⟩ := ticked
  dsimp only
  have hanswered : (output.replyMessage.elim ({ bench with machine } : Bench)
      ({ bench with machine } : Bench).answer).gauge = ({ bench with machine } : Bench).gauge := by
    cases output.replyMessage with
    | none => rfl
    | some reply => exact gauge_answer _ reply
  split
  · exact (gauge_writeStatus _).trans ((gauge_publishAll _ _).trans hanswered)
  · exact (gauge_publishAll _ _).trans hanswered

/-- An update writes its transcript. -/
theorem update_writes (command : Option Command) (bench : Bench) :
    bench.Writes (bench.updateTranscript command).lines (bench.update command) := by
  unfold update updateTranscript
  generalize bench.machine.tick bench.now command = ticked
  obtain ⟨machine, output⟩ := ticked
  dsimp only [Transcript.lines]
  -- the machine has ticked; what follows is the reply, the reports and the status
  have hticked : bench.Writes [] { bench with machine } := .nothing rfl rfl rfl
  have hreply : ({ bench with machine } : Bench).Writes (output.replyMessage.toList.map Reply.line)
        (output.replyMessage.elim { bench with machine } ({ bench with machine } : Bench).answer) ∧
      (output.replyMessage.elim { bench with machine }
        ({ bench with machine } : Bench).answer).machine = machine := by
    cases output.replyMessage with
    | none => exact ⟨.nothing rfl rfl rfl, rfl⟩
    | some reply => exact ⟨answer_writes _ reply, congrArg Prod.fst (gauge_answer _ reply)⟩
  obtain ⟨hanswered, hmachine⟩ := hreply
  generalize output.replyMessage.elim ({ bench with machine } : Bench)
    ({ bench with machine } : Bench).answer = answered at hanswered hmachine ⊢
  have hpublished := publishAll_writes answered output.events
  have hsame : (output.events.foldl publish answered).machine = answered.machine :=
    congrArg Prod.fst (gauge_publishAll answered output.events)
  generalize output.events.foldl publish answered = published at hpublished hsame ⊢
  rw [hmachine] at hpublished hsame
  have hreported := (hticked.trans hanswered).trans hpublished
  rw [List.nil_append] at hreported
  have hevents : (output.events.map machine.report).map Report.line =
      output.events.map fun event => (machine.report event).line := List.map_map
  rw [hevents]
  split
  · have hstatus := writeStatus_writes published
    rw [hsame] at hstatus
    exact hreported.trans hstatus
  · exact hreported.trans (.nothing rfl rfl rfl)

/-! ## The laws of a tick -/

/-- The command that a line is read as. -/
def command? (line : Option String) : Option Command :=
  line.bind fun text => (Command.parse text).toOption

/-- **A tick writes its transcript.** -/
theorem tick_writes (line : Option String) (bench : Bench) :
    bench.Writes (bench.tickTranscript line).lines (bench.tick line) := by
  have htime (bench : Bench) : bench.Writes [] bench.passTime := .nothing rfl rfl rfl
  have hupdated (bench : Bench) (command : Option Command) :
      bench.Writes (bench.updateTranscript command).lines (bench.update command).passTime := by
    have h := (update_writes command bench).trans (htime (bench.update command))
    rwa [List.append_nil] at h
  unfold tick tickTranscript readCommand
  cases line with
  | none => exact hupdated bench none
  | some text =>
    dsimp only
    cases Command.parse text with
    | ok command =>
      have hcounted : bench.Writes []
          { bench with tally := { bench.tally with commands := bench.tally.commands + 1 } } :=
        .nothing rfl rfl rfl
      exact hcounted.trans (hupdated _ (some command))
    | error error =>
      -- the line is answered before the update, which has no command to answer
      have hanswered := answer_writes bench (.rejected error.token)
      have hrest := hupdated (bench.answer (.rejected error.token)) none
      have hsame : (bench.answer (.rejected error.token)).updateTranscript none =
          { bench.updateTranscript none with reply := none } := rfl
      rw [hsame] at hrest
      exact hanswered.trans hrest

/-- A tick passes the time of one tick, and counts a line that is a command. It comes to no
verdict. -/
theorem gauge_tick (line : Option String) (bench : Bench) :
    (bench.tick line).now = bench.now + bench.tickLength ∧
      (bench.tick line).tickLength = bench.tickLength ∧
      (bench.tick line).tally.ticks = bench.tally.ticks + 1 ∧
      (bench.tick line).tally.commands =
        bench.tally.commands + (command? line).toList.length ∧
      (bench.tick line).tally.timedOut = bench.tally.timedOut := by
  have hpassed (bench : Bench) (command : Option Command) :
      (bench.update command).passTime.now = bench.now + bench.tickLength ∧
        (bench.update command).passTime.tickLength = bench.tickLength ∧
        (bench.update command).passTime.tally.ticks = bench.tally.ticks + 1 ∧
        (bench.update command).passTime.tally.commands = bench.tally.commands ∧
        (bench.update command).passTime.tally.timedOut = bench.tally.timedOut := by
    have hgauge := gauge_update command bench
    simp only [gauge, Prod.mk.injEq] at hgauge
    obtain ⟨-, hlength, hnow, hticks, hcommands, htimedOut⟩ := hgauge
    simp only [passTime, hlength, hnow, hticks, hcommands, htimedOut, and_self]
  unfold tick readCommand
  cases line with
  | none => exact hpassed bench none
  | some text =>
    unfold command?
    dsimp only [Option.bind_some]
    cases Command.parse text with
    | ok command => exact hpassed _ (some command)
    | error error => exact hpassed (bench.answer (.rejected error.token)) none

/-- A line that is handed to a tick is answered, and nothing else is. -/
theorem isSome_reply (line : Option String) (bench : Bench) :
    (bench.tickTranscript line).reply.isSome = line.isSome := by
  unfold tickTranscript
  cases line with
  | none => rfl
  | some text =>
    dsimp only
    cases Command.parse text with
    | error error => rfl
    | ok command =>
      have hreply : (bench.machine.accept (some command) bench.now).2.isSome = true := by
        unfold Machine.accept
        dsimp only
        split <;> rfl
      simpa [updateTranscript, Machine.tick, TickOutput.replyMessage] using hreply

end Bench

end MotionControl
