import MotionControl.Proofs.Numeric.Numeral
import MotionControl.Protocol.Parser
import Mathlib.Data.List.Forall2

/-!
# The operands of a command

What stands behind the keyword of a command line is described by slots, one for each operand. A
word is accepted in a slot if it spells an operand of that kind.

* `Command.keyword`, `Command.operands`: a command as a keyword and its operands, in order.
* `Keyword.slots`: what kinds of operands a keyword takes.
* `Refuses`: the error that words give in some slots, that of the first slot with a problem.
* `ReadsSlots`, `ReadsSlots.operand`: a reader takes the operands of its slots one by one.
* `readsSlots_arguments`: **the reader of each keyword takes the operands of the keyword**.
-/

namespace MotionControl

/-- An operand of a command. -/
inductive Operand where
  | axis (name : Label)
  | mode (mode : MoveMode)
  | number (value : Single)
deriving DecidableEq

/-- The kind of operand that stands at a place of a command line. -/
inductive Slot where
  | axis
  | mode
  | number
deriving DecidableEq

/-- What is wrong with a word that is no operand of this kind. -/
def Slot.error : Slot → ParseError
  | axis => .nameTooLong
  | mode => .invalidMode
  | number => .invalidNumber

/-- The word for a move mode. -/
def MoveMode.token : MoveMode → String
  | absolute => "abs"
  | incremental => "inc"

/-- A word writes a number in single precision: a numeral to which it is the nearest one, as long
as that is finite. -/
def Single.IsWritten (word : String) (value : Single) : Prop :=
  ∃ numeral, Numeral.Writes word.toList numeral ∧ numeral.toSingle = value ∧ value.isFinite = true

namespace Operand

def slot : Operand → Slot
  | axis _ => .axis
  | mode _ => .mode
  | number _ => .number

/-- The word stands for the operand: a name for itself, a mode whatever the case of its letters. -/
def SpelledBy (word : String) : Operand → Prop
  | .axis name => name.text = word
  | .mode m => foldCase word = m.token
  | .number value => value.IsWritten word

end Operand

/-- The word stands for some operand of this kind. -/
def Slot.Accepts (slot : Slot) (word : String) : Prop :=
  ∃ operand : Operand, operand.slot = slot ∧ operand.SpelledBy word

/-- What kinds of operands a keyword takes. -/
def Keyword.slots : Keyword → List Slot
  | move => [.axis, .mode, .number, .number, .number, .number]
  | home => [.axis, .number, .number]
  | abort | enable | disable | clear => [.axis]
  | inject | purge => [.number, .number, .number, .number]
  | pause | resume | cancel | status => []

namespace Command

def keyword : Command → Keyword
  | move .. => .move
  | home .. => .home
  | abort _ => .abort
  | enable _ => .enable
  | disable _ => .disable
  | clearFault _ => .clear
  | dispense request =>
    match request.kind with
    | .inject => .inject
    | .purge => .purge
  | pause => .pause
  | resume => .resume
  | cancel => .cancel
  | status => .status

/-- What a command holds besides its keyword, in the order of the command line. -/
def operands : Command → List Operand
  | move name request =>
    [.axis name, .mode request.mode, .number request.target, .number request.velocity,
      .number request.accel, .number request.torque]
  | home name maxTravel torque => [.axis name, .number maxTravel, .number torque]
  | abort name | enable name | disable name | clearFault name => [.axis name]
  | dispense request =>
    [.number request.volume, .number request.speed, .number request.accel, .number request.torque]
  | pause | resume | cancel | status => []

end Command

/-! ## Words and operands -/

theorem Label.ofString?_eq_some_iff {word : String} {name : Label} :
    Label.ofString? word = some name ↔ name.text = word := by
  unfold Label.ofString?
  constructor
  · intro h
    split at h
    · cases h
      rfl
    · cases h
  · rintro rfl
    rw [dif_pos name.fits]

theorem MoveMode.ofString?_eq_some_iff {word : String} {mode : MoveMode} :
    MoveMode.ofString? word = some mode ↔ foldCase word = mode.token := by
  unfold MoveMode.ofString?
  cases mode with
  | absolute => by_cases h : foldCase word = "abs" <;> simp [h, token]
  | incremental =>
    by_cases h : foldCase word = "abs"
    · simp [h, token]
    · by_cases h' : foldCase word = "inc" <;> simp [h, h', token]

theorem Single.parseFinite?_eq_some_iff {word : String} {value : Single} :
    Single.parseFinite? word = some value ↔ value.IsWritten word := by
  unfold Single.parseFinite? Single.IsWritten
  constructor
  · intro h
    split at h
    · rename_i numeral hread
      split at h
      · rename_i hfinite
        cases h
        exact ⟨numeral, Numeral.parse?_eq_some_iff.1 hread, rfl, hfinite⟩
      · cases h
    · cases h
  · rintro ⟨numeral, hwrites, rfl, hfinite⟩
    rw [Numeral.parse?_eq_some_iff.2 hwrites]
    exact if_pos hfinite

theorem Keyword.ofString?_eq_some_iff {word : String} {keyword : Keyword} :
    Keyword.ofString? word = some keyword ↔ foldCase word = keyword.token := by
  unfold Keyword.ofString?
  constructor
  · intro h
    have htoken := List.find?_some h
    exact (eq_of_beq htoken).symm
  · intro h
    rw [h]
    cases keyword <;> rfl

/-- A function reads the words of a slot: it finds the operands that they spell. -/
structure ReadsWord {α : Type} (slot : Slot) (make : α → Operand) (read? : String → Option α) :
    Prop where
  isSlot : ∀ operand : Operand, operand.slot = slot ↔ ∃ value, operand = make value
  some_iff : ∀ word value, read? word = some value ↔ (make value).SpelledBy word

theorem readsWord_axis : ReadsWord .axis .axis Label.ofString? where
  isSlot operand := by cases operand <;> simp [Operand.slot]
  some_iff _ _ := Label.ofString?_eq_some_iff

theorem readsWord_mode : ReadsWord .mode .mode MoveMode.ofString? where
  isSlot operand := by cases operand <;> simp [Operand.slot]
  some_iff _ _ := MoveMode.ofString?_eq_some_iff

theorem readsWord_number : ReadsWord .number .number Single.parseFinite? where
  isSlot operand := by cases operand <;> simp [Operand.slot]
  some_iff _ _ := Single.parseFinite?_eq_some_iff

namespace ReadsWord

variable {α : Type} {slot : Slot} {make : α → Operand} {read? : String → Option α} {word : String}

theorem slot_make (h : ReadsWord slot make read?) (value : α) : (make value).slot = slot :=
  (h.isSlot _).2 ⟨value, rfl⟩

/-- A word is accepted in a slot when an operand is read from it. -/
theorem accepts_iff (h : ReadsWord slot make read?) :
    slot.Accepts word ↔ ∃ value, read? word = some value := by
  constructor
  · rintro ⟨operand, hslot, hspelled⟩
    obtain ⟨value, rfl⟩ := (h.isSlot operand).1 hslot
    exact ⟨value, (h.some_iff word value).2 hspelled⟩
  · rintro ⟨value, hvalue⟩
    exact ⟨make value, h.slot_make value, (h.some_iff word value).1 hvalue⟩

/-- A word stands for one operand of a slot at most. -/
theorem unique (h : ReadsWord slot make read?) {operand operand' : Operand}
    (hslot : operand.slot = slot) (hslot' : operand'.slot = slot)
    (hspelled : operand.SpelledBy word) (hspelled' : operand'.SpelledBy word) :
    operand = operand' := by
  obtain ⟨value, rfl⟩ := (h.isSlot operand).1 hslot
  obtain ⟨value', rfl⟩ := (h.isSlot operand').1 hslot'
  have hvalue := (h.some_iff word value).2 hspelled
  rw [(h.some_iff word value').2 hspelled'] at hvalue
  rw [Option.some.inj hvalue]

end ReadsWord

/-- A word stands for one operand of a kind at most. -/
theorem Operand.eq_of_spelledBy {operand operand' : Operand} {word : String}
    (hslot : operand.slot = operand'.slot) (h : operand.SpelledBy word)
    (h' : operand'.SpelledBy word) : operand = operand' := by
  cases hkind : operand'.slot with
  | axis => exact readsWord_axis.unique (hslot.trans hkind) hkind h h'
  | mode => exact readsWord_mode.unique (hslot.trans hkind) hkind h h'
  | number => exact readsWord_number.unique (hslot.trans hkind) hkind h h'

/-- Words stand for one list of operands of some kinds at most. -/
theorem eq_of_spelled {words : List String} {operands operands' : List Operand}
    (hslots : operands.map Operand.slot = operands'.map Operand.slot)
    (h : List.Forall₂ Operand.SpelledBy words operands)
    (h' : List.Forall₂ Operand.SpelledBy words operands') : operands = operands' := by
  induction h generalizing operands' with
  | nil =>
    cases h'
    rfl
  | cons hfirst _ ih =>
    cases h' with
    | cons hfirst' hrest' =>
      rw [List.map_cons, List.map_cons, List.cons.injEq] at hslots
      rw [Operand.eq_of_spelledBy hslots.1 hfirst hfirst', ih hslots.2 hrest']

/-! ## Commands and operands -/

namespace Command

theorem slots_operands (command : Command) :
    command.operands.map Operand.slot = command.keyword.slots := by
  cases command with
  | dispense request =>
    obtain ⟨kind⟩ := request
    cases kind <;> rfl
  | _ => rfl

/-- The command with a keyword and operands. -/
def assemble? : Keyword → List Operand → Option Command
  | .move, [.axis name, .mode mode, .number target, .number velocity, .number accel,
      .number torque] => some (.move name { mode, target, velocity, accel, torque })
  | .home, [.axis name, .number maxTravel, .number torque] => some (.home name maxTravel torque)
  | .abort, [.axis name] => some (.abort name)
  | .enable, [.axis name] => some (.enable name)
  | .disable, [.axis name] => some (.disable name)
  | .clear, [.axis name] => some (.clearFault name)
  | .inject, [.number volume, .number speed, .number accel, .number torque] =>
    some (.dispense { kind := .inject, volume, speed, accel, torque })
  | .purge, [.number volume, .number speed, .number accel, .number torque] =>
    some (.dispense { kind := .purge, volume, speed, accel, torque })
  | .pause, [] => some .pause
  | .resume, [] => some .resume
  | .cancel, [] => some .cancel
  | .status, [] => some .status
  | _, _ => none

theorem assemble?_operands (command : Command) :
    assemble? command.keyword command.operands = some command := by
  cases command with
  | dispense request =>
    obtain ⟨kind⟩ := request
    cases kind <;> rfl
  | _ => rfl

/-- A command is its keyword and its operands. -/
theorem eq_of_operands {command command' : Command} (hkeyword : command.keyword = command'.keyword)
    (hoperands : command.operands = command'.operands) : command = command' := by
  have h := assemble?_operands command
  rw [hkeyword, hoperands, assemble?_operands] at h
  exact (Option.some.inj h).symm

end Command

/-! ## Reading -/

/-- In the place of these operands, the words give this error: that of the first slot for which
there is no word, or no word that it accepts. -/
inductive Refuses : List Slot → List String → ParseError → Prop where
  | missing {slot : Slot} {slots : List Slot} : Refuses (slot :: slots) [] .missingArgument
  | unacceptable {slot : Slot} {slots : List Slot} {word : String} {words : List String}
      (hword : ¬ slot.Accepts word) : Refuses (slot :: slots) (word :: words) slot.error
  | later {slot : Slot} {slots : List Slot} {word : String} {words : List String}
      {error : ParseError} (hword : slot.Accepts word) (hrest : Refuses slots words error) :
      Refuses (slot :: slots) (word :: words) error

/-- What comes of reading operands of these slots for a command with this keyword, when others
have been read before. -/
inductive SlotOutcome (keyword : Keyword) (before : List Operand) (slots : List Slot)
    (words : List String) : Except ParseError (Command × List String) → Prop where
  | ok {command : Command} {operands : List Operand} {taken rest : List String}
      (hkeyword : command.keyword = keyword)
      (hoperands : command.operands = before ++ operands)
      (hwords : words = taken ++ rest) (hslots : operands.map Operand.slot = slots)
      (hspelled : List.Forall₂ Operand.SpelledBy taken operands) :
      SlotOutcome keyword before slots words (.ok (command, rest))
  | error {error : ParseError} (hrefuses : Refuses slots words error) :
      SlotOutcome keyword before slots words (.error error)

/-- A reader takes operands of these slots for a command with this keyword, when others have been
read before. -/
def ReadsSlots (keyword : Keyword) (before : List Operand) (slots : List Slot)
    (read : ArgumentReader Command) : Prop :=
  ∀ words, SlotOutcome keyword before slots words (read.run words)

namespace ReadsSlots

variable {keyword : Keyword} {before : List Operand} {slots : List Slot}

/-- The command is complete. -/
theorem done {command : Command} (hkeyword : command.keyword = keyword)
    (hoperands : command.operands = before) :
    ReadsSlots keyword before [] (pure command) := by
  intro words
  have hnone : command.operands = before ++ [] := by rw [hoperands, List.append_nil]
  have hwords : words = [] ++ words := rfl
  exact .ok hkeyword hnone hwords rfl .nil

theorem run_argument_cons {α : Type} (read? : String → Option α) (error : ParseError)
    (word : String) (words : List String) :
    (ArgumentReader.argument read? error).run (word :: words) =
      match read? word with
      | none => .error error
      | some value => .ok (value, words) := by
  unfold ArgumentReader.argument
  show StateT.run (match read? word with | none => _ | some value => _) _ = _
  cases read? word <;> rfl

/-- One operand more. -/
theorem operand {α : Type} {slot : Slot} {make : α → Operand} {read? : String → Option α}
    {next : α → ArgumentReader Command} (hread : ReadsWord slot make read?)
    (hnext : ∀ value, ReadsSlots keyword (before ++ [make value]) slots (next value)) :
    ReadsSlots keyword before (slot :: slots)
      (ArgumentReader.argument read? slot.error >>= next) := by
  intro words
  rw [StateT.run_bind]
  cases words with
  | nil => exact .error .missing
  | cons word words =>
    rw [run_argument_cons]
    cases hword : read? word with
    | none =>
      have hnot : ¬ slot.Accepts word := by
        rintro haccepts
        obtain ⟨value, hvalue⟩ := hread.accepts_iff.1 haccepts
        rw [hword] at hvalue
        cases hvalue
      exact .error (.unacceptable hnot)
    | some value =>
      have hspelled : (make value).SpelledBy word := (hread.some_iff word value).1 hword
      show SlotOutcome keyword before (slot :: slots) (word :: words) ((next value).run words)
      have houtcome := hnext value words
      generalize (next value).run words = outcome at houtcome ⊢
      cases houtcome with
      | ok hkeyword hoperands hwords hslots hrest =>
        refine .ok hkeyword ?_ ?_ ?_ (.cons hspelled hrest)
        · rw [hoperands, List.append_assoc, List.singleton_append]
        · rw [hwords, List.cons_append]
        · rw [List.map_cons, hread.slot_make, hslots]
      | error hrefuses =>
        exact .error (.later (hread.accepts_iff.2 ⟨value, hword⟩) hrefuses)

theorem axis {next : Label → ArgumentReader Command}
    (hnext : ∀ name, ReadsSlots keyword (before ++ [.axis name]) slots (next name)) :
    ReadsSlots keyword before (.axis :: slots) (ArgumentReader.axis >>= next) :=
  operand readsWord_axis hnext

theorem mode {next : MoveMode → ArgumentReader Command}
    (hnext : ∀ m, ReadsSlots keyword (before ++ [.mode m]) slots (next m)) :
    ReadsSlots keyword before (.mode :: slots) (ArgumentReader.mode >>= next) :=
  operand readsWord_mode hnext

theorem number {next : Single → ArgumentReader Command}
    (hnext : ∀ value, ReadsSlots keyword (before ++ [.number value]) slots (next value)) :
    ReadsSlots keyword before (.number :: slots) (ArgumentReader.number >>= next) :=
  operand readsWord_number hnext

end ReadsSlots

/-- **The reader of each keyword takes the operands of the keyword.** -/
theorem readsSlots_arguments (keyword : Keyword) :
    ReadsSlots keyword [] keyword.slots (ArgumentReader.arguments keyword) := by
  cases keyword with
  | move =>
    refine .axis fun name => .mode fun mode => .number fun target => .number fun velocity => ?_
    exact .number fun accel => .number fun torque => .done rfl rfl
  | home => exact .axis fun name => .number fun maxTravel => .number fun torque => .done rfl rfl
  | abort | enable | disable | clear => exact .axis fun name => .done rfl rfl
  | inject | purge =>
    refine .number fun volume => .number fun speed => .number fun accel => ?_
    exact .number fun torque => .done rfl rfl
  | pause | resume | cancel | status => exact .done rfl rfl

end MotionControl
