import MotionControl.Proofs.Protocol.Operands
import MotionControl.Proofs.Text.Words

/-!
# The grammar of command lines

A line is read as the command that its words write, and if they write none, the leftmost problem is
blamed: an unknown keyword, then the first operand that is absent or unacceptable, and words that
are left over only if all operands are there.

* `Command.IsWritten`: some words write a command.
* `Blames`: the error of some words that write none.
* `ofWords_spec`: every list of words is read as a command that it writes, or blamed.
* `parses_exactly_grammar`: **lines are read by the grammar**, and only their words matter.
-/

namespace MotionControl

/-- The words write the command: the keyword in whatever case, and the operands. -/
def Command.IsWritten (command : Command) (words : List String) : Prop :=
  ∃ word rest, words = word :: rest ∧ foldCase word = command.keyword.token ∧
    List.Forall₂ Operand.SpelledBy rest command.operands

/-- At each place before `i` there is a slot and a word that it accepts. -/
def AcceptedBefore (slots : List Slot) (words : List String) (i : Nat) : Prop :=
  ∀ j < i, ∃ slot word, slots[j]? = some slot ∧ words[j]? = some word ∧ slot.Accepts word

/-- What can be wrong with the words at a place. -/
inductive ProblemAt (slots : List Slot) (words : List String) (i : Nat) : ParseError → Prop where
  | missing (hslot : i < slots.length) (hword : words[i]? = none) :
      ProblemAt slots words i .missingArgument
  | unacceptable {slot : Slot} {word : String} (hslot : slots[i]? = some slot)
      (hword : words[i]? = some word) (hbad : ¬ slot.Accepts word) :
      ProblemAt slots words i slot.error
  | trailing (hslot : i = slots.length) (hword : i < words.length) :
      ProblemAt slots words i .trailingArguments

/-- The error of a line with these words. -/
inductive Blames : List String → ParseError → Prop where
  | empty : Blames [] .empty
  | unknown {word : String} {rest : List String}
      (hunknown : ∀ keyword : Keyword, foldCase word ≠ keyword.token) :
      Blames (word :: rest) .unknownCommand
  /-- The first place with a problem counts. -/
  | operand {word : String} {rest : List String} {keyword : Keyword} {i : Nat} {error : ParseError}
      (hkeyword : foldCase word = keyword.token) (hbefore : AcceptedBefore keyword.slots rest i)
      (hproblem : ProblemAt keyword.slots rest i error) :
      Blames (word :: rest) error

/-! ## Places -/

section

variable {slots : List Slot} {words : List String} {i : Nat} {error : ParseError}

theorem AcceptedBefore.cons {slot : Slot} {word : String} (hword : slot.Accepts word)
    (h : AcceptedBefore slots words i) :
    AcceptedBefore (slot :: slots) (word :: words) (i + 1) := by
  intro j hj
  cases j with
  | zero => exact ⟨slot, word, rfl, rfl, hword⟩
  | succ j =>
    have hj' : j < i := by omega
    exact h j hj'

theorem ProblemAt.cons (slot : Slot) (word : String) (h : ProblemAt slots words i error) :
    ProblemAt (slot :: slots) (word :: words) (i + 1) error := by
  cases h with
  | missing hslot hword =>
    have hslot' : i + 1 < (slot :: slots).length := Nat.succ_lt_succ hslot
    exact .missing hslot' hword
  | unacceptable hslot hword hbad => exact .unacceptable hslot hword hbad
  | trailing hslot hword =>
    have hslot' : i + 1 = (slot :: slots).length := congrArg (· + 1) hslot
    exact .trailing hslot' (Nat.succ_lt_succ hword)

/-- Words that are refused have a first place with a problem. -/
theorem Refuses.exists_problem (h : Refuses slots words error) :
    ∃ i, AcceptedBefore slots words i ∧ ProblemAt slots words i error := by
  induction h with
  | missing => exact ⟨0, nofun, .missing (Nat.succ_pos _) rfl⟩
  | unacceptable hword => exact ⟨0, nofun, .unacceptable rfl rfl hword⟩
  | later hword _ ih =>
    obtain ⟨i, hbefore, hproblem⟩ := ih
    exact ⟨i + 1, hbefore.cons hword, hproblem.cons _ _⟩

/-- There is no problem at a place with an accepted word. -/
theorem ProblemAt.not_accepted (h : ProblemAt slots words i error) {j : Nat}
    (hbefore : AcceptedBefore slots words j) : ¬ i < j := by
  intro hlt
  obtain ⟨slot, word, hslot, hword, haccepts⟩ := hbefore i hlt
  cases h with
  | missing _ hnone =>
    rw [hword] at hnone
    cases hnone
  | unacceptable hslot' hword' hbad =>
    rw [hslot] at hslot'
    rw [hword] at hword'
    cases hslot'
    cases hword'
    exact hbad haccepts
  | trailing hend =>
    have hnone : slots[i]? = none := List.getElem?_eq_none (Nat.le_of_eq hend.symm)
    rw [hslot] at hnone
    cases hnone

/-- A place has one problem at most. -/
theorem ProblemAt.unique {error' : ParseError} (h : ProblemAt slots words i error)
    (h' : ProblemAt slots words i error') : error = error' := by
  cases h with
  | missing hslot hword =>
    cases h' with
    | missing => rfl
    | unacceptable _ hword' =>
      rw [hword] at hword'
      cases hword'
    | trailing hslot' => omega
  | unacceptable hslot hword =>
    cases h' with
    | missing _ hword' =>
      rw [hword] at hword'
      cases hword'
    | unacceptable hslot' =>
      rw [hslot] at hslot'
      cases hslot'
      rfl
    | trailing hslot' =>
      have hlt : i < slots.length := (List.getElem?_eq_some_iff.1 hslot).1
      omega
  | trailing hslot hword =>
    cases h' with
    | missing hslot' => omega
    | unacceptable hslot' =>
      have hlt : i < slots.length := (List.getElem?_eq_some_iff.1 hslot').1
      omega
    | trailing => rfl

/-- Words that spell operands are accepted one by one. -/
theorem acceptedBefore_of_spelled {operands : List Operand}
    (h : List.Forall₂ Operand.SpelledBy words operands) :
    AcceptedBefore (operands.map Operand.slot) words words.length := by
  induction h with
  | nil => exact nofun
  | cons hfirst _ ih => exact ih.cons ⟨_, rfl, hfirst⟩

end

/-- Words that go on behind the operands of a keyword are blamed for it. -/
theorem blames_trailing {word : String} {keyword : Keyword} {taken left : List String}
    {operands : List Operand} (hkeyword : foldCase word = keyword.token)
    (hslots : operands.map Operand.slot = keyword.slots)
    (hspelled : List.Forall₂ Operand.SpelledBy taken operands) (hleft : left ≠ []) :
    Blames (word :: (taken ++ left)) .trailingArguments := by
  have haccepted := acceptedBefore_of_spelled hspelled
  rw [hslots] at haccepted
  have hlength : keyword.slots.length = taken.length := by
    rw [← hslots, List.length_map]
    exact hspelled.length_eq.symm
  refine .operand hkeyword ?_ (.trailing hlength.symm ?_)
  · intro j hj
    obtain ⟨slot, found, hslot, hfound, haccepts⟩ := haccepted j hj
    refine ⟨slot, found, hslot, ?_, haccepts⟩
    rw [List.getElem?_append_left hj, hfound]
  · have hmore : 0 < left.length := List.length_pos_iff.2 hleft
    rw [List.length_append]
    omega

/-! ## Commands and errors exclude each other -/

theorem Keyword.token_injective {keyword keyword' : Keyword} (h : keyword.token = keyword'.token) :
    keyword = keyword' := by
  have hfind (keyword : Keyword) : all.find? (·.token == keyword.token) = some keyword := by
    cases keyword <;> rfl
  have hsame := hfind keyword
  rw [h, hfind keyword'] at hsame
  exact (Option.some.inj hsame).symm

section

variable {words : List String} {command : Command} {error : ParseError}

/-- Words write one command at most. -/
theorem Command.IsWritten.unique {command' : Command} (h : command.IsWritten words)
    (h' : command'.IsWritten words) : command = command' := by
  obtain ⟨word, rest, rfl, hword, hrest⟩ := h
  obtain ⟨word', rest', hsame, hword', hrest'⟩ := h'
  cases hsame
  have hkeyword : command.keyword = command'.keyword :=
    Keyword.token_injective (hword.symm.trans hword')
  refine Command.eq_of_operands hkeyword (eq_of_spelled ?_ hrest hrest')
  rw [command.slots_operands, command'.slots_operands, hkeyword]

/-- Words that write a command are not blamed. -/
theorem Blames.not_isWritten (h : Blames words error) : ¬ command.IsWritten words := by
  rintro ⟨word, rest, rfl, hword, hrest⟩
  cases h with
  | unknown hunknown => exact hunknown command.keyword hword
  | operand hkeyword _ hproblem =>
    cases Keyword.token_injective (hword.symm.trans hkeyword)
    have haccepted := acceptedBefore_of_spelled hrest
    rw [command.slots_operands] at haccepted
    have hlength : rest.length = command.keyword.slots.length := by
      rw [← command.slots_operands, List.length_map]
      exact hrest.length_eq
    have hplace := hproblem.not_accepted haccepted
    cases hproblem with
    | missing hslot => omega
    | unacceptable hslot =>
      have hlt := (List.getElem?_eq_some_iff.1 hslot).1
      omega
    | trailing hslot hmore => omega

/-- Words are blamed for one error at most. -/
theorem Blames.unique {error' : ParseError} (h : Blames words error) (h' : Blames words error') :
    error = error' := by
  cases h with
  | empty =>
    cases h'
    rfl
  | unknown hunknown =>
    cases h' with
    | unknown => rfl
    | operand hkeyword => exact absurd hkeyword (hunknown _)
  | operand hkeyword hbefore hproblem =>
    cases h' with
    | unknown hunknown => exact absurd hkeyword (hunknown _)
    | operand hkeyword' hbefore' hproblem' =>
      cases Keyword.token_injective (hkeyword.symm.trans hkeyword')
      -- neither of the two places comes before the other one
      have hle := hproblem.not_accepted hbefore'
      have hge := hproblem'.not_accepted hbefore
      obtain rfl := Nat.le_antisymm (Nat.le_of_not_lt hge) (Nat.le_of_not_lt hle)
      exact hproblem.unique hproblem'

end

/-! ## Reading -/

/-- What comes of reading some words. -/
inductive ReadingOf (words : List String) : Except ParseError Command → Prop where
  | ok {command : Command} (h : command.IsWritten words) : ReadingOf words (.ok command)
  | error {error : ParseError} (h : Blames words error) : ReadingOf words (.error error)

/-- **Every list of words** is read as a command that it writes, or blamed for an error of it. -/
theorem ofWords_spec (words : List String) : ReadingOf words (Command.ofWords words) := by
  cases words with
  | nil => exact .error .empty
  | cons word rest =>
    unfold Command.ofWords
    dsimp only
    cases hword : Keyword.ofString? word with
    | none =>
      refine .error (.unknown fun keyword hkeyword => ?_)
      rw [Keyword.ofString?_eq_some_iff.2 hkeyword] at hword
      cases hword
    | some keyword =>
      have hkeyword : foldCase word = keyword.token := Keyword.ofString?_eq_some_iff.1 hword
      have houtcome := readsSlots_arguments keyword rest
      dsimp only
      generalize (ArgumentReader.arguments keyword).run rest = outcome at houtcome ⊢
      cases houtcome with
      | error hrefuses =>
        obtain ⟨i, hbefore, hproblem⟩ := hrefuses.exists_problem
        exact .error (.operand hkeyword hbefore hproblem)
      | @ok command operands taken left hsame hoperands hwords hslots hspelled =>
        show ReadingOf (word :: rest) (if left.isEmpty then .ok command else .error _)
        rw [List.nil_append] at hoperands
        rw [← hsame] at hkeyword hslots
        by_cases hleft : left = []
        · subst hleft
          rw [List.append_nil] at hwords
          subst hwords
          exact .ok ⟨word, rest, rfl, hkeyword, hoperands ▸ hspelled⟩
        · rw [if_neg (by simpa using hleft), hwords]
          exact .error (blames_trailing hkeyword hslots hspelled hleft)

/-- **Lines are read by the grammar.** A line is read as a command exactly if its words, split at
ASCII white space, write the command: the keyword, and exactly the operands of the keyword. It is
refused with an error exactly if its words write no command and the error is that of the leftmost
problem. Lines with the same words are read alike. -/
theorem parses_exactly_grammar :
    (∀ (line : String) (command : Command),
        Command.parse line = .ok command ↔ command.IsWritten (tokens line)) ∧
      (∀ (line : String) (error : ParseError),
        Command.parse line = .error error ↔ Blames (tokens line) error) ∧
      ∀ line line' : String, tokens line = tokens line' →
        Command.parse line = Command.parse line' := by
  refine ⟨?written, ?blamed, ?alike⟩
  case written =>
    intro line command
    unfold Command.parse
    rw [words_eq_tokens]
    have hspec := ofWords_spec (tokens line)
    constructor
    · intro hread
      rw [hread] at hspec
      cases hspec with
      | ok h => exact h
    · intro hwritten
      generalize Command.ofWords (tokens line) = reading at hspec
      cases hspec with
      | ok h => rw [h.unique hwritten]
      | error h => exact absurd hwritten h.not_isWritten
  case blamed =>
    intro line error
    unfold Command.parse
    rw [words_eq_tokens]
    have hspec := ofWords_spec (tokens line)
    constructor
    · intro hread
      rw [hread] at hspec
      cases hspec with
      | error h => exact h
    · intro hblames
      generalize Command.ofWords (tokens line) = reading at hspec
      cases hspec with
      | ok h => exact absurd h hblames.not_isWritten
      | error h => rw [h.unique hblames]
  case alike =>
    intro line line' hsame
    unfold Command.parse
    rw [words_eq_tokens, words_eq_tokens, hsame]

/-- The same words with other white space between them; of their three problems, an unknown mode, a
word that is no number and a word too many, the mode is blamed. -/
theorem parses_exactly_grammar_spaces :
    tokens " MOVE x\tup\x0c1e 2 3 4 5 " = tokens "MOVE x up 1e 2 3 4 5" ∧
      Command.parse "MOVE x up 1e 2 3 4 5" = .error .invalidMode ∧
      Command.parse " MOVE x\tup\x0c1e 2 3 4 5 " = .error .invalidMode := by
  have hsame : tokens " MOVE x\tup\x0c1e 2 3 4 5 " = tokens "MOVE x up 1e 2 3 4 5" := by
    decide +kernel
  have hmode : Command.parse "MOVE x up 1e 2 3 4 5" = .error .invalidMode := by decide +kernel
  exact ⟨hsame, hmode, (parses_exactly_grammar.2.2 _ _ hsame).trans hmode⟩

end MotionControl
