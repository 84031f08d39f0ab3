import MotionControl.Numeric.Numeral
import Mathlib.Data.List.TakeWhile

/-!
# How a numeral is written

A numeral is an optional sign, digits around an optional point with a digit on some side of it, and
an optional exponent with a digit.

* `Numeral.Writes`: a text writes a numeral.
* `Numeral.parse?_eq_some_iff`: the texts that are read as numerals are those that write one.
-/

namespace MotionControl

namespace Numeral

/-- A sign, which may be left out; and whether it is a minus. -/
inductive WritesSign : List Char → Bool → Prop where
  | none : WritesSign [] false
  | plus : WritesSign ['+'] false
  | minus : WritesSign ['-'] true

/-- The text has no character but decimal digits. -/
def IsDigits (text : List Char) : Prop := ∀ c ∈ text, c.isDigit = true

/-- What follows the digits before the point, with the digits after it. -/
inductive WritesFraction : List Char → List Char → Prop where
  | none : WritesFraction [] []
  | point {digits : List Char} (hdigits : IsDigits digits) : WritesFraction ('.' :: digits) digits

/-- What follows the digits, with the power of ten that it stands for. -/
inductive WritesExponent : List Char → Int → Prop where
  | none : WritesExponent [] 0
  | mark {c : Char} {sign digits : List Char} {isNegative : Bool} (hmark : c = 'e' ∨ c = 'E')
      (hsign : WritesSign sign isNegative) (hdigits : IsDigits digits) (hsome : digits ≠ []) :
      WritesExponent (c :: (sign ++ digits))
        (if isNegative then -(digitsValue digits : Int) else digitsValue digits)

/-- A text writes a numeral. The digits after the point count into the significand, each of them
for one power of ten less. -/
inductive Writes : List Char → Numeral → Prop where
  | intro {sign whole point fraction mark : List Char} {isNegative : Bool} {exponent : Int}
      (hsign : WritesSign sign isNegative) (hwhole : IsDigits whole)
      (hpoint : WritesFraction point fraction) (hsome : whole ≠ [] ∨ fraction ≠ [])
      (hmark : WritesExponent mark exponent) :
      Writes (sign ++ (whole ++ (point ++ mark)))
        ⟨isNegative, digitsValue (whole ++ fraction), exponent - fraction.length⟩

/-! ## The parts of a text -/

section

variable {text digits rest : List Char}

/-- The text begins with no character for which `p` holds. -/
def NotHead (p : Char → Prop) (text : List Char) : Prop := ∀ c, text.head? = some c → ¬ p c

theorem NotHead.nil {p : Char → Prop} : NotHead p [] := nofun

theorem NotHead.cons {p : Char → Prop} {c : Char} (h : ¬ p c) : NotHead p (c :: text) := by
  intro c' hc'
  cases hc'
  exact h

theorem splitSign_spec (text : List Char) :
    ∃ sign, text = sign ++ (splitSign text).2 ∧ WritesSign sign (splitSign text).1 := by
  unfold splitSign
  split
  · exact ⟨['-'], rfl, .minus⟩
  · exact ⟨['+'], rfl, .plus⟩
  · exact ⟨[], rfl, .none⟩

theorem splitSign_append {sign : List Char} {isNegative : Bool} (hsign : WritesSign sign isNegative)
    (hrest : NotHead (fun c => c = '-' ∨ c = '+') rest) :
    splitSign (sign ++ rest) = (isNegative, rest) := by
  cases hsign with
  | plus => rfl
  | minus => rfl
  | none =>
    rw [List.nil_append]
    unfold splitSign
    split
    · exact absurd (.inl rfl) (hrest '-' rfl)
    · exact absurd (.inr rfl) (hrest '+' rfl)
    · rfl

theorem splitDigits_spec (text : List Char) :
    text = (splitDigits text).1 ++ (splitDigits text).2 ∧ IsDigits (splitDigits text).1 := by
  refine ⟨List.takeWhile_append_dropWhile.symm, ?_⟩
  intro c hc
  exact List.mem_takeWhile_imp hc

theorem splitDigits_append (hdigits : IsDigits digits)
    (hrest : NotHead (fun c => c.isDigit = true) rest) :
    splitDigits (digits ++ rest) = (digits, rest) := by
  have hnone : rest.takeWhile Char.isDigit = [] ∧ rest.dropWhile Char.isDigit = rest := by
    cases rest with
    | nil => exact ⟨rfl, rfl⟩
    | cons c rest =>
      have hc : ¬ c.isDigit = true := hrest c rfl
      exact ⟨List.takeWhile_cons_of_neg hc, List.dropWhile_cons_of_neg hc⟩
  unfold splitDigits
  rw [List.takeWhile_append_of_pos hdigits, List.dropWhile_append_of_pos hdigits, hnone.1, hnone.2,
    List.append_nil]

theorem splitFraction_spec (text : List Char) :
    ∃ point, text = point ++ (splitFraction text).2 ∧
      WritesFraction point (splitFraction text).1 := by
  unfold splitFraction
  split
  · rename_i rest
    obtain ⟨hrest, hdigits⟩ := splitDigits_spec rest
    exact ⟨'.' :: (splitDigits rest).1, congrArg ('.' :: ·) hrest, .point hdigits⟩
  · exact ⟨[], rfl, .none⟩

theorem splitFraction_append {point fraction : List Char} (hpoint : WritesFraction point fraction)
    (hrest : NotHead (fun c => c = '.' ∨ c.isDigit = true) rest) :
    splitFraction (point ++ rest) = (fraction, rest) := by
  cases hpoint with
  | none =>
    rw [List.nil_append]
    unfold splitFraction
    split
    · exact absurd (.inl rfl) (hrest '.' rfl)
    · rfl
  | point hdigits =>
    have hdigit : NotHead (fun c => c.isDigit = true) rest := fun c hc h => hrest c hc (.inr h)
    exact splitDigits_append hdigits hdigit

/-- A digit is no sign. -/
theorem not_sign_of_isDigit {c : Char} (h : c.isDigit = true) : ¬ (c = '-' ∨ c = '+') := by
  rintro (rfl | rfl)
  · exact absurd h (by decide)
  · exact absurd h (by decide)

theorem notHead_of_isDigits (hdigits : IsDigits digits) (hsome : digits ≠ []) :
    NotHead (fun c => c = '-' ∨ c = '+') (digits ++ rest) := by
  obtain ⟨c, digits', rfl⟩ := List.exists_cons_of_ne_nil hsome
  exact .cons (not_sign_of_isDigit (hdigits c (.head _)))

end

/-! ## Exponents -/

theorem parseExponent?_eq_some_iff {text : List Char} {exponent : Int} :
    parseExponent? text = some exponent ↔ WritesExponent text exponent := by
  constructor
  · intro h
    unfold parseExponent? at h
    split at h
    · cases h
      exact .none
    · rename_i c rest
      split at h
      · rename_i hmark
        obtain ⟨sign, hrest, hsign⟩ := splitSign_spec rest
        obtain ⟨hdigits, hall⟩ := splitDigits_spec (splitSign rest).2
        dsimp only at h
        split at h
        · cases h
        · rename_i hwhole
          rw [Bool.or_eq_true, not_or, Bool.not_eq_true', Bool.not_eq_true] at hwhole
          have hend : (splitDigits (splitSign rest).2).2 = [] := by simpa using hwhole.2
          have hsome : (splitDigits (splitSign rest).2).1 ≠ [] := by simpa using hwhole.1
          have htext : c :: rest = c :: (sign ++ (splitDigits (splitSign rest).2).1) := by
            rw [hend, List.append_nil] at hdigits
            rw [← hdigits, ← hrest]
          have hvalue := Option.some.inj h
          rw [htext, ← hvalue]
          exact .mark hmark hsign hall hsome
      · cases h
  · intro h
    cases h with
    | none => rfl
    | @mark c sign digits isNegative hmark hsign hdigits hsome =>
      have hhead : NotHead (fun c => c = '-' ∨ c = '+') digits := by
        have h : NotHead (fun c => c = '-' ∨ c = '+') (digits ++ []) :=
          notHead_of_isDigits hdigits hsome
        rwa [List.append_nil] at h
      have hsplit : splitDigits digits = (digits, []) := by
        have h : splitDigits (digits ++ []) = (digits, []) := splitDigits_append hdigits .nil
        rwa [List.append_nil] at h
      unfold parseExponent?
      dsimp only
      rw [if_pos hmark, splitSign_append hsign hhead]
      dsimp only
      rw [hsplit]
      simp [hsome]

/-- An exponent begins with its mark. -/
theorem WritesExponent.notHead {text : List Char} {exponent : Int}
    (h : WritesExponent text exponent) : NotHead (fun c => c = '.' ∨ c.isDigit = true) text := by
  cases h with
  | none => exact .nil
  | mark hmark =>
    refine .cons ?_
    rcases hmark with rfl | rfl
    · decide
    · decide

/-! ## Numerals -/

/-- **A text is read as the numeral that it writes**, and as none if it writes none. -/
theorem parse?_eq_some_iff {text : List Char} {numeral : Numeral} :
    parse? text = some numeral ↔ Writes text numeral := by
  constructor
  · intro h
    obtain ⟨sign, htext, hsign⟩ := splitSign_spec text
    obtain ⟨hwhole, hdigits⟩ := splitDigits_spec (splitSign text).2
    obtain ⟨point, hrest, hpoint⟩ := splitFraction_spec (splitDigits (splitSign text).2).2
    unfold parse? at h
    dsimp only at h
    split at h
    · cases h
    · rename_i hsome
      obtain ⟨exponent, hexponent, rfl⟩ := Option.map_eq_some_iff.1 h
      rw [Bool.and_eq_true, not_and_or, List.isEmpty_iff, List.isEmpty_iff] at hsome
      have hwritten := Writes.intro hsign hdigits hpoint hsome
        (parseExponent?_eq_some_iff.1 hexponent)
      rwa [← hrest, ← hwhole, ← htext] at hwritten
  · rintro ⟨hsign, hwhole, hpoint, hsome, hmark⟩
    rename_i sign whole point fraction mark isNegative exponent
    have hfraction : splitFraction (point ++ mark) = (fraction, mark) :=
      splitFraction_append hpoint hmark.notHead
    have hnodigit : NotHead (fun c => c.isDigit = true) (point ++ mark) := by
      cases hpoint with
      | none => exact fun c hc h => hmark.notHead c hc (.inr h)
      | point => exact .cons (by decide)
    have hnosign : NotHead (fun c => c = '-' ∨ c = '+') (whole ++ (point ++ mark)) := by
      by_cases hempty : whole = []
      · subst hempty
        cases hpoint with
        | none => exact absurd rfl (hsome.resolve_left (by simp))
        | point => exact .cons (by decide)
      · exact notHead_of_isDigits hwhole hempty
    unfold parse?
    rw [splitSign_append hsign hnosign]
    dsimp only
    rw [splitDigits_append hwhole hnodigit]
    dsimp only
    rw [hfraction]
    dsimp only
    have hnotboth : ¬ (whole.isEmpty && fraction.isEmpty) = true := by
      rw [Bool.and_eq_true, not_and_or, List.isEmpty_iff, List.isEmpty_iff]
      exact hsome
    rw [if_neg hnotboth, parseExponent?_eq_some_iff.2 hmark, Option.map_some]

end Numeral

end MotionControl
