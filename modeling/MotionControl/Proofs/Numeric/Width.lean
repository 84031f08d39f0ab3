import MotionControl.Proofs.Numeric.Exact
import MotionControl.Proofs.Text.Line
import Mathlib.Data.String.Basic

/-!
# The width of written numbers

How many bytes a number takes that is written with a fixed count of decimals, by its magnitude.

* `size_repr_le`: the digits of a natural number.
* `Single.size_fixedPieces_le`: **the pieces of a number**: a sign, the digits before the point, the
  point and the decimals.
* `Single.size_volumePieces_le`, `Single.size_effort_le`, `Single.size_smallVolume_le`: any volume,
  an effort of magnitude at most 999, and a volume below a hundred million.
-/

namespace MotionControl

/-- Digits are bytes. -/
theorem utf8Len_of_isDigit {cs : List Char} (h : ∀ c ∈ cs, c.isDigit = true) :
    String.utf8Len cs = cs.length := by
  induction cs with
  | nil => rfl
  | cons c cs ih =>
    have hdigit : c.val ≤ 57 := by
      have hc := h c (.head _)
      simp only [Char.isDigit, Bool.and_eq_true, decide_eq_true_eq] at hc
      exact hc.2
    have hone : c.utf8Size = 1 := Char.utf8Size_eq_one_iff.2 (UInt32.le_trans hdigit (by decide))
    rw [String.utf8Len_cons, ih fun c hc => h c (.tail _ hc), hone, List.length_cons]

theorem size_repr (n : Nat) : (Nat.repr n).utf8ByteSize = (Nat.repr n).length := by
  rw [Nat.repr_eq_ofList_toDigits, String.utf8ByteSize_ofList, String.length_ofList]
  exact utf8Len_of_isDigit fun c hc => Nat.isDigit_of_mem_toDigits (by decide) (by decide) hc

/-- **The digits of a natural number.** -/
theorem size_repr_le {n k : Nat} (hk : 0 < k) (h : n < 10 ^ k) : (Nat.repr n).utf8ByteSize ≤ k := by
  rw [size_repr]
  exact (Nat.length_repr_le_iff hk).2 h

namespace Single

variable {x : Single} {places k : Nat}

theorem size_zeros (n : Nat) : (zeros n).utf8ByteSize = n := by
  have hzero : ('0' : Char).utf8Size = 1 := by decide
  unfold zeros
  rw [String.pushn_eq_repeat_push]
  induction n with
  | zero => rfl
  | succ n ih => rw [Nat.repeat, String.utf8ByteSize_push, ih, hzero]

/-- The decimals take their places. -/
theorem size_decimals {n : Nat} (hplaces : 0 < places) (h : n < 10 ^ places) :
    (zeros (places - (Nat.repr n).length)).utf8ByteSize + (Nat.repr n).utf8ByteSize = places := by
  have hle := size_repr_le hplaces h
  rw [size_repr] at hle
  rw [size_zeros, size_repr]
  omega

/-- **The pieces of a number** are a sign, some digits, the point and the decimals at most. -/
theorem size_fixedPieces_le (hk : 0 < k) (hplaces : 0 < places)
    (h : x.rank < infinityRank → x.scaledDecimal places < 10 ^ (k + places)) :
    (String.join (x.fixedPieces places)).utf8ByteSize ≤
      (if x.isNegative then 1 else 0) + k + 1 + places := by
  have hsign : (String.join (if x.isNegative then ["-"] else [])).utf8ByteSize =
      if x.isNegative then 1 else 0 := by cases x.isNegative <;> rfl
  have hpoint : ".".utf8ByteSize = 1 ∧ "0.".utf8ByteSize = 2 := by decide
  unfold fixedPieces
  split
  · -- a number that is none
    have hword : (String.join ["NaN"]).utf8ByteSize = 3 := by decide
    omega
  rename_i hnan
  dsimp only
  split
  · have hword : (String.join ["inf"]).utf8ByteSize = 3 := by decide
    rw [String.join_append, String.utf8ByteSize_append, hsign]
    omega
  rename_i hinf
  have hfinite : x.rank < infinityRank := by
    simp only [isNaN, isInfinite, decide_eq_true_eq, beq_iff_eq] at hnan hinf
    omega
  have hscaled := h hfinite
  generalize x.scaledDecimal places = n at hscaled ⊢
  have hdecimals : n % 10 ^ places < 10 ^ places := Nat.mod_lt _ (Nat.pow_pos (by decide))
  have hwhole : n / 10 ^ places < 10 ^ k := by
    rwa [Nat.div_lt_iff_lt_mul (Nat.pow_pos (by decide)), ← Nat.pow_add]
  have hsize := size_decimals hplaces hdecimals
  split
  · have hdigits := size_repr_le hk hwhole
    simp only [String.join_append, String.join_cons, String.join_nil, String.append_empty,
      String.utf8ByteSize_append, hsign, hpoint.1]
    simp only [Nat.pow_eq] at hsize hdigits ⊢
    omega
  split
  · simp only [String.join_append, String.join_cons, String.join_nil, String.append_empty,
      String.utf8ByteSize_append, hsign, hpoint.2, size_zeros]
    omega
  · simp only [String.join_append, String.join_cons, String.join_nil, String.append_empty,
      String.utf8ByteSize_append, hsign, hpoint.2]
    simp only [Nat.pow_eq] at hsize ⊢
    omega

/-! ## How large a number is -/

/-- A number written with some decimals, in terms of the largest rank that it may have. -/
theorem scaledDecimal_le {last : Nat} (h : x.rank ≤ last) (places : Nat) :
    x.scaledDecimal places ≤
      Grid.units fractionBits last * 10 ^ places / 2 ^ unitScale + 1 := by
  have hmagnitude : x.magnitude * 10 ^ places ≤ Grid.units fractionBits last * 10 ^ places :=
    Nat.mul_le_mul_right _ (Grid.units_mono h)
  have hwhole := Nat.div_le_div_right (c := 2 ^ unitScale) hmagnitude
  unfold scaledDecimal
  simp only [Nat.shiftRight_eq_div_pow, Nat.pow_eq]
  split <;> omega

/-- Any volume. -/
theorem size_volumePieces_le (x : Single) : (String.join (x.fixedPieces 3)).utf8ByteSize ≤ 44 := by
  have hsize : (String.join (x.fixedPieces 3)).utf8ByteSize ≤
      (if x.isNegative then 1 else 0) + 39 + 1 + 3 := by
    refine size_fixedPieces_le (by decide) (by decide) fun hfinite => ?_
    have hlast : Grid.units fractionBits (infinityRank - 1) * 10 ^ 3 / 2 ^ unitScale + 1 <
        10 ^ (39 + 3) := by decide
    exact Nat.lt_of_le_of_lt (scaledDecimal_le (Nat.le_sub_one_of_lt hfinite) 3) hlast
  split at hsize <;> omega

theorem rank_le_of_abs_le {y : Single} (hy : y.isNegative = false) (h : x.abs ≤ y) :
    x.rank ≤ y.rank := by
  have hle : x.abs.le y = true := h
  simp only [le, place, isNegative_abs, hy, rank_abs, Bool.false_eq_true, if_false,
    Bool.and_eq_true, decide_eq_true_eq] at hle
  omega

/-- An effort of magnitude at most 999. -/
theorem size_effort_le (h : x.abs ≤ 999) : (String.join (x.fixedPieces 1)).utf8ByteSize ≤ 6 := by
  have hsize : (String.join (x.fixedPieces 1)).utf8ByteSize ≤
      (if x.isNegative then 1 else 0) + 3 + 1 + 1 := by
    refine size_fixedPieces_le (by decide) (by decide) fun _ => ?_
    have hlast : Grid.units fractionBits (999 : Single).rank * 10 ^ 1 / 2 ^ unitScale + 1 <
        10 ^ (3 + 1) := by decide
    exact Nat.lt_of_le_of_lt (scaledDecimal_le (rank_le_of_abs_le (by decide) h) 1) hlast
  split at hsize <;> omega

/-- A volume that is not negative and below a hundred million. -/
theorem size_smallVolume_le (hlow : 0 ≤ x) (hhigh : x < 100000000) :
    (String.join (x.fixedPieces 3)).utf8ByteSize ≤ 12 := by
  have hzero : (0 : Single).place = 0 := by decide
  have hlast : (100000000 : Single).place = 0x4cbebc20 := by decide
  have hlow : Single.le 0 x = true := hlow
  have hhigh : Single.lt x 100000000 = true := hhigh
  simp only [le, lt, hzero, hlast, Bool.and_eq_true, decide_eq_true_eq] at hlow hhigh
  obtain ⟨-, hlow⟩ := hlow
  obtain ⟨-, hhigh⟩ := hhigh
  unfold place at hlow hhigh
  cases hsign : x.isNegative with
  | false =>
    simp only [hsign, Bool.false_eq_true, if_false] at hhigh
    have hsize : (String.join (x.fixedPieces 3)).utf8ByteSize ≤
        (if x.isNegative then 1 else 0) + 8 + 1 + 3 := by
      refine size_fixedPieces_le (by decide) (by decide) fun _ => ?_
      have hrank : x.rank ≤ 0x4cbebc1f := by omega
      have hbound : Grid.units fractionBits 0x4cbebc1f * 10 ^ 3 / 2 ^ unitScale + 1 <
          10 ^ (8 + 3) := by decide
      exact Nat.lt_of_le_of_lt (scaledDecimal_le hrank 3) hbound
    rwa [hsign] at hsize
  | true =>
    -- a negative zero
    simp only [hsign, if_true] at hlow
    have hsize : (String.join (x.fixedPieces 3)).utf8ByteSize ≤
        (if x.isNegative then 1 else 0) + 1 + 1 + 3 := by
      refine size_fixedPieces_le (by decide) (by decide) fun _ => ?_
      have hrank : x.rank ≤ 0 := by omega
      have hbound : Grid.units fractionBits 0 * 10 ^ 3 / 2 ^ unitScale + 1 < 10 ^ (1 + 3) := by
        decide
      exact Nat.lt_of_le_of_lt (scaledDecimal_le hrank 3) hbound
    rw [hsign, if_pos rfl] at hsize
    omega

end Single

end MotionControl
