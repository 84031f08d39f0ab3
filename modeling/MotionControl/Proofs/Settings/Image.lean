import MotionControl.Settings.Image
import Mathlib.Tactic.Ring

/-!
# Reading back what is written

Each reader takes exactly the bytes that its writer has written off the front of whatever follows
them. The law of a record is put together from the laws of its fields, in the order of the fields.

* `Image.Reads`, `Image.Reads.bind`: a reader takes some bytes for a value.
* `Image.reads_natWithin`: numbers; the others are built on them.
* `Image.reads_machine`: **the whole image of some settings**.
-/

namespace MotionControl.Image

/-- A reader takes some bytes off the front for a value, whatever follows them. -/
def Reads {α : Type} (read : Reader α) (bytes : List UInt8) (value : α) : Prop :=
  ∀ rest, read.run (bytes ++ rest) = some (value, rest)

section

variable {α β : Type} {read : Reader α} {bytes bytes' : List UInt8} {value : α}

theorem Reads.pure (value : α) : Reads (pure value) [] value := fun _ => rfl

/-- One part after the other. -/
theorem Reads.bind {next : α → Reader β} {value' : β} (h : Reads read bytes value)
    (hnext : Reads (next value) bytes' value') :
    Reads (read >>= next) (bytes ++ bytes') value' := by
  intro rest
  rw [List.append_assoc, StateT.run_bind, h]
  exact hnext rest

/-- The last part. -/
theorem Reads.last {make : α → β} (h : Reads read bytes value) :
    Reads (read >>= fun value => Pure.pure (make value)) bytes (make value) := by
  have hmade : Reads (Pure.pure (make value)) [] (make value) := .pure (make value)
  have hboth : Reads (read >>= fun value => Pure.pure (make value)) (bytes ++ []) (make value) :=
    h.bind hmade
  rwa [List.append_nil] at hboth

/-- A part that is converted, which it always can be. -/
theorem Reads.match {convert? : α → Option β} {value' : β} (h : Reads read bytes value)
    (hconvert : convert? value = some value') :
    Reads (read >>= fun value => match convert? value with
      | none => failure
      | some value' => Pure.pure value') bytes value' := by
  intro rest
  rw [StateT.run_bind, h]
  simp [hconvert]

end

/-! ## Bytes and numbers -/

theorem reads_byte (b : UInt8) : Reads byte [b] b := fun _ => rfl

theorem reads_take (bytes : List UInt8) : Reads (take bytes.length) bytes bytes := by
  intro rest
  simp [take, StateT.run]

/-- A number is read byte by byte. -/
theorem run_natWithin_cons (lastMax room : Nat) (b : UInt8) (bytes : List UInt8) :
    (natWithin lastMax (room + 1)).run (b :: bytes) =
      if b.toNat < 128 then
        if room = 0 ∧ lastMax < b.toNat then none else some (b.toNat, bytes)
      else
        ((natWithin lastMax room).run bytes).map fun (high, rest) =>
          (b.toNat % 128 + 128 * high, rest) := by
  rw [natWithin, StateT.run_bind]
  show StateT.run (if b.toNat < 128 then _ else _) bytes = _
  split
  · split <;> rfl
  · rw [StateT.run_bind, Option.map_eq_bind]
    rfl

/-- A number below the bound that the room sets is read back. -/
theorem reads_natWithin {lastMax room n : Nat} (hlast : lastMax < 128)
    (hn : n < (lastMax + 1) * 128 ^ room) : Reads (natWithin lastMax (room + 1)) (ofNat n) n := by
  -- on the room: each byte but the last takes seven bits off the number
  induction room generalizing n with
  | zero =>
    have hsmall : n < 128 := by omega
    have hbyte : (UInt8.ofNat n).toNat = n := Nat.mod_eq_of_lt (by omega)
    intro rest
    rw [ofNat, if_pos hsmall, List.cons_append, run_natWithin_cons, hbyte, if_pos hsmall,
      if_neg (by omega), List.nil_append]
  | succ room ih =>
    intro rest
    rw [ofNat]
    split
    · rename_i hsmall
      have hbyte : (UInt8.ofNat n).toNat = n := Nat.mod_eq_of_lt (by omega)
      rw [List.cons_append, run_natWithin_cons, hbyte, if_pos hsmall, if_neg (by omega),
        List.nil_append]
    · rename_i hlarge
      have hhigh : n / 128 < (lastMax + 1) * 128 ^ room := by
        rw [Nat.div_lt_iff_lt_mul (by decide)]
        calc n < (lastMax + 1) * 128 ^ (room + 1) := hn
          _ = (lastMax + 1) * 128 ^ room * 128 := by ring
      have hbyte : (UInt8.ofNat (n % 128 + 128)).toNat = n % 128 + 128 :=
        Nat.mod_eq_of_lt (by omega)
      have hvalue : (n % 128 + 128) % 128 + 128 * (n / 128) = n := by omega
      rw [List.cons_append, run_natWithin_cons, hbyte, if_neg (by omega), ih hhigh rest]
      exact congrArg (fun value => some (value, rest)) hvalue

theorem reads_nat32 {n : Nat} (hn : n < 2 ^ 32) : Reads nat32 (ofNat n) n :=
  reads_natWithin (by decide) (by simpa using hn)

theorem reads_length {n : Nat} (hn : n < 2 ^ 64) : Reads length (ofNat n) n :=
  reads_natWithin (by decide) (by simpa using hn)

theorem reads_word (n : UInt32) : Reads word (ofNat n.toNat) n := by
  have h : Reads word (ofNat n.toNat) (UInt32.ofNat n.toNat) := (reads_nat32 n.toNat_lt).last
  rwa [UInt32.ofNat_toNat] at h

/-! ## Single precision numbers -/

/-- The eight bits of a number from bit `k` on, cut out and put back to where they were. -/
theorem testBit_cut (n k i : Nat) :
    ((n >>> k % 2 ^ 8) <<< k).testBit i = (decide (k ≤ i ∧ i < k + 8) && n.testBit i) := by
  simp only [Nat.testBit_shiftLeft, Nat.testBit_mod_two_pow, Nat.testBit_shiftRight]
  by_cases h : k ≤ i
  · rw [Nat.add_sub_cancel' h]
    simp [h, Nat.sub_lt_iff_lt_add' h]
  · simp [h]

/-- The four bytes of a word, put together again. -/
theorem or_bytes (n : UInt32) :
    n.toUInt8.toUInt32 ||| ((n >>> 8).toUInt8.toUInt32 <<< 8) |||
      ((n >>> 16).toUInt8.toUInt32 <<< 16) ||| ((n >>> 24).toUInt8.toUInt32 <<< 24) = n := by
  have hn : n.toNat < 2 ^ 32 := n.toNat_lt
  have h8 : UInt32.toNat 8 % 32 = 8 := rfl
  have h16 : UInt32.toNat 16 % 32 = 16 := rfl
  have h24 : UInt32.toNat 24 % 32 = 24 := rfl
  apply UInt32.toNat_inj.1
  simp only [UInt32.toNat_or, UInt32.toNat_shiftLeft, UInt8.toNat_toUInt32, UInt32.toNat_toUInt8,
    UInt32.toNat_shiftRight, h8, h16, h24]
  refine Nat.eq_of_testBit_eq fun i => ?_
  have hfirst := testBit_cut n.toNat 0 i
  rw [Nat.shiftRight_zero, Nat.shiftLeft_zero] at hfirst
  simp only [Nat.testBit_or, Nat.testBit_mod_two_pow, testBit_cut, hfirst]
  by_cases hi : i < 32
  · cases n.toNat.testBit i with
    | false => simp
    | true =>
      simp
      omega
  · have hzero : n.toNat.testBit i = false :=
      Nat.testBit_lt_two_pow
        (Nat.lt_of_lt_of_le hn (Nat.pow_le_pow_right (by decide) (Nat.le_of_not_lt hi)))
    simp [hzero]

theorem reads_single (x : Single) : Reads single (ofSingle x) x := by
  intro rest
  have hbits : single.run (ofSingle x ++ rest) = some (⟨x.bits.toUInt8.toUInt32 |||
      ((x.bits >>> 8).toUInt8.toUInt32 <<< 8) ||| ((x.bits >>> 16).toUInt8.toUInt32 <<< 16) |||
      ((x.bits >>> 24).toUInt8.toUInt32 <<< 24)⟩, rest) := rfl
  rw [hbits, or_bytes]

/-! ## Texts and alternatives -/

/-- The bytes of an array from some place on, after those that have been passed. -/
theorem toList_loop (bytes : ByteArray) (i : Nat) (passed : List UInt8) :
    ByteArray.toList.loop bytes i passed = passed.reverse ++ bytes.data.toList.drop i := by
  fun_induction ByteArray.toList.loop bytes i passed with
  | case1 i passed h ih =>
    have hi : i < bytes.data.size := h
    have hget : bytes.get! i = bytes.data[i] := getElem!_pos bytes.data i hi
    have hdrop : bytes.data.toList.drop i = bytes.get! i :: bytes.data.toList.drop (i + 1) := by
      rw [List.drop_eq_getElem_cons (by simpa using hi), hget]
      rfl
    rw [ih, hdrop]
    simp
  | case2 i passed h =>
    have hle : bytes.data.toList.length ≤ i := by simpa using Nat.le_of_not_lt h
    rw [List.drop_eq_nil_of_le hle, List.append_nil]

theorem toList_toUTF8 (text : String) : text.toUTF8.toList = text.toUTF8.data.toList :=
  toList_loop text.toUTF8 0 []

theorem length_toUTF8 (text : String) : text.toUTF8.toList.length = text.utf8ByteSize := by
  rw [toList_toUTF8]
  rfl

theorem fromUTF8?_toUTF8 (text : String) :
    String.fromUTF8? ⟨text.toUTF8.toList.toArray⟩ = some text := by
  rw [toList_toUTF8]
  exact dif_pos text.isValidUTF8

theorem reads_label (name : Label) : Reads label (ofLabel name) name := by
  have hsize : name.text.utf8ByteSize < 2 ^ 64 :=
    Nat.lt_of_le_of_lt name.fits (by decide)
  have htext : Reads (take name.text.utf8ByteSize) name.text.toUTF8.toList _ :=
    length_toUTF8 name.text ▸ reads_take name.text.toUTF8.toList
  have hlabel : Label.ofString? name.text = some name := dif_pos name.fits
  refine (reads_length hsize).bind fun rest => ?_
  rw [StateT.run_bind, htext, Option.bind_eq_bind, Option.bind_some]
  simp only [fromUTF8?_toUTF8, hlabel]
  rfl

theorem reads_choice {α : Type} {alternatives : List α} {i : Nat} {value : α}
    (hvalue : alternatives[i]? = some value) (hi : i < 2 ^ 32) :
    Reads (choice alternatives) (ofNat i) value :=
  (reads_nat32 hi).match hvalue

theorem reads_homingMode (mode : HomingMode) :
    Reads (choice [.torque, .sensor]) (ofHomingMode mode) mode := by
  cases mode <;> exact reads_choice rfl (by decide)

theorem reads_direction (direction : Direction) :
    Reads (choice [.negative, .positive]) (ofDirection direction) direction := by
  cases direction <;> exact reads_choice rfl (by decide)

theorem reads_cancelAccounting (accounting : CancelAccounting) :
    Reads (choice [.reportZero, .reportDispensed]) (ofCancelAccounting accounting) accounting := by
  cases accounting <;> exact reads_choice rfl (by decide)

/-! ## Records -/

theorem reads_homing (settings : HomingSettings) : Reads homing (ofHoming settings) settings := by
  unfold ofHoming
  simp only [List.append_assoc]
  refine (reads_homingMode _).bind <| (reads_direction _).bind ?_
  refine (reads_single _).bind <| (reads_single _).bind <| (reads_single _).bind ?_
  refine (reads_single _).bind <| (reads_single _).bind <| (reads_single _).bind ?_
  refine (reads_single _).bind ?_
  exact (reads_word _).bind <| (reads_word _).bind <| (reads_word _).last

theorem reads_axis (settings : AxisSettings) : Reads axis (ofAxis settings) settings := by
  unfold ofAxis
  simp only [List.append_assoc]
  refine (reads_label _).bind <| (reads_byte _).bind ?_
  refine (reads_single _).bind <| (reads_single _).bind <| (reads_single _).bind ?_
  exact (reads_word _).bind <| (reads_single _).bind <| (reads_homing _).last

theorem reads_dispense (settings : DispenseSettings) :
    Reads dispense (ofDispense settings) settings := by
  unfold ofDispense
  simp only [List.append_assoc]
  refine (reads_label _).bind <| (reads_single _).bind ?_
  exact (reads_direction _).bind <| (reads_cancelAccounting _).last

/-! ## Optional parts and lists -/

section

variable {α : Type} {read : Reader α} {write : α → List UInt8}

theorem reads_option (h : ∀ value, Reads read (write value) value) (part : Option α) :
    Reads (option read) (ofOption write part) part := by
  cases part with
  | none => exact fun rest => rfl
  | some value =>
    have hone : Reads (option read) ([1] ++ write value) (some value) :=
      (reads_byte 1).bind (h value).last
    exact hone

theorem reads_items (h : ∀ value, Reads read (write value) value) (values : List α) :
    Reads (items read values.length) (values.flatMap write) values := by
  induction values with
  | nil => exact .pure []
  | cons value values ih =>
    rw [List.flatMap_cons]
    exact (h value).bind ih.last

end

/-! ## Settings -/

/-- **The image of some settings is read back as these settings.** -/
theorem reads_machine (settings : MachineSettings) : Reads machine settings.image settings := by
  have hcount : settings.axes.length ≤ maxAxes := settings.axes_length_le
  have hlength : settings.axes.length < 2 ^ 64 := Nat.lt_of_le_of_lt hcount (by decide)
  have himage : settings.image = [settings.version] ++ (ofNat settings.axes.length ++
      (settings.axes.flatMap ofAxis ++ (ofOption ofDispense settings.dispense ++
        ofNat settings.telemetryInterval.toNat))) := by
    simp [MachineSettings.image, ofList]
  rw [himage]
  refine (reads_byte _).bind <| (reads_length hlength).bind ?_
  rw [if_neg (Nat.not_lt_of_le hcount)]
  refine (reads_items reads_axis _).bind <| (reads_option reads_dispense _).bind ?_
  refine fun rest => ?_
  rw [StateT.run_bind, reads_word]
  simp [hcount]

end MotionControl.Image
