import MotionControl.Text.Words

/-!
# The words of a line

* `tokens`: the parts between white space, the empty ones left out.
* `words_eq_tokens`: they are the words of the line.
* `tokens_append_space`: **a space parts the tokens before it from those behind it**.
* `tokens_eq_singleton_iff`: a text is its own only token if there is no white space in it.
-/

namespace MotionControl

/-- The white space of ASCII: space, tab, line feed, form feed and carriage return. -/
def asciiSpaces : List Char := [' ', '\t', '\n', '\x0c', '\r']

/-- A line split at ASCII white space. -/
def tokens (line : String) : List String :=
  ((line.toList.splitOnP (· ∈ asciiSpaces)).filter (· ≠ [])).map String.ofList

/-- There is no white space in a text. -/
def IsUnspaced (text : String) : Prop := ∀ c ∈ text.toList, c ∉ asciiSpaces

instance (text : String) : Decidable (IsUnspaced text) :=
  List.decidableBAll (· ∉ asciiSpaces) text.toList

theorem isSeparator_eq (c : Char) : isSeparator c = decide (c ∈ asciiSpaces) := by
  rw [Bool.eq_iff_iff, decide_eq_true_iff]
  simp [isSeparator, asciiSpaces, or_assoc]

/-- The words of a text some of which has been passed already. -/
theorem wordsFrom_eq (word text : List Char) :
    wordsFrom word text =
      ((text.splitOnPPrepend (· ∈ asciiSpaces) word).filter (· ≠ [])).map String.ofList := by
  -- on the text: a separator closes the word before it, which counts if it has a character
  induction text generalizing word with
  | nil =>
    cases word with
    | nil => rfl
    | cons c word => simp [wordsFrom, List.splitOnPPrepend]
  | cons c text ih =>
    rw [wordsFrom, List.splitOnPPrepend, isSeparator_eq]
    by_cases hspace : c ∈ asciiSpaces
    · rw [if_pos (decide_eq_true hspace), if_pos (decide_eq_true hspace), ih []]
      cases word with
      | nil => rfl
      | cons c' word => simp
    · rw [if_neg (by simpa using hspace), if_neg (by simpa using hspace), ih (c :: word)]

/-- **The words of a line are its tokens.** -/
theorem words_eq_tokens (line : String) : words line = tokens line := wordsFrom_eq [] line.toList

/-! ## What the tokens are like -/

/-- A part of a split text has nothing in it at which the text was split. -/
theorem not_of_mem_splitOnP {α : Type} {p : α → Bool} {text part : List α}
    (h : part ∈ text.splitOnP p) : ∀ a ∈ part, p a = false := by
  induction text generalizing part with
  | nil =>
    rw [List.splitOnP_nil, List.mem_singleton] at h
    subst h
    exact nofun
  | cons first text ih =>
    rw [List.splitOnP_cons_eq_if_modifyHead] at h
    split at h
    · rcases List.mem_cons.1 h with rfl | hrest
      · exact nofun
      · exact ih hrest
    · rename_i hfirst
      obtain ⟨head, parts, hsplit⟩ := List.exists_cons_of_ne_nil (List.splitOnP_ne_nil p text)
      rw [hsplit] at h ih
      rcases List.mem_cons.1 h with rfl | hrest
      · intro a ha
        rcases List.mem_cons.1 ha with rfl | hhead
        · exact Bool.not_eq_true _ ▸ hfirst
        · exact ih (.head _) a hhead
      · exact ih (.tail _ hrest)

/-- A token has some characters, and no white space among them. -/
theorem isUnspaced_of_mem_tokens {line word : String} (h : word ∈ tokens line) :
    word ≠ "" ∧ IsUnspaced word := by
  obtain ⟨part, hpart, rfl⟩ := List.mem_map.1 h
  obtain ⟨hsplit, hsome⟩ := List.mem_filter.1 hpart
  refine ⟨by simpa using hsome, fun c hc => ?_⟩
  rw [String.toList_ofList] at hc
  simpa using not_of_mem_splitOnP hsplit c hc

/-- **A space parts the tokens before it from those behind it.** -/
theorem tokens_append_space (before behind : String) :
    tokens (before ++ " " ++ behind) = tokens before ++ tokens behind := by
  have htext : (before ++ " " ++ behind).toList = before.toList ++ ' ' :: behind.toList := by
    simp
  have hspace : decide (' ' ∈ asciiSpaces) = true := by decide
  have hsplit := List.splitOnP_append_cons (p := (· ∈ asciiSpaces)) before.toList behind.toList
    hspace
  unfold tokens
  rw [htext, hsplit, List.filter_append, List.map_append]

/-- **A text is its own only token** if it has some characters and no white space among them. -/
theorem tokens_eq_singleton_iff {text : String} :
    tokens text = [text] ↔ text ≠ "" ∧ IsUnspaced text := by
  constructor
  · intro h
    have hmem : text ∈ tokens text := by
      rw [h]
      exact .head _
    exact isUnspaced_of_mem_tokens hmem
  · rintro ⟨hsome, hunspaced⟩
    unfold tokens
    rw [List.splitOnP_eq_singleton fun c hc => decide_eq_false (hunspaced c hc)]
    simp [hsome]

end MotionControl
