import MotionControl.Attempt

/-!
# Attempts that have no effect when they are refused

An attempt is atomic if a refusal leaves the state as it was. Tests are atomic and so is what is
never refused; `Atomic.bind` and `Atomic.bind_always` put them together in the two orders in which
the commands use them, tests first and changes last.

Two attempts simulate each other if they agree on related states: `Simulates.bind` and the rules
before it follow the steps of a command.
-/

namespace MotionControl.Attempt

variable {σ τ α β : Type}

/-- A refusal leaves the state as it was. -/
def Atomic (attempt : Attempt σ α) : Prop :=
  ∀ state refusal state', attempt.run state = .error refusal state' → state' = state

/-- Nothing is changed, refused or not. -/
def IsTest (attempt : Attempt σ α) : Prop :=
  Atomic attempt ∧ ∀ state value state', attempt.run state = .ok value state' → state' = state

/-- Nothing is refused. -/
def Always (attempt : Attempt σ α) : Prop :=
  ∀ state refusal state', attempt.run state ≠ .error refusal state'

/-! ## Runs -/

/-- How a sequence is accepted. -/
theorem run_bind_ok {f : Attempt σ α} {g : α → Attempt σ β} {s s' : σ} {b : β} :
    (f >>= g).run s = .ok b s' ↔ ∃ a s₁, f.run s = .ok a s₁ ∧ (g a).run s₁ = .ok b s' := by
  rw [EStateM.run_bind]
  cases f.run s <;> simp [and_assoc]

/-- How a sequence is refused. -/
theorem run_bind_error {f : Attempt σ α} {g : α → Attempt σ β} {s s' : σ} {r : Refusal} :
    (f >>= g).run s = .error r s' ↔
      f.run s = .error r s' ∨ ∃ a s₁, f.run s = .ok a s₁ ∧ (g a).run s₁ = .error r s' := by
  rw [EStateM.run_bind]
  cases f.run s <;> simp [and_assoc]

theorem outcome_eq_ok {f : Attempt σ Unit} {s s' : σ} :
    f.outcome s = .ok s' ↔ f.run s = .ok () s' := by
  unfold outcome
  cases f.run s <;> simp

theorem run_require {c : Bool} {r : Refusal} {s : σ} :
    (require c r).run s = if c then .ok () s else .error r s := by
  unfold require; split <;> rfl

@[simp] theorem run_require_ok {c : Bool} {r : Refusal} {s s' : σ} {u : Unit} :
    (require c r).run s = .ok u s' ↔ c = true ∧ s = s' := by
  rw [run_require]; cases c <;> simp

@[simp] theorem run_onPart_ok {part : σ → τ} {store : τ → σ → σ} {f : Attempt τ α} {s s' : σ}
    {a : α} :
    (f.onPart part store).run s = .ok a s' ↔ ∃ t, f.run (part s) = .ok a t ∧ store t s = s' := by
  simp only [onPart, EStateM.run]
  cases f (part s) <;> simp [and_assoc]

/-- A refused work on a part stores the part back as the work left it. -/
theorem run_onPart_error {part : σ → τ} {store : τ → σ → σ} {f : Attempt τ α} {s s' : σ}
    {r : Refusal} :
    (f.onPart part store).run s = .error r s' ↔
      ∃ t, f.run (part s) = .error r t ∧ store t s = s' := by
  simp only [onPart, EStateM.run]
  cases f (part s) <;> simp [and_assoc]

/-! ## Tests, changes and sequences of them -/

theorem IsTest.get : IsTest (get : Attempt σ σ) := by
  refine ⟨fun s r s' h => ?_, fun s a s' h => ?_⟩ <;> cases h
  rfl

theorem IsTest.pure (a : α) : IsTest (pure a : Attempt σ α) := by
  refine ⟨fun s r s' h => ?_, fun s b s' h => ?_⟩ <;> cases h
  rfl

theorem IsTest.throw (r : Refusal) : IsTest (throw r : Attempt σ α) := by
  refine ⟨fun s r s' h => ?_, fun s b s' h => ?_⟩ <;> cases h
  rfl

theorem IsTest.bind {f : Attempt σ α} {g : α → Attempt σ β} (hf : IsTest f)
    (hg : ∀ a, IsTest (g a)) : IsTest (f >>= g) := by
  constructor
  · intro s r s' h
    rcases run_bind_error.1 h with h | ⟨a, s₁, h₁, h₂⟩
    · exact hf.1 _ _ _ h
    · rw [(hg a).1 _ _ _ h₂, hf.2 _ _ _ h₁]
  · intro s b s' h
    obtain ⟨a, s₁, h₁, h₂⟩ := run_bind_ok.1 h
    rw [(hg a).2 _ _ _ h₂, hf.2 _ _ _ h₁]

theorem IsTest.require (c : Bool) (r : Refusal) : IsTest (require c r : Attempt σ Unit) := by
  unfold Attempt.require
  split
  · exact .pure ()
  · exact .throw r

theorem Always.modify (f : σ → σ) : Always (modify f : Attempt σ PUnit) := by
  intro s r s' h; cases h

theorem Always.atomic {f : Attempt σ α} (hf : Always f) : Atomic f :=
  fun s r s' h => absurd h (hf s r s')

/-- Tests before the rest keep the rest atomic. -/
theorem Atomic.bind {f : Attempt σ α} {g : α → Attempt σ β} (hf : IsTest f)
    (hg : ∀ a, Atomic (g a)) : Atomic (f >>= g) := by
  intro s r s' h
  rcases run_bind_error.1 h with h | ⟨a, s₁, h₁, h₂⟩
  · exact hf.1 _ _ _ h
  · rw [hg a _ _ _ h₂, hf.2 _ _ _ h₁]

/-- What is never refused may follow an atomic attempt. -/
theorem Atomic.bind_always {f : Attempt σ α} {g : α → Attempt σ β} (hf : Atomic f)
    (hg : ∀ a, Always (g a)) : Atomic (f >>= g) := by
  intro s r s' h
  rcases run_bind_error.1 h with h | ⟨a, s₁, -, h₂⟩
  · exact hf _ _ _ h
  · exact absurd h₂ (hg a _ _ _)

/-- Work on a part is atomic if storing the part back as it was changes nothing. -/
theorem Atomic.onPart {part : σ → τ} {store : τ → σ → σ} {f : Attempt τ α} (hf : Atomic f)
    (hstore : ∀ s, store (part s) s = s) : Atomic (f.onPart part store) := by
  intro s r s' h
  obtain ⟨t, ht, rfl⟩ := run_onPart_error.1 h
  rw [hf _ _ _ ht, hstore]

/-! ## Attempts that go together -/

section Simulates

variable {α' β' σ' τ' : Type} {R : σ → σ' → Prop} {V : α → α' → Prop} {W : β → β' → Prop}

/-- Both results are values, or both are refusals for the same reason, and they leave related
states. -/
inductive Agree (R : σ → σ' → Prop) (V : α → α' → Prop) :
    EStateM.Result Refusal σ α → EStateM.Result Refusal σ' α' → Prop where
  | ok {a : α} {a' : α'} {s : σ} {s' : σ'} (hvalue : V a a') (hstate : R s s') :
      Agree R V (.ok a s) (.ok a' s')
  | error {refusal : Refusal} {s : σ} {s' : σ'} (hstate : R s s') :
      Agree R V (.error refusal s) (.error refusal s')

/-- Two attempts agree on related states. -/
def Simulates (R : σ → σ' → Prop) (V : α → α' → Prop) (f : Attempt σ α) (g : Attempt σ' α') :
    Prop :=
  ∀ s s', R s s' → Agree R V (f.run s) (g.run s')

theorem Simulates.refl (f : Attempt σ α) : Simulates Eq Eq f f := by
  rintro s _ rfl
  cases f.run s with
  | ok => exact .ok rfl rfl
  | error => exact .error rfl

theorem Agree.mono {R' : σ → σ' → Prop} {result : EStateM.Result Refusal σ α}
    {result' : EStateM.Result Refusal σ' α'} (h : Agree R V result result')
    (hR : ∀ s s', R s s' → R' s s') : Agree R' V result result' := by
  cases h with
  | ok hvalue hstate => exact .ok hvalue (hR _ _ hstate)
  | error hstate => exact .error (hR _ _ hstate)

theorem Simulates.pure {a : α} {a' : α'} (h : V a a') :
    Simulates R V (pure a : Attempt σ α) (pure a') :=
  fun _ _ hstate => .ok h hstate

theorem Simulates.throw (refusal : Refusal) :
    Simulates R V (throw refusal : Attempt σ α) (throw refusal) :=
  fun _ _ hstate => .error hstate

theorem Simulates.get : Simulates R R (get : Attempt σ σ) get :=
  fun _ _ hstate => .ok hstate hstate

theorem Simulates.modify {f : σ → σ} {g : σ' → σ'} (h : ∀ s s', R s s' → R (f s) (g s')) :
    Simulates R Eq (modify f : Attempt σ PUnit) (modify g) :=
  fun s s' hstate => .ok rfl (h s s' hstate)

theorem Simulates.require (condition : Bool) (refusal : Refusal) :
    Simulates R Eq (require condition refusal : Attempt σ Unit) (require condition refusal) := by
  unfold Attempt.require
  split
  · exact .pure rfl
  · exact .throw refusal

/-- What goes on from results that agree agrees, if it does so from every related state. -/
theorem Agree.bind {f : Attempt σ α} {f' : Attempt σ' α'} {g : α → Attempt σ β}
    {g' : α' → Attempt σ' β'} {s : σ} {s' : σ'} (hf : Agree R V (f.run s) (f'.run s'))
    (hg : ∀ a a', V a a' → Simulates R W (g a) (g' a')) :
    Agree R W ((f >>= g).run s) ((f' >>= g').run s') := by
  rw [EStateM.run_bind, EStateM.run_bind]
  generalize f.run s = result at hf
  generalize f'.run s' = result' at hf
  cases hf with
  | ok hvalue hstate => exact hg _ _ hvalue _ _ hstate
  | error hstate => exact .error hstate

theorem Simulates.bind {f : Attempt σ α} {f' : Attempt σ' α'} {g : α → Attempt σ β}
    {g' : α' → Attempt σ' β'} (hf : Simulates R V f f')
    (hg : ∀ a a', V a a' → Simulates R W (g a) (g' a')) :
    Simulates R W (f >>= g) (f' >>= g') :=
  fun s s' hstate => (hf s s' hstate).bind hg

/-- Work on related parts, if related parts are stored back into related states. -/
theorem Simulates.onPart {P : τ → τ' → Prop} {part : σ → τ} {part' : σ' → τ'}
    {store : τ → σ → σ} {store' : τ' → σ' → σ'} {f : Attempt τ α} {f' : Attempt τ' α'}
    (hf : Simulates P V f f') (hpart : ∀ s s', R s s' → P (part s) (part' s'))
    (hstore : ∀ p p' s s', P p p' → R s s' → R (store p s) (store' p' s')) :
    Simulates R V (f.onPart part store) (f'.onPart part' store') := by
  intro s s' hstate
  have hwork := hf _ _ (hpart s s' hstate)
  simp only [Attempt.onPart, EStateM.run] at hwork ⊢
  generalize f (part s) = result at hwork
  generalize f' (part' s') = result' at hwork
  cases hwork with
  | ok hvalue hp => exact .ok hvalue (hstore _ _ _ _ hp hstate)
  | error hp => exact .error (hstore _ _ _ _ hp hstate)

/-- Attempts that agree come out of a sequence of tests together. -/
theorem Simulates.ite {c c' : Prop} [Decidable c] [Decidable c'] {f g : Attempt σ α}
    {f' g' : Attempt σ' α'} (hc : c ↔ c') (hf : c → Simulates R V f f')
    (hg : ¬ c → Simulates R V g g') :
    Simulates R V (if c then f else g) (if c' then f' else g') := by
  by_cases h : c
  · rw [if_pos h, if_pos (hc.1 h)]
    exact hf h
  · rw [if_neg h, if_neg (mt hc.2 h)]
    exact hg h

end Simulates

end MotionControl.Attempt
