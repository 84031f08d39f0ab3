import MotionControl.Proofs.Machine.Layout

/-!
# How the channels of a machine are made

The function that makes channels may have effects, so it matters when it is called. It is given a
list to take note of each of its calls.

* `noting`: the function with the notes of its calls, the `Making`s.
* `Makes`: what a builder makes, with the calls that it takes. `Makes.bind` joins two of them.
* `sockets`: the places of the channels in lexicographic order, by axis and then by index.
* `makes_axes`: **one channel is made for each socket, in their order**, and put there.
-/

namespace MotionControl

/-! ## Notes -/

/-- A call of the function that makes channels. -/
structure Making (C : Type) where
  axis : AxisSettings
  index : Nat
  channel : C

/-- The function that makes channels, with the notes of its calls. -/
def noting {C σ : Type} (makeChannel : AxisSettings → Nat → StateM σ C) (axis : AxisSettings)
    (index : Nat) : StateM (σ × List (Making C)) C := fun (s, makings) =>
  let (channel, s') := makeChannel axis index s
  (channel, s', makings ++ [{ axis, index, channel }])

/-- A program and the same with notes both make something, and the notes are of these calls. -/
structure Makes {C σ α : Type} (program : ExceptT SettingsError (StateM σ) α)
    (noted : ExceptT SettingsError (StateM (σ × List (Making C))) α) (s : σ) (made : α)
    (makings : List (Making C)) (s' : σ) : Prop where
  run : program.run.run s = (.ok made, s')
  run_noted : ∀ before, noted.run.run (s, before) = (.ok made, s', before ++ makings)

namespace Makes

variable {C σ α β : Type} {s s₁ s' : σ}

/-- A value takes no call. -/
theorem value {result : Except SettingsError α} {made : α} (h : result = .ok made) (s : σ) :
    Makes (C := C) (ExceptT.mk (pure result)) (ExceptT.mk (pure result)) s made [] s where
  run := by
    rw [h]
    rfl
  run_noted before := by
    rw [h, List.append_nil]
    rfl

/-- A channel is made by one call. -/
theorem channel (makeChannel : AxisSettings → Nat → StateM σ C) (axis : AxisSettings) (index : Nat)
    (s : σ) :
    Makes (ExceptT.lift (makeChannel axis index)) (ExceptT.lift (noting makeChannel axis index)) s
      (makeChannel axis index s).1 [⟨axis, index, (makeChannel axis index s).1⟩]
      (makeChannel axis index s).2 where
  run := rfl
  run_noted _ := rfl

/-- What is built in two steps takes the calls of the first and then those of the second. -/
theorem bind {first : ExceptT SettingsError (StateM σ) α}
    {first' : ExceptT SettingsError (StateM (σ × List (Making C))) α}
    {second : α → ExceptT SettingsError (StateM σ) β}
    {second' : α → ExceptT SettingsError (StateM (σ × List (Making C))) β} {a : α} {b : β}
    {makings more : List (Making C)} (hfirst : Makes first first' s a makings s₁)
    (hsecond : Makes (second a) (second' a) s₁ b more s') :
    Makes (first >>= second) (first' >>= second') s b (makings ++ more) s' where
  run := by
    rw [ExceptT.run_bind, StateT.run_bind, hfirst.run]
    exact hsecond.run
  run_noted before := by
    rw [ExceptT.run_bind, StateT.run_bind, hfirst.run_noted, ← List.append_assoc]
    exact hsecond.run_noted (before ++ makings)

/-- The values of a list are built one after the other. -/
theorem cons {f : α → ExceptT SettingsError (StateM σ) β}
    {f' : α → ExceptT SettingsError (StateM (σ × List (Making C))) β} {a : α} {l : List α} {b : β}
    {bs : List β} {makings more : List (Making C)} (hfirst : Makes (f a) (f' a) s b makings s₁)
    (hrest : Makes (l.mapM f) (l.mapM f') s₁ bs more s') :
    Makes ((a :: l).mapM f) ((a :: l).mapM f') s (b :: bs) (makings ++ more) s' := by
  rw [List.mapM_cons, List.mapM_cons, ← List.append_nil more]
  exact hfirst.bind (hrest.bind (.value rfl s'))

end Makes

/-! ## Sockets -/

/-- The places of the channels of some axes: the place of the axis and that in the axis. -/
def sockets : List AxisSettings → List (Nat × Nat)
  | [] => []
  | axis :: rest =>
    (List.range axis.channels.toNat).map (0, ·) ++ (sockets rest).map (Prod.map (· + 1) id)

/-- There is a socket for every channel of every axis. -/
theorem mem_sockets {axes : List AxisSettings} {place index : Nat} :
    (place, index) ∈ sockets axes ↔
      ∃ axis, axes[place]? = some axis ∧ index < axis.channels.toNat := by
  induction axes generalizing place with
  | nil => simp [sockets]
  | cons axis rest ih =>
    cases place with
    | zero => simp [sockets]
    | succ place => simp [sockets, ih]

/-- **The sockets are in lexicographic order**, so that each of them is there once. -/
theorem pairwise_sockets (axes : List AxisSettings) :
    (sockets axes).Pairwise (Prod.Lex (· < ·) (· < ·)) := by
  induction axes with
  | nil => exact .nil
  | cons axis rest ih =>
    refine List.pairwise_append.2 ⟨?first, ?later, ?across⟩
    case first =>
      exact List.pairwise_map.2 (List.pairwise_lt_range.imp fun hlt => .right 0 hlt)
    case later =>
      refine List.pairwise_map.2 (ih.imp fun hlex => ?_)
      cases hlex with
      | left index index' hlt => exact .left index index' (Nat.succ_lt_succ hlt)
      | right place hlt => exact .right (place + 1) hlt
    case across =>
      intro socket hsocket socket' hsocket'
      obtain ⟨index, -, rfl⟩ := List.mem_map.1 hsocket
      obtain ⟨⟨place, index'⟩, -, rfl⟩ := List.mem_map.1 hsocket'
      exact .left index index' (Nat.succ_pos place)

/-- A channel is made for a socket: the function is given the settings of the axis and the place in
it, and the channel that it makes is put there. -/
structure MadeFor {C : Type} (settings : List AxisSettings) (axes : List (Axis C))
    (socket : Nat × Nat) (making : Making C) : Prop where
  axis : settings[socket.1]? = some making.axis
  index : socket.2 = making.index
  channel : axes[socket.1]?.bind (·.channels[socket.2]?) = some making.channel

/-! ## Axes -/

section

variable {C σ : Type}

/-- The channels of an axis are made one after the other. -/
theorem makes_channels (makeChannel : AxisSettings → Nat → StateM σ C) (axis : AxisSettings)
    (indices : List Nat) (s : σ) :
    ∃ makings s', Makes
        (indices.mapM fun index => ExceptT.lift (makeChannel axis index))
        (indices.mapM fun index => ExceptT.lift (noting makeChannel axis index))
        s (makings.map (·.channel)) makings s' ∧
      makings.map (fun making => (making.axis, making.index)) = indices.map (axis, ·) := by
  induction indices generalizing s with
  | nil => exact ⟨[], s, .value rfl s, rfl⟩
  | cons index indices ih =>
    obtain ⟨makings, s', hmakes, hcalls⟩ := ih (makeChannel axis index s).2
    have hfirst := Makes.channel makeChannel axis index s
    refine ⟨⟨axis, index, (makeChannel axis index s).1⟩ :: makings, s', hfirst.cons hmakes, ?_⟩
    rw [List.map_cons, List.map_cons, hcalls]

/-- Settings without a problem make an axis of as many channels as they say. -/
theorem Axis.exists_built {settings : AxisSettings} {channels : List C}
    (hsound : settings.fault? = none) (hcount : channels.length = settings.channels.toNat) :
    ∃ built, Axis.ofChannels settings channels = .ok built ∧ built.settings = settings ∧
      built.channels = channels := by
  obtain ⟨hsome, hfew⟩ := AxisSettings.channels_of_fault? hsound
  have hnonempty : channels ≠ [] := List.ne_nil_of_length_pos (by omega)
  obtain ⟨built, hbuilt⟩ := Axis.exists_ofChannels hnonempty (by omega) hcount
  obtain ⟨hsettings, hchannels, -⟩ := Axis.built_of_ofChannels hbuilt
  exact ⟨built, hbuilt, hsettings, hchannels⟩

/-- An axis without a problem is built, from a channel for each index. -/
theorem makes_axis (makeChannel : AxisSettings → Nat → StateM σ C) {axis : AxisSettings}
    (hsound : axis.fault? = none) (s : σ) :
    ∃ built makings s', Makes (Machine.buildAxis makeChannel axis)
        (Machine.buildAxis (noting makeChannel) axis) s built makings s' ∧
      built.settings = axis ∧ built.channels = makings.map (·.channel) ∧
      makings.map (fun making => (making.axis, making.index)) =
        (List.range axis.channels.toNat).map (axis, ·) := by
  obtain ⟨makings, s', hmakes, hcalls⟩ :=
    makes_channels makeChannel axis (List.range axis.channels.toNat) s
  have hlength : (makings.map (·.channel)).length = axis.channels.toNat := by
    have hlength := congrArg List.length hcalls
    rw [List.length_map, List.length_map, List.length_range] at hlength
    rw [List.length_map, hlength]
  obtain ⟨built, hbuilt, hsettings, hchannels⟩ := Axis.exists_built hsound hlength
  refine ⟨built, makings, s', ?_, hsettings, hchannels, hcalls⟩
  rw [← List.append_nil makings]
  exact hmakes.bind (.value hbuilt s')

/-- The channels of the first axis are made for its sockets. -/
theorem madeFor_first {axis : AxisSettings} {rest : List AxisSettings} {built : Axis C}
    {others : List (Axis C)} {makings : List (Making C)}
    (hchannels : built.channels = makings.map (·.channel))
    (hcalls : makings.map (fun making => (making.axis, making.index)) =
      (List.range axis.channels.toNat).map (axis, ·)) :
    List.Forall₂ (MadeFor (axis :: rest) (built :: others))
      ((List.range axis.channels.toNat).map (0, ·)) makings := by
  have hlength : makings.length = axis.channels.toNat := by
    simpa using congrArg List.length hcalls
  refine List.forall₂_iff_get.2 ⟨by simp [hlength], fun i hi hi' => ?_⟩
  have hcall : (makings[i].axis, makings[i].index) = (axis, i) := by
    have hlt : i < axis.channels.toNat := by omega
    simpa [hi', hlt] using congrArg (·[i]?) hcalls
  obtain ⟨haxis, hindex⟩ := Prod.mk.inj hcall
  constructor
  case axis => simp [haxis]
  case index => simp [hindex]
  case channel => simp [hchannels, hi']

/-- **A channel is made for each socket, in their order**, and put there. -/
theorem makes_axes (makeChannel : AxisSettings → Nat → StateM σ C) {axes : List AxisSettings}
    (hsound : ∀ axis ∈ axes, axis.fault? = none) (s : σ) :
    ∃ built makings s', Makes (axes.mapM (Machine.buildAxis makeChannel))
        (axes.mapM (Machine.buildAxis (noting makeChannel))) s built makings s' ∧
      built.map (·.settings) = axes ∧
      List.Forall₂ (MadeFor axes built) (sockets axes) makings := by
  induction axes generalizing s with
  | nil => exact ⟨[], [], s, .value rfl s, rfl, .nil⟩
  | cons axis rest ih =>
    obtain ⟨built, makings, s₁, hfirst, hsettings, hchannels, hcalls⟩ :=
      makes_axis makeChannel (hsound axis (.head _)) s
    obtain ⟨others, more, s', hrest, hothers, hmade⟩ :=
      ih (fun other hother => hsound other (.tail _ hother)) s₁
    refine ⟨built :: others, makings ++ more, s', hfirst.cons hrest, ?settings, ?made⟩
    case settings => rw [List.map_cons, hsettings, hothers]
    case made =>
      have hlater : List.Forall₂ (MadeFor (axis :: rest) (built :: others))
          ((sockets rest).map (Prod.map (· + 1) id)) more :=
        List.forall₂_map_left_iff.2 (hmade.imp fun _ _ h => ⟨h.axis, h.index, h.channel⟩)
      exact List.rel_append (madeFor_first hchannels hcalls) hlater

end

end MotionControl
