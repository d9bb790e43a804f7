import FormatConfig.Cli.Arguments

/-!
# Reading a command line with `--check` in front

A command line that does not ask for `--check` reads, with `--check` put in front, as the same
request with `--check` on (`parseArguments_check_cons`).

Reading `--check` first leaves a reader that differs from the empty one only in `--check`
(`Reader.CheckAdded`). Every step of reading keeps that difference, except a step that sets
`--check` itself: it is refused as given twice once `--check` was read first. Such a step
sets `--check` for good (`check_readWords`), so a command line whose request has `--check`
off never takes it.
-/

namespace FormatConfig

namespace Cli

/-- An option that takes a value is never `--check`. -/
theorem flag_ne_check_of_takesValue :
    ∀ s ∈ flagSpecs, s.takesValue = true → s.flag ≠ .check := by
  decide

theorem map_eq_ok {ε α β : Type} {f : α → β} {e : Except ε α} {b : β} :
    e.map f = .ok b ↔ ∃ a, e = .ok a ∧ f a = b := by
  cases e <;> simp [Except.map]

namespace Invocation

variable (inv : Invocation)

@[simp] theorem check_withFlag (f : Flag) :
    (inv.withFlag f).check = (inv.check || f == .check) := by
  cases f <;> simp [withFlag]

theorem withFlag_check (f : Flag) :
    ({ inv with check := true }).withFlag f = { inv.withFlag f with check := true } := by
  cases f <;> rfl

theorem check_of_withValue {s : FlagSpec} {v : String} {i : Invocation}
    (h : inv.withValue s v = .ok i) : i.check = inv.check := by
  unfold withValue at h
  dsimp only at h
  -- a path, a count or a line ending is stored in a field of its own
  split at h
  · obtain ⟨p, -, rfl⟩ := map_eq_ok.mp h; rfl
  · obtain ⟨p, -, rfl⟩ := map_eq_ok.mp h; rfl
  · obtain ⟨p, -, rfl⟩ := map_eq_ok.mp h; rfl
  · obtain ⟨n, -, rfl⟩ := map_eq_ok.mp h; rfl
  · obtain ⟨n, -, rfl⟩ := map_eq_ok.mp h; rfl
  · split at h
    · cases h; rfl
    · cases h
  · cases h; rfl

theorem withValue_check (s : FlagSpec) (v : String) :
    ({ inv with check := true }).withValue s v =
      (inv.withValue s v).map fun i => { i with check := true } := by
  unfold withValue
  dsimp only
  split
  · cases v.isEmpty <;> rfl
  · cases v.isEmpty <;> rfl
  · cases v.isEmpty <;> rfl
  · cases parseCount v <;> rfl
  · cases parseCount v <;> rfl
  · cases NewLine.ofName? v <;> rfl
  · rfl

end Invocation

namespace Reader

variable {r r' x : Reader}

theorem contains_note (r : Reader) (g g' : Given) :
    (r.note g).given.contains g' = (r.given.contains g' || g' == g) := by
  unfold note
  split
  · next h =>
    by_cases hg : g' = g
    · subst hg
      rw [h]
      rfl
    · have hne : (g' == g) = false := beq_false_of_ne hg
      rw [hne, Bool.or_false]
  · exact Array.contains_push

@[simp] theorem note_inv (r : Reader) (g : Given) : (r.note g).inv = r.inv := by
  unfold note
  split <;> rfl

@[simp] theorem note_pending (r : Reader) (g : Given) : (r.note g).pending = r.pending := by
  unfold note
  split <;> rfl

/-- A reader that has read `--check` before the words another reader read: `--check` on,
given, and nothing else different. An option waiting for its value is never `--check`. -/
structure CheckAdded (r r' : Reader) : Prop where
  inv : r'.inv = { r.inv with check := true }
  pending : r'.pending = r.pending
  given : ∀ g, r'.given.contains g = (r.given.contains g || g == .flag .check)
  waiting : ∀ s v, r.pending = some (.option s v) → s.flag ≠ .check

theorem CheckAdded.gave (h : CheckAdded r r') (f : Flag) :
    r'.gave f = (r.gave f || f == .check) := by
  simp only [Reader.gave, h.given]
  cases f <;> rfl

theorem CheckAdded.note (h : CheckAdded r r') (g : Given) : CheckAdded (r.note g) (r'.note g) where
  inv := by rw [note_inv, note_inv, h.inv]
  pending := by rw [note_pending, note_pending, h.pending]
  given g' := by
    rw [contains_note, contains_note, h.given]
    cases r.given.contains g' <;> cases g' == g <;> cases g' == .flag .check <;> rfl
  waiting := by
    rw [note_pending]
    exact h.waiting

/-- Storing the same invocation, `--check` apart, keeps the difference. -/
theorem CheckAdded.withInv (h : CheckAdded r r') {i i' : Invocation}
    (hi : i' = { i with check := true }) : CheckAdded { r with inv := i } { r' with inv := i' } :=
  ⟨hi, h.pending, h.given, h.waiting⟩

/-- Waiting for the same thing keeps the difference, unless it is `--check`'s value. -/
theorem CheckAdded.withPending (h : CheckAdded r r') {p : Option Pending}
    (hp : ∀ s v, p = some (.option s v) → s.flag ≠ .check) :
    CheckAdded { r with pending := p } { r' with pending := p } :=
  ⟨h.inv, rfl, h.given, hp⟩

/-! ## Steps that store what waits

Each step of reading has two lemmas: `check_step` says what it does to `--check` (storing,
settling and taking a path keep it; acting on an option may only turn it on), and
`CheckAdded.step` says the step after `--check` was read first gives the same reader with
`--check` on. -/

theorem check_store {s : FlagSpec} {v : String} (hx : r.store s v = .ok x) :
    x.inv.check = r.inv.check := by
  simp only [store, bind, Except.bind, pure, Except.pure] at hx
  split at hx
  · cases hx
  split at hx
  · cases hx
  · next i hv =>
    cases hx
    exact Invocation.check_of_withValue _ hv

theorem CheckAdded.store (h : CheckAdded r r') {s : FlagSpec} {v : String}
    (hf : s.flag ≠ .check) (hx : r.store s v = .ok x) :
    ∃ x', r'.store s v = .ok x' ∧ CheckAdded x x' := by
  have hgave : r'.gave s.flag = r.gave s.flag := by
    rw [h.gave]
    simp [hf]
  simp only [Reader.store, bind, Except.bind, pure, Except.pure, hgave] at hx ⊢
  split at hx
  · cases hx
  · next hnew =>
    rw [if_neg hnew, h.inv, Invocation.withValue_check]
    split at hx
    · cases hx
    · next i hv =>
      cases hx
      rw [hv]
      exact ⟨_, rfl, (h.note _).withInv rfl⟩

theorem check_settle (hx : r.settle = .ok x) : x.inv.check = r.inv.check := by
  unfold settle at hx
  split at hx
  · cases hx
    rfl
  · split at hx
    · cases hx
    · cases hx
      rfl
  · cases hx
  · dsimp only at hx
    exact check_store (r := { r with pending := none }) hx

theorem CheckAdded.settle (h : CheckAdded r r') (hx : r.settle = .ok x) :
    ∃ x', r'.settle = .ok x' ∧ CheckAdded x x' := by
  have hrest := h.withPending (p := none) (by simp)
  unfold Reader.settle at hx ⊢
  rw [h.pending]
  split at hx
  · cases hx
    exact ⟨r', rfl, h⟩
  · next values hp =>
    split at hx
    · cases hx
    · next hempty =>
      cases hx
      rw [if_neg hempty]
      refine ⟨_, rfl, (hrest.note .paths).withInv ?_⟩
      rw [h.inv]
  · cases hx
  · next s value hp =>
    dsimp only at hx ⊢
    exact hrest.store (h.waiting s (some value) hp) hx

theorem check_expect {s : FlagSpec} (hx : r.expect s = .ok x) : x.inv.check = r.inv.check := by
  simp only [expect, bind, Except.bind, pure, Except.pure] at hx
  split at hx
  · cases hx
  · next r₁ hs =>
    cases hx
    exact check_settle (x := r₁) hs

theorem CheckAdded.expect (h : CheckAdded r r') {s : FlagSpec} (hf : s.flag ≠ .check)
    (hx : r.expect s = .ok x) : ∃ x', r'.expect s = .ok x' ∧ CheckAdded x x' := by
  simp only [Reader.expect, bind, Except.bind, pure, Except.pure] at hx ⊢
  split at hx
  · cases hx
  · next r₁ hs =>
    cases hx
    obtain ⟨r₁', hs', h₁⟩ := h.settle hs
    rw [hs']
    refine ⟨_, rfl, h₁.withPending ?_⟩
    intro s' v hp
    cases hp
    exact hf

theorem check_addPath {w : String} (hx : r.addPath w = .ok x) : x.inv.check = r.inv.check := by
  unfold addPath at hx
  split at hx
  · cases hx
    rfl
  · simp only [bind, Except.bind, pure, Except.pure] at hx
    split at hx
    · cases hx
    · next r₁ hs =>
      cases hx
      exact check_settle (x := r₁) hs

theorem CheckAdded.addPath (h : CheckAdded r r') {w : String} (hx : r.addPath w = .ok x) :
    ∃ x', r'.addPath w = .ok x' ∧ CheckAdded x x' := by
  unfold Reader.addPath at hx ⊢
  rw [h.pending]
  split at hx
  · cases hx
    exact ⟨_, rfl, h.withPending (by simp)⟩
  · simp only [bind, Except.bind, pure, Except.pure] at hx ⊢
    split at hx
    · cases hx
    · next r₁ hs =>
      cases hx
      obtain ⟨r₁', hs', h₁⟩ := h.settle hs
      rw [hs']
      exact ⟨_, rfl, h₁.withPending (by simp)⟩

theorem check_word {w : String} (hx : r.word w = .ok x) : x.inv.check = r.inv.check := by
  unfold word at hx
  split at hx
  · cases hx
    rfl
  · exact check_addPath hx

theorem CheckAdded.word (h : CheckAdded r r') {w : String} (hx : r.word w = .ok x) :
    ∃ x', r'.word w = .ok x' ∧ CheckAdded x x' := by
  unfold Reader.word at hx ⊢
  rw [h.pending]
  split at hx
  · next s hp =>
    cases hx
    refine ⟨_, rfl, h.withPending ?_⟩
    intro s' v hp'
    cases hp'
    exact h.waiting s none hp
  · exact h.addPath hx

/-! ## Acting on an option -/

theorem check_act (hc : r.inv.check = true) {s : FlagSpec} {value : Option String}
    (hx : r.act s value = .ok (.inl x)) : x.inv.check = true := by
  simp only [act, bind, Except.bind, pure, Except.pure] at hx
  split at hx
  · cases hx
  next r₁ hs =>
  have hc₁ : r₁.inv.check = true := (check_settle hs).trans hc
  -- help and version answer at once
  split at hx
  · cases hx
  split at hx
  · cases hx
  cases value with
  | none =>
    dsimp only at hx
    split at hx
    · cases hx
    split at hx
    · cases hx
    · cases hx
      simp [hc₁]
  | some v =>
    dsimp only at hx
    split at hx
    · cases hx
    · next x₁ hst =>
      cases hx
      exact (check_store hst).trans hc₁

/-- Acting on an option after `--check` acts alike, unless the option is `--check` itself. -/
theorem CheckAdded.act (h : CheckAdded r r') {s : FlagSpec} {value : Option String}
    (hf : value.isSome = true → s.flag ≠ .check) (hx : r.act s value = .ok (.inl x)) :
    x.inv.check = true ∨ ∃ x', r'.act s value = .ok (.inl x') ∧ CheckAdded x x' := by
  simp only [Reader.act, bind, Except.bind, pure, Except.pure] at hx ⊢
  split at hx
  · cases hx
  next r₁ hs =>
  obtain ⟨r₁', hs', h₁⟩ := h.settle hs
  rw [hs']
  dsimp only
  -- help and version answer at once
  split at hx
  · cases hx
  next hhelp =>
  rw [if_neg hhelp]
  split at hx
  · cases hx
  next hversion =>
  rw [if_neg hversion]
  cases value with
  | none =>
    dsimp only at hx ⊢
    split at hx
    · cases hx
    next htakes =>
    rw [if_neg htakes]
    split at hx
    · cases hx
    next hgave =>
    cases hx
    by_cases hcheck : s.flag = .check
    · exact .inl (by simp [hcheck])
    · have hgave' : ¬r₁'.gave s.flag = true := by
        rw [h₁.gave]
        simpa [hcheck] using hgave
      rw [if_neg hgave']
      exact .inr ⟨_, rfl, (h₁.note _).withInv (by rw [h₁.inv, Invocation.withFlag_check])⟩
  | some v =>
    dsimp only at hx ⊢
    split at hx
    · cases hx
    · next x₁ hst =>
      cases hx
      obtain ⟨x₁', hst', hx₁⟩ := h₁.store (hf rfl) hst
      rw [hst']
      exact .inr ⟨_, rfl, hx₁⟩

/-! ## Reading words -/

theorem mem_of_byShort? {c : Char} {s : FlagSpec} (h : byShort? c = some s) : s ∈ flagSpecs :=
  List.mem_of_find?_eq_some h

theorem mem_of_byLong? {name : String} {s : FlagSpec} (h : byLong? name = some s) :
    s ∈ flagSpecs :=
  List.mem_of_find?_eq_some h

theorem map_inl_eq_ok {ε α β : Type} {e : Except ε α} {a : α} :
    e.map (@Sum.inl α β) = .ok (.inl a) ↔ e = .ok a := by
  simp [map_eq_ok]

theorem check_readShorts (cs : List Char) : ∀ {r x : Reader}, r.inv.check = true →
    readShorts r cs = .ok (.inl x) → x.inv.check = true := by
  induction cs with
  | nil =>
    intro r x hc hx
    cases hx
    exact hc
  | cons c rest ih =>
    intro r x hc hx
    simp only [readShorts] at hx
    cases hs : byShort? c with
    | none => rw [hs] at hx; cases hx
    | some s =>
      rw [hs] at hx
      dsimp only at hx
      split at hx
      · split at hx
        · exact (check_expect (map_inl_eq_ok.mp hx)).trans hc
        · exact check_act hc hx
        · exact check_act hc hx
      · split at hx
        · next r₁ hact => exact ih (check_act hc hact) hx
        · next _ hne => exact (hne x hx).elim

/-- Reading short options after `--check` reads alike, or the options set `--check`. -/
theorem CheckAdded.readShorts (cs : List Char) : ∀ {r r' x : Reader}, CheckAdded r r' →
    Cli.readShorts r cs = .ok (.inl x) →
    x.inv.check = true ∨ ∃ x', Cli.readShorts r' cs = .ok (.inl x') ∧ CheckAdded x x' := by
  induction cs with
  | nil =>
    intro r r' x h hx
    cases hx
    exact .inr ⟨r', rfl, h⟩
  | cons c rest ih =>
    intro r r' x h hx
    simp only [Cli.readShorts] at hx ⊢
    cases hs : byShort? c with
    | none => rw [hs] at hx; cases hx
    | some s =>
      rw [hs] at hx
      dsimp only at hx ⊢
      by_cases ht : s.takesValue = true
      · -- the option takes the rest of the word, or the next word, as its value
        have hf := flag_ne_check_of_takesValue s (mem_of_byShort? hs) ht
        rw [if_pos ht] at hx ⊢
        split at hx
        · obtain ⟨y', he', hy⟩ := h.expect hf (map_inl_eq_ok.mp hx)
          exact .inr ⟨y', by rw [he']; rfl, hy⟩
        · exact h.act (fun _ => hf) hx
        · exact h.act (fun _ => hf) hx
      · rw [if_neg ht] at hx ⊢
        split at hx
        · next r₁ hact =>
          rcases h.act (by simp) hact with hc | ⟨r₁', hact', h₁⟩
          · exact .inl (check_readShorts rest hc hx)
          · rw [hact']
            exact ih h₁ hx
        · next _ hne => exact (hne x hx).elim

theorem check_readLong (hc : r.inv.check = true) {name : String} {value : Option String}
    (hx : readLong r name value = .ok (.inl x)) : x.inv.check = true := by
  unfold readLong at hx
  cases hs : byLong? name with
  | none =>
    rw [hs] at hx
    dsimp only at hx
    split at hx <;> cases hx
  | some s =>
    rw [hs] at hx
    cases value with
    | some v =>
      dsimp only at hx
      split at hx
      · exact check_act hc hx
      · cases hx
    | none =>
      dsimp only at hx
      split at hx
      · exact (check_expect (map_inl_eq_ok.mp hx)).trans hc
      · exact check_act hc hx

/-- Reading a long option after `--check` reads alike, or the option is `--check`. -/
theorem CheckAdded.readLong (h : CheckAdded r r') {name : String} {value : Option String}
    (hx : Cli.readLong r name value = .ok (.inl x)) :
    x.inv.check = true ∨
      ∃ x', Cli.readLong r' name value = .ok (.inl x') ∧ CheckAdded x x' := by
  unfold Cli.readLong at hx ⊢
  cases hs : byLong? name with
  | none =>
    rw [hs] at hx
    dsimp only at hx
    split at hx <;> cases hx
  | some s =>
    rw [hs] at hx
    have hf : s.takesValue = true → s.flag ≠ .check :=
      flag_ne_check_of_takesValue s (mem_of_byLong? hs)
    cases value with
    | some v =>
      dsimp only at hx ⊢
      split at hx
      · next ht =>
        rw [if_pos ht]
        exact h.act (fun _ => hf ht) hx
      · cases hx
    | none =>
      dsimp only at hx ⊢
      split at hx
      · next ht =>
        rw [if_pos ht]
        obtain ⟨y', he', hy⟩ := h.expect (hf ht) (map_inl_eq_ok.mp hx)
        exact .inr ⟨y', by rw [he']; rfl, hy⟩
      · next ht =>
        rw [if_neg ht]
        exact h.act (by simp) hx

theorem check_readWords (ws : List String) :
    ∀ {r x : Reader} {rest : Bool}, r.inv.check = true →
    readWords r rest ws = .ok (.inl x) → x.inv.check = true := by
  induction ws with
  | nil =>
    intro r x rest hc hx
    cases hx
    exact hc
  | cons w ws ih =>
    intro r x rest hc hx
    simp only [readWords] at hx
    split at hx
    · split at hx
      · next r₁ ha => exact ih ((check_addPath ha).trans hc) hx
      · cases hx
    split at hx
    · split at hx
      · next r₁ hs => exact ih ((check_settle hs).trans hc) hx
      · cases hx
    split at hx
    · revert hx
      generalize splitLong (String.ofList (w.toList.drop 2)) = p
      obtain ⟨name, value⟩ := p
      intro hx
      dsimp only at hx
      split at hx
      · next r₁ hl => exact ih (check_readLong hc hl) hx
      · next _ hne => exact (hne x hx).elim
    split at hx
    · split at hx
      · next r₁ hs => exact ih (check_readShorts _ hc hs) hx
      · next _ hne => exact (hne x hx).elim
    · split at hx
      · next r₁ hw => exact ih ((check_word hw).trans hc) hx
      · cases hx

/-- **Reading the words after `--check`.** Every word reads alike after `--check` was read
first, until a word sets `--check` itself; that one sets it for good. -/
theorem CheckAdded.readWords (ws : List String) : ∀ {r r' x : Reader} {rest : Bool},
    CheckAdded r r' → Cli.readWords r rest ws = .ok (.inl x) →
    x.inv.check = true ∨ ∃ x', Cli.readWords r' rest ws = .ok (.inl x') ∧ CheckAdded x x' := by
  induction ws with
  | nil =>
    intro r r' x rest h hx
    cases hx
    exact .inr ⟨r', rfl, h⟩
  | cons w ws ih =>
    intro r r' x rest h hx
    simp only [Cli.readWords] at hx ⊢
    -- the kind of word is told from the word alone, so both readers take the same branch
    split at hx
    · next hrest =>
      rw [if_pos hrest]
      split at hx
      · next r₁ ha =>
        obtain ⟨r₁', ha', h₁⟩ := h.addPath ha
        rw [ha']
        exact ih h₁ hx
      · cases hx
    next hrest =>
    rw [if_neg hrest]
    split at hx
    · next hdash =>
      rw [if_pos hdash]
      split at hx
      · next r₁ hs =>
        obtain ⟨r₁', hs', h₁⟩ := h.settle hs
        rw [hs']
        exact ih h₁ hx
      · cases hx
    next hdash =>
    rw [if_neg hdash]
    split at hx
    · next hlong =>
      rw [if_pos hlong]
      revert hx
      generalize splitLong (String.ofList (w.toList.drop 2)) = p
      obtain ⟨name, value⟩ := p
      intro hx
      dsimp only at hx ⊢
      split at hx
      · next r₁ hl =>
        rcases h.readLong hl with hc | ⟨r₁', hl', h₁⟩
        · exact .inl (check_readWords ws hc hx)
        · rw [hl']
          exact ih h₁ hx
      · next _ hne => exact (hne x hx).elim
    next hlong =>
    rw [if_neg hlong]
    split at hx
    · next hshort =>
      rw [if_pos hshort]
      split at hx
      · next r₁ hs =>
        rcases h.readShorts _ hs with hc | ⟨r₁', hs', h₁⟩
        · exact .inl (check_readWords ws hc hx)
        · rw [hs']
          exact ih h₁ hx
      · next _ hne => exact (hne x hx).elim
    · next hshort =>
      rw [if_neg hshort]
      split at hx
      · next r₁ hw =>
        obtain ⟨r₁', hw', h₁⟩ := h.word hw
        rw [hw']
        exact ih h₁ hx
      · cases hx

/-! ## Only help and version answer early

Reading stops before the end only for `--help` and `--version`; a run is asked for once all
words are read. -/

theorem act_ne_run {s : FlagSpec} {value : Option String} {i : Invocation} :
    r.act s value ≠ .ok (.inr (.run i)) := by
  intro hx
  simp only [act, bind, Except.bind, pure, Except.pure] at hx
  -- every branch fails, answers help or version, or gives a reader
  split at hx
  · cases hx
  split at hx
  · cases hx
  split at hx
  · cases hx
  split at hx
  · split at hx
    · cases hx
    split at hx <;> cases hx
  · split at hx <;> cases hx

theorem readShorts_ne_run (cs : List Char) {i : Invocation} :
    ∀ {r : Reader}, readShorts r cs ≠ .ok (.inr (.run i)) := by
  induction cs with
  | nil => intro r hx; cases hx
  | cons c rest ih =>
    intro r hx
    simp only [readShorts] at hx
    cases hs : byShort? c with
    | none => rw [hs] at hx; cases hx
    | some s =>
      rw [hs] at hx
      dsimp only at hx
      split at hx
      · split at hx
        · cases he : r.expect s <;> rw [he] at hx <;> cases hx
        · exact act_ne_run hx
        · exact act_ne_run hx
      · split at hx
        · exact ih hx
        · exact act_ne_run hx

theorem readLong_ne_run {name : String} {value : Option String} {i : Invocation} :
    readLong r name value ≠ .ok (.inr (.run i)) := by
  intro hx
  unfold readLong at hx
  cases hs : byLong? name with
  | none =>
    rw [hs] at hx
    dsimp only at hx
    split at hx <;> cases hx
  | some s =>
    rw [hs] at hx
    cases value with
    | some v =>
      dsimp only at hx
      split at hx
      · exact act_ne_run hx
      · cases hx
    | none =>
      dsimp only at hx
      split at hx
      · cases he : r.expect s <;> rw [he] at hx <;> cases hx
      · exact act_ne_run hx

theorem readWords_ne_run (ws : List String) {i : Invocation} :
    ∀ {r : Reader} {rest : Bool}, readWords r rest ws ≠ .ok (.inr (.run i)) := by
  induction ws with
  | nil => intro r rest hx; cases hx
  | cons w ws ih =>
    intro r rest hx
    simp only [readWords] at hx
    -- every branch reads on, or answers from a step that never asks for a run
    split at hx
    · split at hx
      · exact ih hx
      · cases hx
    split at hx
    · split at hx
      · exact ih hx
      · cases hx
    split at hx
    · revert hx
      generalize splitLong (String.ofList (w.toList.drop 2)) = p
      obtain ⟨name, value⟩ := p
      intro hx
      dsimp only at hx
      split at hx
      · exact ih hx
      · exact readLong_ne_run hx
    split at hx
    · split at hx
      · exact ih hx
      · exact readShorts_ne_run _ hx
    · split at hx
      · exact ih hx
      · cases hx

/-! ## `--check` in front -/

/-- Reading `--check` from the empty reader leaves `--check` on and given. -/
theorem readWords_check_cons (args : List String) :
    readWords {} false ("--check" :: args) =
      readWords { ({} : Reader).note (.flag .check) with inv := ({} : Invocation).withFlag .check }
        false args := by
  have hsplit : splitLong "check" = ("check", none) := by decide
  simp [readWords, hsplit, readLong, byLong?, Reader.act, Reader.settle, FlagSpec.takesValue,
    flagSpecs, Reader.gave, bind, Except.bind, pure, Except.pure]

theorem checkAdded_start :
    CheckAdded {}
      { ({} : Reader).note (.flag .check) with inv := ({} : Invocation).withFlag .check } where
  inv := rfl
  pending := note_pending _ _
  given g := contains_note _ _ _
  waiting s v hp := by cases hp

end Reader

/-- **`--check` in front.** A command line that asks for a run without `--check` asks, with
`--check` put in front, for the same run with `--check` on. -/
theorem parseArguments_check_cons {args : List String} {inv : Invocation}
    (h : parseArguments args = .ok (.run inv)) (hc : inv.check = false) :
    parseArguments ("--check" :: args) = .ok (.run { inv with check := true }) := by
  unfold parseArguments at h ⊢
  simp only [bind, Except.bind, pure, Except.pure] at h
  split at h
  · cases h
  next y hr =>
  split at h
  · -- an answer on the way is help or version, never a run
    cases h
    exact absurd hr (Reader.readWords_ne_run args)
  next x =>
  split at h
  · cases h
  next x₁ hs =>
  split at h
  · cases h
  next hpaths =>
  cases h
  rcases Reader.CheckAdded.readWords args Reader.checkAdded_start hr with hcx | ⟨x', hr', hx⟩
  · -- a word set `--check`, which the request would show
    rw [← Reader.check_settle hs, hc] at hcx
    cases hcx
  · rw [Reader.readWords_check_cons, hr']
    obtain ⟨x₁', hs', h₁⟩ := hx.settle hs
    simp only [bind, Except.bind, pure, Except.pure, hs', h₁.inv]
    rw [if_neg hpaths]

end Cli

end FormatConfig
