import Forum.Program

/-!
# Transcripts

What a program has asked and what it was answered, in order, whatever the answers were.

* `Exchange`, `Transcript`: an operation with its answer, and a list of them;
* `Program.Plays`: the transcripts of a program, each with its result;
* `Script`, `Script.run`: the run of a program by a script, which answers by all that came before;
  `Script.run_bind`: the run of a sequence;
* **`plays_bind`**: a transcript of a sequence is a transcript of each of its parts;
* `InTurn`, **`plays_mapM`**: the transcripts of a program that is carried out for all of a list;
* **`plays_run`**: the run by a script is a transcript.
-/

namespace Forum

variable {Op : Type} {Ans : Op → Type} {α β ε : Type}

/-- An operation and its answer. -/
structure Exchange (Ans : Op → Type) where
  op : Op
  answer : Ans op

/-- The exchanges of a program, in order. -/
abbrev Transcript (Ans : Op → Type) := List (Exchange Ans)

namespace Program

/-- The program can be answered like this, and it then has this result. -/
def Plays : Program Op Ans α → Transcript Ans → α → Prop
  | .done a, t, b => t = [] ∧ a = b
  | .ask op next, t, b => ∃ r rest, t = ⟨op, r⟩ :: rest ∧ (next r).Plays rest b

variable {t : Transcript Ans}

@[simp] theorem plays_pure {a b : α} : (pure a : Program Op Ans α).Plays t b ↔ t = [] ∧ a = b :=
  Iff.rfl

@[simp] theorem plays_perform {op : Op} {r : Ans op} :
    (perform op : Program Op Ans (Ans op)).Plays t r ↔ t = [⟨op, r⟩] := by
  constructor
  · rintro ⟨r', rest, rfl, rfl, rfl⟩
    rfl
  · rintro rfl
    exact ⟨r, [], rfl, rfl, rfl⟩

/-- **A transcript of a sequence.** -/
theorem plays_bind {p : Program Op Ans α} {f : α → Program Op Ans β} {b : β} :
    (p >>= f).Plays t b ↔
      ∃ t₁ a t₂, p.Plays t₁ a ∧ (f a).Plays t₂ b ∧ t = t₁ ++ t₂ := by
  induction p generalizing t with
  | done a =>
    constructor
    · intro h
      exact ⟨[], a, t, ⟨rfl, rfl⟩, h, rfl⟩
    · rintro ⟨_, _, t₂, ⟨rfl, rfl⟩, h, rfl⟩
      exact h
  | ask op next ih =>
    constructor
    · rintro ⟨r, rest, rfl, h⟩
      obtain ⟨t₁, a, t₂, h₁, h₂, rfl⟩ := (ih r).mp h
      exact ⟨⟨op, r⟩ :: t₁, a, t₂, ⟨r, t₁, rfl, h₁⟩, h₂, rfl⟩
    · rintro ⟨_, a, t₂, ⟨r, t₁, rfl, h₁⟩, h₂, rfl⟩
      exact ⟨r, t₁ ++ t₂, rfl, (ih r).mpr ⟨t₁, a, t₂, h₁, h₂, rfl⟩⟩

theorem plays_bind_except {p : ExceptT ε (Program Op Ans) α}
    {f : α → ExceptT ε (Program Op Ans) β} {r : Except ε β} :
    (p >>= f).run.Plays t r ↔
      (∃ e, p.run.Plays t (.error e) ∧ r = .error e) ∨
        ∃ t₁ a t₂, p.run.Plays t₁ (.ok a) ∧ (f a).run.Plays t₂ r ∧ t = t₁ ++ t₂ := by
  rw [ExceptT.run_bind, plays_bind]
  constructor
  · rintro ⟨t₁, found, t₂, h₁, h₂, rfl⟩
    cases found with
    | ok a => exact .inr ⟨t₁, a, t₂, h₁, h₂, rfl⟩
    | error e =>
      obtain ⟨rfl, rfl⟩ := h₂
      exact .inl ⟨e, by rwa [List.append_nil], rfl⟩
  · rintro (⟨e, h, rfl⟩ | ⟨t₁, a, t₂, h₁, h₂, rfl⟩)
    · exact ⟨t, .error e, [], h, ⟨rfl, rfl⟩, (List.append_nil t).symm⟩
    · exact ⟨t₁, .ok a, t₂, h₁, h₂, rfl⟩

end Program

/-- One after the other for all of a list, up to the first failure: the transcript of each after that
of those before it, and all results in order. -/
inductive InTurn (P : α → Transcript Ans → Except ε β → Prop) :
    List α → Transcript Ans → Except ε (List β) → Prop where
  | nil : InTurn P [] [] (.ok [])
  | failed {a : α} {l : List α} {t : Transcript Ans} {e : ε} :
    P a t (.error e) → InTurn P (a :: l) t (.error e)
  | cons {a : α} {l : List α} {t t' : Transcript Ans} {b : β} {r : Except ε (List β)} :
    P a t (.ok b) → InTurn P l t' r → InTurn P (a :: l) (t ++ t') (r.map (b :: ·))

theorem map_fails_iff {f : α → β} {r : Except ε α} :
    (∃ e, r.map f = .error e) ↔ ∃ e, r = .error e := by
  cases r <;> simp [Except.map]

theorem InTurn.fails_iff {P : α → Transcript Ans → Except ε β → Prop} {Bad : Exchange Ans → Prop}
    (hP : ∀ {a t r}, P a t r → ((∃ e, r = .error e) ↔ ∃ x ∈ t, Bad x)) {l : List α}
    {t : Transcript Ans} {r : Except ε (List β)} (h : InTurn P l t r) :
    (∃ e, r = .error e) ↔ ∃ x ∈ t, Bad x := by
  induction h with
  | nil => simp
  | failed h =>
    rw [← hP h]
    simp
  | @cons _ _ t t' _ r h _ ih =>
    have hno : ¬ ∃ x ∈ t, Bad x := by
      rw [← hP h]
      simp
    simp only [map_fails_iff, ih, List.mem_append, or_and_right, exists_or, hno, false_or]

namespace Program

variable {t : Transcript Ans}

theorem plays_map_except {p : ExceptT ε (Program Op Ans) α} {f : α → β} {r : Except ε β} :
    (p >>= fun a => pure (f a)).run.Plays t r ↔ ∃ r', p.run.Plays t r' ∧ r'.map f = r := by
  rw [plays_bind_except]
  constructor
  · rintro (⟨e, h, rfl⟩ | ⟨t, a, _, h, ⟨rfl, rfl⟩, rfl⟩)
    · exact ⟨.error e, h, rfl⟩
    · exact ⟨.ok a, by rwa [List.append_nil], rfl⟩
  · rintro ⟨e | a, h, rfl⟩
    · exact .inl ⟨e, h, rfl⟩
    · exact .inr ⟨t, a, [], h, ⟨rfl, rfl⟩, (List.append_nil t).symm⟩

/-- **A transcript of a program for all of a list.** -/
theorem plays_mapM {f : α → ExceptT ε (Program Op Ans) β} {l : List α}
    {r : Except ε (List β)} :
    (l.mapM f).run.Plays t r ↔ InTurn (fun a => (f a).run.Plays) l t r := by
  induction l generalizing t r with
  | nil =>
    rw [List.mapM_nil]
    constructor
    · rintro ⟨rfl, rfl⟩
      exact .nil
    · intro h
      cases h
      exact ⟨rfl, rfl⟩
  | cons a l ih =>
    rw [List.mapM_cons, plays_bind_except]
    constructor
    · rintro (⟨e, h, rfl⟩ | ⟨t, b, t', h, hrest, rfl⟩)
      · exact .failed h
      · obtain ⟨r', hr, rfl⟩ := plays_map_except.mp hrest
        exact .cons h (ih.mp hr)
    · intro h
      cases h with
      | failed h => exact .inl ⟨_, h, rfl⟩
      | cons h hrest =>
        exact .inr ⟨_, _, _, h, plays_map_except.mpr ⟨_, ih.mpr hrest, rfl⟩, rfl⟩

end Program

/-- How all operations are answered, by the exchanges before them. -/
abbrev Script (Ans : Op → Type) := Transcript Ans → (op : Op) → Ans op

namespace Script

variable (s : Script Ans)

/-- The answer to an operation, which is written down. -/
def perform (op : Op) : StateM (Transcript Ans) (Ans op) := fun past =>
  (s past op, past ++ [⟨op, s past op⟩])

/-- The run of a program: its result and its transcript. -/
def run (p : Program Op Ans α) : α × Transcript Ans := (p.run s.perform).run []

theorem run_perform (p : Program Op Ans α) (past : Transcript Ans) :
    ∃ a t, (p.run s.perform).run past = (a, past ++ t) ∧ p.Plays t a := by
  induction p generalizing past with
  | done a => exact ⟨a, [], congrArg (Prod.mk a) (List.append_nil past).symm, rfl, rfl⟩
  | ask op next ih =>
    have step : (Program.run s.perform (.ask op next)).run past =
        ((next (s past op)).run s.perform).run (past ++ [⟨op, s past op⟩]) := rfl
    obtain ⟨a, t, hrun, hplays⟩ := ih (s past op) (past ++ [⟨op, s past op⟩])
    refine ⟨a, ⟨op, s past op⟩ :: t, ?_, s past op, t, rfl, hplays⟩
    rw [step, hrun, List.append_assoc, List.singleton_append]

/-- **The run by a script** is a transcript of the program. -/
theorem plays_run (p : Program Op Ans α) : p.Plays (s.run p).2 (s.run p).1 := by
  obtain ⟨a, t, hrun, hplays⟩ := s.run_perform p []
  rw [run, hrun]
  exact hplays

/-- What a script answers after some exchanges. -/
def after (past : Transcript Ans) : Script Ans := fun t => s (past ++ t)

@[simp] theorem after_nil : s.after [] = s := rfl

theorem after_after (past t : Transcript Ans) : (s.after past).after t = s.after (past ++ t) :=
  funext fun t' => congrArg s (List.append_assoc past t t').symm

theorem run_perform_eq (p : Program Op Ans α) (past : Transcript Ans) :
    (p.run s.perform).run past = (((s.after past).run p).1, past ++ ((s.after past).run p).2) := by
  induction p generalizing s past with
  | done a => exact congrArg (Prod.mk a) (List.append_nil past).symm
  | ask op next ih =>
    have step : ∀ (s : Script Ans) (past : Transcript Ans),
        (Program.run s.perform (.ask op next)).run past =
          ((next (s past op)).run s.perform).run (past ++ [⟨op, s past op⟩]) := fun _ _ => rfl
    have first : (s.after past).run (.ask op next) =
        ((next (s past op)).run (s.after past).perform).run [⟨op, s past op⟩] := by
      rw [run, step, after, List.append_nil, List.nil_append]
    rw [first, step, ih, ih, after_after, List.append_assoc]

theorem run_ask (op : Op) (next : Ans op → Program Op Ans α) :
    s.run (.ask op next) = (((s.after [⟨op, s [] op⟩]).run (next (s [] op))).1,
      ⟨op, s [] op⟩ :: ((s.after [⟨op, s [] op⟩]).run (next (s [] op))).2) :=
  s.run_perform_eq (next (s [] op)) [⟨op, s [] op⟩]

/-- **The run of a sequence**: the second program goes on where the first has ended. -/
theorem run_bind (p : Program Op Ans α) (f : α → Program Op Ans β) :
    s.run (p >>= f) = (((s.after (s.run p).2).run (f (s.run p).1)).1,
      (s.run p).2 ++ ((s.after (s.run p).2).run (f (s.run p).1)).2) := by
  induction p generalizing s with
  | done a => rfl
  | ask op next ih =>
    rw [Program.ask_bind, run_ask, ih, run_ask, after_after]
    rfl

theorem run_bind_except (p : ExceptT ε (Program Op Ans) α)
    (f : α → ExceptT ε (Program Op Ans) β) :
    s.run (p >>= f).run = match (s.run p.run).1 with
      | .ok a => (((s.after (s.run p.run).2).run (f a).run).1,
          (s.run p.run).2 ++ ((s.after (s.run p.run).2).run (f a).run).2)
      | .error e => (.error e, (s.run p.run).2) := by
  rw [ExceptT.run_bind, run_bind]
  cases (s.run p.run).1 with
  | ok a => rfl
  | error e => exact congrArg (Prod.mk _) (List.append_nil _)

end Script

end Forum
