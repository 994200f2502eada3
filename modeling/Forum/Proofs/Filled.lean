import Forum.Proofs.Decimal
import Forum.Sql.Search

/-!
# Placeholders and their values

A statement is sent as a text with placeholders and a list of values. What it says is the text with
the values in their places.

* `Filled`, `Fragment.filled`: a statement with the values in its text;
* `lex`, `placeholders`, `fill`: the placeholders of a text, and the values put into it;
* `Fragment.forms`: all of a statement but its values; **`text_congr`**: the text has no more;
* `Fragment.spaced`: placeholders can be told from the text around them;
* **`placeholders_text`**: the placeholders are numbered in order, one for each value;
* **`fill_text`**: the values get into their places.
-/

namespace Forum.Sql

/-- A text with values in it. -/
abbrev Filled := List (Char ⊕ Value)

/-- A text without values. -/
def Filled.plain (s : String) : Filled := s.toList.map .inl

/-- A value in a text. -/
def Filled.value (v : Value) : Filled := [.inr v]

theorem Filled.plain_split {s t u : String} (h : t ++ u = s) :
    Filled.plain s = .plain t ++ .plain u := by
  rw [← h, Filled.plain, String.toList_append, List.map_append]
  rfl

/-! ## Reading placeholders -/

/-- What has been read of a text: its characters and placeholders, and the number of a placeholder
under way. -/
structure Lexing where
  out : List (Char ⊕ Nat)
  number : Option Nat

/-- A text holds no dollar sign, and after a placeholder it starts with a character that is no
digit. -/
def spacedText (after : Bool) (s : String) : Bool :=
  !s.toList.contains '$' && (!after || s.toList.head?.any (!·.isDigit))

theorem spacedText_append {after : Bool} {s t : String} (hs : spacedText after s = true)
    (ht : spacedText false t = true) : spacedText after (s ++ t) = true := by
  simp only [spacedText, Bool.and_eq_true, Bool.not_eq_true', List.contains_eq_mem,
    decide_eq_false_iff_not, Bool.or_eq_true, Option.any_eq_true, String.toList_append,
    List.mem_append, not_or] at hs ht ⊢
  refine ⟨⟨hs.1, ht.1⟩, hs.2.imp_right fun ⟨c, hc, hno⟩ => ⟨c, ?_, hno⟩⟩
  rw [List.head?_append, hc]
  rfl

namespace Lexing

/-- The placeholder under way has ended. -/
def flush (l : Lexing) : List (Char ⊕ Nat) := l.out ++ l.number.toList.map .inr

/-- One more character: a dollar sign starts a placeholder, and digits are its number. -/
def step (l : Lexing) (c : Char) : Lexing :=
  match l.number, c.isDigit with
  | some n, true => ⟨l.out, some (10 * n + Text.digitValue c)⟩
  | _, _ => if c = '$' then ⟨l.flush, some 0⟩ else ⟨l.flush ++ [.inl c], none⟩

theorem foldl_chars {s : List Char} {l : Lexing} (hs : '$' ∉ s)
    (hd : l.number = none ∨ ∃ c ∈ s.head?, c.isDigit = false) :
    s.foldl step l = ⟨l.flush ++ s.map .inl, none⟩ := by
  induction s generalizing l with
  | nil =>
    obtain ⟨out, number⟩ := l
    rcases hd with rfl | ⟨c, hc, -⟩
    · simp [flush]
    · cases hc
  | cons c s ih =>
    have hdollar : c ≠ '$' := fun h => hs (h ▸ List.mem_cons_self)
    have hstep : l.step c = ⟨l.flush ++ [.inl c], none⟩ := by
      unfold step
      split
      · next n hn hdigit =>
        rcases hd with hd | ⟨d, hd, hno⟩
        · rw [hd] at hn
          cases hn
        · cases hd
          rw [hdigit] at hno
          cases hno
      · exact if_neg hdollar
    have hrest : '$' ∉ s := fun h => hs (List.mem_cons_of_mem _ h)
    rw [List.foldl_cons, hstep, ih hrest (.inl rfl)]
    simp [flush]

theorem foldl_plain {s : String} {l : Lexing} (h : spacedText l.number.isSome s = true) :
    s.toList.foldl step l = ⟨l.flush ++ s.toList.map .inl, none⟩ := by
  simp only [spacedText, Bool.and_eq_true, Bool.not_eq_true', List.contains_eq_mem,
    decide_eq_false_iff_not, Bool.or_eq_true, Option.any_eq_true] at h
  refine foldl_chars h.1 (h.2.imp (fun hnone => ?_) fun ⟨c, hc, hno⟩ => ⟨c, hc, hno⟩)
  exact Option.isNone_iff_eq_none.mp (by simpa using hnone)

theorem foldl_digits {s : List Char} (hs : ∀ c ∈ s, c.isDigit = true) (out : List (Char ⊕ Nat))
    (n : Nat) :
    s.foldl step ⟨out, some n⟩ =
      ⟨out, some (s.foldl (fun n c => 10 * n + Text.digitValue c) n)⟩ := by
  induction s generalizing n with
  | nil => rfl
  | cons c s ih =>
    have hc : c.isDigit = true := hs c List.mem_cons_self
    have hstep : step ⟨out, some n⟩ c = ⟨out, some (10 * n + Text.digitValue c)⟩ := by
      simp [step, hc]
    rw [List.foldl_cons, List.foldl_cons, hstep, ih fun d hd => hs d (List.mem_cons_of_mem _ hd)]

theorem foldl_placeholder (l : Lexing) (n : Nat) :
    (("$" ++ n.repr).toList).foldl step l = ⟨l.flush, some n⟩ := by
  have hdollar : l.step '$' = ⟨l.flush, some 0⟩ := by
    unfold step
    split
    · next h =>
      cases h
    · rfl
  rw [String.toList_append]
  change (n.repr.toList).foldl step (l.step '$') = _
  rw [hdollar, foldl_digits fun _ => Text.isDigit_of_mem_repr]
  exact congrArg (fun k => Lexing.mk l.flush (some k)) (Text.digitsValue_repr n)

end Lexing

/-- The characters and placeholders of a text. -/
def lex (text : String) : List (Char ⊕ Nat) := (text.toList.foldl Lexing.step ⟨[], none⟩).flush

/-- The numbers of the placeholders of a text, from left to right. -/
def placeholders (text : String) : List Nat := (lex text).filterMap Sum.getRight?

/-- What stands for a character or for a placeholder; the first value has the number 1. -/
def place (values : List Value) : Char ⊕ Nat → Option (Char ⊕ Value)
  | .inl c => some (.inl c)
  | .inr 0 => none
  | .inr (n + 1) => (values[n]?).map .inr

/-- A text with each placeholder replaced by the value of its number. -/
def fill (values : List Value) (text : String) : Filled := (lex text).filterMap (place values)

/-! ## Statements in pieces -/

namespace Fragment

/-- A piece with its value in the text. -/
def toFilled : Fragment → Filled
  | plain s => .plain s
  | param v => .value v

/-- A statement with the values in its text. -/
def filled (fs : List Fragment) : Filled := fs.flatMap toFilled

@[simp] theorem filled_nil : filled [] = [] := rfl

@[simp] theorem filled_plain (s : String) (fs : List Fragment) :
    filled (plain s :: fs) = .plain s ++ filled fs := rfl

@[simp] theorem filled_param (v : Value) (fs : List Fragment) :
    filled (param v :: fs) = .value v ++ filled fs := rfl

@[simp] theorem filled_append (fs gs : List Fragment) :
    filled (fs ++ gs) = filled fs ++ filled gs := List.flatMap_append

@[simp] theorem filled_flatMap {α : Type} (l : List α) (f : α → List Fragment) :
    filled (l.flatMap f) = l.flatMap fun a => filled (f a) := List.flatMap_assoc

/-- All of a piece but its value. -/
def form : Fragment → Option String
  | plain s => some s
  | param _ => none

/-- All of a statement but its values. -/
def forms (fs : List Fragment) : List (Option String) := fs.map form

@[simp] theorem forms_append (fs gs : List Fragment) : forms (fs ++ gs) = forms fs ++ forms gs :=
  List.map_append

@[simp] theorem forms_cons (f : Fragment) (fs : List Fragment) :
    forms (f :: fs) = f.form :: forms fs := rfl

theorem textFrom_congr {fs gs : List Fragment} (h : forms fs = forms gs) (n : Nat) :
    textFrom n fs = textFrom n gs := by
  induction fs generalizing gs n with
  | nil =>
    obtain rfl : gs = [] := List.map_eq_nil_iff.mp h.symm
    rfl
  | cons f fs ih =>
    obtain ⟨g, gs, rfl, hg, hgs⟩ := List.map_eq_cons_iff.mp h.symm
    cases f with
    | plain s =>
      cases g with
      | plain t =>
        cases hg
        exact congrArg (s :: ·) (ih hgs.symm n)
      | param v => cases hg
    | param v =>
      cases g with
      | plain t => cases hg
      | param u => exact congrArg (("$" ++ n.repr) :: ·) (ih hgs.symm (n + 1))

/-- **The text of a statement depends on no value.** -/
theorem text_congr {fs gs : List Fragment} (h : forms fs = forms gs) : text fs = text gs :=
  congrArg String.join (textFrom_congr h 1)

/-- Every placeholder can be told from the text around it. -/
def spaced : (after : Bool) → List (Option String) → Bool
  | _, [] => true
  | after, some s :: fs => spacedText after s && spaced false fs
  | after, none :: fs => !after && spaced true fs

theorem spaced_weaken {fs : List (Option String)} (h : spaced true fs = true) :
    spaced false fs = true := by
  cases fs with
  | nil => rfl
  | cons f fs =>
    cases f with
    | none => cases h
    | some s =>
      simp only [spaced, spacedText, Bool.and_eq_true] at h ⊢
      exact ⟨⟨h.1.1, rfl⟩, h.2⟩

theorem spaced_append {after : Bool} {fs gs : List (Option String)} (hf : spaced after fs = true)
    (hg : spaced true gs = true) : spaced after (fs ++ gs) = true := by
  induction fs generalizing after with
  | nil =>
    cases after with
    | true => exact hg
    | false => exact spaced_weaken hg
  | cons f fs ih =>
    cases f with
    | none =>
      simp only [List.cons_append, spaced, Bool.and_eq_true] at hf ⊢
      exact ⟨hf.1, ih hf.2⟩
    | some s =>
      simp only [List.cons_append, spaced, Bool.and_eq_true] at hf ⊢
      exact ⟨hf.1, ih hf.2⟩

theorem spaced_flatMap {α : Type} {l : List α} {f : α → List (Option String)}
    (h : ∀ a ∈ l, spaced true (f a) = true) : spaced true (l.flatMap f) = true := by
  induction l with
  | nil => rfl
  | cons a l ih =>
    exact spaced_append (h a List.mem_cons_self) (ih fun b hb => h b (List.mem_cons_of_mem _ hb))

/-- A statement with the numbers of its values in their places. -/
def numbered (n : Nat) : List Fragment → List (Char ⊕ Nat)
  | [] => []
  | plain s :: fs => s.toList.map .inl ++ numbered n fs
  | param _ :: fs => .inr n :: numbered (n + 1) fs

theorem foldl_textFrom {fs : List Fragment} (l : Lexing) (n : Nat)
    (h : spaced l.number.isSome (forms fs) = true) :
    (((textFrom n fs).flatMap String.toList).foldl Lexing.step l).flush =
      l.flush ++ numbered n fs := by
  induction fs generalizing l n with
  | nil => exact (List.append_nil _).symm
  | cons f fs ih =>
    cases f with
    | plain s =>
      simp only [forms_cons, form, spaced, Bool.and_eq_true] at h
      rw [textFrom, List.flatMap_cons, List.foldl_append, Lexing.foldl_plain h.1,
        ih ⟨l.flush ++ s.toList.map Sum.inl, none⟩ n h.2]
      simp [Lexing.flush, numbered]
    | param v =>
      simp only [forms_cons, form, spaced, Bool.and_eq_true] at h
      rw [textFrom, List.flatMap_cons, List.foldl_append, Lexing.foldl_placeholder,
        ih ⟨l.flush, some n⟩ (n + 1) h.2]
      simp [Lexing.flush, numbered]

theorem lex_text {fs : List Fragment} (h : spaced false (forms fs) = true) :
    lex (text fs) = numbered 1 fs := by
  rw [lex, text, String.toList_join, foldl_textFrom ⟨[], none⟩ 1 h]
  rfl

/-- **The placeholders of a text** are numbered from left to right, one for each value. -/
theorem placeholders_text {fs : List Fragment} (h : spaced false (forms fs) = true) :
    placeholders (text fs) = List.range' 1 (params fs).length := by
  have counted : ∀ (gs : List Fragment) n,
      (numbered n gs).filterMap Sum.getRight? = List.range' n (params gs).length := by
    intro gs
    induction gs with
    | nil => exact fun n => rfl
    | cons g gs ih =>
      intro n
      cases g with
      | plain s =>
        have hplain : (s.toList.map (Sum.inl (β := Nat))).filterMap Sum.getRight? = [] := by
          simp
        rw [numbered, List.filterMap_append, hplain, ih]
        rfl
      | param v => exact congrArg (n :: ·) (ih (n + 1))
  rw [placeholders, lex_text h, counted]

/-- **The values get into their places.** -/
theorem fill_text {fs : List Fragment} (h : spaced false (forms fs) = true) :
    fill (params fs) (text fs) = filled fs := by
  have put : ∀ (gs : List Fragment) (before : List Value),
      (numbered (before.length + 1) gs).filterMap (place (before ++ params gs)) = filled gs := by
    intro gs
    induction gs with
    | nil => exact fun _ => rfl
    | cons g gs ih =>
      intro before
      cases g with
      | plain s =>
        have hplain : (s.toList.map (Sum.inl (β := Nat))).filterMap (place (before ++ params gs)) =
            Filled.plain s := by
          rw [List.filterMap_map]
          exact List.filterMap_eq_map.symm ▸ rfl
        rw [numbered, List.filterMap_append, filled_plain, ← ih before, ← hplain]
        rfl
      | param v =>
        have hrest := ih (before ++ [v])
        rw [List.length_append, List.append_assoc] at hrest
        have hhere : (before ++ params (param v :: gs))[before.length]? = some v := by
          change (before ++ v :: params gs)[before.length]? = some v
          simp
        have hplace : place (before ++ params (param v :: gs)) (.inr (before.length + 1)) =
            some (.inr v) := by
          rw [place, hhere]
          rfl
        rw [numbered, List.filterMap_cons_some hplace]
        exact congrArg (Sum.inr v :: ·) hrest
  rw [fill, lex_text h]
  exact put fs []

end Fragment

end Forum.Sql
