import Forum.Proofs.Decimal
import Forum.Proofs.Spelling
import Forum.Search.Query

/-!
# The criteria of a query as a grammar

* `ReadsNumber`, `ReadsValue`: a keyword with an integer, and with one of some values;
* `SearchForm.Reads`: the texts that have a form, with its argument and the words after it;
* `nonempty?_eq_some_iff`, `wordsAfter?_eq_some_iff`: the parts that the forms share;
* `keywordNumber?_iff`, `keywordValue?_iff`: the two kinds of criteria with a keyword and a value;
* **`split?_reads`**: each form is found in a query exactly where the grammar has it.
-/

namespace Forum

open Text

namespace SearchForm

/-! ## The grammar -/

/-- A keyword and an integer of 64 bits in decimal digits, which end there. The argument is the
integer's usual text. -/
def ReadsNumber (keyword : String) (withSign : Bool) (t arg words : List Char) : Prop :=
  ∃ (spelt sign digits tail : List Char) (n : Int), t = spelt ++ (sign ++ (digits ++ tail)) ∧
    Spells keyword spelt ∧ digits ≠ [] ∧ (∀ c ∈ digits, c.isDigit = true) ∧
    (sign = [] ∧ n = digitsValue digits ∨
      withSign = true ∧ sign = ['-'] ∧ n = -digitsValue digits) ∧
    (-2 ^ 63 ≤ n ∧ n < 2 ^ 63) ∧ arg = decimal n ∧ Ended tail words

/-- A keyword and one of some values, which ends there. The argument is the value as it stands,
with the 26 capitals made small. -/
def ReadsValue (keyword : String) (values : List String) (t arg words : List Char) : Prop :=
  ∃ spelt value tail, t = spelt ++ (value ++ tail) ∧ Spells keyword spelt ∧
    (∃ v ∈ values, Spells v value) ∧ arg = value.map lowerAscii ∧ Ended tail words

/-- The texts with a form, its argument and the words after it. -/
def Reads : SearchForm → (t arg words : List Char) → Prop
  | tag, t, arg, words => ∃ tail, t = '[' :: (arg ++ ']' :: tail) ∧ arg ≠ [] ∧
      (∀ c ∈ arg, c ≠ '[' ∧ c ≠ ']' ∧ isBlank c = false) ∧ Spaced tail words
  | author, t, arg, words => ∃ spelt tail, t = spelt ++ (arg ++ tail) ∧ Spells "user:" spelt ∧
      arg ≠ [] ∧ (∀ c ∈ arg, isBlank c = false) ∧ (∀ c ∈ tail.head?, isBlank c = true) ∧
      Spaced tail words
  | score, t, arg, words => ReadsNumber "score:" true t arg words
  | answerCount, t, arg, words => ReadsNumber "answers:" false t arg words
  | accepted, t, arg, words => ReadsValue "isaccepted:" ["yes", "no"] t arg words
  | hasAccepted, t, arg, words => ReadsValue "hasaccepted:" ["yes", "no"] t arg words
  | isQuestion, t, arg, words => ReadsValue "is:" ["question"] t arg words
  | isAnswer, t, arg, words => ReadsValue "is:" ["answer"] t arg words
  | quote, t, arg, words => ∃ tail, t = '"' :: (arg ++ '"' :: tail) ∧ arg ≠ [] ∧
      (∀ c ∈ arg, c ≠ '"') ∧ Spaced tail words
  | plain, t, arg, words => arg = [] ∧ words = t

/-! ## What the forms share -/

variable {s t e arg words rest : List Char} {p : Char → Bool}

theorem nonempty?_eq_some_iff : nonempty? p s = some (e, rest) ↔
    s = e ++ rest ∧ e ≠ [] ∧ (∀ c ∈ e, p c = true) ∧ ∀ c ∈ rest.head?, p c = false := by
  have hrun : s.takeWhile p = e ∧ s.dropWhile p = rest ↔ _ := takeWhile_dropWhile_iff
  unfold nonempty?
  dsimp only
  constructor
  · intro h
    split at h
    · cases h
    · next hne =>
      cases h
      obtain ⟨hs, hall, hhead⟩ := hrun.mp ⟨rfl, rfl⟩
      exact ⟨hs, by simpa using hne, hall, hhead⟩
  · rintro ⟨hs, hne, hall, hhead⟩
    obtain ⟨he, hrest⟩ := hrun.mpr ⟨hs, hall, hhead⟩
    rw [he, hrest, if_neg (by simpa using hne)]

theorem wordsAfter?_eq_some_iff (h : Closed s) : wordsAfter? s = some words ↔ Ended s words := by
  cases s with
  | nil => rw [wordsAfter?, ended_nil, Option.some.injEq, eq_comm]
  | cons c s =>
    rw [wordsAfter?, ended_cons, ← trim_eq_iff h.of_cons]
    split
    · next hc => simp [hc]
    · next hc => simp [hc]

/-! ## A keyword and a number -/

theorem not_isDigit_of_isBlank {c : Char} (h : isBlank c = true) : c.isDigit = false := by
  by_contra hdigit
  obtain ⟨hlo, hhi⟩ := isDigit_iff.mp (Bool.not_eq_false _ ▸ hdigit)
  obtain ⟨n, hn, rfl⟩ : ∃ n < 10, c = Char.ofNat (48 + n) := exists_ofNat hlo (by omega)
  clear hdigit hlo hhi
  revert n
  decide

/-- The digits at the start of a text, which end there, read with a sign in front of them. -/
def numberAfter? (sign s : List Char) : Option (List Char × List Char) :=
  if (s.takeWhile Char.isDigit).isEmpty then none
  else
    (wordsAfter? (s.dropWhile Char.isDigit)).bind fun words =>
      (Width.int64.read (sign ++ s.takeWhile Char.isDigit)).bind fun n => some (decimal n, words)

theorem numberAfter?_eq_some_iff {sign : List Char} (h : Closed s) :
    numberAfter? sign s = some (arg, words) ↔ ∃ digits tail n, s = digits ++ tail ∧
      digits ≠ [] ∧ (∀ c ∈ digits, c.isDigit = true) ∧
      Width.int64.read (sign ++ digits) = some n ∧ arg = decimal n ∧ Ended tail words := by
  unfold numberAfter?
  constructor
  · intro hs
    split at hs
    · cases hs
    · next hne =>
      obtain ⟨words, hwords, hs⟩ := Option.bind_eq_some_iff.mp hs
      obtain ⟨n, hn, hs⟩ := Option.bind_eq_some_iff.mp hs
      cases hs
      have hclosed : Closed (s.dropWhile Char.isDigit) :=
        h.of_suffix (List.dropWhile_suffix _)
      exact ⟨_, _, n, List.takeWhile_append_dropWhile.symm, by simpa using hne,
        fun c => List.mem_takeWhile_imp, hn, rfl, (wordsAfter?_eq_some_iff hclosed).mp hwords⟩
  · rintro ⟨digits, tail, n, rfl, hne, hdigits, hn, rfl, hended⟩
    obtain ⟨htake, hdrop⟩ := takeWhile_dropWhile_iff.mpr
      ⟨rfl, hdigits, hended.head? fun c => not_isDigit_of_isBlank⟩
    have hwords := (wordsAfter?_eq_some_iff h.of_append).mpr hended
    rw [htake, hdrop, if_neg (by simpa using hne), hwords, Option.bind_some, hn]
    rfl

theorem fit_int64_iff {k n : Int} :
    Width.int64.fit k = some n ↔ n = k ∧ -2 ^ 63 ≤ n ∧ n < 2 ^ 63 := by
  rw [Width.fit_eq_some_iff]
  simp only [Width.int64]
  omega

/-- The minus sign at the start of a text, where one may stand. -/
def takeSign (withSign : Bool) (s : List Char) : List Char × List Char :=
  match withSign, s with
  | true, '-' :: s => (['-'], s)
  | _, s => ([], s)

theorem keywordNumber?_eq (keyword : String) (withSign : Bool) (s : List Char) :
    keywordNumber? keyword withSign s = (matchFolded keyword.toList s).bind fun s =>
      numberAfter? (takeSign withSign s).1 (takeSign withSign s).2 := rfl

theorem takeSign_append {withSign : Bool} {sign digits tail : List Char} (hne : digits ≠ [])
    (hdigits : ∀ c ∈ digits, c.isDigit = true)
    (hsign : sign = [] ∨ withSign = true ∧ sign = ['-']) :
    takeSign withSign (sign ++ (digits ++ tail)) = (sign, digits ++ tail) := by
  rcases hsign with rfl | ⟨rfl, rfl⟩
  · obtain ⟨d, ds, rfl⟩ := List.exists_cons_of_ne_nil hne
    have hd : d ≠ '-' := by
      rintro rfl
      exact absurd (hdigits '-' List.mem_cons_self) (by decide)
    unfold takeSign
    split
    · next heq =>
      cases heq
      exact absurd rfl hd
    · rfl
  · rfl

theorem takeSign_spec (withSign : Bool) (s : List Char) :
    s = (takeSign withSign s).1 ++ (takeSign withSign s).2 ∧
      ((takeSign withSign s).1 = [] ∨ withSign = true ∧ (takeSign withSign s).1 = ['-']) := by
  unfold takeSign
  split
  · exact ⟨rfl, .inr ⟨rfl, rfl⟩⟩
  · exact ⟨rfl, .inl rfl⟩

theorem readsNumber_iff {keyword : String} {withSign : Bool} :
    ReadsNumber keyword withSign t arg words ↔ ∃ spelt s, t = spelt ++ s ∧ Spells keyword spelt ∧
      ∃ sign digits tail n, s = sign ++ (digits ++ tail) ∧ digits ≠ [] ∧
        (∀ c ∈ digits, c.isDigit = true) ∧ (sign = [] ∨ withSign = true ∧ sign = ['-']) ∧
        Width.int64.read (sign ++ digits) = some n ∧ arg = decimal n ∧ Ended tail words := by
  constructor
  · rintro ⟨spelt, sign, digits, tail, n, rfl, hspelt, hne, hdigits, hsign, hbounds, rfl, hended⟩
    refine ⟨spelt, _, rfl, hspelt, sign, digits, tail, n, rfl, hne, hdigits, ?_, ?_, rfl, hended⟩
    · exact hsign.imp And.left fun h => ⟨h.1, h.2.1⟩
    · rcases hsign with ⟨rfl, hn⟩ | ⟨-, rfl, hn⟩
      · exact (Width.read_digits hne hdigits).trans (fit_int64_iff.mpr ⟨hn, hbounds⟩)
      · exact (Width.read_minus (by decide) hne hdigits).trans (fit_int64_iff.mpr ⟨hn, hbounds⟩)
  · rintro ⟨spelt, s, rfl, hspelt, sign, digits, tail, n, rfl, hne, hdigits, hsign, hread, rfl,
      hended⟩
    rcases hsign with rfl | ⟨hwith, rfl⟩
    · rw [List.nil_append, Width.read_digits hne hdigits, fit_int64_iff] at hread
      exact ⟨spelt, [], digits, tail, n, rfl, hspelt, hne, hdigits, .inl ⟨rfl, hread.1⟩, hread.2,
        rfl, hended⟩
    · rw [List.singleton_append, Width.read_minus (by decide) hne hdigits, fit_int64_iff] at hread
      exact ⟨spelt, ['-'], digits, tail, n, rfl, hspelt, hne, hdigits,
        .inr ⟨hwith, rfl, hread.1⟩, hread.2, rfl, hended⟩

theorem keywordNumber?_iff (keyword : String) (withSign : Bool) (hkeyword : IsKeyword keyword)
    (h : Closed t) :
    keywordNumber? keyword withSign t = some (arg, words) ↔
      ReadsNumber keyword withSign t arg words := by
  rw [keywordNumber?_eq, readsNumber_iff, Option.bind_eq_some_iff]
  simp only [matchFolded_iff hkeyword]
  constructor
  · rintro ⟨s, ⟨spelt, rfl, hspelt⟩, hs⟩
    obtain ⟨hsplit, hsign⟩ := takeSign_spec withSign s
    have hclosed : Closed (takeSign withSign s).2 := (hsplit ▸ h.of_append).of_append
    obtain ⟨digits, tail, n, htail, hne, hdigits, hn, harg, hended⟩ :=
      (numberAfter?_eq_some_iff hclosed).mp hs
    exact ⟨spelt, s, rfl, hspelt, _, digits, tail, n, htail ▸ hsplit, hne, hdigits, hsign, hn,
      harg, hended⟩
  · rintro ⟨spelt, s, rfl, hspelt, sign, digits, tail, n, rfl, hne, hdigits, hsign, hn, harg,
      hended⟩
    refine ⟨_, ⟨spelt, rfl, hspelt⟩, ?_⟩
    rw [takeSign_append hne hdigits hsign, numberAfter?_eq_some_iff h.of_append.of_append]
    exact ⟨digits, tail, n, rfl, hne, hdigits, hn, harg, hended⟩

/-! ## A keyword and a value -/

/-- A value at the start of a text, which ends there. -/
def valueAfter? (v : String) (s : List Char) : Option (List Char × List Char) :=
  (matchFolded v.toList s).bind fun rest => (wordsAfter? rest).bind fun words =>
    some ((s.take v.length).map lowerAscii, words)

theorem keywordValue?_eq (keyword : String) (values : List String) (s : List Char) :
    keywordValue? keyword values s = (matchFolded keyword.toList s).bind fun s =>
      values.findSome? fun v => valueAfter? v s := rfl

theorem length_of_spells {v : String} {value : List Char} (h : Spells v value) :
    value.length = v.length := by
  rw [← h.length_eq, String.length_toList]

theorem valueAfter?_eq_some_iff {v : String} (hv : IsKeyword v) (h : Closed s) :
    valueAfter? v s = some (arg, words) ↔ ∃ value tail, s = value ++ tail ∧ Spells v value ∧
      arg = value.map lowerAscii ∧ Ended tail words := by
  unfold valueAfter?
  constructor
  · intro hs
    obtain ⟨tail, htail, hs⟩ := Option.bind_eq_some_iff.mp hs
    obtain ⟨words, hwords, hs⟩ := Option.bind_eq_some_iff.mp hs
    obtain ⟨value, rfl, hvalue⟩ := (matchFolded_iff hv).mp htail
    cases hs
    refine ⟨value, tail, rfl, hvalue, ?_, (wordsAfter?_eq_some_iff h.of_append).mp hwords⟩
    rw [← length_of_spells hvalue, List.take_left]
  · rintro ⟨value, tail, rfl, hvalue, rfl, hended⟩
    rw [(matchFolded_iff hv).mpr ⟨value, rfl, hvalue⟩, Option.bind_some,
      (wordsAfter?_eq_some_iff h.of_append).mpr hended, Option.bind_some,
      ← length_of_spells hvalue, List.take_left]

theorem value_of_ended {v : String} {value tail : List Char} (hv : IsKeyword v)
    (hvalue : Spells v value) (hended : Ended tail words) :
    (value ++ tail).takeWhile (fun c => !isBlank c) = value ∧
      (value ++ tail).dropWhile (fun c => !isBlank c) = tail := by
  refine takeWhile_dropWhile_iff.mpr ⟨rfl, fun c hc => ?_, hended.head? fun c hc => ?_⟩
  · rw [isBlank_of_spells hv hvalue c hc]
    rfl
  · rw [hc]
    rfl

/-- Whichever value is found, the argument and the words are the same. -/
theorem valueAfter?_unique {v v' : String} (hv : IsKeyword v) (hv' : IsKeyword v') (h : Closed s)
    {a b : List Char × List Char} (ha : valueAfter? v s = some a) (hb : valueAfter? v' s = some b) :
    a = b := by
  obtain ⟨arg, words⟩ := a
  obtain ⟨arg', words'⟩ := b
  obtain ⟨value, tail, rfl, hvalue, rfl, hended⟩ := (valueAfter?_eq_some_iff hv h).mp ha
  obtain ⟨value', tail', hs, hvalue', rfl, hended'⟩ := (valueAfter?_eq_some_iff hv' h).mp hb
  obtain ⟨htake, hdrop⟩ := value_of_ended hv hvalue hended
  obtain ⟨htake', hdrop'⟩ := value_of_ended hv' hvalue' hended'
  rw [← hs, htake] at htake'
  rw [← hs, hdrop] at hdrop'
  subst htake' hdrop'
  have hwords := (wordsAfter?_eq_some_iff h.of_append).mpr hended
  rw [(wordsAfter?_eq_some_iff h.of_append).mpr hended', Option.some.injEq] at hwords
  rw [hwords]

theorem findSome?_iff_of_unique {α β : Type} {f : α → Option β} {l : List α} {b : β}
    (h : ∀ a ∈ l, ∀ a' ∈ l, ∀ b b', f a = some b → f a' = some b' → b = b') :
    l.findSome? f = some b ↔ ∃ a ∈ l, f a = some b := by
  refine ⟨List.exists_of_findSome?_eq_some, ?_⟩
  rintro ⟨a, ha, hb⟩
  obtain ⟨b', hb'⟩ := Option.isSome_iff_exists.mp
    (List.findSome?_isSome_iff.mpr ⟨a, ha, Option.isSome_iff_exists.mpr ⟨b, hb⟩⟩)
  obtain ⟨a', ha', hfound⟩ := List.exists_of_findSome?_eq_some hb'
  rw [hb', h a' ha' a ha b' b hfound hb]

theorem keywordValue?_iff (keyword : String) (values : List String)
    (hkeyword : IsKeyword keyword) (hvalues : ∀ v ∈ values, IsKeyword v) (h : Closed t) :
    keywordValue? keyword values t = some (arg, words) ↔
      ReadsValue keyword values t arg words := by
  rw [keywordValue?_eq, Option.bind_eq_some_iff]
  simp only [matchFolded_iff hkeyword]
  have found {s : List Char} (hs : Closed s) : (values.findSome? fun v => valueAfter? v s) =
      some (arg, words) ↔ ∃ v ∈ values, valueAfter? v s = some (arg, words) :=
    findSome?_iff_of_unique fun v hv v' hv' _ _ =>
      valueAfter?_unique (hvalues v hv) (hvalues v' hv') hs
  constructor
  · rintro ⟨s, ⟨spelt, rfl, hspelt⟩, hs⟩
    obtain ⟨v, hv, hs⟩ := (found h.of_append).mp hs
    obtain ⟨value, tail, rfl, hvalue, harg, hended⟩ :=
      (valueAfter?_eq_some_iff (hvalues v hv) h.of_append).mp hs
    exact ⟨spelt, value, tail, rfl, hspelt, ⟨v, hv, hvalue⟩, harg, hended⟩
  · rintro ⟨spelt, value, tail, rfl, hspelt, ⟨v, hv, hvalue⟩, harg, hended⟩
    refine ⟨value ++ tail, ⟨spelt, rfl, hspelt⟩, (found h.of_append).mpr ⟨v, hv, ?_⟩⟩
    exact (valueAfter?_eq_some_iff (hvalues v hv) h.of_append).mpr
      ⟨value, tail, rfl, hvalue, harg, hended⟩

/-! ## The forms -/

/-- An argument and the character that closes it. -/
def enclosed? (p : Char → Bool) (close : Char) (s : List Char) :
    Option (List Char × List Char) :=
  (nonempty? p s).bind fun x =>
    if x.2.head? = some close then some (x.1, trim x.2.tail) else none

theorem enclosed?_eq_some_iff {close : Char} (hclose : p close = false) (h : Closed s) :
    enclosed? p close s = some (arg, words) ↔ ∃ tail, s = arg ++ close :: tail ∧ arg ≠ [] ∧
      (∀ c ∈ arg, p c = true) ∧ Spaced tail words := by
  unfold enclosed?
  constructor
  · intro hs
    obtain ⟨⟨e, rest⟩, hrun, hrest⟩ := Option.bind_eq_some_iff.mp hs
    obtain ⟨rfl, hne, hall, -⟩ := nonempty?_eq_some_iff.mp hrun
    split at hrest
    · next hhead =>
      obtain ⟨tail, rfl⟩ := List.head?_eq_some_iff.mp hhead
      cases hrest
      exact ⟨tail, rfl, hne, hall, (trim_eq_iff h.of_append.of_cons).mp rfl⟩
    · cases hrest
  · rintro ⟨tail, rfl, hne, hall, hspaced⟩
    have hhead : ∀ c ∈ (close :: tail).head?, p c = false := by
      rintro c ⟨⟩
      exact hclose
    rw [nonempty?_eq_some_iff.mpr ⟨rfl, hne, hall, hhead⟩, Option.bind_some, if_pos List.head?_cons,
      List.tail_cons, (trim_eq_iff h.of_append.of_cons).mpr hspaced]

/-- The characters of a tag. -/
def isTagChar (c : Char) : Bool := c ≠ '[' && c ≠ ']' && !isBlank c

theorem isTagChar_iff {c : Char} :
    isTagChar c = true ↔ c ≠ '[' ∧ c ≠ ']' ∧ isBlank c = false := by
  simp [isTagChar, and_assoc]

theorem splitTrimmed?_tag_cons (s : List Char) :
    tag.splitTrimmed? ('[' :: s) = enclosed? isTagChar ']' s := by
  refine congrArg (Option.bind _) (funext fun ⟨e, rest⟩ => ?_)
  cases rest with
  | nil => rfl
  | cons c tail =>
    by_cases hc : c = ']'
    · subst hc; rfl
    · simp [hc]

theorem splitTrimmed?_quote_cons (s : List Char) :
    quote.splitTrimmed? ('"' :: s) = enclosed? (· ≠ '"') '"' s := by
  change (nonempty? _ s).bind _ = (nonempty? _ s).bind _
  refine Option.bind_congr fun ⟨e, rest⟩ hrun => ?_
  obtain ⟨-, -, -, hhead⟩ := nonempty?_eq_some_iff.mp hrun
  cases rest with
  | nil => rfl
  | cons c tail =>
    -- A quotation goes on up to the next quotation mark, so nothing else follows it.
    obtain rfl : c = '"' := by simpa using hhead c rfl
    rfl

theorem splitTrimmed?_tag (h : Closed t) :
    tag.splitTrimmed? t = some (arg, words) ↔ tag.Reads t arg words := by
  cases t with
  | nil => simp [splitTrimmed?, Reads]
  | cons c s =>
    by_cases hc : c = '['
    · subst hc
      rw [splitTrimmed?_tag_cons, enclosed?_eq_some_iff (by decide) h.of_cons]
      simp only [isTagChar_iff, Reads, List.cons.injEq, true_and]
    · simp [splitTrimmed?, Reads, hc]

theorem splitTrimmed?_quote (h : Closed t) :
    quote.splitTrimmed? t = some (arg, words) ↔ quote.Reads t arg words := by
  cases t with
  | nil => simp [splitTrimmed?, Reads]
  | cons c s =>
    by_cases hc : c = '"'
    · subst hc
      rw [splitTrimmed?_quote_cons, enclosed?_eq_some_iff (by decide) h.of_cons]
      simp only [decide_eq_true_eq, Reads, List.cons.injEq, true_and]
    · simp [splitTrimmed?, Reads, hc]

theorem splitTrimmed?_author_eq (t : List Char) : author.splitTrimmed? t =
    (matchFolded "user:".toList t).bind fun s =>
      (nonempty? (fun c => !isBlank c) s).bind fun x => some (x.1, trim x.2) := rfl

theorem splitTrimmed?_author (h : Closed t) :
    author.splitTrimmed? t = some (arg, words) ↔ author.Reads t arg words := by
  have hkeyword : IsKeyword "user:" := by decide
  rw [splitTrimmed?_author_eq, Option.bind_eq_some_iff]
  simp only [matchFolded_iff hkeyword]
  constructor
  · rintro ⟨s, ⟨spelt, rfl, hspelt⟩, hs⟩
    obtain ⟨⟨e, rest⟩, hrun, hrest⟩ := Option.bind_eq_some_iff.mp hs
    obtain ⟨rfl, hne, hall, hhead⟩ := nonempty?_eq_some_iff.mp hrun
    cases hrest
    exact ⟨spelt, rest, rfl, hspelt, hne, fun c hc => by simpa using hall c hc,
      fun c hc => by simpa using hhead c hc, (trim_eq_iff h.of_append.of_append).mp rfl⟩
  · rintro ⟨spelt, tail, rfl, hspelt, hne, hall, hhead, hspaced⟩
    have hrun : nonempty? (fun c => !isBlank c) (arg ++ tail) = some (arg, tail) :=
      nonempty?_eq_some_iff.mpr ⟨rfl, hne, fun c hc => by simpa using hall c hc,
        fun c hc => by simpa using hhead c hc⟩
    refine ⟨_, ⟨spelt, rfl, hspelt⟩, ?_⟩
    rw [hrun, Option.bind_some, (trim_eq_iff h.of_append.of_append).mpr hspaced]

theorem splitTrimmed?_iff (f : SearchForm) (h : Closed t) :
    f.splitTrimmed? t = some (arg, words) ↔ f.Reads t arg words := by
  cases f with
  | tag => exact splitTrimmed?_tag h
  | author => exact splitTrimmed?_author h
  | score => exact keywordNumber?_iff "score:" true (by decide) h
  | answerCount => exact keywordNumber?_iff "answers:" false (by decide) h
  | accepted => exact keywordValue?_iff "isaccepted:" ["yes", "no"] (by decide) (by decide) h
  | hasAccepted => exact keywordValue?_iff "hasaccepted:" ["yes", "no"] (by decide) (by decide) h
  | isQuestion => exact keywordValue?_iff "is:" ["question"] (by decide) (by decide) h
  | isAnswer => exact keywordValue?_iff "is:" ["answer"] (by decide) (by decide) h
  | quote => exact splitTrimmed?_quote h
  | plain => simp [splitTrimmed?, Reads, eq_comm]

theorem split?_iff (f : SearchForm) (q arg words : String) :
    f.split? q = some (arg, words) ↔ f.Reads (trim q.toList) arg.toList words.toList := by
  obtain ⟨-, -, -, -, -, hclosed⟩ := isTrimmed_trim q.toList
  rw [← splitTrimmed?_iff f hclosed, split?, Option.map_eq_some_iff]
  constructor
  · rintro ⟨⟨a, w⟩, h, heq⟩
    cases heq
    rwa [String.toList_ofList, String.toList_ofList]
  · intro h
    exact ⟨_, h, Prod.ext String.ofList_toList String.ofList_toList⟩

/-- **Each form is found in a query exactly where the grammar has it.** Beside the blanks at its
ends, which are not part of it, a query is what the form's parts make up, and nothing of it is
lost. -/
theorem split?_reads (q : String) : ∃ t, IsTrimmed q.toList t ∧
    ∀ (f : SearchForm) (arg words : String),
      f.split? q = some (arg, words) ↔ f.Reads t arg.toList words.toList :=
  ⟨_, isTrimmed_trim q.toList, fun f arg words => split?_iff f q arg words⟩

example : score.split? " SCORE:-007\trust " = some ("-7", "rust") := by decide

end SearchForm

end Forum
