import Forum.Proofs.JsonIntegers

/-!
# JSON texts are read back

The compact text of a value is read as the document of that value.

* `unit_escapeChar`, `quoted_flatMap`: a character and a text inside quotes;
* `Json.Integral`: a value whose numbers are integers in range;
* **`value_render`**: the text of such a value, at the start of a longer text;
* **`ofOctets_render`**: all of a text, as octets.
-/

namespace Forum.Json

open Text

namespace Doc

variable {rest : List Char}

/-! ## Quoted texts -/

theorem hexValue_hexDigit : ∀ n < 16, Percent.hexValue (hexDigit n) = some n := by decide

theorem hex4?_hexDigit {n : Nat} (h : n < 32) :
    hex4? '0' '0' (hexDigit (n / 16)) (hexDigit (n % 16)) = some n := by
  have hzero : Percent.hexValue '0' = some 0 := by decide
  have hvalue : ((0 * 16 + 0) * 16 + n / 16) * 16 + n % 16 = n := by omega
  simp only [hex4?, hzero, hexValue_hexDigit (n / 16) (by omega),
    hexValue_hexDigit (n % 16) (by omega), Option.bind_eq_bind, Option.bind_some, Option.pure_def,
    hvalue]

theorem unit_control {c : Char} (h : c.toNat < 32) :
    unit ('\\' :: 'u' :: '0' :: '0' :: hexDigit (c.toNat / 16) :: hexDigit (c.toNat % 16) :: rest) =
      (.char c, rest) := by
  rw [unit, hex4?_hexDigit h]
  dsimp only
  rw [if_pos (by omega), Char.ofNat_toNat]

/-- **A character inside quotes** is read as that character. -/
theorem unit_escapeChar (c : Char) : unit (escapeChar c ++ rest) = (.char c, rest) := by
  have hchar : ∀ {n : Nat}, c.toNat = n → c = Char.ofNat n := fun h => by
    rw [← h, Char.ofNat_toNat]
  unfold escapeChar
  split_ifs with hquote hslash hcontrol
  · rw [hquote]
    rfl
  · rw [hslash]
    rfl
  · split
    · next h => rw [hchar h]; rfl
    · next h => rw [hchar h]; rfl
    · next h => rw [hchar h]; rfl
    · next h => rw [hchar h]; rfl
    · next h => rw [hchar h]; rfl
    · exact unit_control hcontrol
  · simp [unit, hslash, hcontrol]

theorem quoted_flatMap (s acc rest : List Char) {fuel : Nat} (h : s.length < fuel) :
    quoted fuel true acc (s.flatMap escapeChar ++ '"' :: rest) =
      some (some (String.ofList (acc.reverse ++ s)), rest) := by
  induction s generalizing acc fuel with
  | nil =>
    obtain ⟨fuel, rfl⟩ := Nat.exists_eq_add_one_of_ne_zero (Nat.ne_of_gt h)
    rw [List.append_nil]
    rfl
  | cons c s ih =>
    obtain ⟨fuel, rfl⟩ := Nat.exists_eq_add_one_of_ne_zero (Nat.ne_of_gt (Nat.zero_lt_of_lt h))
    rw [List.flatMap_cons, List.append_assoc, quoted, unit_escapeChar]
    dsimp only
    rw [ih (c :: acc) (by simpa using h), List.reverse_cons, List.append_assoc]
    rfl

end Doc

/-! ## Values -/

mutual

/-- Every number of the value is an integer of 64 bits. -/
def Integral : Json → Prop
  | .number (.int n) => Width.int64.lo ≤ n ∧ n ≤ Width.int64.hi
  | .number (.float _) => False
  | .list xs => IntegralItems xs
  | .members ms => IntegralMembers ms
  | .null | .bool _ | .text _ => True

/-- `Integral` for all of a list. -/
def IntegralItems : List Json → Prop
  | [] => True
  | x :: xs => Integral x ∧ IntegralItems xs

/-- `Integral` for all members of an object. -/
def IntegralMembers : List (String × Json) → Prop
  | [] => True
  | (_, x) :: ms => Integral x ∧ IntegralMembers ms

end

namespace Doc

theorem skip_cons {c : Char} {s : List Char} (h : isSpace c = false) : skip (c :: s) = c :: s :=
  List.dropWhile_cons_of_neg (by simp [h])

theorem endsNumber_cons {c : Char} {s : List Char} (h : c = ',' ∨ c = ']' ∨ c = '}') :
    EndsNumber (c :: s) := by
  rintro _ ⟨⟩
  rcases h with rfl | rfl | rfl <;> decide

theorem render_cons {v : Json} (h : v.Integral) :
    ∃ c s, v.render = c :: s ∧ isSpace c = false ∧ c ≠ ']' := by
  cases v with
  | null => exact ⟨_, _, rfl, rfl, by decide⟩
  | bool b => cases b <;> exact ⟨_, _, rfl, rfl, by decide⟩
  | text s => exact ⟨_, _, rfl, rfl, by decide⟩
  | list xs => exact ⟨_, _, rfl, rfl, by decide⟩
  | members ms => exact ⟨_, _, rfl, rfl, by decide⟩
  | number n =>
    cases n with
    | float x => exact h.elim
    | int n =>
      obtain ⟨c, s, hs, hc⟩ := decimal_cons n
      refine ⟨c, s, hs, ?_, ?_⟩
      · rcases hc with rfl | hc
        · rfl
        · have hother := not_mem_otherStarts (.inr hc)
          simp only [otherStarts, List.mem_cons, not_or] at hother
          simp [isSpace, hother]
      · rintro rfl
        rcases hc with hc | hc <;> exact absurd hc (by decide)

theorem escapeChar_ne_nil (c : Char) : escapeChar c ≠ [] := by
  unfold escapeChar
  split_ifs
  · exact List.cons_ne_nil _ _
  · exact List.cons_ne_nil _ _
  · split <;> exact List.cons_ne_nil _ _
  · exact List.cons_ne_nil _ _

theorem length_lt_quote (s : List Char) : s.length + 1 < (quote s).length := by
  have hle : s.length ≤ (s.flatMap escapeChar).length := by
    induction s with
    | nil => exact Nat.le_refl 0
    | cons c s ih =>
      rw [List.flatMap_cons, List.length_append, List.length_cons]
      have := List.length_pos_iff.mpr (escapeChar_ne_nil c)
      omega
  simp only [quote, List.length_cons, List.length_append, List.length_nil]
  omega

theorem value_quote (s : List Char) {fuel : Nat} (h : s.length < fuel) :
    value (fuel + 1) (quote s ++ rest) = (text (some (String.ofList s)), some rest) := by
  have hquote : quote s ++ rest = '"' :: (s.flatMap escapeChar ++ '"' :: rest) := by
    simp [quote]
  have hquoted := quoted_flatMap s [] rest h
  rw [hquote, value, skip_cons rfl]
  simp [hquoted]

open Json.render (renderItems renderMembers)

theorem renderItems_cons {x : Json} (xs : List Json) (h : x.Integral) :
    ∃ c s, renderItems (x :: xs) = c :: s ∧ isSpace c = false ∧ c ≠ ']' := by
  obtain ⟨c, s, hs, hc⟩ := render_cons h
  cases xs with
  | nil => exact ⟨c, s, hs, hc⟩
  | cons y ys => exact ⟨c, s ++ ',' :: renderItems (y :: ys), by simp [renderItems, hs], hc⟩

theorem renderMembers_cons (n : String) (x : Json) (ms : List (String × Json)) :
    ∃ s, renderMembers ((n, x) :: ms) = '"' :: s := by
  cases ms with
  | nil => exact ⟨_, rfl⟩
  | cons m ms => exact ⟨_, rfl⟩

theorem members_member (n : String) {v : List Char} {d : Doc} {fuel : Nat}
    (hn : n.toList.length < fuel) :
    (∀ s, value fuel v = (d, some (',' :: s)) →
      members (fuel + 1) (quote n.toList ++ ':' :: v) =
        ((some n, d) :: (members fuel s).1, (members fuel s).2.1, (members fuel s).2.2)) ∧
    ∀ s, value fuel v = (d, some ('}' :: s)) →
      members (fuel + 1) (quote n.toList ++ ':' :: v) = ([(some n, d)], .closed, some s) := by
  have hquote : quote n.toList ++ ':' :: v =
      '"' :: (n.toList.flatMap escapeChar ++ '"' :: ':' :: v) := by
    simp [quote]
  have hquoted := quoted_flatMap n.toList [] (':' :: v) hn
  rw [List.reverse_nil, List.nil_append, String.ofList_toList] at hquoted
  have hcolon : skip (':' :: v) = ':' :: v := skip_cons rfl
  rw [hquote, members, skip_cons rfl]
  constructor
  · intro s hv
    have hcomma : skip (',' :: s) = ',' :: s := skip_cons rfl
    simp only [hquoted, hcolon, hv, hcomma]
  · intro s hv
    have hbrace : skip ('}' :: s) = '}' :: s := skip_cons rfl
    simp only [hquoted, hcolon, hv, hbrace]

mutual

/-- **The text of a value** is read as its document, whatever follows. The fuel goes by the length
of the text, as it does in `ofText`. -/
theorem value_render (v : Json) (fuel : Nat) (rest : List Char) (hv : v.Integral)
    (hrest : EndsNumber rest) (hfuel : 2 * v.render.length ≤ fuel) :
    value fuel (v.render ++ rest) = (ofJson v, some rest) := by
  obtain ⟨c, s, hs, -⟩ := render_cons hv
  obtain ⟨fuel, rfl⟩ : ∃ f, fuel = f + 1 :=
    Nat.exists_eq_add_one_of_ne_zero (by simp only [hs, List.length_cons] at hfuel; omega)
  cases v with
  | null => rfl
  | bool b => cases b <;> rfl
  | number n =>
    cases n with
    | float x => exact hv.elim
    | int n => exact value_decimal fuel hv hrest
  | text s =>
    have hlength := length_lt_quote s.toList
    rw [render] at hfuel ⊢
    rw [value_quote s.toList (by omega), String.ofList_toList]
    rfl
  | list xs =>
    cases xs with
    | nil => rfl
    | cons x xs =>
      have hlist : render (.list (x :: xs)) = '[' :: renderItems (x :: xs) ++ [']'] := rfl
      rw [hlist] at hfuel ⊢
      have hitems := items_render x xs fuel rest hv.1 hv.2 (by
        simp only [List.length_append, List.length_cons, List.length_nil] at hfuel
        omega)
      obtain ⟨c, s, hs, hspace, hclose⟩ := renderItems_cons xs hv.1
      simp only [List.cons_append, List.append_assoc, List.nil_append, hs] at hitems ⊢
      rw [value, skip_cons rfl]
      simp [skip_cons hspace, hclose, hitems, ofJson]
  | members ms =>
    cases ms with
    | nil => rfl
    | cons m ms =>
      obtain ⟨n, x⟩ := m
      have hobject : render (.members ((n, x) :: ms)) =
        '{' :: renderMembers ((n, x) :: ms) ++ ['}'] := rfl
      rw [hobject] at hfuel ⊢
      have hmembers := members_render n x ms fuel rest hv.1 hv.2 (by
        simp only [List.length_append, List.length_cons, List.length_nil] at hfuel
        omega)
      obtain ⟨s, hs⟩ := renderMembers_cons n x ms
      simp only [List.cons_append, List.append_assoc, List.nil_append, hs] at hmembers ⊢
      rw [value, skip_cons rfl]
      simp [skip_cons, isSpace, hmembers, ofJson]
termination_by fuel

theorem items_render (x : Json) (xs : List Json) (fuel : Nat) (rest : List Char)
    (hx : x.Integral) (hxs : IntegralItems xs)
    (hfuel : 2 * (renderItems (x :: xs)).length + 1 ≤ fuel) :
    items fuel (renderItems (x :: xs) ++ ']' :: rest) = (ofJson.ofItems (x :: xs), some rest) := by
  obtain ⟨fuel, rfl⟩ : ∃ f, fuel = f + 1 :=
    Nat.exists_eq_add_one_of_ne_zero (by omega)
  cases xs with
  | nil =>
    have hvalue := value_render x fuel (']' :: rest) hx
      (endsNumber_cons (.inr (.inl rfl))) (by simpa [renderItems] using hfuel)
    rw [renderItems, items, hvalue]
    rfl
  | cons y ys =>
    have htext : renderItems (x :: y :: ys) = x.render ++ ',' :: renderItems (y :: ys) := rfl
    rw [htext, List.length_append, List.length_cons] at hfuel
    have hvalue := value_render x fuel (',' :: (renderItems (y :: ys) ++ ']' :: rest)) hx
      (endsNumber_cons (.inl rfl)) (by omega)
    have hitems := items_render y ys fuel rest hxs.1 hxs.2 (by omega)
    rw [htext, List.append_assoc, List.cons_append, items, hvalue]
    dsimp only
    rw [skip_cons rfl]
    simp only [hitems]
    rfl
termination_by fuel

theorem members_render (n : String) (x : Json) (ms : List (String × Json)) (fuel : Nat)
    (rest : List Char) (hx : x.Integral) (hms : IntegralMembers ms)
    (hfuel : 2 * (renderMembers ((n, x) :: ms)).length + 1 ≤ fuel) :
    members fuel (renderMembers ((n, x) :: ms) ++ '}' :: rest) =
      (ofJson.ofMembers ((n, x) :: ms), .closed, some rest) := by
  obtain ⟨fuel, rfl⟩ : ∃ f, fuel = f + 1 :=
    Nat.exists_eq_add_one_of_ne_zero (by omega)
  have hlength := length_lt_quote n.toList
  cases ms with
  | nil =>
    have htext : renderMembers [(n, x)] = quote n.toList ++ ':' :: x.render := rfl
    simp only [htext, List.length_append, List.length_cons] at hfuel
    have hvalue := value_render x fuel ('}' :: rest) hx
      (endsNumber_cons (.inr (.inr rfl))) (by omega)
    rw [htext, List.append_assoc, List.cons_append, (members_member n (by omega)).2 _ hvalue]
    rfl
  | cons m ms =>
    obtain ⟨k, y⟩ := m
    have htext : renderMembers ((n, x) :: (k, y) :: ms) =
      quote n.toList ++ ':' :: x.render ++ ',' :: renderMembers ((k, y) :: ms) := rfl
    simp only [htext, List.length_append, List.length_cons] at hfuel
    have hvalue := value_render x fuel (',' :: (renderMembers ((k, y) :: ms) ++ '}' :: rest)) hx
      (endsNumber_cons (.inl rfl)) (by omega)
    have hmembers := members_render k y ms fuel rest hms.1 hms.2 (by omega)
    rw [htext, List.append_assoc, List.append_assoc, List.cons_append, List.cons_append,
      (members_member n (by omega)).1 _ hvalue, hmembers]
    rfl
termination_by fuel

end

theorem ofText_render {v : Json} (h : v.Integral) : ofText v.render = (ofJson v, true) := by
  have hvalue := value_render v (2 * v.render.length + 2) [] h endsNumber_nil (by omega)
  rw [List.append_nil] at hvalue
  rw [ofText, hvalue]
  rfl

theorem decodeStart_encode (s : List Char) : Utf8.decodeStart (Utf8.encode s) = (s, false) := by
  have hchars : (s.map some).takeWhile Option.isSome = s.map some :=
    List.takeWhile_eq_self_iff.mpr fun o ho => by
      obtain ⟨c, -, rfl⟩ := List.mem_map.mp ho
      rfl
  rw [Utf8.decodeStart, Utf8.pieces_encode, hchars]
  simp [Function.comp_def]

/-- **A rendered value is read back**: the octets of its text are its document, and nothing else
follows. -/
theorem ofOctets_render {v : Json} (h : v.Integral) :
    ofOctets (Utf8.encode v.render) = (ofJson v, true) := by
  rw [ofOctets, decodeStart_encode]
  dsimp only
  rw [ofText_render h]
  rfl

end Doc

end Forum.Json
