import Forum.Proofs.Arrangements
import Forum.Proofs.Matches
import Forum.Proofs.Results
import Forum.Proofs.Searches
import Mathlib.Data.List.Lex

/-!
# Reading all pages

What a search finds is read page by page. The statement for a page says by which columns its rows are
sorted, and rows that agree in these can come in any order, each time in another one.

* `Library.Answers`: the answers that the tables allow to the statements of a search;
* `Library.Returns`, **`returns_iff`**: the pages that a search can return;
* `Library.Reading`: all pages in turn, until there is no more;
* `perm_of_reading`, `reading_of_arranges`: readings that miss nothing;
* `Library.CutsTie`, **`reading_complete_iff`**: when every reading has everything once.
-/

namespace Forum

open Sql

namespace Library

variable (l : Library) (f : SearchFilter) (order : SearchOrder) {size : Nat}

/-! ## A page -/

/-- What a hit is sorted by. -/
def sortKey (h : Hit) : List Int := (l.row f.words h).sortKey order

/-- The answers that the tables allow to the statements of a search. A page is a part of any
arrangement of what matches. -/
def Answers : Exchange StorageOp.Answer → Prop
  | ⟨.run (.countMatches f), r⟩ =>
    ∃ o, r = .ok o ∧ o.rows = [[("count", .int64 (l.hits f).length)]]
  | ⟨.run (.pageOfMatches f order size start), r⟩ =>
    ∃ o hs, r = .ok o ∧ Arranges (l.sortKey f order) (l.hits f) hs ∧
      o.rows = ((hs.drop start.toNat).take size.toNat).map (l.row f.words)
  | _ => True

/-- A search can return these items and this total. -/
def Returns (page size : Int) (items : List SearchItem) (total : Int) : Prop :=
  ∃ t, (Storage.found f page size order).run.Plays t (.ok (items, total)) ∧ ∀ x ∈ t, l.Answers x

/-- The part of a list on a page; pages are counted from zero. -/
def slice (size i : Nat) (hs : List Hit) : List Hit := (hs.drop (i * size)).take size

end Library

namespace Storage

theorem pageStart_eq {size i : Nat} (h : ((i * size : Nat) : Int) ≤ Text.Width.int64.hi) :
    pageStart (i + 1 : Nat) size = (i * size : Nat) := by
  have hstart : max (((i + 1 : Nat) : Int) - 1) 0 * size = (i * size : Nat) := by
    rw [Int.natCast_add, Int.natCast_one, Int.add_sub_cancel, max_eq_left (Int.natCast_nonneg i),
      Int.natCast_mul]
  rw [pageStart, hstart]
  refine Text.Width.wrap_of_bounds ⟨?_, h⟩
  exact le_trans (by decide) (Int.natCast_nonneg (i * size))

end Storage

namespace Library

variable {l : Library} {f : SearchFilter} {order : SearchOrder} {items : List SearchItem}
  {total : Int} {size i : Nat} {hs hs' : List Hit}

open Storage

theorem mapM_ofRow (words : List String) (hs : List Hit) :
    (hs.map (l.row words)).mapM SearchItem.ofRow = .ok (hs.map Hit.item) := by
  refine mapM_eq_ok_iff.mpr ?_
  rw [List.forall₂_map_left_iff, List.forall₂_map_right_iff, List.forall₂_same]
  exact fun h _ => l.ofRow_row words h

theorem countOf_ok {o : Outcome} {n : Int} (h : o.rows = [[("count", .int64 n)]]) :
    countOf (.ok o) = .ok n := by
  obtain ⟨rows, affected⟩ := o
  obtain rfl : rows = _ := h
  rfl

theorem itemsOf_ok {o : Outcome} {words : List String} (h : o.rows = hs.map (l.row words)) :
    itemsOf (.ok o) = .ok (hs.map Hit.item) := by
  change ofStorage (o.rows.mapM SearchItem.ofRow) = _
  rw [h, mapM_ofRow]
  rfl

theorem total_of_answers {reply : Except StorageError Outcome}
    (h : l.Answers ⟨.run (.countMatches f), reply⟩) (htotal : countOf reply = .ok total) :
    total = (l.hits f).length := by
  obtain ⟨o, rfl, hrows⟩ := h
  rw [countOf_ok hrows] at htotal
  exact (Except.ok.inj htotal).symm

theorem arranges_of_returns (hi : ((i * size : Nat) : Int) ≤ Text.Width.int64.hi)
    (h : l.Returns f order (i + 1 : Nat) size items total) :
    total = (l.hits f).length ∧ ∃ hs, Arranges (l.sortKey f order) (l.hits f) hs ∧
      items = (slice size i hs).map Hit.item := by
  obtain ⟨t, hplays, hanswers⟩ := h
  cases plays_found.mp hplays with
  | nothing htotal =>
    have hzero := total_of_answers (hanswers _ List.mem_cons_self) htotal
    have hnil : l.hits f = [] :=
      List.length_eq_zero_iff.mp (Int.natCast_eq_zero.mp hzero.symm)
    refine ⟨hzero, [], ⟨?_, List.Pairwise.nil⟩, ?_⟩
    · rw [hnil]
    · simp [slice]
  | @paged reply reply' n _ htotal hzero hitems =>
    obtain ⟨o, hs, rfl, harranges, hrows⟩ :=
      hanswers _ (List.mem_cons_of_mem _ List.mem_cons_self)
    rw [pageStart_eq hi, Int.toNat_natCast, Int.toNat_natCast] at hrows
    have hread : itemsOf (.ok o) = .ok ((slice size i hs).map Hit.item) := itemsOf_ok hrows
    rw [hread] at hitems
    cases hitems
    exact ⟨total_of_answers (hanswers _ List.mem_cons_self) htotal, hs, harranges, rfl⟩

theorem returns_of_arranges (hi : ((i * size : Nat) : Int) ≤ Text.Width.int64.hi)
    (h : Arranges (l.sortKey f order) (l.hits f) hs) :
    l.Returns f order (i + 1 : Nat) size ((slice size i hs).map Hit.item) (l.hits f).length := by
  obtain ⟨o, hrows⟩ : ∃ o : Outcome, o.rows = [[("count", .int64 (l.hits f).length)]] :=
    ⟨{ rows := _ }, rfl⟩
  have hcount : l.Answers ⟨.run (.countMatches f), .ok o⟩ := ⟨o, rfl, hrows⟩
  by_cases hzero : l.hits f = []
  · have hnil : hs = [] := List.Perm.eq_nil (hzero ▸ h.perm)
    rw [hnil, hzero]
    rw [hzero] at hrows
    refine ⟨_, plays_found.mpr ?_, List.forall_mem_singleton.mpr hcount⟩
    simpa [slice] using SearchCourse.nothing (countOf_ok hrows)
  · obtain ⟨o', hrows'⟩ : ∃ o' : Outcome, o'.rows = (slice size i hs).map (l.row f.words) :=
      ⟨{ rows := _ }, rfl⟩
    have hpage : l.Answers
        ⟨.run (.pageOfMatches f order size (pageStart (i + 1 : Nat) size)), .ok o'⟩ := by
      refine ⟨o', hs, rfl, h, ?_⟩
      rw [pageStart_eq hi, Int.toNat_natCast, Int.toNat_natCast]
      exact hrows'
    have hne : ((l.hits f).length : Int) ≠ 0 :=
      Int.natCast_ne_zero.mpr (mt List.length_eq_zero_iff.mp hzero)
    have hitems : (itemsOf (.ok o')).map (·, ((l.hits f).length : Int)) =
        .ok ((slice size i hs).map Hit.item, ((l.hits f).length : Int)) := by
      rw [itemsOf_ok hrows']
      rfl
    refine ⟨_, plays_found.mpr (.paged (countOf_ok hrows) hne hitems), ?_⟩
    exact List.forall_mem_cons.mpr ⟨hcount, List.forall_mem_singleton.mpr hpage⟩

/-! ## All pages -/

/-- The items of all pages, from a page on, until the total is reached. Every page is asked for on
its own. -/
inductive Reading (l : Library) (f : SearchFilter) (order : SearchOrder) (size : Nat) :
    Nat → List SearchItem → Prop
  | last {page : Nat} {items : List SearchItem} {total : Int}
    (returned : l.Returns f order page size items total) (reached : total ≤ page * size) :
    Reading l f order size page items
  | more {page : Nat} {items rest : List SearchItem} {total : Int}
    (returned : l.Returns f order page size items total) (missing : page * size < total)
    (next : Reading l f order size (page + 1) rest) :
    Reading l f order size page (items ++ rest)

theorem slice_append_drop (size i : Nat) (hs : List Hit) :
    slice size i hs ++ hs.drop ((i + 1) * size) = hs.drop (i * size) := by
  rw [slice, Nat.add_mul, Nat.one_mul, ← List.drop_drop, List.take_append_drop]

theorem take_append_slice (size i : Nat) (hs : List Hit) :
    hs.take (i * size) ++ slice size i hs = hs.take ((i + 1) * size) := by
  rw [slice, Nat.add_mul, Nat.one_mul, List.take_add]

theorem slice_perm (h : Arranges (l.sortKey f order) (l.hits f) hs)
    (h' : Arranges (l.sortKey f order) (l.hits f) hs')
    (hno : ∀ i, ¬ CutsTie (l.sortKey f order) hs (i * size)) :
    (slice size i hs').Perm (slice size i hs) := by
  have hbefore := h.take_perm h' (hno i)
  have hafter := h.take_perm h' (hno (i + 1))
  rw [← take_append_slice, ← take_append_slice] at hafter
  exact (List.perm_append_left_iff _).mp ((hbefore.append_right _).trans hafter.symm)

/-- **A reading misses nothing** where no page cuts a tie. -/
theorem perm_of_reading (h : Arranges (l.sortKey f order) (l.hits f) hs)
    (hno : ∀ i, ¬ CutsTie (l.sortKey f order) hs (i * size)) {page : Nat}
    (hread : Reading l f order size page items) (hpage : page = i + 1)
    (hi : i * size ≤ (l.hits f).length) :
    items.Perm ((hs.drop (i * size)).map Hit.item) := by
  have hbound : ∀ j, j * size ≤ (l.hits f).length →
      ((j * size : Nat) : Int) ≤ Text.Width.int64.hi :=
    fun j hj => (Int.ofNat_le.mpr hj).trans (l.length_hits_le f)
  induction hread generalizing i with
  | last returned reached =>
    subst hpage
    obtain ⟨rfl, hs', h', rfl⟩ := arranges_of_returns (hbound i hi) returned
    have hend : hs.length ≤ (i + 1) * size := by
      rw [h.perm.length_eq]
      exact_mod_cast reached
    have hrest := slice_append_drop size i hs
    rw [List.drop_eq_nil_of_le hend, List.append_nil] at hrest
    rw [← hrest]
    exact (slice_perm h h' hno).map _
  | more returned missing next ih =>
    subst hpage
    obtain ⟨rfl, hs', h', rfl⟩ := arranges_of_returns (hbound i hi) returned
    have hnext : (i + 1) * size ≤ (l.hits f).length := by
      have : (((i + 1) * size : Nat) : Int) < (l.hits f).length := by exact_mod_cast missing
      omega
    rw [← slice_append_drop, List.map_append]
    exact ((slice_perm h h' hno).map _).append (ih rfl hnext)

theorem reading_of_arranges (h : Arranges (l.sortKey f order) (l.hits f) hs) (hsize : 0 < size)
    (hi : i * size ≤ (l.hits f).length) :
    Reading l f order size (i + 1) ((hs.drop (i * size)).map Hit.item) := by
  induction hleft : (l.hits f).length - i * size using Nat.strong_induction_on generalizing i with
  | _ left ih =>
  have hreturns := returns_of_arranges ((Int.ofNat_le.mpr hi).trans (l.length_hits_le f)) h
  rw [← slice_append_drop]
  by_cases hend : (l.hits f).length ≤ (i + 1) * size
  · rw [List.drop_eq_nil_of_le (h.perm.length_eq ▸ hend), List.append_nil]
    exact .last hreturns (by exact_mod_cast hend)
  · have hnext : (i + 1) * size < (l.hits f).length := Nat.lt_of_not_le hend
    rw [List.map_append]
    have hless : (l.hits f).length - (i + 1) * size < left := by
      rw [Nat.add_mul, Nat.one_mul] at hnext ⊢
      omega
    exact .more hreturns (by exact_mod_cast hnext) (ih _ hless hnext.le rfl)

theorem reading_before (h : Arranges (l.sortKey f order) (l.hits f) hs)
    (hi : i * size < (l.hits f).length) (hread : Reading l f order size (i + 1) items) :
    Reading l f order size 1 ((hs.take (i * size)).map Hit.item ++ items) := by
  induction i generalizing items with
  | zero => simpa using hread
  | succ i ih =>
    have hle : i * size ≤ (i + 1) * size := Nat.mul_le_mul_right size (Nat.le_succ i)
    have hle' : i * size ≤ (l.hits f).length := by omega
    have hreturns := returns_of_arranges ((Int.ofNat_le.mpr hle').trans (l.length_hits_le f)) h
    have hpage := ih (by omega) (.more hreturns (by exact_mod_cast hi) hread)
    rwa [← List.append_assoc, ← List.map_append, take_append_slice] at hpage

/-! ## Ties -/

/-- In some arrangement, a page ends between two rows that are sorted alike. -/
def PageCutsTie (l : Library) (f : SearchFilter) (order : SearchOrder) (size : Nat) : Prop :=
  ∃ hs i, Arranges (l.sortKey f order) (l.hits f) hs ∧
    CutsTie (l.sortKey f order) hs (i * size)

theorem not_pageCutsTie_of_nodup (h : ((l.hits f).map (l.sortKey f order)).Nodup) :
    ¬ l.PageCutsTie f order size := by
  rintro ⟨hs, i, harranges, hcuts⟩
  exact not_cutsTie_of_nodup ((harranges.perm.map _).nodup_iff.mpr h) hcuts

theorem slice_of_split {before after : List Hit} {b : Hit} (hsize : 0 < size)
    (h : before.length + 1 = (i + 1) * size) :
    slice size i (before ++ b :: after) = before.drop (i * size) ++ [b] := by
  have hle : i * size ≤ before.length := by
    rw [Nat.add_mul, Nat.one_mul] at h
    omega
  have hslice : slice size i (before ++ b :: after) =
      ((before ++ b :: after).take ((i + 1) * size)).drop (i * size) := by
    rw [List.drop_take, Nat.add_mul, Nat.one_mul, Nat.add_sub_cancel_left]
    rfl
  rw [hslice, take_of_split h, List.drop_append_of_le_length hle]

/-- Where a page cuts a tie, some reading has a row twice: it comes last on this page, with the tie
arranged the other way round, and then first on the next one. -/
theorem reading_of_pageCutsTie (hsize : 0 < size) (h : l.PageCutsTie f order size) :
    ∃ items, Reading l f order size 1 items ∧ ¬ items.Nodup := by
  obtain ⟨hs, i, harranges, before, a, b, after, rfl, hend, hab⟩ := h
  obtain ⟨i, rfl⟩ : ∃ j, i = j + 1 := by
    cases i with
    | zero => simp at hend
    | succ j => exact ⟨j, rfl⟩
  have hlength : (before ++ a :: b :: after).length = (l.hits f).length :=
    harranges.perm.length_eq
  have hmore : (i + 1) * size < (l.hits f).length := by
    rw [← hlength, List.length_append, List.length_cons, List.length_cons]
    omega
  have hstart : i * size < (l.hits f).length := by
    rw [Nat.add_mul, Nat.one_mul] at hmore
    omega
  have hrest := reading_of_arranges harranges hsize hmore.le
  have hpage := returns_of_arranges
    ((Int.ofNat_le.mpr hstart.le).trans (l.length_hits_le f)) (harranges.swap hab)
  have hread := reading_before harranges hstart (.more hpage (by exact_mod_cast hmore) hrest)
  refine ⟨_, hread, fun hnodup => ?_⟩
  rw [slice_of_split hsize hend, drop_of_split hend] at hnodup
  obtain ⟨-, hnodup, -⟩ := List.nodup_append.mp hnodup
  obtain ⟨-, -, hdisjoint⟩ := List.nodup_append.mp hnodup
  exact hdisjoint b.item (by simp) b.item (by simp) rfl

/-- **When every reading has everything once.** The pages of a search are read until the total is
reached, each in whatever arrangement its statement allows. This always comes to an end with some
items. They are all that matches, each once and however the pages were arranged, exactly if no page
ends between two rows that are sorted alike. -/
theorem reading_complete_iff (hsize : 0 < size) :
    (∃ items, Reading l f order size 1 items) ∧
    ((∀ items, Reading l f order size 1 items →
      items.Nodup ∧ ∀ x, x ∈ items ↔ x ∈ (l.hits f).map Hit.item) ↔
        ¬ l.PageCutsTie f order size) := by
  obtain ⟨hs, h⟩ := exists_arranges (l.sortKey f order) (l.hits f)
  refine ⟨⟨_, reading_of_arranges (i := 0) h hsize (by omega)⟩, ⟨fun hall hcuts => ?_, ?_⟩⟩
  · obtain ⟨items, hread, htwice⟩ := reading_of_pageCutsTie hsize hcuts
    exact htwice (hall items hread).1
  · intro hno items hread
    have hperm : items.Perm ((l.hits f).map Hit.item) := by
      have hitems := perm_of_reading (i := 0) h (fun i hcuts => hno ⟨hs, i, h, hcuts⟩) hread rfl
        (by omega)
      rw [Nat.zero_mul, List.drop_zero] at hitems
      exact hitems.trans (h.perm.map _)
    exact ⟨hperm.nodup_iff.mpr (l.nodup_items f), fun x => hperm.mem_iff⟩

/-- A question of ann. -/
def annsQuestion (id : String) (created : Int) : Question where
  id := id
  row := { userId := "ann", title := "Ties", content := "Which comes first?" }
  createdAt := ⟨created, 0⟩
  updatedAt := ⟨created, 0⟩

/-- Two questions, of which the second is created some time after the first. -/
def twoQuestions (later : Int) : Library where
  questions := [annsQuestion "10010000000000001" 0, annsQuestion "10010000000000002" later]
  answers := []
  like _ _ := true
  question_ids := by simp [annsQuestion]
  answer_ids := .nil
  countable := by
    change (2 : Int) ≤ _
    decide

/-- Two questions of different times, with one of them on a page: no tie is cut, and every reading
has both of them. -/
theorem reading_complete_iff_oneLater :
    0 < 1 ∧ ¬ (twoQuestions 1).PageCutsTie {} .newest 1 ∧
      ∀ items, Reading (twoQuestions 1) {} .newest 1 1 items → items.Nodup ∧
        ∀ x, x ∈ items ↔ x ∈ ((twoQuestions 1).hits {}).map Hit.item := by
  have hkeys : (((twoQuestions 1).hits {}).map ((twoQuestions 1).sortKey {} .newest)).Nodup := by
    decide
  have hno : ¬ (twoQuestions 1).PageCutsTie {} .newest 1 := not_pageCutsTie_of_nodup hkeys
  exact ⟨Nat.one_pos, hno, (reading_complete_iff Nat.one_pos).2.mpr hno⟩

/-- Two questions of the same time, with one of them on a page: the pages are arranged differently,
so the second question is on both of them, and the first on none. -/
theorem reading_not_complete_sameTime :
    ∃ items, Reading (twoQuestions 0) {} .newest 1 1 items ∧
      items = List.replicate 2 (Hit.question (annsQuestion "10010000000000002" 0)).item ∧
      ¬ (items.Nodup ∧ ∀ x, x ∈ items ↔ x ∈ ((twoQuestions 0).hits {}).map Hit.item) := by
  have hhits : (twoQuestions 0).hits {} = [.question (annsQuestion "10010000000000001" 0),
      .question (annsQuestion "10010000000000002" 0)] := rfl
  have hpage (i : Nat) (hi : ((i * 1 : Nat) : Int) ≤ Text.Width.int64.hi) {hs : List Hit}
      (h : Arranges ((twoQuestions 0).sortKey {} .newest) ((twoQuestions 0).hits {}) hs) :=
    returns_of_arranges hi h
  have hfirst : Arranges ((twoQuestions 0).sortKey {} .newest) ((twoQuestions 0).hits {})
      [.question (annsQuestion "10010000000000001" 0),
        .question (annsQuestion "10010000000000002" 0)] :=
    ⟨hhits ▸ .refl _, List.pairwise_pair.mpr (le_of_eq rfl)⟩
  have hsecond : Arranges ((twoQuestions 0).sortKey {} .newest) ((twoQuestions 0).hits {})
      [.question (annsQuestion "10010000000000002" 0),
        .question (annsQuestion "10010000000000001" 0)] :=
    ⟨hhits ▸ .swap _ _ _, List.pairwise_pair.mpr (le_of_eq rfl)⟩
  refine ⟨_, .more (hpage 0 (by decide) hsecond) (by decide)
    (.last (hpage 1 (by decide) hfirst) (by decide)), rfl, fun h => ?_⟩
  exact absurd h.1 (by decide)

end Library

end Forum
