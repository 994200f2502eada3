import Forum.Proofs.Readings
import Forum.Storage.Repository

/-!
# How a search goes

A search is a count, and then a page of what was counted.

* `Storage.countOf`, `Storage.itemsOf`: what is read of a reply to the count and to the page;
* `SearchCourse`, **`plays_found`**: how a search goes, whatever it is answered.
-/

namespace Forum.Storage

open Sql

variable {t : Transcript StorageOp.Answer} {s : Statement}

/-- The count in a reply. -/
def countOf (reply : Except StorageError Outcome) : Except ServiceError Int :=
  (ofStorage reply).bind fun o =>
    (first (scalar (.int .int64)) o).bind (required (.database .rowNotFound))

/-- The items in a reply. -/
def itemsOf (reply : Except StorageError Outcome) : Except ServiceError (List SearchItem) :=
  (ofStorage reply).bind fun o => ofStorage (o.rows.mapM SearchItem.ofRow)

theorem plays_count {f : SearchFilter} {r : Except ServiceError Int} :
    (fetchOne (.countMatches f) (scalar (.int .int64))).run.Plays t r ↔
      ∃ reply, t = [⟨.run (.countMatches f), reply⟩] ∧ countOf reply = r := by
  rw [run_fetchOne]
  exact plays_reading

theorem plays_page {r : Except ServiceError (List SearchItem)} :
    (fetchAll s SearchItem.ofRow).run.Plays t r ↔
      ∃ reply, t = [⟨.run s, reply⟩] ∧ itemsOf reply = r := by
  rw [run_fetchAll]
  exact plays_reading

/-- How a search goes. The total is asked for first. Without a total the search fails with it, and if
there is nothing on any page it ends there; only otherwise the page is asked for. -/
inductive SearchCourse (f : SearchFilter) (page size : Int) (order : SearchOrder) :
    Transcript StorageOp.Answer → Except ServiceError (List SearchItem × Int) → Prop where
  | noTotal {reply : Except StorageError Outcome} {e : ServiceError} :
    countOf reply = .error e →
      SearchCourse f page size order [⟨.run (.countMatches f), reply⟩] (.error e)
  | nothing {reply : Except StorageError Outcome} : countOf reply = .ok 0 →
      SearchCourse f page size order [⟨.run (.countMatches f), reply⟩] (.ok ([], 0))
  | paged {reply reply' : Except StorageError Outcome} {total : Int}
      {r : Except ServiceError (List SearchItem × Int)} :
    countOf reply = .ok total → total ≠ 0 → (itemsOf reply').map (·, total) = r →
      SearchCourse f page size order [⟨.run (.countMatches f), reply⟩,
        ⟨.run (.pageOfMatches f order size (pageStart page size)), reply'⟩] r

theorem plays_page_total {total : Int} {r : Except ServiceError (List SearchItem × Int)} :
    (fetchAll s SearchItem.ofRow >>= fun items => pure (items, total)).run.Plays t r ↔
      ∃ reply, t = [⟨.run s, reply⟩] ∧ (itemsOf reply).map (·, total) = r := by
  rw [Program.plays_map_except]
  constructor
  · rintro ⟨_, hpage, rfl⟩
    obtain ⟨reply, rfl, rfl⟩ := plays_page.mp hpage
    exact ⟨reply, rfl, rfl⟩
  · rintro ⟨reply, rfl, rfl⟩
    exact ⟨_, plays_page.mpr ⟨reply, rfl, rfl⟩, rfl⟩

/-- **The transcripts of a search.** -/
theorem plays_found {f : SearchFilter} {page size : Int} {order : SearchOrder}
    {r : Except ServiceError (List SearchItem × Int)} :
    (found f page size order).run.Plays t r ↔ SearchCourse f page size order t r := by
  rw [found, Program.plays_bind_except]
  constructor
  · rintro (⟨e, hcount, rfl⟩ | ⟨_, total, rest, hcount, hpage, rfl⟩) <;>
      obtain ⟨reply, rfl, htotal⟩ := plays_count.mp hcount
    · exact .noTotal htotal
    · by_cases hzero : total = 0
      · rw [if_pos hzero] at hpage
        obtain ⟨rfl, rfl⟩ := hpage
        exact .nothing (hzero ▸ htotal)
      · rw [if_neg hzero] at hpage
        obtain ⟨reply', rfl, hitems⟩ := plays_page_total.mp hpage
        exact .paged htotal hzero hitems
  · intro h
    cases h with
    | noTotal htotal => exact .inl ⟨_, plays_count.mpr ⟨_, rfl, htotal⟩, rfl⟩
    | nothing htotal =>
      exact .inr ⟨_, 0, [], plays_count.mpr ⟨_, rfl, htotal⟩, ⟨rfl, rfl⟩, rfl⟩
    | @paged reply reply' total _ htotal hzero hitems =>
      refine .inr ⟨_, total, _, plays_count.mpr ⟨reply, rfl, htotal⟩, ?_, rfl⟩
      rw [if_neg hzero]
      exact plays_page_total.mpr ⟨reply', rfl, hitems⟩

end Forum.Storage
