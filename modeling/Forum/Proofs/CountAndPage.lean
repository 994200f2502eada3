import Forum.Proofs.Pages
import Forum.Proofs.Placeholders

/-!
# The count and the page of a search

The total of a search and a page of it come from two statements. Both are built around the same
union with the same values, so they look at the same rows.

* `Sql.Paged`: two statements, of which one counts rows and the other lists a part of them;
* **`paged_searchStatements`**: the statements of a search are such a pair;
* **`pageStart_of_accepted`**: where a page starts fits into 64 bits, for every page and size that is
  accepted;
* **`count_and_page`**: what a search sends, and when.
-/

namespace Forum

namespace Sql

/-! ## Two statements of the same rows -/

/-- A statement that counts rows, and one that lists a part of them in an order. The rows are of one
source with placeholders from 1 on, and the values for these come first. -/
structure Paged (source : String) (values : List Value) (order : SearchOrder) (limit offset : Int)
    (count page : Statement) : Prop where
  placeholders : placeholders source = List.range' 1 values.length
  countText : count.text = "SELECT COUNT(*) FROM (" ++ source ++ ") t"
  countParams : count.params = values
  pageText : page.text = "SELECT t.* FROM (" ++ source ++ ") t" ++ orderClause order ++
    " LIMIT $" ++ (values.length + 1).repr ++ " OFFSET $" ++ (values.length + 2).repr
  pageParams : page.params = values ++ [.int64 limit, .int64 offset]

namespace Fragment

theorem textFrom_append (n : Nat) (fs gs : List Fragment) :
    textFrom n (fs ++ gs) = textFrom n fs ++ textFrom (n + (params fs).length) gs := by
  induction fs generalizing n with
  | nil => rfl
  | cons f fs ih =>
    cases f with
    | plain s => exact congrArg (s :: ·) (ih n)
    | param v =>
      have hnext : n + (params (param v :: fs)).length = n + 1 + (params fs).length := by
        rw [Nat.add_right_comm]
        rfl
      rw [List.cons_append, textFrom, textFrom, ih, hnext]
      rfl

theorem params_append (fs gs : List Fragment) : params (fs ++ gs) = params fs ++ params gs :=
  List.filterMap_append

theorem text_around (s : String) (fs gs : List Fragment) :
    text (plain s :: fs ++ gs) =
      s ++ text fs ++ String.join (textFrom (1 + (params fs).length) gs) := by
  rw [text, text, List.cons_append, textFrom, textFrom_append, String.join_cons,
    String.join_append, String.append_assoc]

end Fragment

/-- **The count and the page of a search** are statements of the same rows. -/
theorem paged_searchStatements (f : SearchFilter) (order : SearchOrder) (size start : Int) :
    Paged (Fragment.text (union f)) (Fragment.params (union f)) order size start
      (.countMatches f) (.pageOfMatches f order size start) where
  placeholders := Fragment.placeholders_text (spaced_union f)
  countText := by
    change Fragment.text (countMatches f) = _
    rw [countMatches, Fragment.text_around]
    rfl
  countParams := by
    change Fragment.params (countMatches f) = _
    rw [countMatches, Fragment.params_append]
    exact List.append_nil _
  pageText := by
    change Fragment.text (pageOfMatches f order size start) = _
    have hlimit : " LIMIT $" = " LIMIT " ++ "$" := rfl
    have hoffset : " OFFSET $" = " OFFSET " ++ "$" := rfl
    rw [pageOfMatches, Fragment.text_around, Nat.add_comm 1, hlimit, hoffset]
    simp only [Fragment.textFrom, intParam, String.join_cons, String.join_nil, String.append_assoc,
      String.append_empty]
  pageParams := by
    change Fragment.params (pageOfMatches f order size start) = _
    rw [pageOfMatches, Fragment.params_append]
    rfl

end Sql

/-! ## Accepted requests -/

namespace SearchRequest

variable {r : SearchRequest}

theorem bounds_of_accepted (h : r.fault? = none) : 1 ≤ r.page ∧ 1 ≤ r.size ∧ r.size ≤ 100 := by
  unfold fault? at h
  split_ifs at h with hq hpage hsize
  simp only [maxSize] at hsize
  omega

/-- **Where a page starts** fits into 64 bits, for every page that fits into 32 bits. -/
theorem pageStart_of_accepted (h : r.fault? = none) (hpage : r.page ≤ Text.Width.nat32.hi) :
    Text.Width.int64.fit ((r.page - 1) * r.size) = some (Storage.pageStart r.page r.size) := by
  obtain ⟨hfirst, hsize, hmax⟩ := bounds_of_accepted h
  have hlo : 0 ≤ (r.page - 1) * r.size := Int.mul_nonneg (by omega) (by omega)
  have hhi : (r.page - 1) * r.size ≤ 4294967294 * 100 :=
    Int.mul_le_mul (by simp only [Text.Width.nat32] at hpage; omega) hmax (by omega) (by decide)
  have hbounds : Text.Width.int64.lo ≤ (r.page - 1) * r.size ∧
      (r.page - 1) * r.size ≤ Text.Width.int64.hi := by
    simp only [Text.Width.int64]
    omega
  rw [Text.Width.fit, if_pos hbounds, Storage.pageStart, max_eq_left (by omega),
    Text.Width.wrap_of_bounds hbounds]

end SearchRequest

namespace Storage

open Sql

/-- **What a search sends, and when.** For an accepted request whose page fits into 32 bits, the
count and the page are statements of the same union with the same values. The page has as many
results as the size, from where it starts, and this fits into 64 bits. It is asked for exactly if
the total is known and not zero; else there is no item, or the failure of the count. -/
theorem count_and_page {r : SearchRequest} (h : r.fault? = none)
    (hpage : r.page ≤ Text.Width.nat32.hi) (f : SearchFilter) :
    Paged (Fragment.text (union f)) (Fragment.params (union f)) r.order r.size
        ((r.page - 1) * r.size) (.countMatches f)
        (.pageOfMatches f r.order r.size (pageStart r.page r.size)) ∧
      Text.Width.int64.fit ((r.page - 1) * r.size) = some (pageStart r.page r.size) ∧
      ∀ t result, (found f r.page r.size r.order).run.Plays t result ↔
        SearchCourse f r.page r.size r.order t result := by
  have hstart := SearchRequest.pageStart_of_accepted h hpage
  have heq : pageStart r.page r.size = (r.page - 1) * r.size :=
    (Text.Width.fit_eq_some_iff.mp hstart).1
  refine ⟨?_, hstart, fun t result => plays_found⟩
  rw [heq]
  exact paged_searchStatements f r.order r.size _

/-- The last page that fits into 32 bits, with as many results as there can be. -/
def lastPage : SearchRequest where
  q := "lean"
  page := 4294967295
  size := 100
  order := .active

theorem count_and_page_last : lastPage.fault? = none ∧ lastPage.page ≤ Text.Width.nat32.hi ∧
    Paged (Fragment.text (union hostile)) (Fragment.params (union hostile)) .active 100
      429496729400 (.countMatches hostile)
      (.pageOfMatches hostile .active 100 (pageStart lastPage.page lastPage.size)) ∧
    Text.Width.int64.fit 429496729400 = some (pageStart lastPage.page lastPage.size) ∧
    ∀ t result, (found hostile lastPage.page lastPage.size .active).run.Plays t result ↔
      SearchCourse hostile lastPage.page lastPage.size .active t result := by
  have haccepted : lastPage.fault? = none := by decide
  have hpage : lastPage.page ≤ Text.Width.nat32.hi := by decide
  exact ⟨haccepted, hpage, count_and_page haccepted hpage hostile⟩

end Storage

end Forum
