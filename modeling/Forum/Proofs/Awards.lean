import Forum.Badge.Awarding
import Forum.Proofs.Transcript
import Mathlib.Data.List.Induction

/-!
# Awards are not repeated

The store of awards has no rule of its own against repetition. What keeps it in order is that awards
are made one after another, each after a look at the store.

* `Awarding.store`, `Awarding.counted`: the store and the counts after some exchanges;
* `Awarding.Truthful`: look-ups that do not fail tell the truth of the store and the catalogue;
* `Awarding.Course`: the three courses of an award;
* `Performed`, `IsHistory`: awards in turn, over a catalogue whose award types do not change;
* `Kept`: how far awards are not repeated;
* **`course_of_plays`**: an award takes one of the courses;
* **`kept_of_isHistory`**: what awards in turn keep of the store;
* **`awards_kept`**: at every moment, and with what every call and every count tells of it.
-/

namespace Forum.Awarding

/-! ## The store and the counts -/

/-- The award that an exchange stores; one that fails stores nothing. -/
def stored? : Exchange Effect.Answer → Option Grant
  | ⟨.call (.addAward g), .ok _⟩ => some g
  | _ => none

/-- The outcome that an exchange counts. -/
def outcome? : Exchange Effect.Answer → Option AwardOutcome
  | ⟨.count (.badgeAward _ o), _⟩ => some o
  | _ => none

variable (t t' : Transcript Effect.Answer)

/-- The awards stored by some exchanges, in order. -/
def store : List Grant := t.filterMap stored?

/-- How often some exchanges count an outcome, over all rules of badges. -/
def counted (o : AwardOutcome) : Nat := (t.filterMap outcome?).count o

@[simp] theorem store_append : store (t ++ t') = store t ++ store t' := List.filterMap_append

@[simp] theorem counted_append (o : AwardOutcome) :
    counted (t ++ t') o = counted t o + counted t' o := by
  rw [counted, List.filterMap_append, List.count_append]
  rfl

variable {t t'}

/-- An exchange that neither stores nor counts an award. -/
def Silent (x : Exchange Effect.Answer) : Prop := stored? x = none ∧ outcome? x = none

theorem store_of_silent (h : ∀ x ∈ t, Silent x) : store t = [] :=
  List.filterMap_eq_nil_iff.mpr fun x hx => (h x hx).1

theorem counted_of_silent (h : ∀ x ∈ t, Silent x) (o : AwardOutcome) : counted t o = 0 := by
  rw [counted, List.filterMap_eq_nil_iff.mpr fun x hx => (h x hx).2]
  rfl

/-- The user has the badge by this award. -/
def holds (u : String) (b : Int) (g : Grant) : Bool := g.userId = u && g.badgeId = b

/-- An answer tells the truth of the catalogue and of the stored awards. Any call may fail. -/
def Truth (catalogue : Int → Option Badge) (rows : List Grant) : Exchange Effect.Answer → Prop
  | ⟨.call (.getBadge id), .ok found⟩ => found = catalogue id
  | ⟨.call (.hasBadge u b), .ok found⟩ => found = rows.any (holds u b)
  | ⟨.call (.hasAward u b k), .ok found⟩ => found = decide (⟨u, b, k⟩ ∈ rows)
  | _ => True

/-- All answers tell the truth of what is stored when they are given. -/
def Truthful (catalogue : Int → Option Badge) : List Grant → Transcript Effect.Answer → Prop
  | _, [] => True
  | rows, x :: rest => Truth catalogue rows x ∧ Truthful catalogue (rows ++ (stored? x).toList) rest

/-! ## One award -/

/-- The look that shows that an award does not repeat another. -/
def Unrepeated (badge : Badge) (g : Grant) (force : Bool) : Transcript Effect.Answer :=
  match badge.awardType, force with
  | .single, _ => [⟨.call (.hasBadge g.userId g.badgeId), .ok false⟩]
  | .multiple, true => []
  | .multiple, false => [⟨.call (.hasAward g.userId g.badgeId g.key), .ok false⟩]

/-- The courses of an award: it fails, with nothing stored; it is skipped; or it is made, of an
active badge and after a look at what it might repeat. -/
inductive Course (g : Grant) (force : Bool) :
    Transcript Effect.Answer → Except ServiceError Bool → Prop
  | failed {t : Transcript Effect.Answer} {e : ServiceError} (silent : ∀ x ∈ t, Silent x) :
    Course g force t (.error e)
  | skipped {t : Transcript Effect.Answer} {rule : String} (silent : ∀ x ∈ t, Silent x) :
    Course g force (t ++ [⟨.count (.badgeAward rule .skipped), ()⟩]) (.ok false)
  | made {badge : Badge} {id : Int} (active : badge.isActive = true) :
    Course g force (⟨.call (.getBadge g.badgeId), .ok (some badge)⟩ ::
      (Unrepeated badge g force ++ [⟨.call (.addAward g), .ok id⟩,
        ⟨.count (.badgeAward badge.handler .awarded), ()⟩])) (.ok true)

variable {g : Grant} {force : Bool} {badge : Badge}

theorem plays_call {c : Call} {r : Except ServiceError c.Reply} :
    (Service.call c).run.Plays t r ↔ t = [⟨.call c, r⟩] :=
  Program.plays_perform

/-- The look for a duplicate stores and counts nothing. If it finds none, it is that of
`Unrepeated`. -/
theorem plays_isDuplicate {r : Except ServiceError Bool}
    (h : (isDuplicate badge g force).run.Plays t r) :
    (∀ x ∈ t, Silent x) ∧ (r = .ok false → t = Unrepeated badge g force) := by
  unfold isDuplicate at h
  unfold Unrepeated
  cases htype : badge.awardType <;> rw [htype] at h
  case single =>
    obtain rfl := plays_call.mp h
    refine ⟨List.forall_mem_singleton.mpr ⟨rfl, rfl⟩, ?_⟩
    rintro rfl
    rfl
  case multiple =>
    cases force with
    | true =>
      obtain ⟨rfl, -⟩ := h
      exact ⟨List.forall_mem_nil _, fun _ => rfl⟩
    | false =>
      obtain rfl := plays_call.mp h
      refine ⟨List.forall_mem_singleton.mpr ⟨rfl, rfl⟩, ?_⟩
      rintro rfl
      rfl

/-- **The courses of an award.** -/
theorem course_of_plays {r : Except ServiceError Bool} (h : (award g force).run.Plays t r) :
    Course g force t r := by
  rcases Program.plays_bind_except.mp h with ⟨e, he, rfl⟩ | ⟨_, found, rest, hfound, hrest, rfl⟩
  · obtain rfl := plays_call.mp he
    exact .failed (List.forall_mem_singleton.mpr ⟨rfl, rfl⟩)
  clear h
  obtain rfl := plays_call.mp hfound
  cases found with
  | none =>
    obtain ⟨rfl, rfl⟩ := hrest
    exact .failed (List.forall_mem_singleton.mpr ⟨rfl, rfl⟩)
  | some badge =>
    -- The badge's status is read before the look for a duplicate, and an inactive badge is not
    -- looked at further.
    by_cases hactive : badge.isActive = true
    · simp only [hactive, if_true] at hrest
      rcases Program.plays_bind_except.mp hrest with
        ⟨e, he, rfl⟩ | ⟨look, skip, rest, hlook, hend, rfl⟩
      · exact .failed (List.forall_mem_cons.mpr ⟨⟨rfl, rfl⟩, (plays_isDuplicate he).1⟩)
      obtain ⟨hsilent, hlook⟩ := plays_isDuplicate hlook
      cases skip with
      | true =>
        obtain ⟨_, _, rfl, rfl, rfl⟩ := hend
        exact .skipped (t := _ :: look) (List.forall_mem_cons.mpr ⟨⟨rfl, rfl⟩, hsilent⟩)
      | false =>
        obtain rfl := hlook rfl
        obtain ⟨stored, _, rfl, hend⟩ := hend
        cases stored with
        | error e =>
          obtain ⟨rfl, rfl⟩ := hend
          refine .failed (List.forall_mem_append.mpr ⟨?_, List.forall_mem_append.mpr ⟨hsilent, ?_⟩⟩)
          · exact List.forall_mem_singleton.mpr ⟨rfl, rfl⟩
          · exact List.forall_mem_singleton.mpr ⟨rfl, rfl⟩
        | ok id =>
          obtain ⟨_, _, rfl, rfl, rfl⟩ := hend
          exact .made hactive
    · simp only [hactive] at hrest
      obtain ⟨_, _, rfl, rfl, rfl⟩ := hrest
      exact .skipped (List.forall_mem_singleton.mpr ⟨rfl, rfl⟩)

/-- Has the call made its award? -/
def hasMade : Except ServiceError Bool → Bool
  | .ok b => b
  | .error _ => false

/-- Has the call come to nothing, with no failure? -/
def hasSkipped : Except ServiceError Bool → Bool
  | .ok b => !b
  | .error _ => false

namespace Course

variable {r : Except ServiceError Bool}

theorem store_eq (h : Course g force t r) : store t = if hasMade r then [g] else [] := by
  cases h with
  | failed silent => exact store_of_silent silent
  | skipped silent =>
    rw [store_append, store_of_silent silent]
    rfl
  | made =>
    unfold Unrepeated
    split <;> rfl

theorem counted_awarded (h : Course g force t r) : counted t .awarded = (store t).length := by
  cases h with
  | failed silent => rw [counted_of_silent silent, store_of_silent silent, List.length_nil]
  | skipped silent =>
    rw [counted_append, store_append, counted_of_silent silent, store_of_silent silent]
    rfl
  | made =>
    unfold Unrepeated
    split <;> rfl

theorem counted_skipped (h : Course g force t r) : counted t .skipped = (hasSkipped r).toNat := by
  cases h with
  | failed silent => exact counted_of_silent silent _
  | skipped silent =>
    rw [counted_append, counted_of_silent silent]
    rfl
  | made =>
    unfold Unrepeated
    split <;> rfl

end Course

/-- **What a made award was not a repetition of**, if all answers tell the truth. -/
theorem Course.unrepeated {catalogue : Int → Option Badge} {rows : List Grant}
    (h : Course g force t (.ok true)) (htrue : Truthful catalogue rows t) :
    ∃ badge, catalogue g.badgeId = some badge ∧ badge.isActive = true ∧
      (badge.awardType = .single → rows.countP (holds g.userId g.badgeId) = 0) ∧
      (badge.awardType = .multiple → force = true ∨ rows.count g = 0) := by
  cases h with
  | @made badge id hactive =>
    obtain ⟨hbadge, hlook⟩ := htrue
    refine ⟨badge, hbadge.symm, hactive, ?_, ?_⟩
    · intro htype
      unfold Unrepeated at hlook
      rw [htype] at hlook
      have hnone := hlook.1
      simp only [Truth, stored?, Option.toList_none, List.append_nil] at hnone
      rw [List.countP_eq_zero]
      exact List.any_eq_false.mp hnone.symm
    · intro htype
      cases force with
      | true => exact .inl rfl
      | false =>
        unfold Unrepeated at hlook
        rw [htype] at hlook
        have hnone := hlook.1
        simp only [Truth, stored?, Option.toList_none, List.append_nil] at hnone
        exact .inr (List.count_eq_zero.mpr (of_decide_eq_false hnone.symm))

/-! ## Awards in turn -/

/-- A call of `award`: the catalogue at its time, and what was asked and answered. -/
structure Performed where
  catalogue : Int → Option Badge
  grant : Grant
  force : Bool
  exchanges : Transcript Effect.Answer
  result : Except ServiceError Bool

/-- A call that can happen when these awards are stored. -/
structure Happens (types : Int → AwardType) (rows : List Grant) (p : Performed) : Prop where
  typed : ∀ id badge, p.catalogue id = some badge → badge.awardType = types id
  plays : (award p.grant p.force).run.Plays p.exchanges p.result
  truthful : Truthful p.catalogue rows p.exchanges

/-- The awards that are stored after some calls. -/
def rows (h : List Performed) : List Grant := store (h.flatMap Performed.exchanges)

/-- How often some calls have counted an outcome. -/
def tally (h : List Performed) (o : AwardOutcome) : Nat :=
  counted (h.flatMap Performed.exchanges) o

/-- Calls one after another. They start with no award. -/
def IsHistory (types : Int → AwardType) (h : List Performed) : Prop :=
  ∀ before p after, h = before ++ p :: after → Happens types (rows before) p

/-- How often an award was made by force. -/
def forced (g : Grant) (h : List Performed) : Nat :=
  h.countP fun p => p.force && hasMade p.result && p.grant = g

variable {types : Int → AwardType} {h : List Performed} {p : Performed} {stored : List Grant}

@[simp] theorem rows_append (h h' : List Performed) : rows (h ++ h') = rows h ++ rows h' := by
  rw [rows, List.flatMap_append, store_append]
  rfl

theorem rows_singleton (p : Performed) : rows [p] = store p.exchanges := by
  rw [rows, List.flatMap_singleton]

theorem tally_append (h h' : List Performed) (o : AwardOutcome) :
    tally (h ++ h') o = tally h o + tally h' o := by
  rw [tally, List.flatMap_append, counted_append]
  rfl

theorem tally_singleton (p : Performed) (o : AwardOutcome) :
    tally [p] o = counted p.exchanges o := by
  rw [tally, List.flatMap_singleton]

theorem isHistory_nil : IsHistory types [] := by
  intro before p after h
  simp at h

theorem isHistory_snoc : IsHistory types (h ++ [p]) ↔ IsHistory types h ∧ Happens types (rows h) p := by
  constructor
  · intro hh
    refine ⟨fun before q after he => ?_, hh h p [] rfl⟩
    exact hh before q (after ++ [p]) (by rw [he, List.append_assoc, List.cons_append])
  · rintro ⟨hh, hp⟩ before q after he
    rcases List.eq_nil_or_concat after with rfl | ⟨after, l, rfl⟩
    · obtain ⟨rfl, hq⟩ := List.append_inj' he rfl
      cases hq
      exact hp
    · rw [List.concat_eq_append, ← List.cons_append, ← List.append_assoc] at he
      exact hh before q after (List.append_inj_left' he rfl)

/-- How far awards are not repeated: a badge held once has one award for each user, and one held
many times has one for each award that was not forced. -/
structure Kept (types : Int → AwardType) (h : List Performed) (rows : List Grant) : Prop where
  single : ∀ u b, types b = .single → rows.countP (holds u b) ≤ 1
  multiple : ∀ g, types g.badgeId = .multiple → rows.count g ≤ 1 + forced g h

theorem Kept.mono {h h' : List Performed} {rows rows' : List Grant} (hk : Kept types h rows)
    (hh : h <+: h') (hr : rows' <+: rows) : Kept types h' rows' where
  single u b hb := Nat.le_trans hr.sublist.countP_le (hk.single u b hb)
  multiple g hg := by
    have hforced : forced g h ≤ forced g h' := hh.sublist.countP_le
    have hrows : rows'.count g ≤ rows.count g := hr.sublist.count_le g
    have := hk.multiple g hg
    omega

theorem hasMade_iff {r : Except ServiceError Bool} : hasMade r = true ↔ r = .ok true := by
  cases r <;> simp [hasMade]

theorem forced_snoc (g : Grant) (h : List Performed) (p : Performed) :
    forced g (h ++ [p]) = forced g h + forced g [p] := List.countP_append

theorem rows_snoc (hp : Happens types (rows h) p) :
    rows (h ++ [p]) = rows h ++ if hasMade p.result then [p.grant] else [] := by
  rw [rows_append, rows_singleton, (course_of_plays hp.plays).store_eq]

/-- A call that makes its award, of an active badge, repeats none that it should not. -/
theorem Happens.unrepeated (hp : Happens types (rows h) p) (hr : p.result = .ok true) :
    ∃ badge, p.catalogue p.grant.badgeId = some badge ∧ badge.isActive = true ∧
      (types p.grant.badgeId = .single →
        (rows h).countP (holds p.grant.userId p.grant.badgeId) = 0) ∧
      (types p.grant.badgeId = .multiple → p.force = true ∨ (rows h).count p.grant = 0) := by
  have hc := course_of_plays hp.plays
  rw [hr] at hc
  obtain ⟨badge, hbadge, hactive, hsingle, hmultiple⟩ := hc.unrepeated hp.truthful
  rw [hp.typed _ _ hbadge] at hsingle hmultiple
  exact ⟨badge, hbadge, hactive, hsingle, hmultiple⟩

/-- **One call** keeps what the calls before it have kept. -/
theorem kept_snoc (hk : Kept types h (rows h)) (hp : Happens types (rows h) p) :
    Kept types (h ++ [p]) (rows (h ++ [p])) := by
  rw [rows_snoc hp]
  by_cases hmade : hasMade p.result = true
  · rw [if_pos hmade]
    -- Only counts that the new award belongs to can grow. Its look has shown that they were zero,
    -- unless it was forced, and then the bound grows with it.
    obtain ⟨badge, -, -, hsingle, hmultiple⟩ := hp.unrepeated (hasMade_iff.mp hmade)
    refine ⟨fun u b hb => ?_, fun g hg => ?_⟩
    · have earlier := hk.single u b hb
      rw [List.countP_append, List.countP_singleton]
      split
      case isTrue hholds =>
        obtain ⟨rfl, rfl⟩ : p.grant.userId = u ∧ p.grant.badgeId = b := by simpa [holds] using hholds
        have := hsingle hb
        omega
      case isFalse => omega
    · have earlier := hk.multiple g hg
      rw [List.count_append, List.count_singleton, forced_snoc]
      split
      case isTrue hgrant =>
        obtain rfl : p.grant = g := by simpa using hgrant
        rcases hmultiple hg with hforce | hnone
        · have : forced p.grant [p] = 1 := by simp [forced, hforce, hmade]
          omega
        · omega
      case isFalse => omega
  · rw [if_neg hmade, List.append_nil]
    exact hk.mono (List.prefix_append h [p]) List.prefix_rfl

/-- **Calls one after another** do not repeat awards. -/
theorem kept_of_isHistory (hh : IsHistory types h) : Kept types h (rows h) := by
  induction h using List.reverseRecOn with
  | nil => exact ⟨fun _ _ _ => Nat.zero_le 1, fun _ _ => Nat.zero_le 1⟩
  | append_singleton h p ih =>
    obtain ⟨hh, hp⟩ := isHistory_snoc.mp hh
    exact kept_snoc (ih hh) hp

theorem tally_awarded (hh : IsHistory types h) : tally h .awarded = (rows h).length := by
  induction h using List.reverseRecOn with
  | nil => rfl
  | append_singleton h p ih =>
    obtain ⟨hh, hp⟩ := isHistory_snoc.mp hh
    rw [tally_append, rows_append, List.length_append, ih hh, tally_singleton, rows_singleton,
      (course_of_plays hp.plays).counted_awarded]

theorem tally_skipped (hh : IsHistory types h) :
    tally h .skipped = h.countP fun p => hasSkipped p.result := by
  induction h using List.reverseRecOn with
  | nil => rfl
  | append_singleton h p ih =>
    obtain ⟨hh, hp⟩ := isHistory_snoc.mp hh
    rw [tally_append, List.countP_append, ih hh, tally_singleton,
      (course_of_plays hp.plays).counted_skipped, List.countP_singleton]
    cases hasSkipped p.result <;> rfl

/-- **Awards are not repeated.** Calls are made one after another, over a catalogue whose award
types do not change; any operation may fail. At every moment a badge held once has at most one award
for a user, and one held many times has at most one award under a key that was not forced. A call
has the result `true` exactly if it has stored its award, and otherwise it stores nothing; only what
is in the catalogue and active is awarded. What is counted is what has happened. -/
theorem awards_kept (hh : IsHistory types h) :
    (∀ before p after, h = before ++ p :: after →
      (∀ moment, moment <+: p.exchanges →
        Kept types (before ++ [p]) (rows before ++ store moment)) ∧
      (p.result = .ok true ↔ rows (before ++ [p]) = rows before ++ [p.grant]) ∧
      (p.result ≠ .ok true → rows (before ++ [p]) = rows before) ∧
      (p.result = .ok true →
        ∃ badge, p.catalogue p.grant.badgeId = some badge ∧ badge.isActive = true)) ∧
    tally h .awarded = (rows h).length ∧
    tally h .skipped = h.countP fun p => hasSkipped p.result := by
  refine ⟨fun before p after he => ?_, tally_awarded hh, tally_skipped hh⟩
  have hp : Happens types (rows before) p := hh before p after he
  have hstore := rows_snoc hp
  have hbefore : IsHistory types (before ++ [p]) := by
    intro before' q after' he'
    refine hh before' q (after' ++ after) ?_
    rw [he, List.append_cons, he', List.append_assoc, List.cons_append]
  refine ⟨fun moment hm => ?_, ⟨fun hr => ?_, fun hrows => ?_⟩, fun hr => ?_, fun hr => ?_⟩
  · -- Within a call the store is between what it was before and what it will be after.
    refine (kept_of_isHistory hbefore).mono List.prefix_rfl ?_
    rw [rows_append, rows_singleton]
    exact (List.prefix_append_right_inj _).mpr (hm.filterMap _)
  · rw [hstore, if_pos (hasMade_iff.mpr hr)]
  · by_contra hr
    rw [hstore, if_neg (mt hasMade_iff.mp hr)] at hrows
    simpa using List.append_cancel_left hrows
  · rw [hstore, if_neg (mt hasMade_iff.mp hr), List.append_nil]
  · obtain ⟨badge, hbadge, hactive, -⟩ := hp.unrepeated hr
    exact ⟨badge, hbadge, hactive⟩

/-- A badge for answers with votes, which is held many times. -/
def niceAnswer : Badge where
  id := 7
  name := "Nice Answer"
  icon := none
  description := none
  level := .bronze
  awardType := .multiple
  handler := "ReachAnswerVote"
  param := .object [("amount", .int 10)]
  status := .active
  awardCount := 0
  createdAt := ⟨0, 0⟩
  updatedAt := ⟨0, 0⟩

/-- A call that awards `niceAnswer` for the answer `a1`, after the badge is found. -/
def awardNiceAnswer (force : Bool) (rest : Transcript Effect.Answer)
    (result : Except ServiceError Bool) : Performed where
  catalogue id := if id = 7 then some niceAnswer else none
  grant := ⟨"ann", 7, "a1"⟩
  force := force
  exchanges := ⟨.call (.getBadge 7), .ok (some niceAnswer)⟩ :: rest
  result := result

/-- An award is made, then proposed again; it is to be repeated by force, which fails and then does
not. -/
def fourCalls : List Performed := [
  awardNiceAnswer false [⟨.call (.hasAward "ann" 7 "a1"), .ok false⟩,
    ⟨.call (.addAward ⟨"ann", 7, "a1"⟩), .ok 1⟩,
    ⟨.count (.badgeAward "ReachAnswerVote" .awarded), ()⟩] (.ok true),
  awardNiceAnswer false [⟨.call (.hasAward "ann" 7 "a1"), .ok true⟩,
    ⟨.count (.badgeAward "ReachAnswerVote" .skipped), ()⟩] (.ok false),
  awardNiceAnswer true [⟨.call (.addAward ⟨"ann", 7, "a1"⟩), .error (.database .poolTimedOut)⟩]
    (.error (.database .poolTimedOut)),
  awardNiceAnswer true [⟨.call (.addAward ⟨"ann", 7, "a1"⟩), .ok 2⟩,
    ⟨.count (.badgeAward "ReachAnswerVote" .awarded), ()⟩] (.ok true)]

theorem isHistory_fourCalls : IsHistory (fun _ => .multiple) fourCalls := by
  have typed : ∀ force rest result id badge,
      (awardNiceAnswer force rest result).catalogue id = some badge →
        badge.awardType = .multiple := by
    intro force rest result id badge h
    obtain ⟨-, rfl⟩ : id = 7 ∧ niceAnswer = badge := by simpa [awardNiceAnswer] using h
    rfl
  have grow : ∀ {h p}, IsHistory (fun _ => .multiple) h → Happens (fun _ => .multiple) (rows h) p →
      IsHistory (fun _ => .multiple) (h ++ [p]) := fun hh hp => isHistory_snoc.mpr ⟨hh, hp⟩
  refine grow (h := [_, _, _]) (grow (h := [_, _]) (grow (h := [_]) (grow (h := []) isHistory_nil
    ?_) ?_) ?_) ?_
  · exact ⟨typed _ _ _, ⟨_, _, rfl, _, _, rfl, _, _, rfl, _, _, rfl, rfl, rfl⟩,
      rfl, rfl, trivial, trivial, trivial⟩
  · exact ⟨typed _ _ _, ⟨_, _, rfl, _, _, rfl, _, _, rfl, rfl, rfl⟩, rfl, rfl, trivial, trivial⟩
  · exact ⟨typed _ _ _, ⟨_, _, rfl, _, _, rfl, rfl, rfl⟩, rfl, trivial, trivial⟩
  · exact ⟨typed _ _ _, ⟨_, _, rfl, _, _, rfl, _, _, rfl, rfl, rfl⟩, rfl, trivial, trivial, trivial⟩

/-- By force there are two awards under one key, and no third. -/
theorem awards_kept_fourCalls :
    IsHistory (fun _ => .multiple) fourCalls ∧
      (rows fourCalls).count ⟨"ann", 7, "a1"⟩ = 2 ∧ forced ⟨"ann", 7, "a1"⟩ fourCalls = 1 ∧
      tally fourCalls .awarded = 2 ∧ tally fourCalls .skipped = 1 := by
  obtain ⟨-, hawarded, hskipped⟩ := awards_kept isHistory_fourCalls
  exact ⟨isHistory_fourCalls, rfl, rfl, hawarded, hskipped⟩

end Forum.Awarding
