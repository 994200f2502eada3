import Forum.Proofs.AllOrNothing
import Forum.Proofs.Decimal
import Forum.Proofs.Readings
import Mathlib.Data.List.Nodup

/-!
# Ids of objects

The id of an object tells its kind. It is built from a number of a sequence, one sequence for each
kind of post, and each creation draws a number of its own.

* `ObjectKind.codeText`: the code of a kind in three digits;
* `ofObjectId?_eq_some_iff`, `ofObjectId?_objectId`, `objectId_injective`: which texts are read as
  ids, and of which kind;
* `NewPost`, `Creation`: what is posted, and one call that does so with all that it was answered;
* `Creation.drawn`: the numbers that a call was given; `Creation.id_of_drawn`;
* **`ids_tell_kinds`**: ids are told apart and tell their kinds.
-/

namespace Forum

namespace ObjectKind

/-- The code of a kind in three digits. -/
def codeText : ObjectKind → String
  | question => "001"
  | answer => "002"
  | tag => "003"
  | user => "004"
  | comment => "005"

theorem padded_code (k : ObjectKind) : Text.padded 3 k.code = k.codeText.toList := by
  cases k <;> rfl

theorem length_codeText (k : ObjectKind) : k.codeText.toList.length = 3 := by
  cases k <;> rfl

theorem codeText_injective : Function.Injective codeText := by
  intro j k h
  cases j <;> cases k <;> first | rfl | exact absurd h (by decide)

theorem ofCode?_eq_some {n : Nat} {k : ObjectKind} : ofCode? n = some k ↔ n = k.code := by
  constructor
  · intro h
    have hcode := List.find?_some (p := fun k : ObjectKind => decide (k.code = n)) h
    exact (of_decide_eq_true hcode).symm
  · rintro rfl
    cases k <;> rfl

theorem isDigit_of_mem_codeText {k : ObjectKind} : ∀ c ∈ k.codeText.toList, c.isDigit = true := by
  have hall : k.codeText.toList.all Char.isDigit = true := by
    cases k <;> rfl
  exact List.all_eq_true.mp hall

theorem digitsValue_codeText (k : ObjectKind) : Text.digitsValue k.codeText.toList = k.code := by
  cases k <;> rfl

theorem eq_codeText {a b c : Char} {k : ObjectKind} (h : ∀ d ∈ [a, b, c], d.isDigit = true)
    (hvalue : Text.digitsValue [a, b, c] = k.code) : [a, b, c] = k.codeText.toList :=
  Text.digitsValue_inj h isDigit_of_mem_codeText (length_codeText k).symm
    (hvalue.trans (digitsValue_codeText k).symm)

theorem ofObjectId?_eq_some_iff_toList {s : String} {k : ObjectKind} :
    ofObjectId? s = some k ↔ ∃ number, s.toList = '1' :: (k.codeText.toList ++ number) ∧
      number ≠ [] ∧ ∀ c ∈ number, c.isDigit = true := by
  constructor
  · intro h
    unfold ofObjectId? at h
    split at h
    · next a b c number hs =>
      split at h
      · next hdigits =>
        rw [Bool.and_eq_true, List.all_eq_true] at hdigits
        obtain ⟨hsome, hdigits⟩ := hdigits
        have hcode : [a, b, c] = k.codeText.toList :=
          eq_codeText (fun d hd => hdigits d (List.mem_append_left number hd))
            (ofCode?_eq_some.mp h)
        refine ⟨number, ?_, by simpa using hsome, fun d hd => hdigits d ?_⟩
        · rw [hs, ← hcode]
          rfl
        · exact List.mem_append_right [a, b, c] hd
      · cases h
    · cases h
  · rintro ⟨number, hs, hsome, hdigits⟩
    obtain ⟨a, b, c, habc⟩ := List.length_eq_three.mp (length_codeText k)
    have hall : (a :: b :: c :: number).all Char.isDigit = true := by
      rw [List.all_eq_true]
      intro d hd
      have hd : d ∈ [a, b, c] ++ number := hd
      rcases List.mem_append.mp hd with hd | hd
      · exact isDigit_of_mem_codeText d (habc ▸ hd)
      · exact hdigits d hd
    rw [habc] at hs
    have hread : ofObjectId? s =
        if !number.isEmpty && (a :: b :: c :: number).all Char.isDigit then
          ofCode? (Text.digitsValue [a, b, c]) else none := by
      rw [ofObjectId?, hs]
      rfl
    rw [hread, hall, if_pos (by simpa using hsome), ofCode?_eq_some, ← habc, digitsValue_codeText]

/-- A text is the id of an object of some kind if it is the digit `1`, then the code of the kind, and
then one or more digits. -/
theorem ofObjectId?_eq_some_iff {s : String} {k : ObjectKind} :
    ofObjectId? s = some k ↔ ∃ number : String, s = "1" ++ k.codeText ++ number ∧ number ≠ "" ∧
      ∀ c ∈ number.toList, c.isDigit = true := by
  rw [ofObjectId?_eq_some_iff_toList]
  constructor
  · rintro ⟨number, hs, hsome, hdigits⟩
    refine ⟨String.ofList number, ?_, by simpa using hsome, by simpa using hdigits⟩
    apply String.toList_inj.mp
    rw [hs]
    simp
  · rintro ⟨number, rfl, hsome, hdigits⟩
    exact ⟨number.toList, by simp, by simpa using hsome, hdigits⟩

theorem toList_objectId (k : ObjectKind) (n : Int) :
    (k.objectId n).toList = '1' :: (k.codeText.toList ++ Text.padded 13 n) := by
  rw [objectId, padded_code, String.toList_ofList]

theorem ofObjectId?_objectId {k : ObjectKind} {n : Int} :
    ofObjectId? (k.objectId n) = some k ↔ 0 ≤ n := by
  rw [ofObjectId?_eq_some_iff_toList, toList_objectId]
  constructor
  · rintro ⟨number, hs, -, hdigits⟩
    obtain rfl := List.append_cancel_left (List.cons.inj hs).2
    refine Int.not_lt.mp fun hn => ?_
    rw [Text.padded_of_neg hn] at hdigits
    exact absurd (hdigits '-' List.mem_cons_self) (by decide)
  · intro hn
    exact ⟨_, rfl, Text.padded_ne_nil 13 n, fun c => Text.isDigit_of_mem_padded hn⟩

theorem objectId_injective :
    Function.Injective fun p : ObjectKind × Int => p.1.objectId p.2 := by
  rintro ⟨j, m⟩ ⟨k, n⟩ h
  have hlist : (j.objectId m).toList = (k.objectId n).toList := congrArg String.toList h
  rw [toList_objectId, toList_objectId] at hlist
  obtain ⟨hcode, hnumber⟩ := List.append_inj (List.cons.inj hlist).2
    ((length_codeText j).trans (length_codeText k).symm)
  rw [codeText_injective (String.toList_inj.mp hcode), Text.padded_injective 13 hnumber]

theorem length_objectId_le {k : ObjectKind} {n : Int} (h : 0 ≤ n)
    (hn : n ≤ Text.Width.int64.hi) : (k.objectId n).length ≤ 23 := by
  have hpow : n.natAbs < 10 ^ 19 := by
    have hhi : Text.Width.int64.hi = 9223372036854775807 := rfl
    omega
  have hnumber : (Text.padded 13 n).length ≤ max 13 19 :=
    Text.length_padded_le (by decide) h hpow
  rw [← String.length_toList, toList_objectId, List.length_cons, List.length_append,
    length_codeText]
  omega

end ObjectKind

theorem Post.kind_injective : Function.Injective Post.kind := by
  intro p q h
  cases p <;> cases q <;> first | rfl | cases h

/-- The number that an exchange takes from the sequence of a kind of post. -/
def Exchange.drawn? : Exchange StorageOp.Answer → Option (Post × Int)
  | ⟨.run (.nextId p), .ok o⟩ =>
    o.rows.head?.bind fun r => ((r.at_ 0 (.int .int64)).toOption).map (p, ·)
  | _ => none

/-- What is posted. -/
inductive NewPost where
  | question (q : NewQuestion)
  | answer (a : NewAnswer)
  | comment (c : NewComment)

namespace NewPost

/-- The kind of post. -/
def post : NewPost → Post
  | question _ => .question
  | answer _ => .answer
  | comment _ => .comment

/-- The call that posts it. -/
def create : NewPost → Stored String
  | question q => Storage.createQuestion q
  | answer a => Storage.createAnswer a
  | comment c => Storage.createComment c

end NewPost

/-- A call that posts something: what it asked with the answers to it, and its result. Of calls at
the same time each has exchanges of its own. -/
structure Creation where
  new : NewPost
  transcript : Transcript StorageOp.Answer
  result : Except ServiceError String
  plays : new.create.run.Plays transcript result

namespace Creation

/-- The numbers that a call was given, each with the kind of post that its sequence is for. -/
def drawn (c : Creation) : List (Post × Int) := c.transcript.filterMap Exchange.drawn?

/-- The id that a call returns. -/
def id? (c : Creation) : Option String := c.result.toOption

end Creation

namespace Storage

open Sql

variable {t : Transcript StorageOp.Answer} {p : Post} {id : String}

theorem drawn_of_nextId (h : (nextId p).run.Plays t (.ok id)) :
    ∃ n, (p, n) ∈ t.filterMap Exchange.drawn? ∧ id = p.kind.objectId n := by
  obtain ⟨e, -, he⟩ | ⟨t₁, n, t₂, hnumber, ⟨rfl, hid⟩, rfl⟩ := Program.plays_bind_except.mp h
  · cases he
  obtain rfl := Except.ok.inj hid
  rw [run_fetchOne] at hnumber
  obtain ⟨reply, rfl, hread⟩ := plays_reading.mp hnumber
  obtain ⟨o, rfl, r, hr, hn⟩ := required_eq_ok hread
  have hdrawn : Exchange.drawn? ⟨.run (.nextId p), .ok o⟩ = some (p, n) := by
    change (o.rows.head?.bind fun r => ((r.at_ 0 (.int .int64)).toOption).map (p, ·)) = _
    rw [hr, Option.bind_some, show r.at_ 0 (.int .int64) = .ok n from hn]
    rfl
  exact ⟨n, by simp [hdrawn], rfl⟩

theorem drawn_of_insert {insert : String → Statement}
    (h : (do
      let id ← nextId p
      let _ ← execute (insert id)
      return id : Stored String).run.Plays t (.ok id)) :
    ∃ n, (p, n) ∈ t.filterMap Exchange.drawn? ∧ id = p.kind.objectId n := by
  obtain ⟨e, -, he⟩ | ⟨t₁, new, t₂, hnew, hinsert, rfl⟩ := Program.plays_bind_except.mp h
  · cases he
  obtain ⟨e, -, he⟩ | ⟨_, _, _, -, ⟨rfl, hid⟩, rfl⟩ := Program.plays_bind_except.mp hinsert
  · cases he
  cases hid
  obtain ⟨n, hn, hid⟩ := drawn_of_nextId hnew
  exact ⟨n, by rw [List.filterMap_append]; exact List.mem_append_left _ hn, hid⟩

theorem drawn_of_create {new : NewPost} (h : new.create.run.Plays t (.ok id)) :
    ∃ n, (new.post, n) ∈ t.filterMap Exchange.drawn? ∧ id = new.post.kind.objectId n := by
  cases new with
  | question q => exact drawn_of_insert h
  | comment c => exact drawn_of_insert h
  | answer a =>
    obtain ⟨e, -, he⟩ | ⟨sent, e, -, he, -⟩ | ⟨sent, _, hbody, ⟨hid, rfl⟩ | ⟨e, he, -⟩⟩ :=
      plays_transaction h
    · cases he
    · cases he
    · cases hid
      obtain ⟨e, -, he⟩ | ⟨_, _, rest, -, hinsert, rfl⟩ := Program.plays_bind_except.mp hbody
      · cases he
      obtain ⟨n, hn, hid⟩ := drawn_of_insert hinsert
      refine ⟨n, ?_, hid⟩
      obtain ⟨x, hx, hdrawn⟩ := List.mem_filterMap.mp hn
      exact List.mem_filterMap.mpr ⟨x, by simp [hx], hdrawn⟩
    · cases he

end Storage

namespace Creation

variable {c c' : Creation} {cs : List Creation} {id id' : String}

theorem drawn_of_id (h : c.id? = some id) :
    ∃ n, (c.new.post, n) ∈ c.drawn ∧ id = c.new.post.kind.objectId n := by
  obtain ⟨new, t, r, hplays⟩ := c
  cases r with
  | error e => cases h
  | ok a =>
    cases h
    exact Storage.drawn_of_create hplays

theorem id_ne (hdrawn : c.drawn.Disjoint c'.drawn) (h : c.id? = some id)
    (h' : c'.id? = some id') : id ≠ id' := by
  obtain ⟨m, hm, rfl⟩ := drawn_of_id h
  obtain ⟨n, hn, rfl⟩ := drawn_of_id h'
  intro heq
  have hpair : (c.new.post.kind, m) = (c'.new.post.kind, n) := ObjectKind.objectId_injective heq
  obtain ⟨hkind, hnumber⟩ := Prod.mk.inj hpair
  have hpost : c.new.post = c'.new.post := Post.kind_injective hkind
  rw [hpost, hnumber] at hm
  exact hdrawn hm hn

theorem ids_nodup (h : (cs.flatMap drawn).Nodup) : (cs.filterMap id?).Nodup := by
  have hdisjoint := (List.nodup_flatMap.mp h).2
  refine List.pairwise_filterMap.mpr (hdisjoint.imp ?_)
  intro c c' hcc id hid id' hid'
  exact id_ne hcc hid hid'

end Creation

/-- **Ids are told apart and tell their kinds.** Every text is read, and as an id of some kind exactly
if it is the digit `1`, then the three digits of the kind, and then one digit or more. The id of an
object tells its kind unless its number is negative, and other numbers or kinds give other ids. So,
whatever is posted by calls that draw numbers of 64 bits, none of them negative and none of them
twice from one sequence, all ids that are returned differ, tell their kinds, and fit the limit of
ids in requests. -/
theorem ids_tell_kinds :
    (∀ (s : String) (k : ObjectKind), ObjectKind.ofObjectId? s = some k ↔
      ∃ number : String, s = "1" ++ k.codeText ++ number ∧ number ≠ "" ∧
        ∀ c ∈ number.toList, c.isDigit = true) ∧
    (∀ (k : ObjectKind) (n : Int), ObjectKind.ofObjectId? (k.objectId n) = some k ↔ 0 ≤ n) ∧
    (Function.Injective fun p : ObjectKind × Int => p.1.objectId p.2) ∧
    ∀ cs : List Creation, (cs.flatMap Creation.drawn).Nodup →
      (∀ d ∈ cs.flatMap Creation.drawn, 0 ≤ d.2 ∧ d.2 ≤ Text.Width.int64.hi) →
      (cs.filterMap Creation.id?).Nodup ∧
        ∀ c ∈ cs, ∀ id, c.id? = some id →
          ObjectKind.ofObjectId? id = some c.new.post.kind ∧ id.length ≤ 32 := by
  refine ⟨fun _ _ => ObjectKind.ofObjectId?_eq_some_iff, fun _ _ => ObjectKind.ofObjectId?_objectId,
    ObjectKind.objectId_injective, fun cs hdistinct hrange => ⟨Creation.ids_nodup hdistinct, ?_⟩⟩
  intro c hc id hid
  obtain ⟨n, hn, rfl⟩ := Creation.drawn_of_id hid
  obtain ⟨hlo, hhi⟩ := hrange _ (List.mem_flatMap.mpr ⟨c, hc, hn⟩)
  have hlen : (c.new.post.kind.objectId n).length ≤ 23 := ObjectKind.length_objectId_le hlo hhi
  exact ⟨ObjectKind.ofObjectId?_objectId.mpr hlo, hlen.trans (by decide)⟩

/-- A question and an answer to it, each with the first number of its own sequence. -/
def firstPosts : List Creation :=
  [{ new := .question ⟨"ada", "Which way?", "Left or right?"⟩
     transcript :=
      [⟨.run (.nextId .question), .ok ⟨[[("nextval", .int64 1)]], 1⟩⟩,
        ⟨.run (.insertQuestion (ObjectKind.question.objectId 1)
          ⟨"ada", "Which way?", "Left or right?"⟩), .ok ⟨[], 1⟩⟩]
     result := .ok (ObjectKind.question.objectId 1)
     plays := ⟨_, _, rfl, _, _, rfl, rfl, rfl⟩ },
    { new := .answer ⟨ObjectKind.question.objectId 1, "bob", "Straight on."⟩
      transcript :=
        [⟨.openTransaction, .ok ()⟩,
          ⟨.run (.countAnswer (ObjectKind.question.objectId 1)), .ok ⟨[], 1⟩⟩,
          ⟨.run (.nextId .answer), .ok ⟨[[("nextval", .int64 1)]], 1⟩⟩,
          ⟨.run (.insertAnswer (ObjectKind.answer.objectId 1)
            ⟨ObjectKind.question.objectId 1, "bob", "Straight on."⟩), .ok ⟨[], 1⟩⟩,
          ⟨.commit, .ok ()⟩]
      result := .ok (ObjectKind.answer.objectId 1)
      plays := ⟨_, _, rfl, _, _, rfl, _, _, rfl, _, _, rfl, _, _, rfl, rfl, rfl⟩ }]

theorem ids_tell_kinds_firstPosts :
    (firstPosts.flatMap Creation.drawn).Nodup ∧
    (∀ d ∈ firstPosts.flatMap Creation.drawn, 0 ≤ d.2 ∧ d.2 ≤ Text.Width.int64.hi) ∧
    (firstPosts.filterMap Creation.id?).Nodup ∧
    ∀ c ∈ firstPosts, ∀ id, c.id? = some id →
      ObjectKind.ofObjectId? id = some c.new.post.kind ∧ id.length ≤ 32 := by
  have hdrawn : firstPosts.flatMap Creation.drawn = [(.question, 1), (.answer, 1)] := rfl
  have hdistinct : (firstPosts.flatMap Creation.drawn).Nodup := by
    rw [hdrawn]
    decide
  have hrange : ∀ d ∈ firstPosts.flatMap Creation.drawn,
      0 ≤ d.2 ∧ d.2 ≤ Text.Width.int64.hi := by
    rw [hdrawn]
    decide
  exact ⟨hdistinct, hrange, ids_tell_kinds.2.2.2 firstPosts hdistinct hrange⟩

end Forum
