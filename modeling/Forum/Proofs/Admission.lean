import Forum.Http.Server
import Forum.Proofs.World

/-!
# Who a request is from

A request without an `Authorization` header is anonymous, one with an accepted token is its user's,
and one with any other header should be refused. It is, if the header is plain text. A header that
is not counts as none, and so the request is answered as an anonymous one.

* `Server.Bears`: an accepted token in the value of a header;
* `Server.Sees`, `Server.Refuses`: a request is handled for a caller, or not at all;
* `Server.Admission`: what should become of a request by its header;
* **`encode_plain`**, `decode?_of_plain`: plain text is its own octets;
* **`sees_of_none`**, **`sees_of_bears`**, **`refuses_of_plain`**: what becomes of plain headers;
* **`admission_iff`**: what should become of a request does exactly if its header is plain.
-/

namespace Forum

/-! ## Plain text -/

namespace Request

/-- The character of an octet. -/
def charOf (o : UInt8) : Char := Char.ofNat o.toNat

theorem plainText?_eq_some {b : List UInt8} {s : List Char} (h : plainText? b = some s) :
    s = b.map charOf ∧ ∀ o ∈ b, o.toNat < 128 := by
  unfold plainText? at h
  split at h
  · next hall =>
    cases h
    refine ⟨rfl, fun o ho => ?_⟩
    have hplain := List.all_eq_true.mp hall o ho
    simp only [Bool.or_eq_true, Bool.and_eq_true, decide_eq_true_eq] at hplain
    rcases hplain with rfl | ⟨-, hlt⟩
    · decide
    · exact Nat.lt_trans (UInt8.lt_iff_toNat_lt.mp hlt) (by decide)
  · cases h

theorem encodeChar_charOf {o : UInt8} (h : o.toNat < 128) :
    Text.Utf8.encodeChar (charOf o) = [o] := by
  have hvalid : o.toNat.isValidChar := .inl (by omega)
  have hcode : (charOf o).toNat = o.toNat := by
    rw [charOf, Char.ofNat, dif_pos hvalid]
    rfl
  rw [Text.Utf8.encodeChar, hcode, if_pos h, UInt8.ofNat_toNat]

/-- **Plain text is its own octets.** -/
theorem encode_plain {b : List UInt8} (h : ∀ o ∈ b, o.toNat < 128) :
    Text.Utf8.encode (b.map charOf) = b := by
  induction b with
  | nil => rfl
  | cons o b ih =>
    have hrest : Text.Utf8.encode (b.map charOf) = b :=
      ih fun o' ho' => h o' (List.mem_cons_of_mem _ ho')
    change Text.Utf8.encodeChar (charOf o) ++ Text.Utf8.encode (b.map charOf) = o :: b
    rw [encodeChar_charOf (h o List.mem_cons_self), hrest]
    rfl

theorem decode?_of_plain {b : List UInt8} {s : List Char} (h : plainText? b = some s) :
    Text.Utf8.decode? b = some s := by
  obtain ⟨rfl, hascii⟩ := plainText?_eq_some h
  have hback := Text.Utf8.decode?_encode (b.map charOf)
  rwa [encode_plain hascii] at hback

end Request

/-! ## Callers -/

namespace Server

variable (s : Server) (now : Int) (r : Request)

/-- The value of a header is the scheme and then a token that is accepted without the blanks around
it. -/
def Bears (value : List UInt8) (c : Claims) : Prop :=
  ∃ token, Text.Utf8.decode? value = some (scheme ++ token) ∧
    s.key.verify now (String.ofList (Text.trim token)) = .ok c

/-- What is sent for a reply, which is counted. -/
def conclude (reply : Reply) : Service Response := do
  let response := withoutBody r.method (reply.localize r.language)
  Service.count (.httpRequest r.method (pathLabel r) response.status)
  return response

/-- The request is handled for a caller, or for nobody. -/
def Sees (caller : Option Caller) : Prop :=
  s.authenticate now r = .ok caller ∧
    s.respond now r = reply ⟨caller, r.language⟩ r >>= conclude r

/-- The request is refused as unauthorized. It is not handled, and nothing is asked for it but to
count it. -/
def Refuses : Prop :=
  (∃ e, s.authenticate now r = .error e) ∧ ∀ w : World,
    w.result (s.respond now r) = withoutBody r.method
      ((Reply.envelope ⟨401, "base.unauthorized_error", .null⟩).localize r.language) ∧
    w.asked (s.respond now r) = [.count (.httpRequest r.method (pathLabel r) 401)]

/-- What should become of a request: without a header it is anonymous, with an accepted token it is
its user's, and with any other header it is refused. -/
def Admission : Prop :=
  match r.header? "authorization" with
  | none => s.Sees now r none
  | some value =>
    (∀ c, s.Bears now value c → s.Sees now r (some ⟨c.sub, c.username⟩)) ∧
      ((∀ c, ¬ s.Bears now value c) → s.Refuses now r)

theorem respond_eq : s.respond now r =
    (match s.authenticate now r with
      | .ok caller => reply ⟨caller, r.language⟩ r
      | .error e => pure (.envelope e.envelope)) >>= conclude r := by
  unfold respond
  cases s.authenticate now r <;> rfl

variable {s now r}

theorem sees_of_authenticate {caller : Option Caller} (h : s.authenticate now r = .ok caller) :
    s.Sees now r caller := by
  refine ⟨h, ?_⟩
  rw [respond_eq, h]

theorem refuses_of_authenticate {detail : String}
    (h : s.authenticate now r = .error (.unauthorized detail)) : s.Refuses now r := by
  refine ⟨⟨_, h⟩, fun w => ?_⟩
  rw [respond_eq, h]
  constructor
  · rfl
  · have hstatus : (withoutBody r.method ((Reply.envelope
        (ApiError.unauthorized detail).envelope).localize r.language)).status = 401 := by
      unfold withoutBody
      split <;> rfl
    change [Effect.count (.httpRequest r.method (pathLabel r) (withoutBody r.method _).status)] = _
    rw [hstatus]

/-- **Without a plain header nobody is told.** -/
theorem sees_of_none (h : r.headerText? "authorization" = none) : s.Sees now r none := by
  refine sees_of_authenticate ?_
  rw [authenticate, h]

theorem authenticate_scheme {token : List Char}
    (h : r.headerText? "authorization" = some (scheme ++ token)) :
    s.authenticate now r =
      match s.key.verify now (String.ofList (Text.trim token)) with
      | .ok c => .ok (some ⟨c.sub, c.username⟩)
      | .error e => .error (refusal e) := by
  have hscheme : scheme.isPrefixOf (scheme ++ token) = true :=
    List.isPrefixOf_iff_prefix.mpr (List.prefix_append scheme token)
  have hdrop : (scheme ++ token).drop scheme.length = token := List.drop_left
  rw [authenticate, h]
  refine (if_pos hscheme).trans ?_
  cases hverify : s.key.verify now (String.ofList (Text.trim token)) with
  | ok c => simp only [hdrop, hverify]
  | error e => simp only [hdrop, hverify]

variable {value : List UInt8} {text : List Char}

/-- **An accepted token in a plain header tells its user.** -/
theorem sees_of_bears (hr : r.header? "authorization" = some value)
    (hplain : Request.plainText? value = some text) {c : Claims} (h : s.Bears now value c) :
    s.Sees now r (some ⟨c.sub, c.username⟩) := by
  obtain ⟨token, hdecode, hverify⟩ := h
  have htext : r.headerText? "authorization" = some (scheme ++ token) := by
    rw [Request.headerText?, hr, Option.bind_some, hplain, ← Request.decode?_of_plain hplain,
      hdecode]
  refine sees_of_authenticate ?_
  rw [authenticate_scheme htext, hverify]

/-- **Any other plain header is refused.** -/
theorem refuses_of_plain (hr : r.header? "authorization" = some value)
    (hplain : Request.plainText? value = some text) (h : ∀ c, ¬ s.Bears now value c) :
    s.Refuses now r := by
  have htext : r.headerText? "authorization" = some text := by
    rw [Request.headerText?, hr, Option.bind_some, hplain]
  by_cases hscheme : scheme.isPrefixOf text = true
  · obtain ⟨token, rfl⟩ := List.isPrefixOf_iff_prefix.mp hscheme
    have hauth := @authenticate_scheme s now r token htext
    cases hverify : s.key.verify now (String.ofList (Text.trim token)) with
    | ok c => exact absurd ⟨token, Request.decode?_of_plain hplain, hverify⟩ (h c)
    | error e =>
      rw [hverify] at hauth
      exact refuses_of_authenticate hauth
  · have hauth : s.authenticate now r = .error (.unauthorized "Authorization 头格式错误") := by
      rw [authenticate, htext]
      exact if_neg hscheme
    exact refuses_of_authenticate hauth

/-- A header that is not plain counts as none, whatever it says. -/
theorem not_admission_of_not_plain (hr : r.header? "authorization" = some value)
    (hplain : Request.plainText? value = none) : ¬ s.Admission now r := by
  have htext : r.headerText? "authorization" = none := by
    rw [Request.headerText?, hr, Option.bind_some, hplain]
  have hnobody : s.authenticate now r = .ok none := (sees_of_none htext).1
  unfold Admission
  rw [hr]
  rintro ⟨hsees, hrefuses⟩
  by_cases h : ∃ c, s.Bears now value c
  · obtain ⟨c, hc⟩ := h
    have hcaller := (hsees c hc).1
    rw [hnobody] at hcaller
    cases hcaller
  · obtain ⟨⟨e, he⟩, -⟩ := hrefuses (not_exists.mp h)
    rw [hnobody] at he
    cases he

variable (s now r)

/-- **A request becomes what it should exactly if its `Authorization` header is plain**, or if it
has none. -/
theorem admission_iff :
    s.Admission now r ↔
      ∀ value, r.header? "authorization" = some value → (Request.plainText? value).isSome := by
  cases hr : r.header? "authorization" with
  | none =>
    have hadmission : s.Admission now r := by
      unfold Admission
      rw [hr]
      exact sees_of_none (by rw [Request.headerText?, hr, Option.bind_none])
    exact iff_of_true hadmission (by simp)
  | some value =>
    cases hplain : Request.plainText? value with
    | none =>
      refine iff_of_false (not_admission_of_not_plain hr hplain) fun h => ?_
      have hsome := h value rfl
      rw [hplain] at hsome
      cases hsome
    | some text =>
      have hadmission : s.Admission now r := by
        unfold Admission
        rw [hr]
        exact ⟨fun c hc => sees_of_bears hr hplain hc, refuses_of_plain hr hplain⟩
      refine iff_of_true hadmission ?_
      rintro _ ⟨⟩
      rw [hplain]
      rfl

/-- The request for the badges, with a token that is no plain text. -/
def listing : Request where
  method := "GET"
  target := "/answer/api/v1/badges".toList
  headers := [("Authorization", Text.Utf8.encode "Bearer é".toList)]

/-- A token that is not accepted is not refused if it is no plain text. -/
theorem not_admission_listing : ¬ Admission ⟨⟨"", "", 0⟩⟩ 0 listing := by
  have hvalue : listing.header? "authorization" = some (Text.Utf8.encode "Bearer é".toList) := by
    decide +kernel
  exact not_admission_of_not_plain hvalue (by decide +kernel)

end Server

end Forum
