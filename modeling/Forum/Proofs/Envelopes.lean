import Forum.Proofs.Admission
import Forum.Proofs.Transcript

/-!
# Uniform replies

Every reply of the interface should be an envelope: its code is the status, and its message tells
the reason in the language that is asked for. Two replies are not. An id in the path that is no
text, once its octets are unescaped, is refused in plain text; and an `Accept-Language` header that
is no plain text counts as none, so the message is English whatever the header asks for.

* `Request.wanted`: the language that is asked for; `language_eq_iff`: when messages are in it;
* `Request.Matches`: a request for a route of the interface;
* `Envelope.Standard`, `plays_handle`: what endpoints reply;
* `Server.Uniform`: what a response should be;
* **`uniform_iff`**: when it is.
-/

namespace Forum

/-! ## The language that is asked for -/

namespace Request

/-- The language that the `Accept-Language` header asks for, whatever its octets; English without
such a header. -/
def wanted (r : Request) : Language :=
  match r.header? "accept-language" with
  | some v => .ofAcceptLanguage (Text.Utf8.decodeLossy v)
  | none => .english

theorem decodeLossy_of_plain {b : List UInt8} {s : List Char} (h : plainText? b = some s) :
    Text.Utf8.decodeLossy b = s := by
  obtain ⟨rfl, hascii⟩ := plainText?_eq_some h
  have hback := Text.Utf8.decodeLossy_encode (b.map charOf)
  rwa [encode_plain hascii] at hback

/-- Messages are in the language that is asked for, unless a header that is no plain text asks for
another one than English. -/
theorem language_eq_iff {r : Request} : r.language = r.wanted ↔
    ∀ v, r.header? "accept-language" = some v → plainText? v = none →
      Language.ofAcceptLanguage (Text.Utf8.decodeLossy v) = .english := by
  rw [language, wanted, headerText?]
  cases hv : r.header? "accept-language" with
  | none => simp
  | some v =>
    rw [Option.bind_some]
    cases htext : plainText? v with
    | none =>
      constructor
      · rintro h _ ⟨⟩ -
        exact h.symm
      · intro h
        exact (h v rfl htext).symm
    | some text =>
      refine iff_of_true ?_ ?_
      · exact congrArg Language.ofAcceptLanguage (decodeLossy_of_plain htext).symm
      · rintro _ ⟨⟩ hnone
        rw [htext] at hnone
        cases hnone

/-! ## Requests for the interface -/

/-- The path and the method of a request are those of a route of the interface, and this part of the
path stands for the hole of the route. -/
def Matches (r : Request) (part : List Char) : Prop :=
  ∃ path endpoints endpoint, Route.ofPath? r.path = some (Route.api path endpoints, part) ∧
    endpoints.lookup r.method = some endpoint

end Request

namespace Route

theorem mem_of_ofPath? {path part : List Char} {route : Route}
    (h : ofPath? path = some (route, part)) : route ∈ all := by
  obtain ⟨found, hfound, hmatch⟩ := List.exists_of_findSome?_eq_some h
  obtain ⟨_, -, hpair⟩ := Option.map_eq_some_iff.mp hmatch
  cases hpair
  exact hfound

theorem endpoints_of_mem {route : Route} (h : route ∈ all) : route.path = "/health" ∨
    ∀ p ∈ route.endpoints, p.1 ≠ "HEAD" ∧ ∀ id, p.2 id ≠ .health := by
  revert route
  simp [all, api, or_imp, forall_and]

theorem endpoint_of_matches {r : Request} {part : List Char} (h : r.Matches part) :
    r.method ≠ "HEAD" ∧ ∃ route endpoint, ofPath? r.path = some (route, part) ∧
      route.endpoint? r.method = some endpoint ∧ ∀ id, endpoint id ≠ .health := by
  obtain ⟨path, endpoints, endpoint, hroute, hmethod⟩ := h
  have hmem : (r.method, endpoint) ∈ endpoints := by
    obtain ⟨l₁, l₂, rfl, -⟩ := List.lookup_eq_some_iff.mp hmethod
    simp
  rcases endpoints_of_mem (mem_of_ofPath? hroute) with hpath | hlisted
  · have hhead := congrArg (fun s => s.toList.take 2) hpath
    simp [api] at hhead
  · obtain ⟨hmethod', hendpoint⟩ := hlisted _ hmem
    refine ⟨hmethod', _, endpoint, hroute, ?_, hendpoint⟩
    rw [endpoint?, if_neg hmethod']
    exact hmethod

end Route

/-! ## What endpoints reply -/

namespace Envelope

/-- An envelope of a request that succeeded or was refused. -/
def Standard (e : Envelope) : Prop := (∃ data, e = success data) ∨ ∃ err : ApiError, e = err.envelope

theorem Standard.status_eq {e : Envelope} (h : e.Standard) : e.status = e.code := by
  obtain ⟨data, rfl⟩ | ⟨err, rfl⟩ := h
  · rfl
  · cases err <;> rfl

theorem Standard.reason_mem {e : Envelope} (h : e.Standard) :
    e.reason ∈ Language.english.messages.map Prod.fst := by
  obtain ⟨data, rfl⟩ | ⟨err, rfl⟩ := h
  · exact List.mem_cons_self
  · cases err <;> simp [ApiError.envelope, ApiError.reason, Language.messages]

theorem Standard.message_injective {e : Envelope} (h : e.Standard) :
    Function.Injective fun l : Language => l.message e.reason := by
  have differ : ∀ reason ∈ Language.english.messages.map Prod.fst,
      Language.english.message reason ≠ Language.chinese.message reason := by decide
  have hne := differ _ h.reason_mem
  intro l l' hl
  cases l <;> cases l' <;> first | rfl | exact absurd hl hne | exact absurd hl.symm hne

theorem toJson_eq (e : Envelope) (msg : String) : e.toJson msg =
    .members [("code", .int e.code), ("data", e.data), ("msg", .text msg),
      ("reason", .text e.reason)] := rfl

/-- An envelope and its message can be read back. -/
theorem toJson_inj {e e' : Envelope} {msg msg' : String} (h : e.toJson msg = e'.toJson msg') :
    e = e' ∧ msg = msg' := by
  rw [toJson_eq, toJson_eq] at h
  simp only [Json.members.injEq, List.cons.injEq, Prod.mk.injEq, true_and, and_true] at h
  obtain ⟨hcode, hdata, hmsg, hreason⟩ := h
  have hcode' : (e.code : Int) = e'.code := Json.Number.int.inj (Json.number.inj hcode)
  obtain ⟨code, reason, data⟩ := e
  obtain rfl : code = e'.code := Int.ofNat.inj hcode'
  obtain rfl : data = e'.data := hdata
  obtain rfl : reason = e'.reason := Json.text.inj hreason
  exact ⟨rfl, Json.text.inj hmsg⟩

end Envelope

/-- **An endpoint replies with an envelope.** -/
theorem Endpoint.plays_handle {e : Endpoint} {c : Context} {r : Request} {reply : Reply}
    {t : Transcript Effect.Answer} (he : e ≠ .health) (h : (e.handle c r).Plays t reply) :
    ∃ env : Envelope, env.Standard ∧ reply = .envelope env := by
  unfold handle at h
  obtain ⟨_, found, _, -, hend, -⟩ := Program.plays_bind.mp h
  have hreply : reply = match found with
      | .ok v => .envelope (.success v)
      | .error err => .envelope err.envelope := by
    cases e with
    | health => exact absurd rfl he
    | _ => cases found <;> exact hend.2.symm
  cases found with
  | ok v => exact ⟨_, .inl ⟨v, rfl⟩, hreply⟩
  | error err => exact ⟨_, .inr ⟨err, rfl⟩, hreply⟩

/-! ## Responses -/

namespace Server

variable {s : Server} {now : Int} {r : Request} {part : List Char} {reply : Reply}
  {response : Response} {t : Transcript Effect.Answer}

/-- What a response should be: an envelope, of which the status is the code, with the message of its
reason in the language that is asked for. -/
def Uniform (r : Request) (response : Response) : Prop :=
  ∃ e : Envelope, response.contentType = some "application/json" ∧
    response.body = .json (e.toJson (r.wanted.message e.reason)) ∧ e.code = response.status

theorem not_uniform_badPath : ¬Uniform r badPath := by
  rintro ⟨e, -, hbody, -⟩
  cases hbody

theorem uniform_localize_iff {e : Envelope} (he : e.Standard) {l : Language} :
    Uniform r ((Reply.envelope e).localize l) ↔ l = r.wanted := by
  constructor
  · rintro ⟨e', -, hbody, -⟩
    obtain ⟨rfl, hmsg⟩ := Envelope.toJson_inj (Body.json.inj hbody)
    exact he.message_injective hmsg
  · rintro rfl
    exact ⟨e, rfl, rfl, he.status_eq.symm⟩

theorem plays_respond (hhead : r.method ≠ "HEAD") (h : (s.respond now r).Plays t response) :
    ∃ t₁ reply, response = reply.localize r.language ∧
      match s.authenticate now r with
      | .ok caller => (Server.reply ⟨caller, r.language⟩ r).Plays t₁ reply
      | .error e => reply = .envelope e.envelope := by
  rw [respond_eq] at h
  obtain ⟨t₁, reply, _, hreply, ⟨_, _, -, -, hresponse⟩, -⟩ := Program.plays_bind.mp h
  refine ⟨t₁, reply, ?_, ?_⟩
  · rw [← hresponse]
    exact if_neg hhead
  · cases ha : s.authenticate now r with
    | error e =>
      rw [ha] at hreply
      exact hreply.2.symm
    | ok caller =>
      rw [ha] at hreply
      exact hreply

/-- The reply to a request for a route of the interface is that of an endpoint, if the part of the
path that stands for the hole is a text. -/
theorem plays_reply {c : Context} (hr : r.Matches part) (h : (Server.reply c r).Plays t reply) :
    if (Text.Utf8.decode? (Text.Percent.decode part)).isSome then
      ∃ e : Envelope, e.Standard ∧ reply = .envelope e
    else reply = .plain badPath := by
  obtain ⟨-, route, endpoint, hroute, hmethod, hapi⟩ := Route.endpoint_of_matches hr
  unfold Server.reply at h
  simp only [hroute, hmethod] at h
  cases hid : Text.Utf8.decode? (Text.Percent.decode part) with
  | none =>
    rw [hid] at h
    exact h.2.symm
  | some id =>
    rw [hid] at h
    exact Endpoint.plays_handle (hapi _) h

/-- **A response is what it should be** exactly if the part of the path that stands for an id is a
text or the request is refused before it is read, and if an `Accept-Language` header that is no plain
text does not ask for another language than English. -/
theorem uniform_iff (hr : r.Matches part) (h : (s.respond now r).Plays t response) :
    Uniform r response ↔
      ((∃ e, s.authenticate now r = .error e) ∨
        (Text.Utf8.decode? (Text.Percent.decode part)).isSome) ∧
      ∀ v, r.header? "accept-language" = some v → Request.plainText? v = none →
        Language.ofAcceptLanguage (Text.Utf8.decodeLossy v) = .english := by
  obtain ⟨t₁, reply, rfl, hreply⟩ := plays_respond (Route.endpoint_of_matches hr).1 h
  rw [← Request.language_eq_iff]
  cases ha : s.authenticate now r with
  | error e =>
    rw [ha] at hreply
    obtain rfl : reply = .envelope e.envelope := hreply
    rw [uniform_localize_iff (.inr ⟨e, rfl⟩)]
    simp
  | ok caller =>
    rw [ha] at hreply
    have hcases := plays_reply hr hreply
    split at hcases
    · next hid =>
      obtain ⟨e, he, rfl⟩ := hcases
      rw [uniform_localize_iff he]
      simp [hid]
    · next hid =>
      subst hcases
      refine iff_of_false not_uniform_badPath fun hboth => ?_
      rcases hboth.1 with ⟨e, he⟩ | hsome
      · cases he
      · exact hid hsome

/-- A request for the badges, in Chinese. -/
def badges : Request where
  method := "GET"
  target := "/answer/api/v1/badges".toList
  headers := [("Accept-Language", Text.Utf8.encode "zh-CN,en;q=0.8".toList)]

theorem matches_badges : badges.Matches [] := ⟨_, _, _, rfl, rfl⟩

/-- That there are no badges is told in Chinese. -/
theorem uniform_iff_badges :
    badges.Matches [] ∧ ∃ t response, (Server.respond ⟨⟨"", "", 0⟩⟩ 0 badges).Plays t response ∧
      Uniform badges response := by
  have hplays : (Server.respond ⟨⟨"", "", 0⟩⟩ 0 badges).Plays
      [⟨.call .activeBadges, .ok []⟩, ⟨_, ()⟩] _ := ⟨_, _, rfl, _, _, rfl, rfl, rfl⟩
  refine ⟨matches_badges, _, _, hplays, (uniform_iff matches_badges hplays).mpr ⟨.inr rfl, ?_⟩⟩
  intro v hv hnone
  have hplain : ∀ v ∈ badges.header? "accept-language", Request.plainText? v ≠ none := by
    decide +kernel
  exact absurd hnone (hplain v hv)

/-- A request to delete a question whose id is no text. -/
def misspelt : Request where
  method := "DELETE"
  target := "/answer/api/v1/question/%ff".toList

/-- An id that is no text is refused without an envelope. -/
theorem not_uniform_misspelt :
    misspelt.Matches "%ff".toList ∧ ∃ t response,
      (Server.respond ⟨⟨"", "", 0⟩⟩ 0 misspelt).Plays t response ∧ ¬Uniform misspelt response := by
  have hplays : (Server.respond ⟨⟨"", "", 0⟩⟩ 0 misspelt).Plays [⟨_, ()⟩] badPath :=
    ⟨_, _, rfl, rfl, rfl⟩
  exact ⟨⟨_, _, _, rfl, rfl⟩, _, _, hplays, not_uniform_badPath⟩

end Server

end Forum
