import Forum.Proofs.Envelopes

/-!
# The reasons of failures

A failure of the service has a reason, and every reason has a message in each language. The response
to a request that fails should tell the reason of the failure. A user or a badge that is not found
is told of like any other object.

* `ServiceError.response`: what is sent to tell of a failure;
* `status_ofService`, `reason_ofService_eq_iff`: the refusal that a failure leads to;
* `lookup_reason`: every reason has a message;
* `Tells`: what the response should tell;
* **`tells_iff`**: when it does.
-/

namespace Forum.ServiceError

/-- What is sent to tell of a failure. -/
def response (e : ServiceError) (l : Language) : Response :=
  (Reply.envelope (ApiError.ofService e).envelope).localize l

/-- A response that tells of a failure should tell its reason, with the message of that reason. Its
status should tell whether the cause lies with the request. -/
structure Tells (e : ServiceError) (l : Language) (response : Response) : Prop where
  status : response.status = if e.isBusiness then 400 else 500
  body : ∃ env : Envelope, env.reason = e.reason ∧
    response.body = .json (env.toJson (l.message e.reason))

variable (e : ServiceError) (l : Language)

theorem status_ofService : (ApiError.ofService e).status = if e.isBusiness then 400 else 500 := by
  cases e <;> rfl

theorem status_response : (e.response l).status = if e.isBusiness then 400 else 500 := by
  have hcode : (e.response l).status = (ApiError.ofService e).status :=
    Envelope.Standard.status_eq (.inr ⟨_, rfl⟩)
  rw [hcode, status_ofService]

theorem reason_ofService_eq_iff : (ApiError.ofService e).reason = e.reason ↔
    (∀ id, e ≠ .userNotFound id) ∧ ∀ id, e ≠ .badgeNotFound id := by
  cases e <;> simp [ApiError.ofService, ApiError.reason, reason]

theorem lookup_reason : l.messages.lookup e.reason = some (l.message e.reason) := by
  cases l <;> cases e <;> rfl

/-- A response tells what it should if the refusal has the reason of the failure. -/
theorem tells_iff_reason_eq :
    e.Tells l (e.response l) ↔ (ApiError.ofService e).reason = e.reason := by
  constructor
  · rintro ⟨-, env, hreason, hbody⟩
    obtain ⟨rfl, -⟩ := Envelope.toJson_inj (Body.json.inj hbody)
    exact hreason
  · intro hreason
    refine ⟨status_response e l, (ApiError.ofService e).envelope, hreason, ?_⟩
    rw [← hreason]
    rfl

/-- **What the response to a failure tells.** For every failure and in every language the status
tells whether the cause lies with the request, and the reason of the failure has a message. The
response tells this reason and this message exactly if the failure is not that a user or a badge is
not found. -/
theorem tells_iff :
    (e.response l).status = (if e.isBusiness then 400 else 500) ∧
    l.messages.lookup e.reason = some (l.message e.reason) ∧
    (e.Tells l (e.response l) ↔ (∀ id, e ≠ .userNotFound id) ∧ ∀ id, e ≠ .badgeNotFound id) :=
  ⟨status_response e l, lookup_reason e l,
    (tells_iff_reason_eq e l).trans (reason_ofService_eq_iff e)⟩

/-- That there is no such user is told as that there is no such object. -/
theorem not_tells_userNotFound :
    (userNotFound "u1").reason = "user.not_found" ∧
    Language.english.message "user.not_found" = "User not found." ∧
    ((userNotFound "u1").response .english).body =
      .json (Envelope.toJson ⟨400, "base.object_not_found", .null⟩ "Object not found.") ∧
    ¬(userNotFound "u1").Tells .english ((userNotFound "u1").response .english) := by
  refine ⟨rfl, rfl, rfl, fun htells => ?_⟩
  have hreason := (tells_iff_reason_eq _ _).mp htells
  exact absurd hreason (by decide)

end Forum.ServiceError
