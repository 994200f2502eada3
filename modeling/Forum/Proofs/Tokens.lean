import Forum.Http.Server
import Forum.Proofs.JsonTexts

/-!
# Tokens are read back

A token is text: three parts between dots, each octets in base64, two of them JSON. What a key has
signed it reads back, and then only the time and the issuer decide.

* `Token.splitLast?_eq_some_iff`: where a token is cut;
* `Token.decodePart_encodePart`, `readPart_claims`: its parts;
* **`TokenKey.verify_encode`**: what is left to check of a token with the right signature;
* **`TokenKey.signature_of_verify`**: no other signature is accepted;
* **`TokenKey.tokens_hold`**: a token that was issued, at any time.
-/

namespace Forum

open Json Text

namespace Base64url

theorem dot_notMem_encode (s : List UInt8) : '.' ∉ encode s := by
  have hchar : ∀ n < 64, char n ≠ '.' := by decide
  fun_induction encode s with
  | case1 a b c s n ih =>
    have ha := a.toNat_lt; have hb := b.toNat_lt; have hc := c.toNat_lt
    have hn : n < 16777216 := by omega
    simp only [List.mem_cons, not_or]
    exact ⟨(hchar _ (by omega)).symm, (hchar _ (by omega)).symm, (hchar _ (by omega)).symm,
      (hchar _ (by omega)).symm, ih⟩
  | case2 a b n =>
    have ha := a.toNat_lt; have hb := b.toNat_lt
    have hn : n < 262144 := by omega
    simp only [List.mem_cons, List.not_mem_nil, or_false, not_or]
    exact ⟨(hchar _ (by omega)).symm, (hchar _ (by omega)).symm, (hchar _ (by omega)).symm⟩
  | case3 a n =>
    have ha := a.toNat_lt
    have hn : n < 4096 := by omega
    simp only [List.mem_cons, List.not_mem_nil, or_false, not_or]
    exact ⟨(hchar _ (by omega)).symm, (hchar _ (by omega)).symm⟩
  | case4 => exact List.not_mem_nil

end Base64url

namespace Token

theorem splitLast?_eq_some_iff {s t u : List Char} :
    splitLast? s = some (t, u) ↔ s = t ++ '.' :: u ∧ '.' ∉ u := by
  unfold splitLast?
  constructor
  · intro h
    dsimp only at h
    split at h
    · next c front hdrop =>
      obtain ⟨e, he⟩ : ∃ e, s.reverse.takeWhile (· ≠ '.') = e := ⟨_, rfl⟩
      obtain ⟨hsplit, hall, hhead⟩ := takeWhile_dropWhile_iff.mp ⟨he, hdrop⟩
      have hdot : c = '.' := by simpa using hhead c rfl
      rw [he] at h
      cases h
      refine ⟨?_, fun hmem => by simpa using hall '.' (List.mem_reverse.mp hmem)⟩
      rw [← List.reverse_reverse s, hsplit, hdot]
      simp
    · cases h
  · rintro ⟨rfl, hno⟩
    have hall : ∀ c ∈ u.reverse, decide (c ≠ '.') = true := fun c hc => decide_eq_true <| by
      rintro rfl
      exact hno (List.mem_reverse.mp hc)
    obtain ⟨htake, hdrop⟩ : (t ++ '.' :: u).reverse.takeWhile (· ≠ '.') = u.reverse ∧
        (t ++ '.' :: u).reverse.dropWhile (· ≠ '.') = '.' :: t.reverse :=
      takeWhile_dropWhile_iff.mpr ⟨by simp, hall, by simp⟩
    dsimp only
    rw [htake, hdrop]
    simp

theorem decodePart_encodePart {v : Json} (h : v.Integral) :
    decodePart (encodePart v) = .ok (Doc.ofJson v, true) := by
  rw [decodePart, encodePart, Base64url.decode?_encode]
  exact congrArg Except.ok (Doc.ofOctets_render h)

theorem decodePart_header : ∃ d, decodePart header = .ok d ∧
    readPart headerRecord.decoder d = .ok algorithm := by
  have hintegral : Integral (.members [("typ", .text "JWT"), ("alg", .text algorithm)]) :=
    ⟨trivial, trivial, trivial⟩
  exact ⟨_, decodePart_encodePart hintegral, rfl⟩

theorem readPart_claims {c : Claims} (hiat : Width.int64.lo ≤ c.iat ∧ c.iat ≤ Width.int64.hi)
    (hexp : Width.int64.lo ≤ c.exp ∧ c.exp ≤ Width.int64.hi) :
    readPart Claims.record.decoder (Doc.ofJson (.members c.jsonMembers), true) = .ok c := by
  have hint : ∀ {room : Nat} {n : Int}, Width.int64.lo ≤ n ∧ n ≤ Width.int64.hi →
      Decoder.int .int64 room (.number (some (.int n))) = .ok n := fun h => if_pos h
  have hcheck : Claims.record.checkMembers 126 [] (Doc.ofJson.ofMembers c.jsonMembers) =
      .ok () := by
    simp [Doc.ofJson, Doc.ofJson.ofMembers, Claims.jsonMembers, Claims.record, Record.required,
      Record.extend, Record.ofFunction, Record.checkMembers, hint hiat, hint hexp]
    rfl
  have hbuild : Claims.record.build 126
      (fun n => (Doc.ofJson.ofMembers c.jsonMembers).lookup (some n)) = .ok c := by
    simp [Doc.ofJson, Doc.ofJson.ofMembers, Claims.jsonMembers, Claims.record, Record.required,
      Record.extend, Record.ofFunction, List.lookup_cons, hint hiat, hint hexp]
    rfl
  have hdecode : Claims.record.decoder maxNesting (Doc.ofJson (.members c.jsonMembers)) =
      .ok c := by
    rw [Doc.ofJson, maxNesting, Record.decoder, hcheck]
    exact hbuild
  rw [readPart, Decoder.finish, hdecode]
  rfl

end Token

/-- A second since 1970 on a day that has a date. -/
def Date.HasSecond (t : Int) : Prop :=
  (⟨minYear, 1, 1⟩ : Date).toDays * 86400 ≤ t ∧ t < ((⟨maxYear, 12, 31⟩ : Date).toDays + 1) * 86400

instance (t : Int) : Decidable (Date.HasSecond t) := by unfold Date.HasSecond; infer_instance

theorem Date.HasSecond.bounds {t : Int} (h : HasSecond t) :
    Width.int64.lo ≤ t ∧ t ≤ Width.int64.hi := by
  have hlo : Width.int64.lo ≤ (⟨minYear, 1, 1⟩ : Date).toDays * 86400 := by decide
  have hhi : ((⟨maxYear, 12, 31⟩ : Date).toDays + 1) * 86400 ≤ Width.int64.hi := by decide
  exact ⟨hlo.trans h.1, (Int.le_of_lt h.2).trans hhi⟩

namespace TokenKey

open Token

variable {k : TokenKey} {now : Int}

theorem splitLast?_encode (k : TokenKey) (c : Claims) :
    splitLast? (k.encode c).toList =
        some (header ++ '.' :: encodePart (.members c.jsonMembers),
          k.sign (header ++ '.' :: encodePart (.members c.jsonMembers))) ∧
      splitLast? (header ++ '.' :: encodePart (.members c.jsonMembers)) =
        some (header, encodePart (.members c.jsonMembers)) := by
  constructor
  · exact splitLast?_eq_some_iff.mpr ⟨String.toList_ofList, Base64url.dot_notMem_encode _⟩
  · exact splitLast?_eq_some_iff.mpr ⟨rfl, Base64url.dot_notMem_encode _⟩

/-- The claims of a token that this key has signed are those that were encoded; what is left are the
checks. -/
theorem verify_encode {k' : TokenKey} {c : Claims} (hsecret : k'.secret = k.secret)
    (hiat : Width.int64.lo ≤ c.iat ∧ c.iat ≤ Width.int64.hi)
    (hexp : Width.int64.lo ≤ c.exp ∧ c.exp ≤ Width.int64.hi) :
    k'.verify now (k.encode c) =
      if c.exp < 0 then .error (.missingClaim "exp")
      else if c.exp < now - leeway then .error .expired
      else if c.iss ≠ k'.issuer then .error .invalidIssuer
      else .ok c := by
  obtain ⟨htoken, hmessage⟩ := splitLast?_encode k c
  have hsign : ∀ m, k'.sign m = k.sign m := fun m => by rw [sign, sign, hsecret]
  have hintegral : Integral (.members c.jsonMembers) :=
    ⟨trivial, trivial, hiat, hexp, trivial, trivial⟩
  obtain ⟨d, hdecode, hread⟩ := decodePart_header
  have hclaims : k'.check now c (Doc.ofJson (.members c.jsonMembers)) =
      if c.exp < 0 then .error (.missingClaim "exp")
      else if c.exp < now - leeway then .error .expired
      else if c.iss ≠ k'.issuer then .error .invalidIssuer
      else .ok c := rfl
  unfold verify
  rw [htoken]
  dsimp only
  rw [hmessage]
  dsimp only
  simp only [hdecode, hread, hsign, decodePart_encodePart hintegral, readPart_claims hiat hexp,
    hclaims, bind, Except.bind, ne_eq, not_true_eq_false, if_false]

/-- **No other signature is accepted**: a token that is accepted ends in the signature of what
stands before its last dot. -/
theorem signature_of_verify {token : String} {c : Claims} (h : k.verify now token = .ok c) :
    ∃ message, splitLast? token.toList = some (message, k.sign message) := by
  unfold verify at h
  split at h
  · next message signature hsplit =>
    split at h
    · next head payload _ =>
      cases hdecode : decodePart head with
      | error e => rw [hdecode] at h; cases h
      | ok d =>
        cases hread : readPart headerRecord.decoder d with
        | error e => simp only [hdecode, hread, bind, Except.bind] at h; cases h
        | ok alg =>
          simp only [hdecode, hread, bind, Except.bind] at h
          split_ifs at h with halg hsign
          exact ⟨message, by rw [hsplit, not_not.mp hsign]⟩
    · cases h
  · cases h

theorem verify_issue {k' : TokenKey} {t₀ t : Int} {userId username : String}
    (hsecret : k'.secret = k.secret) (hstart : Date.HasSecond t₀)
    (hend : Date.HasSecond (t₀ + k.lifetime)) (hpast : 0 ≤ t₀ + k.lifetime) :
    k'.verify t (k.issue t₀ userId username) =
      if t₀ + k.lifetime < t - leeway then .error .expired
      else if k.issuer ≠ k'.issuer then .error .invalidIssuer
      else .ok ⟨userId, username, t₀, t₀ + k.lifetime, k.issuer⟩ := by
  rw [issue, verify_encode hsecret hstart.bounds hend.bounds]
  exact if_neg (Int.not_lt.mpr hpast)

/-- **A token is what its key says it is.** A token is accepted with the same secret and issuer
until a minute after its end, and then says what it was issued with; later it has expired. With
another issuer it is never accepted, and no token is accepted with any other signature than that of
what stands before its last dot. -/
theorem tokens_hold (k : TokenKey) (userId username : String) {t₀ : Int}
    (hstart : Date.HasSecond t₀) (hend : Date.HasSecond (t₀ + k.lifetime))
    (hpast : 0 ≤ t₀ + k.lifetime) :
    (∀ (k' : TokenKey) (t : Int), k'.secret = k.secret → k'.issuer = k.issuer →
      (k'.verify t (k.issue t₀ userId username)).mapError Server.refusal =
        if t ≤ t₀ + k.lifetime + 60 then
          .ok ⟨userId, username, t₀, t₀ + k.lifetime, k.issuer⟩
        else .error (.unauthorized "Token 已过期")) ∧
    (∀ (k' : TokenKey) (t : Int) (c : Claims), k'.secret = k.secret → k'.issuer ≠ k.issuer →
      k'.verify t (k.issue t₀ userId username) ≠ .ok c) ∧
    ∀ (k' : TokenKey) (t : Int) (c : Claims) (message signature : List Char),
      '.' ∉ signature → signature ≠ k'.sign message →
        k'.verify t (String.ofList (message ++ '.' :: signature)) ≠ .ok c := by
  refine ⟨fun k' t hsecret hissuer => ?_, fun k' t c hsecret hissuer => ?_,
    fun k' t c message signature hdot hother h => ?_⟩
  · have hminute : leeway = 60 := rfl
    rw [verify_issue hsecret hstart hend hpast, hissuer]
    by_cases hlate : t ≤ t₀ + k.lifetime + 60
    · rw [if_neg (by omega), if_neg (not_not.mpr rfl), if_pos hlate]
      rfl
    · rw [if_pos (by omega), if_neg hlate]
      rfl
  · rw [verify_issue hsecret hstart hend hpast, if_pos hissuer.symm]
    split_ifs <;> exact nofun
  · obtain ⟨m, hm⟩ := signature_of_verify h
    have hsplit : splitLast? (message ++ '.' :: signature) = some (message, signature) :=
      splitLast?_eq_some_iff.mpr ⟨rfl, hdot⟩
    rw [String.toList_ofList, hsplit] at hm
    cases hm
    exact hother rfl

/-- A token for an hour: an hour and a minute after it was issued it is accepted, a second later it
has expired. -/
theorem tokens_hold_hour :
    let k : TokenKey := ⟨"秘密", "answer", 3600⟩
    let token := k.issue 1700000000 "u.1" "\"Ada\"\n"
    Date.HasSecond 1700000000 ∧ Date.HasSecond (1700000000 + 3600) ∧ (0 : Int) ≤ 1700000000 + 3600 ∧
      (k.verify 1700003660 token).mapError Server.refusal =
        .ok ⟨"u.1", "\"Ada\"\n", 1700000000, 1700003600, "answer"⟩ ∧
      (k.verify 1700003661 token).mapError Server.refusal =
        .error (.unauthorized "Token 已过期") := by
  intro k token
  have hstart : Date.HasSecond 1700000000 := by decide
  have hend : Date.HasSecond (1700000000 + k.lifetime) := by decide
  have hpast : 0 ≤ 1700000000 + k.lifetime := by decide
  have hold := (tokens_hold k "u.1" "\"Ada\"\n" hstart hend hpast).1 k
  exact ⟨hstart, hend, hpast, hold 1700003660 rfl rfl, hold 1700003661 rfl rfl⟩

end TokenKey

end Forum
