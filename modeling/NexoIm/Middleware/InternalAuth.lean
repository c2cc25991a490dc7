import NexoIm.Errcode
import NexoIm.Go.Strconv
import NexoIm.Go.Strings

/-!
# Service-to-service authentication (`internal_auth.go`)

`validateInternalRequest` admits a request when internal auth is enabled with a secret,
the three headers `X-Service-Name`, `X-Timestamp`, `X-Signature` are present, the service
is allow-listed, the timestamp parses and lies within `MaxSkewSeconds` of the clock, and
the signature is the HMAC of the request.

* `Primitives`: SHA-256, HMAC-SHA256 and `strings.EqualFold`, library code the model leaves
  abstract, with the digest lengths as fields;
* `signInternalRequest`, `isServiceAllowed`, `absInt64`, `validateInternalRequest`,
  `internalAuthAsUser`;
* the skew check computes `absInt64(now - ts)` in wrapping `int64` arithmetic. It admits
  exactly the timestamps of the window, the one timestamp `now - 2^63`, and, for skews above
  `2^63 - now`, the timestamps whose distance wraps into the window
  (`skewAccepted_iff`).
-/

namespace NexoIm

/-- The library functions the middleware calls, left abstract: `sha256.Sum256`,
HMAC-SHA256 as `hmac.New(sha256.New, key)` computes it, and `strings.EqualFold`. -/
structure Primitives where
  sha256 : List UInt8 → List UInt8
  sha256_length : ∀ m, (sha256 m).length = 32
  hmacSha256 : List UInt8 → List UInt8 → List UInt8
  hmacSha256_length : ∀ k m, (hmacSha256 k m).length = 32
  equalFold : String → String → Bool

/-- The `InternalAuth` section of `config.GlobalConfig`. -/
structure InternalAuthConfig where
  enabled : Bool
  secret : String
  allowedServices : List String
  maxSkewSeconds : Int64

/-- What the middleware reads of a request: headers, method, path and body. -/
structure RequestContext where
  headers : List (String × String)
  method : String
  path : String
  body : List UInt8

/-- `c.GetHeader(key)`: the header's value, empty when it is absent. -/
def RequestContext.getHeader (c : RequestContext) (key : String) : String :=
  ((c.headers.find? (·.1 = key)).map (·.2)).getD ""

def internalServiceNameHeader : String := "X-Service-Name"
def internalTimestampHeader : String := "X-Timestamp"
def internalSignatureHeader : String := "X-Signature"
def internalUserIdHeader : String := "X-User-Id"
def internalPlatformIdHeader : String := "X-Platform-Id"

section

variable (p : Primitives)

/-- `signInternalRequest`: the hex HMAC of
`"<svc>\n<ts>\n<METHOD>\n<path>\n<hex(sha256(body))>"` under the secret. -/
def signInternalRequest (secret serviceName timestamp method path : String)
    (body : List UInt8) : String :=
  let bodyHash := hexEncode (p.sha256 body)
  let payload := "\n".intercalate [serviceName, timestamp, toUpper method, path, bodyHash]
  hexEncode (p.hmacSha256 secret.toUTF8.toList payload.toUTF8.toList)

/-- `isServiceAllowed`: an empty allow-list admits every service. -/
def isServiceAllowed (serviceName : String) (allowed : List String) : Bool :=
  allowed.isEmpty || allowed.any fun s => p.equalFold (trimSpace s) serviceName

/-- `absInt64`, with Go's wrapping negation. -/
def absInt64 (v : Int64) : Int64 := if v < 0 then -v else v

/-- `validateInternalRequest` at the clock reading `now` (`time.Now().Unix()`). -/
def validateInternalRequest (cfg : Option InternalAuthConfig) (now : Int64)
    (c : RequestContext) : Except ErrCode String :=
  match cfg with
  | none => .error .errForbidden
  | some cfg =>
    if !cfg.enabled then .error .errForbidden
    else if trimSpace cfg.secret = "" then .error .errForbidden
    else
      let serviceName := trimSpace (c.getHeader internalServiceNameHeader)
      let tsStr := trimSpace (c.getHeader internalTimestampHeader)
      let signature := trimSpace (c.getHeader internalSignatureHeader)
      if serviceName = "" ∨ tsStr = "" ∨ signature = "" then .error .errUnauthorized
      else if !isServiceAllowed p serviceName cfg.allowedServices then .error .errForbidden
      else
        let (ts, err) := parseInt tsStr
        if err.isSome then .error .errUnauthorized
        else if absInt64 (now - ts) > cfg.maxSkewSeconds then .error .errUnauthorized
        else
          let expected := signInternalRequest p cfg.secret serviceName tsStr c.method c.path c.body
          if toLower signature ≠ expected then .error .errUnauthorized
          else .ok serviceName

/-- `InternalAuthAsUser`: internal validation, then the acting user and platform from
`X-User-Id` and `X-Platform-Id` (default `5`, Web). `strconv.Atoi` on a 64-bit platform
returns the value of `ParseInt(s, 10, 64)`. -/
def internalAuthAsUser (cfg : Option InternalAuthConfig) (now : Int64) (c : RequestContext) :
    Except ErrCode (String × String × Int64) :=
  match validateInternalRequest p cfg now c with
  | .error e => .error e
  | .ok serviceName =>
    let userId := trimSpace (c.getHeader internalUserIdHeader)
    if userId = "" then .error .errUnauthorized
    else
      let platformIdStr := trimSpace (c.getHeader internalPlatformIdHeader)
      if platformIdStr = "" then .ok (serviceName, userId, 5)
      else
        let (pid, err) := parseInt platformIdStr
        if err.isSome ∨ pid ≤ 0 then .error .errInvalidParam
        else .ok (serviceName, userId, pid)

/-! ### The skew check -/

/-- **The skew check in wrapping arithmetic.** For a clock and a skew that are not negative,
`absInt64(now - ts) ≤ MaxSkewSeconds` holds exactly when `ts` lies in the window, or
`now - ts` is `2^63` (it wraps to `MinInt64`, whose negation is itself), or `now - ts`
exceeds `2^63` by so much that its wrapped magnitude falls back into the window. -/
theorem skewAccepted_iff {now ts skew : Int64} (hnow : 0 ≤ now) (hskew : 0 ≤ skew) :
    ¬ absInt64 (now - ts) > skew ↔
      (-skew.val ≤ now.val - ts.val ∧ now.val - ts.val ≤ skew.val) ∨
      now.val - ts.val = 9223372036854775808 ∨
      (9223372036854775808 < now.val - ts.val ∧
        18446744073709551616 - (now.val - ts.val) ≤ skew.val) := by
  rw [Int64.le_iff, Int64.val_zero] at hnow hskew
  have := ts.val_ge; have := ts.val_le; have := now.val_le; have := skew.val_le
  unfold absInt64
  split_ifs <;>
    simp only [gt_iff_lt, not_lt, Int64.lt_iff, Int64.le_iff, Int64.val_neg, Int64.val_sub,
      Int64.val_zero, wrap] at * <;> omega

theorem skewAccepted_at_min :
    (0 : Int64) ≤ 1700000000 ∧ (0 : Int64) ≤ 300 ∧
    (¬ absInt64 (1700000000 - Int64.ofInt (-9223372035154775808)) > 300 ↔
      (-(300 : Int64).val ≤ (1700000000 : Int64).val - (Int64.ofInt (-9223372035154775808)).val ∧
        (1700000000 : Int64).val - (Int64.ofInt (-9223372035154775808)).val ≤ (300 : Int64).val) ∨
      (1700000000 : Int64).val - (Int64.ofInt (-9223372035154775808)).val = 9223372036854775808 ∨
      (9223372036854775808 < (1700000000 : Int64).val - (Int64.ofInt (-9223372035154775808)).val ∧
        18446744073709551616 - ((1700000000 : Int64).val - (Int64.ofInt (-9223372035154775808)).val)
          ≤ (300 : Int64).val)) :=
  ⟨by decide, by decide, skewAccepted_iff (by decide) (by decide)⟩

/-! ### The signature format -/

theorem signInternalRequest_ne_empty (secret serviceName timestamp method path : String)
    (body : List UInt8) : signInternalRequest p secret serviceName timestamp method path body ≠ "" :=
  hexEncode_ne_empty (List.ne_nil_of_length_pos (by rw [p.hmacSha256_length]; decide))

theorem trimSpace_signInternalRequest (secret serviceName timestamp method path : String)
    (body : List UInt8) :
    trimSpace (signInternalRequest p secret serviceName timestamp method path body) =
      signInternalRequest p secret serviceName timestamp method path body :=
  trimSpace_eq_self (isSpace_hexEncode _)

theorem toLower_signInternalRequest (secret serviceName timestamp method path : String)
    (body : List UInt8) :
    toLower (signInternalRequest p secret serviceName timestamp method path body) =
      signInternalRequest p secret serviceName timestamp method path body :=
  toLower_hexEncode _

/-! ### What an admitted request satisfies -/

/-- The request checks of the middleware, as one predicate: internal auth enabled with a
secret, an allow-listed service `svc`, a timestamp that parses and passes the skew check,
and as signature (in any letter case) the HMAC of the request under the secret. -/
structure Admits (cfg : InternalAuthConfig) (now : Int64) (c : RequestContext) (svc : String) :
    Prop where
  enabled : cfg.enabled = true
  secret_ne : trimSpace cfg.secret ≠ ""
  service : trimSpace (c.getHeader internalServiceNameHeader) = svc
  service_ne : svc ≠ ""
  allowed : isServiceAllowed p svc cfg.allowedServices = true
  timestamp : ∃ ts, parseInt (trimSpace (c.getHeader internalTimestampHeader)) = (ts, none) ∧
    ¬ absInt64 (now - ts) > cfg.maxSkewSeconds
  signature : toLower (trimSpace (c.getHeader internalSignatureHeader)) =
    signInternalRequest p cfg.secret svc (trimSpace (c.getHeader internalTimestampHeader))
      c.method c.path c.body

/-- A guard that fails with an error let an `.ok` result through only when it is false. -/
theorem ite_error_eq_ok {ε α : Type} {q : Prop} [Decidable q] {e : ε} {x : Except ε α} {v : α}
    (h : (if q then .error e else x) = .ok v) : ¬ q ∧ x = .ok v := by
  by_cases hq : q
  · rw [if_pos hq] at h
    cases h
  · rw [if_neg hq] at h
    exact ⟨hq, h⟩

theorem admits_of_validateInternalRequest {cfg : Option InternalAuthConfig} {now : Int64}
    {c : RequestContext} {svc : String} (h : validateInternalRequest p cfg now c = .ok svc) :
    ∃ a, cfg = some a ∧ Admits p a now c svc := by
  rcases cfg with _ | a
  · cases h
  rcases hp : parseInt (trimSpace (c.getHeader internalTimestampHeader)) with ⟨ts, err⟩
  simp only [validateInternalRequest, hp] at h
  obtain ⟨hen, h⟩ := ite_error_eq_ok h
  obtain ⟨hsec, h⟩ := ite_error_eq_ok h
  obtain ⟨hhdr, h⟩ := ite_error_eq_ok h
  obtain ⟨hallow, h⟩ := ite_error_eq_ok h
  obtain ⟨herr, h⟩ := ite_error_eq_ok h
  obtain ⟨hskew, h⟩ := ite_error_eq_ok h
  obtain ⟨hsig, h⟩ := ite_error_eq_ok h
  cases h
  cases err with
  | none => exact ⟨a, rfl, by simpa using hen, hsec, rfl, fun he => hhdr (.inl he),
      by simpa using hallow, ⟨ts, hp, hskew⟩, not_not.1 hsig⟩
  | some e => exact absurd rfl herr

theorem validateInternalRequest_of_admits {a : InternalAuthConfig} {now : Int64}
    {c : RequestContext} {svc : String} (h : Admits p a now c svc) :
    validateInternalRequest p (some a) now c = .ok svc := by
  obtain ⟨ts, hts, hskew⟩ := h.timestamp
  have htsne : trimSpace (c.getHeader internalTimestampHeader) ≠ "" := by
    intro he
    rw [he] at hts
    cases hts
  have hsigne : trimSpace (c.getHeader internalSignatureHeader) ≠ "" := by
    intro he
    apply signInternalRequest_ne_empty p a.secret svc _ c.method c.path c.body
    rw [← h.signature, he]
    rfl
  simp only [validateInternalRequest, h.enabled, h.secret_ne, h.service, h.service_ne, htsne,
    hsigne, h.allowed, hts, hskew, h.signature, Bool.not_true, Bool.false_eq_true, or_self,
    if_false, Option.isSome_none, ne_eq, not_true_eq_false]

/-- **Signer and verifier agree.** A request whose `X-Signature` is what
`signInternalRequest` computes for it, from an allow-listed service, with a timestamp that
parses and lies within the skew, is admitted. -/
theorem validateInternalRequest_signed {a : InternalAuthConfig} {now ts : Int64}
    {c : RequestContext} {svc tsStr : String} (hen : a.enabled = true)
    (hsec : trimSpace a.secret ≠ "") (hsvc : trimSpace (c.getHeader internalServiceNameHeader) = svc)
    (hne : svc ≠ "") (hallow : isServiceAllowed p svc a.allowedServices = true)
    (hts : trimSpace (c.getHeader internalTimestampHeader) = tsStr)
    (hparse : parseInt tsStr = (ts, none)) (hskew : ¬ absInt64 (now - ts) > a.maxSkewSeconds)
    (hsig : c.getHeader internalSignatureHeader =
      signInternalRequest p a.secret svc tsStr c.method c.path c.body) :
    validateInternalRequest p (some a) now c = .ok svc :=
  validateInternalRequest_of_admits p ⟨hen, hsec, hsvc, hne, hallow, ⟨ts, hts ▸ hparse, hskew⟩,
    by rw [hsig, trimSpace_signInternalRequest, toLower_signInternalRequest, hts]⟩

theorem validateInternalRequest_of_internalAuthAsUser {cfg : Option InternalAuthConfig}
    {now : Int64} {c : RequestContext} {svc userId : String} {pid : Int64}
    (h : internalAuthAsUser p cfg now c = .ok (svc, userId, pid)) :
    validateInternalRequest p cfg now c = .ok svc := by
  unfold internalAuthAsUser at h
  split at h
  · cases h
  rename_i svc' hv
  rcases hp : parseInt (trimSpace (c.getHeader internalPlatformIdHeader)) with ⟨q, err⟩
  simp only [hp] at h
  split_ifs at h <;> cases h <;> exact hv

/-! ### A request signed at the clock reading -/

/-- Primitives with constant digests and case-sensitive matching, to run the middleware on
concrete requests. -/
def constPrimitives : Primitives where
  sha256 _ := List.replicate 32 0
  sha256_length _ := List.length_replicate _ _
  hmacSha256 _ _ := List.replicate 32 0
  hmacSha256_length _ _ := List.length_replicate _ _
  equalFold a b := a == b

/-- A request of service `svc` acting as `u1`, signed at `1700000000`. -/
def signedRequest : RequestContext where
  headers := [("X-Service-Name", "svc"), ("X-Timestamp", "1700000000"),
    ("X-Signature", signInternalRequest constPrimitives "secret" "svc" "1700000000" "GET"
      "/internal/health" []), ("X-User-Id", "u1")]
  method := "GET"
  path := "/internal/health"
  body := []

theorem validateInternalRequest_signed_request :
    validateInternalRequest constPrimitives (some ⟨true, "secret", [], 300⟩) 1700000000
      signedRequest = .ok "svc" :=
  @validateInternalRequest_signed constPrimitives ⟨true, "secret", [], 300⟩ 1700000000 1700000000
    signedRequest "svc" "1700000000" rfl (by decide) (by decide) (by decide) rfl (by decide)
    (by decide) (by decide) rfl

/-- A correctly signed request from service `svc` whose `X-Timestamp` is `2^63` seconds
before the clock reading `1700000000`. -/
def wrappedRequest : RequestContext where
  headers := [("X-Service-Name", "svc"), ("X-Timestamp", "-9223372035154775808"),
    ("X-Signature",
      signInternalRequest p "secret" "svc" "-9223372035154775808" "GET" "/internal/health" [])]
  method := "GET"
  path := "/internal/health"
  body := []

/-- With the default skew of 300 s, `validateInternalRequest` admits `wrappedRequest`: its
timestamp parses to `now - 2^63`, and `absInt64(now - ts)` wraps to `MinInt64 ≤ 300`. -/
theorem validateInternalRequest_wrapped :
    (parseInt "-9223372035154775808").1.val = 1700000000 - 9223372036854775808 ∧
    validateInternalRequest p (some ⟨true, "secret", [], 300⟩) 1700000000 (wrappedRequest p) =
      .ok "svc" := by
  have hts : parseInt "-9223372035154775808" = (Int64.ofInt (-9223372035154775808), none) := by
    decide
  have t1 : trimSpace "secret" = "secret" := by decide
  have t2 : trimSpace "svc" = "svc" := by decide
  have t3 : trimSpace "-9223372035154775808" = "-9223372035154775808" := by decide
  have hskew : ¬ absInt64 (1700000000 - Int64.ofInt (-9223372035154775808)) > 300 := by decide
  refine ⟨by rw [hts]; decide, ?_⟩
  simp [validateInternalRequest, wrappedRequest, RequestContext.getHeader,
    internalServiceNameHeader, internalTimestampHeader, internalSignatureHeader,
    isServiceAllowed, hts, t1, t2, t3, hskew, trimSpace_signInternalRequest,
    toLower_signInternalRequest, signInternalRequest_ne_empty]

end

end NexoIm
