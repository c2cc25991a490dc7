import NexoIm.Middleware.InternalAuth

/-!
# JWT authentication (`auth.go`)

`JWTAuth` guards the user-facing routes. It reads a token from `Authorization: Bearer …`, or
from `X-Token` when that header is blank or malformed, parses it as a nexo token and, when
external tokens are enabled, as an external one, and stores the claims' user and platform
for the handlers. In the test environment a request with an `Ignore-Auth` header passes with
nothing stored.

* `extractToken`, `parseTokenWithFallback`, `jwtAuth`; `jwt.ParseToken` and
  `jwt.ParseExternalToken` belong to `pkg/jwt`, which is not among the sources, and are left
  abstract (`TokenParsers`);
* every token `extractToken` returns is non-empty and trimmed (`extractToken_ok`);
* a trimmed header that starts with `"Bearer "` ends with a character that is not white
  space, so the token after the prefix is never empty (`extractToken_of_bearer`), and the
  branch that reports an empty bearer token as missing never runs. `JWTAuth` answers
  `ErrTokenMissing` exactly when both headers are blank (`jwtAuth_missing_iff`): a bare
  `Authorization: Bearer` is trimmed to `"Bearer"`, lacks the prefix's space, and without
  `X-Token` is `ErrTokenInvalid`.
-/

namespace NexoIm

def authorizationHeader : String := "Authorization"
def xTokenHeader : String := "X-Token"
def ignoreAuthHeader : String := "Ignore-Auth"
def bearerPrefix : String := "Bearer "

/-- The fields of `jwt.Claims` that the middleware stores. -/
structure Claims where
  userId : String
  platformId : Int64

/-- The `JWT` section of `config.Config`. -/
structure JwtConfig where
  secret : String

/-- The `ExternalJWT` section of `config.Config`. -/
structure ExternalJwtConfig where
  enabled : Bool
  secret : String
  defaultRole : String
  defaultPlatformId : Int64

/-- The sections of `config.Config` that the middleware reads. -/
structure Config where
  jwt : JwtConfig
  externalJwt : ExternalJwtConfig
  internalAuth : InternalAuthConfig

/-- `jwt.ParseToken(token, secret)` and `jwt.ParseExternalToken(token, secret, defaultRole,
defaultPlatformId)`, left abstract. -/
structure TokenParsers where
  parseToken : String → String → Except ErrCode Claims
  parseExternalToken : String → String → String → Int64 → Except ErrCode Claims

/-- `extractToken`: the bearer token of `Authorization`, or else `X-Token`. -/
def extractToken (c : RequestContext) : Except ErrCode String :=
  let authHeader := trimSpace (c.getHeader authorizationHeader)
  if authHeader ≠ "" then
    if hasPrefix authHeader bearerPrefix then
      let tokenString := trimSpace (trimPrefix authHeader bearerPrefix)
      if tokenString = "" then .error .errTokenMissing
      else .ok tokenString
    else
      let xToken := trimSpace (c.getHeader xTokenHeader)
      if xToken ≠ "" then .ok xToken
      else .error .errTokenInvalid
  else
    let xToken := trimSpace (c.getHeader xTokenHeader)
    if xToken = "" then .error .errTokenMissing
    else .ok xToken

/-- `ParseTokenWithFallback`: a nexo token first, then an external one if enabled. -/
def parseTokenWithFallback (tp : TokenParsers) (tokenString : String) (cfg : Option Config) :
    Except ErrCode Claims :=
  match cfg with
  | none => .error .errTokenInvalid
  | some cfg =>
    match tp.parseToken tokenString cfg.jwt.secret with
    | .ok claims => .ok claims
    | .error err =>
      if cfg.externalJwt.enabled then
        tp.parseExternalToken tokenString cfg.externalJwt.secret cfg.externalJwt.defaultRole
          cfg.externalJwt.defaultPlatformId
      else .error err

/-- `JWTAuth`, `testEnv` being `isTestEnv()`: the claims it stores, `none` when the test
environment's `Ignore-Auth` lets the request through, or the error it aborts with. -/
def jwtAuth (tp : TokenParsers) (testEnv : Bool) (cfg : Option Config) (c : RequestContext) :
    Except ErrCode (Option Claims) :=
  if testEnv ∧ c.getHeader ignoreAuthHeader ≠ "" then .ok none
  else
    match extractToken c with
    | .error .errTokenMissing => .error .errTokenMissing
    | .error _ => .error .errTokenInvalid
    | .ok tokenString =>
      match parseTokenWithFallback tp tokenString cfg with
      | .error _ => .error .errTokenInvalid
      | .ok claims => .ok (some claims)

/-! ### The token -/

/-- After the prefix of a trimmed `"Bearer "` header something that is not white space is left:
the header's last character. -/
theorem trimSpace_trimPrefix_bearer_ne_empty {a : String} (ha : trimSpace a ≠ "")
    (hp : hasPrefix (trimSpace a) bearerPrefix = true) :
    trimSpace (trimPrefix (trimSpace a) bearerPrefix) ≠ "" := by
  obtain ⟨r, hr⟩ := List.isPrefixOf_iff_prefix.1 hp
  obtain ⟨x, hx⟩ : ∃ x, (trimSpace a).toList.getLast? = some x :=
    Option.ne_none_iff_exists'.1 fun h => ha (String.ext (List.getLast?_eq_none_iff.1 h))
  have hsx := getLast?_trimSpace hx
  rw [← hr, List.getLast?_append] at hx
  rw [trimPrefix, if_pos hp]
  change trimSpace ⟨(trimSpace a).toList.drop bearerPrefix.toList.length⟩ ≠ ""
  rw [← hr, List.drop_left]
  cases hrl : r.getLast? with
  | none =>
    rw [hrl] at hx
    cases hx
    exact absurd hsx (by decide)
  | some y =>
    rw [hrl] at hx
    cases hx
    exact trimSpace_ne_empty (List.mem_of_getLast?_eq_some hrl) hsx

/-- A trimmed `Authorization` header with the `"Bearer "` prefix gives the token after it. -/
theorem extractToken_of_bearer {c : RequestContext}
    (ha : trimSpace (c.getHeader authorizationHeader) ≠ "")
    (hp : hasPrefix (trimSpace (c.getHeader authorizationHeader)) bearerPrefix = true) :
    extractToken c =
      .ok (trimSpace (trimPrefix (trimSpace (c.getHeader authorizationHeader)) bearerPrefix)) := by
  simp only [extractToken, if_pos ha, if_pos hp, if_neg (trimSpace_trimPrefix_bearer_ne_empty ha hp)]

/-- Every token `extractToken` finds is non-empty and trimmed. -/
theorem extractToken_ok {c : RequestContext} {t : String} (h : extractToken c = .ok t) :
    t ≠ "" ∧ trimSpace t = t := by
  dsimp only [extractToken] at h
  split_ifs at h with h₁ h₂ h₃ h₄ h₅ <;> cases h
  · exact ⟨h₃, trimSpace_trimSpace _⟩
  · exact ⟨h₄, trimSpace_trimSpace _⟩
  · exact ⟨h₅, trimSpace_trimSpace _⟩

theorem extractToken_missing_iff {c : RequestContext} :
    extractToken c = .error .errTokenMissing ↔
      trimSpace (c.getHeader authorizationHeader) = "" ∧
        trimSpace (c.getHeader xTokenHeader) = "" := by
  by_cases ha : trimSpace (c.getHeader authorizationHeader) = ""
  · simp only [extractToken, ha, ne_eq, not_true_eq_false, if_false, true_and]
    split_ifs <;> simp_all
  · by_cases hp : hasPrefix (trimSpace (c.getHeader authorizationHeader)) bearerPrefix = true
    · simp [extractToken_of_bearer ha hp, ha]
    · dsimp only [extractToken]
      rw [if_pos ha, if_neg hp]
      split_ifs <;> simp [ha]

example : extractToken ⟨[("Authorization", "Bearer  ")], "GET", "/user/info", []⟩ =
    .error .errTokenInvalid := by
  rfl

/-! ### What `JWTAuth` lets through -/

/-- `JWTAuth` lets a request through only with `Ignore-Auth` in the test environment, storing
nothing, or with the claims `ParseTokenWithFallback` gives for the token `extractToken`
found. -/
theorem jwtAuth_ok {tp : TokenParsers} {testEnv : Bool} {cfg : Option Config}
    {c : RequestContext} {r : Option Claims} (h : jwtAuth tp testEnv cfg c = .ok r) :
    (r = none ∧ testEnv = true ∧ c.getHeader ignoreAuthHeader ≠ "") ∨
      ∃ t claims, r = some claims ∧ extractToken c = .ok t ∧
        parseTokenWithFallback tp t cfg = .ok claims := by
  unfold jwtAuth at h
  split_ifs at h with hb
  · cases h
    exact .inl ⟨rfl, hb⟩
  · split at h
    · cases h
    · cases h
    · rename_i t ht
      split at h
      · cases h
      · rename_i claims hc
        cases h
        exact .inr ⟨t, claims, rfl, ht, hc⟩

theorem jwtAuth_missing_iff_extractToken {tp : TokenParsers} {testEnv : Bool}
    {cfg : Option Config} {c : RequestContext} :
    jwtAuth tp testEnv cfg c = .error .errTokenMissing ↔
      ¬ (testEnv = true ∧ c.getHeader ignoreAuthHeader ≠ "") ∧
        extractToken c = .error .errTokenMissing := by
  unfold jwtAuth
  split_ifs with hb
  · simp [hb]
  · simp only [hb, not_false_eq_true, true_and]
    rcases extractToken c with e | t
    · cases e <;> simp
    · cases hp : parseTokenWithFallback tp t cfg <;> simp [hp]

/-- A bare `Authorization: Bearer` lacks the prefix's space, and without `X-Token` it is an
invalid token. -/
theorem extractToken_bare_bearer {c : RequestContext}
    (ha : trimSpace (c.getHeader authorizationHeader) = "Bearer")
    (hx : trimSpace (c.getHeader xTokenHeader) = "") :
    extractToken c = .error .errTokenInvalid := by
  have hp : hasPrefix "Bearer" bearerPrefix = false := by decide
  simp only [extractToken, ha, hx, hp, ne_eq, Bool.false_eq_true, if_false, not_true_eq_false]
  exact if_pos (by decide)

/-- **Missing against invalid.** `JWTAuth` answers `ErrTokenMissing` exactly when the
`Ignore-Auth` bypass does not apply and `Authorization` and `X-Token` are both blank; a bare
`Authorization: Bearer` without `X-Token` is answered `ErrTokenInvalid`. -/
theorem jwtAuth_missing_iff {tp : TokenParsers} {testEnv : Bool} {cfg : Option Config}
    {c : RequestContext} :
    (jwtAuth tp testEnv cfg c = .error .errTokenMissing ↔
      ¬ (testEnv = true ∧ c.getHeader ignoreAuthHeader ≠ "") ∧
        trimSpace (c.getHeader authorizationHeader) = "" ∧
        trimSpace (c.getHeader xTokenHeader) = "") ∧
    (¬ (testEnv = true ∧ c.getHeader ignoreAuthHeader ≠ "") →
      trimSpace (c.getHeader authorizationHeader) = "Bearer" →
      trimSpace (c.getHeader xTokenHeader) = "" →
      jwtAuth tp testEnv cfg c = .error .errTokenInvalid) := by
  refine ⟨by rw [jwtAuth_missing_iff_extractToken, extractToken_missing_iff], fun hb ha hx => ?_⟩
  simp only [jwtAuth, if_neg hb, extractToken_bare_bearer ha hx]

end NexoIm
