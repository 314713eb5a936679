import VyuhHmi.Auth.Claims
import VyuhHmi.Models

/-!
# Bearer tokens

Signing and checking is done by `jsonwebtoken` with the server's secret.  What is used of it: a
token that was signed decodes to its claims until 60 seconds after they expire.
-/

namespace VyuhHmi

/-- The `Authorization` header of a request, in bytes. -/
structure Headers where
  authorization : Option (List UInt8)
deriving DecidableEq

/-- `HeaderValue::to_str`: only visible ASCII and tabs. -/
def toStr (value : List UInt8) : Option String :=
  if value.all fun b ↦ (32 ≤ b && b < 127) || b == 9 then
    some (String.ofList (value.map fun b ↦ Char.ofNat b.toNat))
  else none

/-- `str::strip_prefix`. -/
def stripPrefix (start text : String) : Option String :=
  (start.toList.isPrefixOf? text.toList).map String.ofList

/-- The Unicode property `White_Space`. -/
def isWhitespace (c : Char) : Bool :=
  let code := c.toNat
  (9 ≤ code && code ≤ 13) || code == 32 || code == 133 || code == 160 || code == 5760 ||
    (8192 ≤ code && code ≤ 8202) || code == 8232 || code == 8233 || code == 8239 ||
    code == 8287 || code == 12288

/-- `str::trim`. -/
def trim (text : String) : String :=
  String.ofList ((text.toList.dropWhile isWhitespace).reverse.dropWhile isWhitespace).reverse

/-- Extract Bearer token from request headers. -/
def extractToken (headers : Headers) : Option String :=
  (headers.authorization.bind toStr).bind (stripPrefix "Bearer ")

/-- The seconds of an instant, as `DateTime::timestamp` gives them. -/
def timestamp (now : Instant) : ℕ := now / nanosPerSecond

/-- Signing and checking tokens with the server's secret. -/
structure Jwt where
  encode : Claims → Except String String
  decode : Instant → String → Except String Claims

/-- The leeway, in seconds, that the default validation allows on `exp`. -/
def leeway : ℕ := 60

/-- A signed token decodes to its claims, and only that, while it has not expired. -/
structure Jwt.Lawful (jwt : Jwt) : Prop where
  decode_encode : ∀ claims token, jwt.encode claims = .ok token →
    ∀ now claims', jwt.decode now token = .ok claims' ↔
      claims' = claims ∧ timestamp now ≤ claims.exp + leeway

/-- Token expiry duration. -/
def tokenExpiryHours : ℕ := 8

/-- The claims of a new token. -/
def newClaims (now : Instant) (sessionId userId username role : String) : Claims where
  sub := username
  role := role
  userId := userId
  exp := timestamp (now + tokenExpiryHours * 60 * nanosPerMinute)
  iat := timestamp now
  sessionId := some sessionId

/-- `create_token`, with the session id it has drawn: the token, its expiry and the session id. -/
def createToken (jwt : Jwt) (now : Instant) (sessionId userId username role : String) :
    Except String (String × Instant × String) :=
  match jwt.encode (newClaims now sessionId userId username role) with
  | .ok token => .ok (token, now + tokenExpiryHours * 60 * nanosPerMinute, sessionId)
  | .error e => .error ("Token creation failed: " ++ e)

def validateToken (jwt : Jwt) (now : Instant) (token : String) : Except String Claims :=
  match jwt.decode now token with
  | .ok claims => .ok claims
  | .error e => .error ("Invalid token: " ++ e)

theorem createToken_eq_ok_iff {jwt : Jwt} {now expiresAt : Instant}
    {sessionId sessionId' userId username role token : String} :
    createToken jwt now sessionId userId username role = .ok (token, expiresAt, sessionId') ↔
      jwt.encode (newClaims now sessionId userId username role) = .ok token ∧
        expiresAt = now + tokenExpiryHours * 60 * nanosPerMinute ∧ sessionId' = sessionId := by
  unfold createToken
  cases jwt.encode (newClaims now sessionId userId username role) with
  | ok signed => simp [eq_comm]
  | error e => simp

theorem validateToken_eq_ok_iff {jwt : Jwt} {now : Instant} {token : String} {claims : Claims} :
    validateToken jwt now token = .ok claims ↔ jwt.decode now token = .ok claims := by
  unfold validateToken
  cases jwt.decode now token <;> simp

/-- A token made by `create_token`. -/
structure IssuedToken (jwt : Jwt) where
  issuedAt : Instant
  userId : String
  username : String
  role : String
  sessionId : String
  token : String
  expiresAt : Instant
  created : createToken jwt issuedAt sessionId userId username role = .ok (token, expiresAt, sessionId)

namespace IssuedToken

variable {jwt : Jwt}

def claims (issued : IssuedToken jwt) : Claims :=
  newClaims issued.issuedAt issued.sessionId issued.userId issued.username issued.role

@[simp] theorem claims_sessionId (issued : IssuedToken jwt) :
    issued.claims.sessionId = some issued.sessionId := rfl

@[simp] theorem claims_role (issued : IssuedToken jwt) : issued.claims.role = issued.role := rfl

theorem claims_exp (issued : IssuedToken jwt) : issued.claims.exp = timestamp issued.expiresAt := by
  rw [(createToken_eq_ok_iff.mp issued.created).2.1]
  rfl

/-- An issued token validates as its own claims until the leeway is over. -/
theorem validateToken_iff (hjwt : jwt.Lawful) (issued : IssuedToken jwt) {now : Instant}
    {claims : Claims} : validateToken jwt now issued.token = .ok claims ↔
      claims = issued.claims ∧ timestamp now ≤ timestamp issued.expiresAt + leeway := by
  rw [validateToken_eq_ok_iff, ← claims_exp]
  exact hjwt.decode_encode _ _ (createToken_eq_ok_iff.mp issued.created).1 now claims

end IssuedToken

end VyuhHmi
