import SentinelOps.Auth.Tokens
import SentinelOps.Lib.Hashlib
import SentinelOps.Lib.StrEnum

/-!
# Accounts and roles

The accounts of the platform API (`authenticate_user`, `create_access_token`, `decode_access_token`,
`require_role`) and the dependency that the services share (`Shared.requireRole`). The platform API
looks an account up again for every request; the shared dependency knows nothing of accounts and
trusts the role in the token.
-/

namespace SentinelOps.Auth

open Remediation (AuthenticatedUser roleRank)

/-- `Role`. -/
inductive Role where
  | viewer
  | approver
  | admin
  deriving DecidableEq

instance instStrEnumRole : StrEnum Role where
  members := [.viewer, .approver, .admin]
  str
    | .viewer => "viewer"
    | .approver => "approver"
    | .admin => "admin"
  complete a := by cases a <;> decide
  distinct := by decide

/-- `_ROLE_RANK`. -/
def Role.rank : Role → Nat
  | .viewer => 0
  | .approver => 1
  | .admin => 2

/-- `_PBKDF2_ITERATIONS`. -/
def pbkdf2Iterations : Nat := 200000

/-- `s.encode("utf-8")`. -/
def utf8 (s : String) : List UInt8 := s.toUTF8.data.toList

/-- The key that a password is stretched to. -/
def derive (password : String) (salt : List UInt8) : List UInt8 :=
  Hashlib.pbkdf2 (utf8 password) salt pbkdf2Iterations

/-- `_hash_password`. -/
def hashPassword (password : String) (salt : List UInt8) : String :=
  String.ofList (Hashlib.hex salt ++ '$' :: Hashlib.hex (derive password salt))

/-- `_verify_password`, or `none` for the `ValueError` of a salt that is not hexadecimal. -/
def verifyPassword (password stored : String) : Option Bool :=
  let salt := stored.toList.takeWhile (· ≠ '$')
  let digest := (stored.toList.dropWhile (· ≠ '$')).tail
  if salt = [] ∨ digest = [] then some false
  else (Hashlib.fromhex salt).map fun salt => decide (hashPassword password salt = stored)

/-- `UserRecord`. -/
structure UserRecord where
  username : String
  role : Role
  passwordHash : String
  disabled : Bool := false
  deriving DecidableEq

/-- The salt of an account. -/
def saltOf (username : String) : List UInt8 := (Hashlib.sha256 (utf8 username)).take 16

/-- `create_user_record`. -/
def createUserRecord (username password : String) (role : Role) : UserRecord where
  username := username
  role := role
  passwordHash := hashPassword password (saltOf username)

/-- `_UserStore.users`. -/
abbrev UserStore := Dict String UserRecord

/-- The demo accounts. -/
def demoAccounts : List UserRecord :=
  [createUserRecord "admin" "admin123" .admin, createUserRecord "approver" "approver123" .approver,
    createUserRecord "viewer" "viewer123" .viewer]

/-- The store of a new process. -/
def UserStore.seeded : UserStore := Dict.ofList (demoAccounts.map fun u => (u.username, u))

/-- `authenticate_user`. -/
def authenticateUser (username password : String) (store : UserStore) : Option (Option UserRecord) :=
  match store.get? username with
  | none => some none
  | some record =>
    if record.disabled then some none
    else (verifyPassword password record.passwordHash).map fun
      | true => some record
      | false => none

/-- What `AuthSettings` says about tokens besides the secret and the algorithm. -/
structure AuthSettings where
  accessTokenExpireMinutes : Int := 30

/-- `TokenResponse`. -/
structure TokenResponse where
  accessToken : String
  tokenType : String := "bearer"
  expiresIn : Int

/-- The payload of a new token. -/
def payloadOf (settings : AuthSettings) (subject : String) (role : Role) (now : Instant)
    (jti : String) : Payload where
  sub := subject
  role := str role
  iat := now
  exp := now + seconds (settings.accessTokenExpireMinutes * 60)
  jti := jti

/-- `create_access_token`, as the login route calls it. -/
def createAccessToken (jwt : Jwt) (settings : AuthSettings) (subject : String) (role : Role)
    (now : Instant) (jti : String) : TokenResponse where
  accessToken := jwt.encode (payloadOf settings subject role now jti)
  expiresIn := settings.accessTokenExpireMinutes * 60

/-- A claim that has to be a string. -/
def strClaim (claims : Claims) (name : String) : Option String :=
  match claims.get? name with
  | some (.str s) => some s
  | _ => none

/-- `decode_access_token`, or `none` for an `InvalidTokenError`. -/
def decodeAccessToken (jwt : Jwt) (token : String) (now : Instant) (store : UserStore) :
    Option UserRecord := do
  let claims ← jwt.decode token now
  let sub ← strClaim claims "sub"
  let role ← (strClaim claims "role").bind StrEnum.parse
  let record ← store.get? sub
  if record.disabled ∨ record.role ≠ role then none else some record

/-- The answer to a request without a token. -/
def notAuthenticated : HttpError := ⟨401, "not authenticated"⟩

/-- The answer to a request whose token is not accepted. -/
def invalidToken : HttpError := ⟨401, "invalid or expired token"⟩

/-- The answer to a request whose user ranks too low. -/
def requiresRole (minimum : String) : HttpError :=
  ⟨403, "requires role " ++ Py.repr minimum ++ " or higher"⟩

/-- `get_current_user`. -/
def getCurrentUser (jwt : Jwt) (store : UserStore) (header : Option String) (now : Instant) :
    Except HttpError UserRecord :=
  match bearerToken header with
  | none => .error notAuthenticated
  | some token => (decodeAccessToken jwt token now store).elim (.error invalidToken) .ok

/-- `get_current_active_user`. -/
def getCurrentActiveUser (jwt : Jwt) (store : UserStore) (header : Option String) (now : Instant) :
    Except HttpError UserRecord := do
  let user ← getCurrentUser jwt store header now
  if user.disabled then .error ⟨403, "user account is disabled"⟩ else .ok user

/-- `require_role`. -/
def requireRole (jwt : Jwt) (store : UserStore) (header : Option String) (now : Instant)
    (minimum : Role) : Except HttpError UserRecord := do
  let user ← getCurrentActiveUser jwt store header now
  if user.role.rank < minimum.rank then .error (requiresRole (str minimum)) else .ok user

namespace Shared

/-- `_Claims.model_validate`, as the user it describes. -/
def claimed (claims : Claims) : Option AuthenticatedUser := do
  let sub ← strClaim claims "sub"
  let role ← strClaim claims "role"
  return ⟨sub, role⟩

/-- `get_current_user`. -/
def getCurrentUser (jwt : Jwt) (header : Option String) (now : Instant) :
    Except HttpError AuthenticatedUser :=
  match sharedToken header with
  | none => .error notAuthenticated
  | some token => ((jwt.decode token now).bind claimed).elim (.error invalidToken) .ok

/-- `require_role`. -/
def requireRole (jwt : Jwt) (header : Option String) (now : Instant) (role : String) :
    Except HttpError AuthenticatedUser := do
  let user ← getCurrentUser jwt header now
  if Remediation.requireRole role user then .ok user else .error (requiresRole role)

end Shared

/-- An account as the services know its user. -/
def UserRecord.user (u : UserRecord) : AuthenticatedUser := ⟨u.username, str u.role⟩

/-- The body of `POST /login`. -/
structure LoginFields where
  username : String
  password : String

instance instSchemaLoginFields : Schema LoginFields where
  Valid b := (1 ≤ b.username.length ∧ b.username.length ≤ 128) ∧
    1 ≤ b.password.length ∧ b.password.length ≤ 256
  decidable _ := inferInstanceAs (Decidable (_ ∧ _))

/-- A validated body of `POST /login`. -/
abbrev LoginRequest := Validated LoginFields

/-- The body of `POST /register`. -/
structure RegisterFields where
  username : String
  password : String
  role : Role := .viewer

instance instSchemaRegisterFields : Schema RegisterFields where
  Valid b := (1 ≤ b.username.length ∧ b.username.length ≤ 128) ∧
    8 ≤ b.password.length ∧ b.password.length ≤ 256
  decidable _ := inferInstanceAs (Decidable (_ ∧ _))

/-- A validated body of `POST /register`. -/
abbrev RegisterRequest := Validated RegisterFields

/-- `login`: the account that logged in and what it is answered. -/
def login (jwt : Jwt) (settings : AuthSettings) (store : UserStore) (body : LoginRequest)
    (now : Instant) (jti : String) : Except HttpError (UserRecord × TokenResponse) :=
  match authenticateUser body.val.username body.val.password store with
  | none => .error ⟨500, "Internal Server Error"⟩
  | some none => .error ⟨401, "incorrect username or password"⟩
  | some (some user) => .ok (user, createAccessToken jwt settings user.username user.role now jti)

/-- What `register` does before it stretches the password: the account that it is going to add. -/
def register (jwt : Jwt) (store : UserStore) (header : Option String) (body : RegisterRequest)
    (now : Instant) : Except HttpError UserRecord := do
  let _ ← requireRole jwt store header now .admin
  if store.contains body.val.username then
    .error ⟨409, "user " ++ Py.repr body.val.username ++ " already exists"⟩
  else .ok (createUserRecord body.val.username body.val.password body.val.role)

section Passwords

/-- The two parts of a stored password. -/
lemma parts_stored {salt : List UInt8} {digest : List Char} :
    (Hashlib.hex salt ++ '$' :: digest).takeWhile (· ≠ '$') = Hashlib.hex salt ∧
      ((Hashlib.hex salt ++ '$' :: digest).dropWhile (· ≠ '$')).tail = digest := by
  have clean : ∀ c ∈ Hashlib.hex salt, decide (c ≠ '$') = true := by
    intro c mem
    refine decide_eq_true ?_
    rintro rfl
    exact Hashlib.not_mem_hex mem
  rw [List.takeWhile_append_of_pos clean, List.dropWhile_append_of_pos clean]
  simp

/-- A stored password is verified against exactly the passwords that are stretched to its key. -/
lemma verifyPassword_hashPassword {password other : String} {salt} (salted : salt ≠ []) :
    verifyPassword other (hashPassword password salt) =
      some (decide (derive other salt = derive password salt)) := by
  have text : (hashPassword password salt).toList =
      Hashlib.hex salt ++ '$' :: Hashlib.hex (derive password salt) := String.toList_ofList
  have salt_there : Hashlib.hex salt ≠ [] := by
    intro none
    have := congrArg List.length none
    rw [Hashlib.length_hex] at this
    exact salted (List.length_eq_zero_iff.mp (by simpa using this))
  have digest_there : Hashlib.hex (derive password salt) ≠ [] := by
    intro none
    have := congrArg List.length none
    rw [Hashlib.length_hex, derive, Hashlib.length_pbkdf2] at this
    cases this
  unfold verifyPassword
  rw [text, parts_stored.1, parts_stored.2, if_neg (not_or.mpr ⟨salt_there, digest_there⟩), Hashlib.fromhex_hex]
  refine congrArg some (decide_eq_decide.mpr ?_)
  constructor
  · intro same
    have lists := congrArg String.toList same
    rw [hashPassword, hashPassword, String.toList_ofList, String.toList_ofList] at lists
    exact Hashlib.hex_injective (List.cons.inj (List.append_cancel_left lists)).2
  · intro same
    rw [hashPassword, hashPassword, same]

/-- The salt of an account is there. -/
lemma saltOf_ne_nil {username} : saltOf username ≠ [] := by
  intro none
  have := congrArg List.length none
  rw [saltOf, List.length_take, Hashlib.sha256, Hashlib.length_digest] at this
  cases this

/-- An account is verified against the password it was created with. -/
lemma verifyPassword_own {username password role} :
    verifyPassword password (createUserRecord username password role).passwordHash = some true := by
  rw [createUserRecord, verifyPassword_hashPassword saltOf_ne_nil, decide_eq_true rfl]

end Passwords

-- nothing is ever gained from computing a key
attribute [irreducible] derive saltOf

section Checks

/-- The accounts of a new process. -/
lemma get?_seeded {k account} (there : UserStore.seeded.get? k = some account) :
    account ∈ demoAccounts ∧ account.username = k := by
  obtain ⟨u, mem, same⟩ := List.mem_map.mp (Dict.mem_of_get?_ofList there)
  cases same
  exact ⟨mem, rfl⟩

/-- The demo accounts may log in. -/
lemma enabled_of_demo : ∀ u ∈ demoAccounts, u.disabled = false :=
  List.forall_mem_cons.mpr ⟨rfl, List.forall_mem_cons.mpr ⟨rfl, List.forall_mem_singleton.mpr rfl⟩⟩

variable {jwt : Jwt} {store : UserStore} {header : Option String} {now : Instant}

/-- Both dependencies rank roles alike. -/
lemma roleRank_str {r : Role} : roleRank (str r) = r.rank := by
  cases r <;> rfl

/-- The claims that are read of a signed payload. -/
lemma strClaim_claims {p : Payload} :
    strClaim p.claims "sub" = some p.sub ∧ strClaim p.claims "role" = some p.role := ⟨rfl, rfl⟩

/-- What the platform API makes of a signed payload. -/
lemma decodeAccessToken_of {token} {p : Payload} {role : Role}
    (decoded : jwt.decode token now = some p.claims) (written : p.role = str role) :
    decodeAccessToken jwt token now store = (store.get? p.sub).bind fun record =>
      if record.disabled ∨ record.role ≠ role then none else some record := by
  unfold decodeAccessToken
  rw [decoded]
  simp only [Option.bind_eq_bind, Option.bind_some, strClaim_claims.1, strClaim_claims.2, written,
    StrEnum.parse_str]

/-- What the shared dependency makes of a signed payload. -/
lemma Shared.claimed_claims {p : Payload} : claimed p.claims = some ⟨p.sub, p.role⟩ := by
  rw [claimed, strClaim_claims.1, strClaim_claims.2]
  rfl

/-- Whose token the platform API accepts. -/
lemma getCurrentUser_eq_ok {account} : getCurrentUser jwt store header now = .ok account ↔
    ∃ token, bearerToken header = some token ∧
      decodeAccessToken jwt token now store = some account := by
  unfold getCurrentUser
  cases bearerToken header with
  | none => simp
  | some token => cases decoded : decodeAccessToken jwt token now store <;> simp [decoded]

/-- Whom the platform API lets through. -/
lemma requireRole_eq_ok {minimum account} :
    requireRole jwt store header now minimum = .ok account ↔
      (∃ token, bearerToken header = some token ∧
        decodeAccessToken jwt token now store = some account) ∧
      account.disabled = false ∧ minimum.rank ≤ account.role.rank := by
  rw [← getCurrentUser_eq_ok, requireRole, getCurrentActiveUser]
  simp only [Except.bind_eq_ok]
  constructor
  · rintro ⟨user, ⟨first, found, enabled⟩, ranked⟩
    split_ifs at enabled with off
    cases Except.ok.inj enabled
    split_ifs at ranked with low
    cases Except.ok.inj ranked
    exact ⟨found, by simpa using off, not_lt.mp low⟩
  · rintro ⟨found, enabled, ranked⟩
    refine ⟨account, ⟨account, found, ?_⟩, ?_⟩
    · rw [if_neg (by simp [enabled])]
    · rw [if_neg (not_lt.mpr ranked)]

/-- Whom the shared dependency lets through. -/
lemma Shared.requireRole_eq_ok {role user} :
    Shared.requireRole jwt header now role = .ok user ↔
      (∃ token, sharedToken header = some token ∧
        (jwt.decode token now).bind claimed = some user) ∧
      roleRank role ≤ roleRank user.role := by
  have found_iff : Shared.getCurrentUser jwt header now = .ok user ↔
      ∃ token, sharedToken header = some token ∧ (jwt.decode token now).bind claimed = some user := by
    unfold Shared.getCurrentUser
    cases sharedToken header with
    | none => simp
    | some token => cases read : (jwt.decode token now).bind claimed <;> simp [read]
  rw [← found_iff, Shared.requireRole]
  simp only [Except.bind_eq_ok, Remediation.requireRole, decide_eq_true_eq]
  constructor
  · rintro ⟨first, found, ranked⟩
    split_ifs at ranked with high
    cases Except.ok.inj ranked
    exact ⟨found, high⟩
  · rintro ⟨found, ranked⟩
    exact ⟨user, found, if_pos ranked⟩

/-- What the platform API answers a user. -/
lemma requireRole_of {account} {minimum : Role} (enabled : account.disabled = false)
    (found : getCurrentUser jwt store header now = .ok account) :
    requireRole jwt store header now minimum =
      if minimum.rank ≤ account.role.rank then .ok account
      else .error (requiresRole (str minimum)) := by
  rw [requireRole, getCurrentActiveUser, found]
  simp only [Except.ok_bind, enabled, Bool.false_eq_true, if_false]
  by_cases high : minimum.rank ≤ account.role.rank
  · rw [if_pos high, if_neg (not_lt.mpr high)]
  · rw [if_neg high, if_pos (not_le.mp high)]

/-- What the platform API answers a request without a user. -/
lemma requireRole_refused {minimum : Role} {e}
    (refused : getCurrentUser jwt store header now = .error e) :
    requireRole jwt store header now minimum = .error e := by
  rw [requireRole, getCurrentActiveUser, refused]
  rfl

/-- What the shared dependency answers the user of an account. -/
lemma Shared.requireRole_of {account : UserRecord} {minimum : Role}
    (found : Shared.getCurrentUser jwt header now = .ok account.user) :
    Shared.requireRole jwt header now (str minimum) =
      if minimum.rank ≤ account.role.rank then .ok account.user
      else .error (requiresRole (str minimum)) := by
  rw [Shared.requireRole, found]
  simp only [Except.ok_bind, Remediation.requireRole, decide_eq_true_eq, UserRecord.user,
    roleRank_str, Nat.cast_le]

/-- What the shared dependency answers a request without a user. -/
lemma Shared.requireRole_refused {role e}
    (refused : Shared.getCurrentUser jwt header now = .error e) :
    Shared.requireRole jwt header now role = .error e := by
  rw [Shared.requireRole, refused]
  rfl

/-- A login with the password of an account. -/
lemma login_of {settings : AuthSettings} {body jti user}
    (found : store.get? body.val.username = some user) (enabled : user.disabled = false)
    (verified : verifyPassword body.val.password user.passwordHash = some true) :
    login jwt settings store body now jti =
      .ok (user, createAccessToken jwt settings user.username user.role now jti) := by
  unfold login authenticateUser
  rw [found]
  simp [enabled, verified]

/-- A login with another password. -/
lemma login_of_not {settings : AuthSettings} {body jti user}
    (found : store.get? body.val.username = some user)
    (refuted : verifyPassword body.val.password user.passwordHash = some false) :
    login jwt settings store body now jti = .error ⟨401, "incorrect username or password"⟩ := by
  unfold login authenticateUser
  rw [found]
  by_cases off : user.disabled <;> simp [off, refuted]

/-- Who is answered with a token, and with which one. -/
lemma login_eq_ok {settings : AuthSettings} {body jti user response}
    (h : login jwt settings store body now jti = .ok (user, response)) :
    store.get? body.val.username = some user ∧
      verifyPassword body.val.password user.passwordHash = some true ∧
      response = createAccessToken jwt settings user.username user.role now jti := by
  unfold login authenticateUser at h
  cases found : store.get? body.val.username with
  | none => rw [found] at h; cases h
  | some record =>
    rw [found] at h
    by_cases off : record.disabled
    · simp [off] at h
    · cases verified : verifyPassword body.val.password record.passwordHash with
      | none => simp [off, verified] at h
      | some right =>
        cases right with
        | false => simp [off, verified] at h
        | true =>
          simp only [off, verified, Bool.false_eq_true, if_false, Option.map_some,
            Except.ok.injEq, Prod.mk.injEq] at h
          obtain ⟨rfl, rfl⟩ := h
          exact ⟨rfl, verified, rfl⟩

end Checks

end SentinelOps.Auth
