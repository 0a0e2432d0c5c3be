import SentinelOps.Auth.Accounts
import SentinelOps.Lib.Transition
import Mathlib.Logic.Denumerable
import Mathlib.Logic.Equiv.List

/-!
# Logins, registrations and decisions

The platform API and the decision routes of the remediation controller as one system. A registration
checks that the name is free and then stretches the password before it stores the account, so
registrations interleave; everything else is one step. What the system remembers besides the accounts
(`logins`, `registered`, `decided`) is its history, which no handler reads.

`decisions_vouched` goes back from a decision to the demo accounts, in every run. The shared
dependency never looks an account up; `shared_check_agrees` says when it need not.
-/

namespace SentinelOps.Auth

open Remediation (DecisionPost)

/-- A login that was answered with a token. -/
structure Login where
  account : UserRecord
  password : String
  at' : Instant
  token : String

/-- A registration that was let through, with the token of the request. -/
structure Registration where
  token : String
  account : UserRecord
  password : String

/-- A decision that was let through, with the token of the request. -/
structure Decided where
  token : String
  post : DecisionPost

/-- The accounts, the registrations that are under way, and what has happened. -/
structure World where
  store : UserStore := .seeded
  adding : List Registration := []
  logins : List Login := []
  registered : List Registration := []
  decided : List Decided := []

/-- The steps of the requests. -/
inductive Event where
  | login (body : LoginRequest) (now : Instant) (jti : String)
  | register (header : Option String) (body : RegisterRequest) (now : Instant)
  | add (i : Nat)
  | decide (header : Option String) (now : Instant) (post : DecisionPost)

/-- One step. A request that is refused leaves everything as it is. -/
def World.step (jwt : Jwt) (settings : AuthSettings) (w : World) : Event → Option World
  | .login body now jti =>
    some (match Auth.login jwt settings w.store body now jti with
      | .error _ => w
      | .ok (user, response) =>
        { w with logins := w.logins ++ [⟨user, body.val.password, now, response.accessToken⟩] })
  | .register header body now =>
    some (match Auth.register jwt w.store header body now with
      | .error _ => w
      | .ok account =>
        { w with adding := w.adding ++ [⟨(bearerToken header).getD "", account, body.val.password⟩] })
  | .add i =>
    w.adding[i]?.map fun r =>
      { w with
        store := w.store.set r.account.username r.account
        adding := w.adding.eraseIdx i
        registered := w.registered ++ [r] }
  | .decide header now post =>
    some (match Shared.requireRole jwt header now (str Role.approver) with
      | .error _ => w
      | .ok user =>
        { w with decided := w.decided ++ [⟨(sharedToken header).getD "", { post with user := user }⟩] })

/-- The platform API and the decision routes. -/
def platform (jwt : Jwt) (settings : AuthSettings) : Machine World Event where
  init w := w = {}
  step := World.step jwt settings

/-- A token that is accepted was the answer to a login. -/
def Genuine (jwt : Jwt) (w : World) (header : Option String) (now : Instant) : Prop :=
  ∀ token ∈ bearerToken header, (jwt.decode token now).isSome → ∃ l ∈ w.logins, l.token = token

/-- Nobody but the platform API knows the secret, so a request presents what a login was answered
with. -/
def Event.Genuine (jwt : Jwt) (w : World) : Event → Prop
  | .register header _ now => Auth.Genuine jwt w header now
  | .decide header now _ => Auth.Genuine jwt w header now
  | _ => True

/-- A registration does not begin while another one of the same name is under way. -/
def Event.Alone (w : World) : Event → Prop
  | .register _ body _ => ∀ r ∈ w.adding, r.account.username ≠ body.val.username
  | _ => True

/-- An account that goes back to the demo accounts: it is one of them, or it was registered by a
request with the token of an administrator whose account goes back to them. -/
inductive Vouched (w : World) : UserRecord → Prop where
  | demo {account} (seeded : account ∈ demoAccounts) : Vouched w account
  | registered {r : Registration} {l : Login} (registered : r ∈ w.registered) (login : l ∈ w.logins)
      (token : l.token = r.token) (admin : l.account.role = .admin) (by' : Vouched w l.account) :
      Vouched w r.account

variable {jwt : Jwt} {settings : AuthSettings} {w w' : World} {header : Option String} {now : Instant}

section Steps

/-- A login that is answered. -/
lemma step_login {body jti user response}
    (answer : login jwt settings w.store body now jti = .ok (user, response)) :
    w.step jwt settings (.login body now jti) = some
      { w with logins := w.logins ++ [⟨user, body.val.password, now, response.accessToken⟩] } := by
  simp only [World.step, answer]

/-- A registration that is let through. -/
lemma step_register {body account} (answer : register jwt w.store header body now = .ok account) :
    w.step jwt settings (.register header body now) = some { w with adding := w.adding ++
      [⟨(bearerToken header).getD "", account, body.val.password⟩] } := by
  simp only [World.step, answer]

/-- A decision that is let through. -/
lemma step_decide {post user}
    (answer : Shared.requireRole jwt header now (str Role.approver) = .ok user) :
    w.step jwt settings (.decide header now post) = some { w with decided := w.decided ++
      [⟨(sharedToken header).getD "", { post with user := user }⟩] } := by
  simp only [World.step, answer]

/-- What a step does. -/
lemma step_cases {e} (st : w.step jwt settings e = some w') : w' = w ∨
    (∃ body now jti user response, e = .login body now jti ∧
      Auth.login jwt settings w.store body now jti = .ok (user, response) ∧
      w' = { w with logins := w.logins ++ [⟨user, body.val.password, now, response.accessToken⟩] }) ∨
    (∃ header body now account, e = .register header body now ∧
      Auth.register jwt w.store header body now = .ok account ∧
      w' = { w with adding := w.adding ++
        [⟨(bearerToken header).getD "", account, body.val.password⟩] }) ∨
    (∃ i r, e = .add i ∧ w.adding[i]? = some r ∧
      w' = { w with
        store := w.store.set r.account.username r.account
        adding := w.adding.eraseIdx i
        registered := w.registered ++ [r] }) ∨
    ∃ header now post user, e = .decide header now post ∧
      Shared.requireRole jwt header now (str Role.approver) = .ok user ∧
      w' = { w with decided := w.decided ++
        [⟨(sharedToken header).getD "", { post with user := user }⟩] } := by
  cases e with
  | login body now jti =>
    simp only [World.step, Option.some.injEq] at st
    cases answer : Auth.login jwt settings w.store body now jti with
    | error e =>
      rw [answer] at st
      exact .inl st.symm
    | ok found =>
      rw [answer] at st
      exact .inr (.inl ⟨body, now, jti, found.1, found.2, rfl, answer, st.symm⟩)
  | register header body now =>
    simp only [World.step, Option.some.injEq] at st
    cases answer : Auth.register jwt w.store header body now with
    | error e =>
      rw [answer] at st
      exact .inl st.symm
    | ok account =>
      rw [answer] at st
      exact .inr (.inr (.inl ⟨header, body, now, account, rfl, answer, st.symm⟩))
  | add i =>
    obtain ⟨r, there, same⟩ := Option.map_eq_some_iff.mp st
    exact .inr (.inr (.inr (.inl ⟨i, r, rfl, there, same.symm⟩)))
  | decide header now post =>
    simp only [World.step, Option.some.injEq] at st
    cases answer : Shared.requireRole jwt header now (str Role.approver) with
    | error e =>
      rw [answer] at st
      exact .inl st.symm
    | ok user =>
      rw [answer] at st
      exact .inr (.inr (.inr (.inr ⟨header, now, post, user, rfl, answer, st.symm⟩)))

/-- Which account a registration is going to add. -/
lemma register_eq_ok {store body account} (h : Auth.register jwt store header body now = .ok account) :
    (∃ admin, requireRole jwt store header now .admin = .ok admin) ∧
      store.get? body.val.username = none ∧
      account = createUserRecord body.val.username body.val.password body.val.role := by
  unfold Auth.register at h
  obtain ⟨admin, allowed, rest⟩ := Except.bind_eq_ok.mp h
  split_ifs at rest with taken
  refine ⟨⟨admin, allowed⟩, ?_, (Except.ok.inj rest).symm⟩
  simpa [Dict.contains] using taken

end Steps

section Tokens

/-- The token of a login. -/
def Login.Signed (jwt : Jwt) (settings : AuthSettings) (l : Login) : Prop :=
  ∃ jti, l.token = jwt.encode (payloadOf settings l.account.username l.account.role l.at' jti)

/-- When a token is accepted that was issued at a given time. -/
def Live (settings : AuthSettings) (issued now : Instant) : Prop :=
  seconds (timegm issued) ≤ now ∧
    now < seconds (timegm (issued + seconds (settings.accessTokenExpireMinutes * 60)))

instance instDecidableLive {issued : Instant} : Decidable (Live settings issued now) :=
  inferInstanceAs (Decidable (_ ∧ _))

/-- The token of a login is accepted while it is live, and names the account. -/
lemma Login.Signed.decode {l : Login} (signed : l.Signed jwt settings) (now : Instant) :
    ∃ p : Payload, p.sub = l.account.username ∧ p.role = str l.account.role ∧
      jwt.decode l.token now = if Live settings l.at' now then some p.claims else none := by
  obtain ⟨jti, same⟩ := signed
  refine ⟨payloadOf settings l.account.username l.account.role l.at' jti, rfl, rfl, ?_⟩
  rw [same, jwt.decode_encode]
  rfl

/-- A token that the shared dependency accepts is the token of a login, and names its account. -/
lemma shared_login {token user} (signed : ∀ l ∈ w.logins, l.Signed jwt settings)
    (genuine : Genuine jwt w header now) (found : bearerToken header = some token)
    (accepted : (jwt.decode token now).bind Shared.claimed = some user) :
    ∃ l ∈ w.logins, l.token = token ∧ user = l.account.user := by
  obtain ⟨claims, decoded, named⟩ := Option.bind_eq_some_iff.mp accepted
  obtain ⟨l, mem, rfl⟩ := genuine token found (by rw [decoded]; rfl)
  obtain ⟨p, sub, role, read⟩ := (signed l mem).decode now
  refine ⟨l, mem, rfl, ?_⟩
  rw [decoded] at read
  split_ifs at read
  cases Option.some.inj read
  rw [Shared.claimed_claims, sub, role] at named
  exact (Option.some.inj named).symm

/-- A token that the platform API accepts is the token of a login of an account with the role that
the account has now. -/
lemma platform_login {token account} (signed : ∀ l ∈ w.logins, l.Signed jwt settings)
    (genuine : Genuine jwt w header now) (found : bearerToken header = some token)
    (accepted : decodeAccessToken jwt token now w.store = some account) :
    ∃ l ∈ w.logins, l.token = token ∧ l.account.role = account.role := by
  obtain ⟨claims, decoded, -⟩ := Option.bind_eq_some_iff.mp accepted
  obtain ⟨l, mem, rfl⟩ := genuine token found (by rw [decoded]; rfl)
  obtain ⟨p, sub, role, read⟩ := (signed l mem).decode now
  refine ⟨l, mem, rfl, ?_⟩
  rw [decoded] at read
  split_ifs at read
  cases Option.some.inj read
  rw [decodeAccessToken_of decoded role] at accepted
  obtain ⟨record, _, current⟩ := Option.bind_eq_some_iff.mp accepted
  split_ifs at current with stale
  cases Option.some.inj current
  exact (not_not.mp (not_or.mp stale).2).symm

/-- The token of a login is compact text. -/
lemma Login.Signed.compact {l : Login} (signed : l.Signed jwt settings) :
    l.token ≠ "" ∧ ∀ c ∈ l.token.toList, Py.isSpace c = false := by
  obtain ⟨jti, same⟩ := signed
  rw [same]
  exact ⟨jwt.encode_ne_empty _, jwt.compact _⟩

/-- What a client makes of the token of a login is genuine. -/
lemma Login.Signed.genuine {l : Login} (signed : l.Signed jwt settings) (mem : l ∈ w.logins) :
    Genuine jwt w (some ("Bearer " ++ l.token)) now := by
  intro token found _
  rw [bearerToken_bearer signed.compact.2] at found
  cases found
  exact ⟨l, mem, rfl⟩

/-- Whom the shared dependency takes the holder of the token of a login for. -/
lemma Login.Signed.shared {l : Login} (signed : l.Signed jwt settings) :
    Shared.getCurrentUser jwt (some ("Bearer " ++ l.token)) now =
      if Live settings l.at' now then .ok l.account.user else .error invalidToken := by
  obtain ⟨p, sub, role, read⟩ := signed.decode now
  obtain ⟨nonempty, compact⟩ := signed.compact
  have found := sharedToken_eq_some.mpr ⟨bearerToken_bearer compact, nonempty⟩
  rw [Shared.getCurrentUser, found]
  simp only [read]
  split_ifs
  · rw [Option.bind_some, Shared.claimed_claims, sub, role]
    rfl
  · rfl

/-- Whom the platform API takes the holder of the token of a login for. -/
lemma Login.Signed.platform {l : Login} {store : UserStore} (signed : l.Signed jwt settings)
    (there : store.get? l.account.username = some l.account) (enabled : l.account.disabled = false)
    (live : Live settings l.at' now) :
    getCurrentUser jwt store (some ("Bearer " ++ l.token)) now = .ok l.account := by
  obtain ⟨p, sub, role, read⟩ := signed.decode now
  rw [if_pos live] at read
  rw [getCurrentUser, bearerToken_bearer signed.compact.2]
  simp only [decodeAccessToken_of read role, sub, there, Option.bind_some]
  simp [enabled]

end Tokens

section Vouching

/-- What is vouched for stays so. -/
lemma Vouched.mono {account} (v : Vouched w account) (logins : w.logins ⊆ w'.logins)
    (registered : w.registered ⊆ w'.registered) : Vouched w' account := by
  induction v with
  | demo seeded => exact .demo seeded
  | registered there login token admin _ ih =>
    exact .registered (registered there) (logins login) token admin ih

/-- The states of a run in which requests present genuine tokens. -/
structure Sound (jwt : Jwt) (settings : AuthSettings) (w : World) : Prop where
  stored : ∀ k account, w.store.get? k = some account →
    account ∈ demoAccounts ∨ ∃ r ∈ w.registered, r.account = account
  asked : ∀ r, r ∈ w.adding ∨ r ∈ w.registered →
    ∃ l ∈ w.logins, l.token = r.token ∧ l.account.role = .admin
  signed : ∀ l ∈ w.logins, l.Signed jwt settings
  entered : ∀ l ∈ w.logins, Vouched w l.account ∧
    verifyPassword l.password l.account.passwordHash = some true
  decided : ∀ d ∈ w.decided, ∃ l ∈ w.logins, l.token = d.token ∧ d.post.user = l.account.user ∧
    Role.approver.rank ≤ l.account.role.rank

/-- A stored account goes back to the demo accounts. -/
lemma Sound.vouched {k account} (s : Sound jwt settings w) (there : w.store.get? k = some account) :
    Vouched w account := by
  obtain seeded | ⟨r, mem, rfl⟩ := s.stored k account there
  · exact .demo seeded
  · obtain ⟨l, login, token, admin⟩ := s.asked r (.inr mem)
    exact .registered mem login token admin (s.entered l login).1

/-- A new process. -/
lemma sound_start : Sound jwt settings {} where
  stored k account there := .inl (get?_seeded there).1
  asked r there := by
    obtain there | there := there <;> cases there
  signed l mem := by cases mem
  entered l mem := by cases mem
  decided d mem := by cases mem

/-- Who logged in is still vouched for when more has happened. -/
lemma Sound.entered_mono {l} (s : Sound jwt settings w) (mem : l ∈ w.logins)
    (logins : w.logins ⊆ w'.logins) (registered : w.registered ⊆ w'.registered) :
    Vouched w' l.account ∧ verifyPassword l.password l.account.passwordHash = some true :=
  ⟨(s.entered l mem).1.mono logins registered, (s.entered l mem).2⟩

/-- Every step keeps the state sound. -/
lemma Sound.step {e} (s : Sound jwt settings w) (genuine : e.Genuine jwt w)
    (st : w.step jwt settings e = some w') : Sound jwt settings w' := by
  obtain rfl | ⟨body, now, jti, user, response, rfl, answer, rfl⟩ |
    ⟨header, body, now, account, rfl, answer, rfl⟩ | ⟨i, r, rfl, there, rfl⟩ |
    ⟨header, now, post, user, rfl, answer, rfl⟩ := step_cases st
  · exact s
  · obtain ⟨found, verified, rfl⟩ := login_eq_ok answer
    have grown (l : Login) : w.logins ⊆ w.logins ++ [l] := List.subset_append_left _ _
    constructor
    · exact s.stored
    · intro r mem
      obtain ⟨l, login, rest⟩ := s.asked r mem
      exact ⟨l, grown _ login, rest⟩
    · intro l mem
      obtain old | new := List.mem_append.mp mem
      · exact s.signed l old
      · cases List.mem_singleton.mp new
        exact ⟨jti, rfl⟩
    · intro l mem
      obtain old | new := List.mem_append.mp mem
      · exact s.entered_mono old (grown _) fun _ => id
      · cases List.mem_singleton.mp new
        exact ⟨(s.vouched found).mono (grown _) fun _ => id, verified⟩
    · intro d mem
      obtain ⟨l, login, rest⟩ := s.decided d mem
      exact ⟨l, grown _ login, rest⟩
  · obtain ⟨⟨admin, allowed⟩, -, -⟩ := register_eq_ok answer
    obtain ⟨⟨token, found, accepted⟩, -, ranked⟩ := requireRole_eq_ok.mp allowed
    obtain ⟨l, login, same, role⟩ := platform_login s.signed genuine found accepted
    refine ⟨s.stored, ?_, s.signed, fun _ mem => s.entered_mono mem (fun _ => id) fun _ => id, s.decided⟩
    intro r mem
    obtain asked | done := mem
    · obtain old | new := List.mem_append.mp asked
      · exact s.asked r (.inl old)
      · cases List.mem_singleton.mp new
        refine ⟨l, login, ?_, ?_⟩
        · rw [found]
          exact same
        · rw [role]
          cases highest : admin.role <;> rw [highest] at ranked
          · exact absurd ranked (by decide)
          · exact absurd ranked (by decide)
    · exact s.asked r (.inr done)
  · have grown : w.registered ⊆ w.registered ++ [r] := List.subset_append_left _ _
    have pending : r ∈ w.adding := List.mem_of_getElem? there
    constructor
    · intro k account found
      rw [Dict.get?_set] at found
      split_ifs at found with same
      · cases Option.some.inj found
        exact .inr ⟨r, List.mem_append_right _ (List.mem_singleton_self r), rfl⟩
      · obtain seeded | ⟨r', mem, rest⟩ := s.stored k account found
        · exact .inl seeded
        · exact .inr ⟨r', grown mem, rest⟩
    · intro r' mem
      obtain waiting | done := mem
      · exact s.asked r' (.inl (List.eraseIdx_subset waiting))
      · obtain old | new := List.mem_append.mp done
        · exact s.asked r' (.inr old)
        · cases List.mem_singleton.mp new
          exact s.asked r (.inl pending)
    · exact s.signed
    · exact fun _ mem => s.entered_mono mem (fun _ => id) grown
    · exact s.decided
  · obtain ⟨⟨token, found, accepted⟩, ranked⟩ := Shared.requireRole_eq_ok.mp answer
    obtain ⟨same, -⟩ := sharedToken_eq_some.mp found
    obtain ⟨l, login, token_eq, rfl⟩ := shared_login s.signed genuine same accepted
    refine ⟨s.stored, s.asked, s.signed, fun _ mem => s.entered_mono mem (fun _ => id) fun _ => id, ?_⟩
    intro d mem
    obtain old | new := List.mem_append.mp mem
    · exact s.decided d old
    · cases List.mem_singleton.mp new
      refine ⟨l, login, ?_, rfl, ?_⟩
      · rw [found]
        exact token_eq
      · rw [UserRecord.user, roleRank_str, roleRank_str] at ranked
        exact Int.ofNat_le.mp ranked

end Vouching

section Sample

/-- A payload as numbers. -/
def Payload.code (p : Payload) : List ℕ × List ℕ × ℤ × ℤ × List ℕ :=
  (p.sub.toList.map Char.toNat, p.role.toList.map Char.toNat, p.iat, p.exp,
    p.jti.toList.map Char.toNat)

/-- The payload of such numbers. -/
def Payload.ofCode (c : List ℕ × List ℕ × ℤ × ℤ × List ℕ) : Payload where
  sub := String.ofList (c.1.map Char.ofNat)
  role := String.ofList (c.2.1.map Char.ofNat)
  iat := c.2.2.1
  exp := c.2.2.2.1
  jti := String.ofList (c.2.2.2.2.map Char.ofNat)

/-- The numbers of a payload give it back. -/
lemma ofCode_code {p : Payload} : Payload.ofCode p.code = p := by
  have same : Char.ofNat ∘ Char.toNat = id := funext Char.ofNat_toNat
  have back (s : String) : String.ofList ((s.toList.map Char.toNat).map Char.ofNat) = s := by
    rw [List.map_map, same, List.map_id, String.ofList_toList]
  rw [Payload.ofCode, Payload.code, back, back, back]

/-- A library whose tokens are written with a single character. -/
def sampleJwt : Jwt where
  encode p := String.ofList (List.replicate (Encodable.encode p.code + 1) 'x')
  decode token now := do
    if token = "" then none
    let code ← Encodable.decode (token.length - 1)
    let p := Payload.ofCode code
    if seconds (timegm p.iat) ≤ now ∧ now < seconds (timegm p.exp) then some p.claims else none
  decode_encode p now := by
    have length : (String.ofList (List.replicate (Encodable.encode p.code + 1) 'x')).length - 1 =
        Encodable.encode p.code := by simp
    have there : String.ofList (List.replicate (Encodable.encode p.code + 1) 'x') ≠ "" := by
      intro none
      have := congrArg String.length none
      simp at this
    rw [length]
    simp only [there, Encodable.encodek]
    simp [ofCode_code]
  decode_empty now := rfl
  encode_ne_empty p none := by
    have := congrArg String.length none
    simp at this
  compact p c mem := by
    rw [String.toList_ofList] at mem
    rw [List.eq_of_mem_replicate mem]
    rfl

attribute [irreducible] sampleJwt

/-- The login of the demo administrator. -/
def adminLogin : Login where
  account := createUserRecord "admin" "admin123" .admin
  password := "admin123"
  at' := 0
  token := sampleJwt.encode (payloadOf {} "admin" .admin 0 "1")

/-- The registration of an approver by the administrator. -/
def danaRegistration : Registration where
  token := adminLogin.token
  account := createUserRecord "dana" "correct horse" .approver
  password := "correct horse"

/-- The login of the approver. -/
def danaLogin : Login where
  account := danaRegistration.account
  password := "correct horse"
  at' := seconds 60
  token := sampleJwt.encode (payloadOf {} "dana" .approver (seconds 60) "2")

/-- A body without a reason is fine. -/
lemma noReason : Schema.Valid ({} : Remediation.ApprovalRequestFields) := Nat.zero_le _

/-- The approver approves. -/
def danaPost (user : Remediation.AuthenticatedUser) : DecisionPost where
  remediationId := "rem_0000000000000000"
  decision := .approve
  user
  body := ⟨{}, noReason⟩
  now := seconds 120
  token := ⟨"0000000000000000", by decide⟩
  decidedToken := ⟨"0000000000000001", by decide⟩

/-- The administrator logs in and registers an approver, who logs in and approves. -/
def sampleEvents : List Event :=
  [.login ⟨⟨"admin", "admin123"⟩, by decide⟩ 0 "1",
    .register (some ("Bearer " ++ adminLogin.token)) ⟨⟨"dana", "correct horse", .approver⟩, by decide⟩ (seconds 30),
    .add 0,
    .login ⟨⟨"dana", "correct horse"⟩, by decide⟩ (seconds 60) "2",
    .decide (some ("Bearer " ++ danaLogin.token)) (seconds 120) (danaPost ⟨"", ""⟩)]

/-- What these requests leave. -/
def sampleWorld : World where
  store := UserStore.seeded.set "dana" danaRegistration.account
  logins := [adminLogin, danaLogin]
  registered := [danaRegistration]
  decided := [⟨danaLogin.token, danaPost danaRegistration.account.user⟩]

/-- Both logins were answered with a token. -/
lemma sample_signed : adminLogin.Signed sampleJwt {} ∧ danaLogin.Signed sampleJwt {} :=
  ⟨⟨"1", rfl⟩, ⟨"2", rfl⟩⟩

/-- These requests run, with genuine tokens and without overlapping registrations. -/
lemma sample_run : (platform sampleJwt {}).Run {} sampleEvents sampleWorld ∧
    (platform sampleJwt {}).EachStep (fun w e _ => e.Genuine sampleJwt w ∧ e.Alone w) {}
      sampleEvents := by
  obtain ⟨admin_signed, dana_signed⟩ := sample_signed
  have seeded : UserStore.seeded.get? "admin" = some adminLogin.account := rfl
  have dana_new : UserStore.seeded.get? "dana" = none := rfl
  have dana_there : (UserStore.seeded.set "dana" danaRegistration.account).get? "dana" =
      some danaRegistration.account := by rw [Dict.get?_set, if_pos rfl]
  have enabled : adminLogin.account.disabled = false := rfl
  have first : World.step sampleJwt {} {} (.login ⟨⟨"admin", "admin123"⟩, by decide⟩ 0 "1") =
      some { logins := [adminLogin] } := by
    have answer : login sampleJwt {} UserStore.seeded ⟨⟨"admin", "admin123"⟩, by decide⟩ 0 "1" =
        .ok (adminLogin.account, createAccessToken sampleJwt {} "admin" .admin 0 "1") :=
      login_of seeded enabled verifyPassword_own
    exact step_login (w := {}) answer
  have second : World.step sampleJwt {} { logins := [adminLogin] }
      (.register (some ("Bearer " ++ adminLogin.token))
        ⟨⟨"dana", "correct horse", .approver⟩, by decide⟩ (seconds 30)) =
      some { logins := [adminLogin], adding := [danaRegistration] } := by
    have found : getCurrentUser sampleJwt UserStore.seeded (some ("Bearer " ++ adminLogin.token))
        (seconds 30) = .ok adminLogin.account := admin_signed.platform seeded enabled (by decide)
    have high : Role.admin.rank ≤ adminLogin.account.role.rank := le_rfl
    have answer : register sampleJwt UserStore.seeded (some ("Bearer " ++ adminLogin.token))
        ⟨⟨"dana", "correct horse", .approver⟩, by decide⟩ (seconds 30) =
          .ok danaRegistration.account := by
      rw [register, requireRole_of enabled found, if_pos high, Except.ok_bind, Dict.contains, dana_new]
      rfl
    have token := bearerToken_bearer admin_signed.compact.2
    rw [step_register (w := { logins := [adminLogin] }) answer, token]
    rfl
  have third : World.step sampleJwt {} { logins := [adminLogin], adding := [danaRegistration] }
      (.add 0) = some
        { store := UserStore.seeded.set "dana" danaRegistration.account
          logins := [adminLogin], registered := [danaRegistration] } := rfl
  have fourth : World.step sampleJwt {}
      { store := UserStore.seeded.set "dana" danaRegistration.account
        logins := [adminLogin], registered := [danaRegistration] }
      (.login ⟨⟨"dana", "correct horse"⟩, by decide⟩ (seconds 60) "2") = some
        { store := UserStore.seeded.set "dana" danaRegistration.account
          logins := [adminLogin, danaLogin], registered := [danaRegistration] } := by
    have answer : login sampleJwt {} (UserStore.seeded.set "dana" danaRegistration.account)
        ⟨⟨"dana", "correct horse"⟩, by decide⟩ (seconds 60) "2" = .ok (danaLogin.account,
          createAccessToken sampleJwt {} "dana" .approver (seconds 60) "2") :=
      login_of dana_there rfl verifyPassword_own
    exact step_login
      (w := { store := UserStore.seeded.set "dana" danaRegistration.account
              logins := [adminLogin], registered := [danaRegistration] }) answer
  have fifth : World.step sampleJwt {}
      { store := UserStore.seeded.set "dana" danaRegistration.account
        logins := [adminLogin, danaLogin], registered := [danaRegistration] }
      (.decide (some ("Bearer " ++ danaLogin.token)) (seconds 120) (danaPost ⟨"", ""⟩)) =
        some sampleWorld := by
    have answer : Shared.requireRole sampleJwt (some ("Bearer " ++ danaLogin.token)) (seconds 120)
        (str Role.approver) = .ok danaRegistration.account.user := by
      have live : Live {} danaLogin.at' (seconds 120) := by decide
      have known : Shared.getCurrentUser sampleJwt (some ("Bearer " ++ danaLogin.token))
          (seconds 120) = .ok danaLogin.account.user := by rw [dana_signed.shared, if_pos live]
      have high : Role.approver.rank ≤ danaLogin.account.role.rank := le_rfl
      rw [Shared.requireRole_of known, if_pos high]
      rfl
    obtain ⟨nonempty, compact⟩ := dana_signed.compact
    rw [step_decide answer, sharedToken_eq_some.mpr ⟨bearerToken_bearer compact, nonempty⟩]
    rfl
  refine ⟨.cons first (.cons second (.cons third (.cons fourth (.cons fifth .nil)))), ?_⟩
  refine (Machine.eachStep_cons first).mpr ⟨⟨trivial, trivial⟩, (Machine.eachStep_cons second).mpr ⟨⟨?_, ?_⟩, ?_⟩⟩
  · exact admin_signed.genuine List.mem_cons_self
  · intro r mem
    cases mem
  refine (Machine.eachStep_cons third).mpr ⟨⟨trivial, trivial⟩, (Machine.eachStep_cons fourth).mpr
    ⟨⟨trivial, trivial⟩, (Machine.eachStep_cons fifth).mpr ⟨⟨?_, trivial⟩, ?_⟩⟩⟩
  · exact dana_signed.genuine (List.mem_cons_of_mem _ List.mem_cons_self)
  · intro ls1 l ls2 u u' none
    simp at none

end Sample

/-- Every account of the platform API goes back to the demo accounts, and so does every decision on a
remediation: however requests interleave, the decision of a request is made in the name and the role of
an account that goes back to them, that ranks as an approver at least and whose password somebody
logged in with to get the token that the request presented. -/
theorem decisions_vouched (jwt : Jwt) (settings : AuthSettings) {events : List Event} {w : World}
    (r : (platform jwt settings).Run {} events w)
    (genuine : (platform jwt settings).EachStep (fun w e _ => e.Genuine jwt w) {} events) :
    (∀ k account, w.store.get? k = some account → Vouched w account) ∧
      ∀ d ∈ w.decided, ∃ l ∈ w.logins, Vouched w l.account ∧
        verifyPassword l.password l.account.passwordHash = some true ∧ l.token = d.token ∧
        d.post.decideCall.approverIdentity = l.account.username ∧
        (l.account.role = .admin ∧ d.post.decideCall.approverRole = .administrator ∨
          l.account.role = .approver ∧ d.post.decideCall.approverRole = .incidentResponder) := by
  have sound : Sound jwt settings w :=
    r.invariant_of genuine (fun _ _ _ s genuine st => s.step genuine st) sound_start
  refine ⟨fun k account => sound.vouched, ?_⟩
  intro d mem
  obtain ⟨l, login, token, named, ranked⟩ := sound.decided d mem
  obtain ⟨vouched, verified⟩ := sound.entered l login
  refine ⟨l, login, vouched, verified, token, ?_, ?_⟩
  · rw [DecisionPost.decideCall, named]
    rfl
  · rw [DecisionPost.decideCall, named]
    cases role : l.account.role with
    | viewer =>
      rw [role] at ranked
      exact absurd ranked (by decide)
    | approver => exact .inr ⟨rfl, by simp [UserRecord.user, role]; decide⟩
    | admin => exact .inl ⟨rfl, by simp [UserRecord.user, role]; rfl⟩

/-- The approver who was registered by the administrator approves. -/
theorem decisions_vouched_dana : ∃ d ∈ sampleWorld.decided, ∃ l ∈ sampleWorld.logins,
    Vouched sampleWorld l.account ∧ l.token = d.token ∧
      d.post.decideCall.approverIdentity = l.account.username := by
  obtain ⟨run, each⟩ := sample_run
  obtain ⟨-, decisions⟩ := decisions_vouched sampleJwt {} run fun ls1 l ls2 u u' split r st =>
    (each ls1 l ls2 u u' split r st).1
  obtain ⟨l, login, vouched, -, token, named, -⟩ := decisions _ List.mem_cons_self
  exact ⟨_, List.mem_cons_self, l, login, vouched, token, named⟩

end SentinelOps.Auth
