import SentinelOps.Auth.Sessions

/-!
# The shared dependency against the platform API

In a run in which no two registrations of one name are under way at once, an account stays as it was
stored, and no account is ever disabled. So the role in a token is the role of the account for as
long as the token lives, and the shared dependency, which looks nothing up, gives the answers of the
platform API (`shared_check_agrees`).
-/

namespace SentinelOps.Auth

variable {jwt : Jwt} {settings : AuthSettings} {w w' : World} {header : Option String} {now : Instant}

/-- The states of a run in which registrations of one name do not overlap. -/
structure Steady (jwt : Jwt) (settings : AuthSettings) (w : World) : Prop where
  enabled : ∀ k account, w.store.get? k = some account → account.disabled = false
  free : ∀ r ∈ w.adding, w.store.get? r.account.username = none
  apart : (w.adding.map (·.account.username)).Nodup
  current : ∀ l ∈ w.logins, w.store.get? l.account.username = some l.account
  named : ∀ k account, w.store.get? k = some account → account.username = k
  kept : ∀ r ∈ w.registered, w.store.get? r.account.username = some r.account
  made : ∀ r, r ∈ w.adding ∨ r ∈ w.registered →
    ∃ role, r.account = createUserRecord r.account.username r.password role
  signed : ∀ l ∈ w.logins, l.Signed jwt settings

/-- A new process. -/
lemma steady_start : Steady jwt settings {} := by
  refine ⟨?_, ?_, ?_, ?_, ?_, ?_, ?_, ?_⟩
  · exact fun k account there => enabled_of_demo account (get?_seeded there).1
  · intro r mem
    cases mem
  · exact List.nodup_nil
  · intro l mem
    cases mem
  · exact fun k account there => (get?_seeded there).2
  · intro r mem
    cases mem
  · intro r mem
    obtain mem | mem := mem <;> cases mem
  · intro l mem
    cases mem

/-- Every step keeps the state steady. -/
lemma Steady.step {e} (s : Steady jwt settings w) (alone : e.Alone w)
    (st : w.step jwt settings e = some w') : Steady jwt settings w' := by
  obtain rfl | ⟨body, now, jti, user, response, rfl, answer, rfl⟩ |
    ⟨header, body, now, account, rfl, answer, rfl⟩ | ⟨i, r, rfl, there, rfl⟩ |
    ⟨header, now, post, user, rfl, answer, rfl⟩ := step_cases st
  · exact s
  · obtain ⟨found, verified, rfl⟩ := login_eq_ok answer
    refine { s with current := ?_, signed := ?_ }
    · intro l mem
      obtain old | new := List.mem_append.mp mem
      · exact s.current l old
      · cases List.mem_singleton.mp new
        rw [← s.named _ _ found] at found
        exact found
    · intro l mem
      obtain old | new := List.mem_append.mp mem
      · exact s.signed l old
      · cases List.mem_singleton.mp new
        exact ⟨jti, rfl⟩
  · obtain ⟨-, none, rfl⟩ := register_eq_ok answer
    refine { s with free := ?_, apart := ?_, made := ?_ }
    · intro r mem
      obtain old | new := List.mem_append.mp mem
      · exact s.free r old
      · cases List.mem_singleton.mp new
        exact none
    · rw [List.map_append, List.nodup_append]
      refine ⟨s.apart, List.nodup_singleton _, ?_⟩
      intro name mem other new
      obtain ⟨r, old, rfl⟩ := List.mem_map.mp mem
      cases List.mem_singleton.mp new
      exact alone r old
    · intro r mem
      obtain mem | done := mem
      · obtain old | new := List.mem_append.mp mem
        · exact s.made r (.inl old)
        · cases List.mem_singleton.mp new
          exact ⟨body.val.role, rfl⟩
      · exact s.made r (.inr done)
  · -- the account of a name that was free: every other account stays
    have pending : r ∈ w.adding := List.mem_of_getElem? there
    have free := s.free r pending
    obtain ⟨role, new⟩ := s.made r (.inl pending)
    have stays {k account} (found : w.store.get? k = some account) :
        (w.store.set r.account.username r.account).get? k = some account := by
      rw [Dict.get?_set, if_neg, found]
      rintro rfl
      rw [free] at found
      cases found
    obtain ⟨lt, here⟩ := List.getElem?_eq_some_iff.mp there
    have names := (List.getElem_cons_eraseIdx_perm lt).map (·.account.username)
    have apart := names.nodup_iff.mpr s.apart
    rw [List.map_cons, here, List.nodup_cons] at apart
    constructor
    · intro k account found
      rw [Dict.get?_set] at found
      split_ifs at found
      · cases Option.some.inj found
        rw [new]
        rfl
      · exact s.enabled k account found
    · intro r' mem
      rw [Dict.get?_set, if_neg]
      · exact s.free r' (List.eraseIdx_subset mem)
      · intro same
        exact apart.1 (same ▸ List.mem_map_of_mem mem)
    · exact apart.2
    · exact fun l mem => stays (s.current l mem)
    · intro k account found
      rw [Dict.get?_set] at found
      split_ifs at found with same
      · cases Option.some.inj found
        exact same.symm
      · exact s.named k account found
    · intro r' mem
      obtain old | new := List.mem_append.mp mem
      · exact stays (s.kept r' old)
      · cases List.mem_singleton.mp new
        rw [Dict.get?_set, if_pos rfl]
    · intro r' mem
      obtain waiting | done := mem
      · exact s.made r' (.inl (List.eraseIdx_subset waiting))
      · obtain old | new := List.mem_append.mp done
        · exact s.made r' (.inr old)
        · cases List.mem_singleton.mp new
          exact s.made r (.inl pending)
    · exact s.signed
  · exact { s with }

/-- The states of a run in which registrations of one name do not overlap are steady. -/
lemma steady_of_run {events} (r : (platform jwt settings).Run {} events w)
    (alone : (platform jwt settings).EachStep (fun w e _ => e.Alone w) {} events) :
    Steady jwt settings w :=
  r.invariant_of alone (fun _ _ _ s alone st => s.step alone st) steady_start

end SentinelOps.Auth
