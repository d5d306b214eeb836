import Sdsce.Guarantees.Alone
import Sdsce.Source.Auth

/-!
# Authentication

What a call of `ValidateAuth` has checked when it succeeds, and what it leaves in the repository.
The signer is the payer, or the collector contract has answered for it, in this call or in the
cache.
-/
namespace Sdsce.Guarantees.Authentication

open Sdsce.Theory Sdsce.Source.Auth Sdsce.Guarantees.Alone
open Sdsce.Source hiding machine Program Call

variable {i : ThreadId} {s s' : State} {service : AuthService} {payer signer : Address}

/-! ## Headers -/

/-- A header of that name, however it is spelled, begins with `value`. -/
def Sends (service : AuthService) (headers : UntrustedHeaders) (name value : String) : Prop :=
  ∃ spelling values, (spelling, some (value :: values)) ∈ headers ∧
    service.lower spelling = service.lower name

variable {headers : UntrustedHeaders} {key id organization : String} {rav : SignedRAV}
  {answer : Except String Bool} {made : List Observation} {session : Session}
  {r : Except String Unit}

theorem lookup_lowerHeaders {values : List String} {lowered : AList (fun _ : String => List String)}
    (found : (headers.foldl service.lowerHeader lowered).lookup key = some values) :
    lowered.lookup key = some values ∨
      ∃ spelling, (spelling, some values) ∈ headers ∧ service.lower spelling = key := by
  induction headers generalizing lowered with
  | nil => exact .inl found
  | cons header rest ih =>
    rcases ih found with here | ⟨spelling, member, same⟩
    · obtain ⟨spelling, given⟩ := header
      cases given with
      | none => exact .inl here
      | some given =>
        cases given with
        | nil => exact .inl here
        | cons value more =>
          by_cases same : key = service.lower spelling
          · subst same
            rw [AuthService.lowerHeader, AList.lookup_insert, Option.some.injEq] at here
            exact .inr ⟨spelling, here ▸ List.mem_cons_self, rfl⟩
          · rw [AuthService.lowerHeader, AList.lookup_insert_ne same] at here
            exact .inl here
    · exact .inr ⟨spelling, List.mem_cons_of_mem header member, same⟩

theorem headerValue_sent {name value : String}
    (found : service.headerValue headers name = some value) : Sends service headers name value := by
  obtain ⟨values, looked, first⟩ := Option.bind_eq_some_iff.mp found
  rcases lookup_lowerHeaders looked with absent | ⟨spelling, member, same⟩
  · cases absent
  cases values with
  | nil => cases first
  | cons head rest =>
    cases first
    exact ⟨spelling, rest, member, same⟩

/-- The header carries this RAV. -/
def CarriesRAV (service : AuthService) (headers : UntrustedHeaders) (rav : SignedRAV) : Prop :=
  ∃ text signedRAV, Sends service headers headerRAV text ∧
    decodeRAVFromHeader service.protobuf text.toList = .ok signedRAV ∧
      protoSignedRAVToHorizon signedRAV = .ok rav

theorem readRAV_carried (read : service.readRAV headers = .ok rav) :
    CarriesRAV service headers rav := by
  unfold AuthService.readRAV at read
  split at read
  · cases read
  rename_i text found
  split at read
  · cases read
  rename_i signedRAV decoded
  split at read
  · cases read
  · next rav' converted =>
      cases read
      exact ⟨text, signedRAV, headerValue_sent found, decoded, converted⟩

/-- The signature recovers to `signer` under the domain of the service. -/
def Recovers (service : AuthService) (rav : SignedRAV) (signer : Address) : Prop :=
  ∃ hash, hashTypedData service.keccak256 service.domain rav.message = some hash ∧
    service.recover rav.signature hash = .ok signer

theorem recoverSigner_recovers (recovered : service.recoverSigner rav = .ok signer) :
    Recovers service rav signer := by
  unfold AuthService.recoverSigner at recovered
  split at recovered
  · cases recovered
  rename_i hash hashed
  split at recovered
  · cases recovered
  · next signer' known =>
      cases recovered
      exact ⟨hash, hashed, known⟩

/-! ## Single actions -/

theorem now_runs {now : Time} (ran : machine.Runs i (onService .now) s now s') :
    s' = s.observe (.clock now) := by
  obtain ⟨e, executed⟩ := ran.perform_inv
  cases executed
  rfl

theorem authCacheGet_runs {found : Option AuthCacheEntry}
    (ran : machine.Runs i (onService (.authCacheGet key)) s found s') :
    found = s.authCache.lookup key ∧ s' = s := by
  obtain ⟨e, executed⟩ := ran.perform_inv
  cases executed
  exact ⟨rfl, rfl⟩

theorem authCacheSet_runs {entry : AuthCacheEntry}
    (ran : machine.Runs i (onService (.authCacheSet key entry)) s () s') :
    s' = { s with authCache := s.authCache.insert key entry } := by
  obtain ⟨e, executed⟩ := ran.perform_inv
  cases executed
  rfl

theorem isAuthorized_runs
    (ran : machine.Runs i (onService (.isAuthorized payer signer)) s answer s') :
    match answer with
    | .error _ => s' = s
    | .ok ok => s' = s.observe (.answered payer signer ok) := by
  obtain ⟨e, executed⟩ := ran.perform_inv
  simp only [machine, State.exec, State.execService] at executed
  cases outcome : e.answer e.yes with
  | error | ok =>
    rw [outcome] at executed
    cases executed
    rfl

theorem onProvider_runs {α : Type} {p : Source.Program α} {r : α}
    (ran : machine.Runs i (onProvider p) s r s') :
    s'.seen = s.seen ∧ Source.machine.Runs i p s.provider r s'.provider := by
  refine Machine.Runs.lift_inv (J := fun t => t.seen = s.seen) ?_ ran rfl
  intro β a e t t' b here executed
  simp only [machine, State.exec] at executed
  split at executed
  · cases executed
  · next world b' done =>
      cases executed
      exact ⟨here, e, done⟩

/-! ## The signer -/

/-- The contract has answered for the pair, after the clock had read `asked`. -/
def Answered (seen : List Observation) (payer signer : Address) (ok : Bool) (asked : Time) : Prop :=
  ∃ earlier later, seen = earlier ++ .answered payer signer ok :: later ∧ .clock asked ∈ earlier

theorem Answered.append {ok : Bool} {asked : Time} (answered : Answered made payer signer ok asked)
    (before after : List Observation) :
    Answered (before ++ made ++ after) payer signer ok asked := by
  obtain ⟨earlier, later, rfl, read⟩ := answered
  refine ⟨before ++ earlier, later ++ after, ?_, List.mem_append_right before read⟩
  simp only [List.append_assoc, List.cons_append]

/-- The signer check accepts: the signer is the payer, or the contract says so during the call, or
it has said so and the cached answer is still good by a reading of the clock during the call. -/
def Accepted (service : AuthService) (cache : AList (fun _ : String => AuthCacheEntry))
    (made : List Observation) (payer signer : Address) : Prop :=
  signer = payer ∨ service.hasCollectorQuerier = true ∧
    ((∃ asked, Answered made payer signer true asked) ∨
      ∃ expires now, cache.lookup (authCacheKey payer signer) = some ⟨true, expires⟩ ∧
        .clock now ∈ made ∧ now < expires)

theorem Accepted.append {cache : AList (fun _ : String => AuthCacheEntry)}
    (accepted : Accepted service cache made payer signer) (more : List Observation) :
    Accepted service cache (made ++ more) payer signer := by
  rcases accepted with self | ⟨asks, ⟨asked, answered⟩ | ⟨expires, now, cached, read, fresh⟩⟩
  · exact .inl self
  · exact .inr ⟨asks, .inl ⟨asked, answered.append [] more⟩⟩
  · exact .inr ⟨asks, .inr ⟨expires, now, cached, List.mem_append_left more read, fresh⟩⟩

theorem queryAuthorization_runs (asks : service.hasCollectorQuerier = true)
    (ran : machine.Runs i (AuthService.queryAuthorization payer signer) s answer s') :
    s'.provider = s.provider ∧ ∃ made, s'.seen = s.seen ++ made ∧
      (answer = .ok true → Accepted service s.authCache made payer signer) := by
  obtain ⟨now, mid, clock, rest⟩ := ran.bind_inv
  obtain rfl := now_runs clock
  obtain ⟨cached, mid, get, rest⟩ := rest.bind_inv
  obtain ⟨rfl, rfl⟩ := authCacheGet_runs get
  split at rest
  · next entry good =>
      obtain ⟨rfl, rfl⟩ := rest.ret_inv
      obtain ⟨cached, fresh⟩ := Option.filter_eq_some_iff.mp good
      refine ⟨rfl, [.clock now], rfl, fun granted => ?_⟩
      obtain ⟨ok, expires⟩ := entry
      cases granted
      exact .inr ⟨asks, .inr ⟨expires, now, cached, List.mem_singleton_self _,
        of_decide_eq_true fresh⟩⟩
  · obtain ⟨answer', mid, query, rest⟩ := rest.bind_inv
    cases answer' with
    | error err =>
      obtain rfl : mid = s.observe (.clock now) := isAuthorized_runs query
      obtain ⟨rfl, rfl⟩ := rest.ret_inv
      exact ⟨rfl, [.clock now], rfl, nofun⟩
    | ok ok =>
      obtain rfl : mid = (s.observe (.clock now)).observe (.answered payer signer ok) :=
        isAuthorized_runs query
      obtain ⟨_, mid, set, rest⟩ := rest.bind_inv
      obtain rfl := authCacheSet_runs set
      obtain ⟨rfl, rfl⟩ := rest.ret_inv
      refine ⟨rfl, [.clock now, .answered payer signer ok], List.append_assoc .., ?_⟩
      intro granted
      cases granted
      exact .inr ⟨asks, .inl ⟨now, [.clock now], [], rfl, List.mem_singleton_self _⟩⟩

theorem isSignerAuthorized_runs
    (ran : machine.Runs i (service.isSignerAuthorized payer signer) s answer s') :
    s'.provider = s.provider ∧ ∃ made, s'.seen = s.seen ++ made ∧
      (answer = .ok true → Accepted service s.authCache made payer signer) := by
  unfold AuthService.isSignerAuthorized at ran
  split at ran
  · next self =>
      obtain ⟨rfl, rfl⟩ := ran.ret_inv
      exact ⟨rfl, [], (List.append_nil _).symm, fun _ => .inl (of_decide_eq_true self).symm⟩
  · split at ran
    · next asks => exact queryAuthorization_runs asks ran
    · obtain ⟨rfl, rfl⟩ := ran.ret_inv
      exact ⟨rfl, [], (List.append_nil _).symm, nofun⟩

/-- What a validated RAV has shown. -/
structure ValidRAV (service : AuthService) (cache : AList (fun _ : String => AuthCacheEntry))
    (made : List Observation) (rav : SignedRAV) (signer : Address) : Prop where
  recovers : Recovers service rav signer
  accepted : Accepted service cache made rav.message.payer signer
  provider : rav.message.serviceProvider = service.serviceProvider

theorem validateRAV_runs {r : Except AuthFailure AuthResult}
    (ran : machine.Runs i (service.validateRAV rav) s r s') :
    s'.provider = s.provider ∧ ∃ made, s'.seen = s.seen ++ made ∧
      ∀ result, r = .ok result → result = ⟨String.ofList rav.message.payer.pretty, ""⟩ ∧
        ∃ signer, ValidRAV service s.authCache made rav signer := by
  unfold AuthService.validateRAV at ran
  split at ran
  · obtain ⟨rfl, rfl⟩ := ran.ret_inv
    exact ⟨rfl, [], (List.append_nil _).symm, nofun⟩
  rename_i signer recovered
  obtain ⟨answer, mid, check, rest⟩ := ran.bind_inv
  obtain ⟨kept, made, saw, granted⟩ := isSignerAuthorized_runs check
  split at rest
  · obtain ⟨rfl, rfl⟩ := rest.ret_inv
    exact ⟨kept, made, saw, nofun⟩
  · obtain ⟨rfl, rfl⟩ := rest.ret_inv
    exact ⟨kept, made, saw, nofun⟩
  split at rest
  · next same =>
      obtain ⟨rfl, rfl⟩ := rest.ret_inv
      refine ⟨kept, made, saw, ?_⟩
      rintro result ⟨⟩
      exact ⟨rfl, signer, recoverSigner_recovers recovered, granted rfl, of_decide_eq_true same⟩
  · obtain ⟨rfl, rfl⟩ := rest.ret_inv
    exact ⟨kept, made, saw, nofun⟩

/-! ## The session -/

/-- The session is valid before the call, and nothing is stored but its new times. -/
structure Touches (w w' : World) (made : List Observation) (id : String) (session : Session) :
    Prop where
  stored : w.store.sessions.lookup id = some session
  active : session.status = .active
  alive : ∃ now, .clock now ∈ made ∧ now - session.lastKeepAlive ≤ sessionKeepAliveTimeout
  wrote : ∃ now, .clock now ∈ made ∧ w'.store = { w.store with
    sessions := w.store.sessions.insert id { session with
      lastKeepAlive := max session.lastKeepAlive now
      updatedAt := max session.updatedAt (max session.lastKeepAlive now) } }
  frame : OnlyStore w w'

theorem Touches.append {w w' : World} (touches : Touches w w' made id session)
    (before : List Observation) : Touches w w' (before ++ made) id session := by
  obtain ⟨now, read, recent⟩ := touches.alive
  obtain ⟨later, read', wrote⟩ := touches.wrote
  exact { touches with
    alive := ⟨now, List.mem_append_right before read, recent⟩
    wrote := ⟨later, List.mem_append_right before read', wrote⟩ }

/-- How the session stage ends: nothing has moved, or the session of the organization is valid and
touched. -/
def Checked (w w' : World) (made : List Observation) (id organization : String) :
    Except String Unit → Prop
  | .error _ => Untouched w w'
  | .ok () => ∃ session, String.ofList session.payer.pretty = organization ∧
      Touches w w' made id session

theorem checkSession_runs (stored : s.provider.store.sessions.lookup id = some session)
    (ran : machine.Runs i (service.checkSession session id organization) s r s') :
    ∃ made, s'.seen = s.seen ++ made ∧ Checked s.provider s'.provider made id organization r := by
  unfold AuthService.checkSession at ran
  split at ran
  · next active =>
      obtain ⟨now, mid, clock, rest⟩ := ran.bind_inv
      obtain rfl := now_runs clock
      split at rest
      · obtain ⟨later, mid, clock', rest⟩ := rest.bind_inv
        obtain rfl := now_runs clock'
        obtain ⟨rfl, rfl⟩ := rest.ret_inv
        exact ⟨[.clock now, .clock later], List.append_assoc .., .refl _⟩
      rename_i alive
      split at rest
      · next own =>
          obtain ⟨touched, mid, clock', rest⟩ := rest.bind_inv
          obtain rfl := now_runs clock'
          obtain ⟨result, mid, touch, rest⟩ := rest.bind_inv
          obtain ⟨rfl, rfl⟩ := rest.ret_inv
          obtain ⟨saw, swap⟩ := onProvider_runs touch
          obtain ⟨frame, outcome⟩ := swapSession_runs swap
          refine ⟨[.clock now, .clock touched], saw.trans (List.append_assoc ..), session, own, ?_⟩
          cases outcome with
          | missing absent => cases absent.symm.trans stored
          | swapped present wrote =>
            cases present.symm.trans stored
            exact ⟨stored, eq_of_beq active, ⟨now, List.mem_cons_self, not_lt.mp alive⟩,
              ⟨touched, List.mem_cons_of_mem _ List.mem_cons_self, wrote⟩, frame⟩
      · obtain ⟨rfl, rfl⟩ := rest.ret_inv
        exact ⟨[.clock now], rfl, .refl _⟩
  · obtain ⟨rfl, rfl⟩ := ran.ret_inv
    exact ⟨[], (List.append_nil _).symm, .refl _⟩

theorem validateSession_runs
    (ran : machine.Runs i (service.validateSession id organization) s r s') :
    ∃ made, s'.seen = s.seen ++ made ∧ Checked s.provider s'.provider made id organization r := by
  unfold AuthService.validateSession at ran
  split at ran
  · obtain ⟨found, mid, get, rest⟩ := ran.bind_inv
    obtain ⟨saw, read⟩ := onProvider_runs get
    obtain ⟨same, looked⟩ := sessionGet_runs read
    cases found with
    | error err =>
      have ended : s' = mid ∧ ∃ text, r = .error text := by
        dsimp only at rest
        split at rest
        · obtain ⟨rfl, rfl⟩ := rest.ret_inv
          exact ⟨rfl, _, rfl⟩
        · obtain ⟨rfl, rfl⟩ := rest.ret_inv
          exact ⟨rfl, _, rfl⟩
      obtain ⟨rfl, text, rfl⟩ := ended
      exact ⟨[], saw.trans (List.append_nil _).symm, same ▸ .refl _⟩
    | ok session =>
      have stored : mid.provider.store.sessions.lookup id = some session := by
        rw [same]
        split at looked
        · cases looked
        · next session' present =>
            cases looked
            exact present
      rw [← same, ← saw]
      exact checkSession_runs stored rest
  · obtain ⟨rfl, rfl⟩ := ran.ret_inv
    exact ⟨[], (List.append_nil _).symm, .refl _⟩

/-! ## The call -/

/-- The headers that the service vouches for: this payer, this session, the address of the request
and no API key. -/
structure Names (trusted : TrustedHeaders) (payer : Address) (id ipAddress : String) : Prop where
  organizationID : trusted.lookup .organizationID = some (String.ofList payer.pretty)
  sessionID : trusted.lookup .sessionID = some id
  ip : trusted.lookup .ip = some ipAddress
  apiKeyID : trusted.lookup .apiKeyID = none

theorem trustedHeaders_names (payer : Address) (id ipAddress : String) :
    Names (AuthService.trustedHeaders ⟨String.ofList payer.pretty, ""⟩ ipAddress id) payer id
      ipAddress := by
  refine ⟨rfl, rfl, rfl, rfl⟩

/-- What a successful call has established: the RAV and the session are in the headers. -/
structure Authenticated (service : AuthService) (req : ValidateAuthRequest) (before after : State)
    (trusted : TrustedHeaders) (made : List Observation) (rav : SignedRAV) (signer : Address)
    (id : String) (session : Session) : Prop where
  observed : after.seen = before.seen ++ made
  carries : CarriesRAV service req.untrustedHeaders rav
  valid : ValidRAV service before.authCache made rav signer
  sends : Sends service req.untrustedHeaders headerSessionID id
  touches : Touches before.provider after.provider made id session
  payer : session.payer = rav.message.payer
  names : Names trusted rav.message.payer id req.ipAddress

/-- Authentication is sound: success means that the RAV and the session have been checked, and only
the keep-alive of the session is stored; a failure stores nothing. -/
theorem authentication_sound {req : ValidateAuthRequest} {before after : State}
    {result : Except AuthFailure TrustedHeaders}
    (ran : machine.Runs i (service.validateAuth req) before result after) :
    match result with
    | .error _ => Untouched before.provider after.provider
    | .ok trusted => ∃ made rav signer id session,
        Authenticated service req before after trusted made rav signer id session := by
  unfold AuthService.validateAuth at ran
  split at ran
  · obtain ⟨rfl, rfl⟩ := ran.ret_inv
    exact .refl _
  rename_i rav read
  obtain ⟨validated, mid, validate, rest⟩ := ran.bind_inv
  obtain ⟨kept, made, saw, valid⟩ := validateRAV_runs validate
  have untouched : Untouched before.provider mid.provider := kept ▸ .refl _
  cases validated with
  | error failure =>
    obtain ⟨rfl, rfl⟩ := rest.ret_inv
    exact untouched
  | ok auth =>
    obtain ⟨rfl, signer, valid⟩ := valid auth rfl
    dsimp only at rest
    split at rest
    · obtain ⟨rfl, rfl⟩ := rest.ret_inv
      exact untouched
    rename_i id found
    obtain ⟨checked, last, check, rest⟩ := rest.bind_inv
    obtain ⟨made', saw', outcome⟩ := validateSession_runs check
    rw [kept] at outcome
    cases checked with
    | error err =>
      obtain ⟨rfl, rfl⟩ := rest.ret_inv
      exact outcome
    | ok done =>
      obtain ⟨rfl, rfl⟩ := rest.ret_inv
      obtain ⟨session, own, touches⟩ := outcome
      refine ⟨made ++ made', rav, signer, id, session, ?_⟩
      exact {
        observed := by rw [saw', saw, List.append_assoc]
        carries := readRAV_carried read
        valid := { valid with accepted := valid.accepted.append made' }
        sends := headerValue_sent found
        touches := touches.append made
        payer := Address.pretty_injective (String.ofList_injective own)
        names := trustedHeaders_names _ _ _ }

/-- The wire form of the payer's RAV over five units. -/
def voucherBytes : List UInt8 :=
  [0x0a, 111, 0x0a, 22, 0x0a, 20] ++ Sample.payer ++ [0x12, 22, 0x0a, 20] ++ Sample.dataService ++
    [0x1a, 22, 0x0a, 20] ++ Sample.serviceProvider ++ [0x2a, 3, 0x0a, 1, 5, 0x3a, 32] ++
    List.replicate 32 0 ++ [0x12, 65, 27] ++ List.replicate 64 1

/-- A service whose contract lets another key sign for the payer; every text hashes to zeros. -/
def delegating : AuthService where
  serviceProvider := Sample.serviceProvider
  domain := newDomain 42161 (List.replicate 20 5)
  hasCollectorQuerier := true
  hasRepository := true
  protobuf := .knowing (Sample.signed (Sample.rav 5)) voucherBytes
  keccak256 _ := List.replicate 32 0
  recover _ _ := .ok (List.replicate 20 4)
  toLower := Char.toLower
  durationText _ := ""

def delegated : ValidateAuthRequest where
  untrustedHeaders := [("X-SDS-Session-ID", some ["s"]),
    ("X-SDS-RAV", some [String.ofList (Base64.encode voucherBytes)])]
  ipAddress := "127.0.0.1"

/-- The payer's session has just been opened. -/
def openSession : State where
  provider := { store := { sessions := (∅ : AList _).insert "s" (.new "s" Sample.payer
    Sample.serviceProvider Sample.dataService Sample.gateway.pricingConfig 0) } }

def authenticate : Option (Except AuthFailure TrustedHeaders × State) :=
  machine.runAlone 0 {} 200 (delegating.validateAuth delegated) openSession

theorem authentication_sound_delegated :
    ∃ trusted after, machine.Runs 0 (delegating.validateAuth delegated) openSession (.ok trusted)
        after ∧ ∃ made rav signer id session,
      Authenticated delegating delegated openSession after trusted made rav signer id session := by
  have succeeds : authenticate.map (fun outcome => outcome.1.toOption.isSome) = some true := by
    decide +kernel
  obtain ⟨⟨result, after⟩, ended, succeeded⟩ := Option.map_eq_some_iff.mp succeeds
  have ran := Machine.runAlone_runs ended
  cases result with
  | error failure => cases succeeded
  | ok trusted => exact ⟨trusted, after, ran, authentication_sound ran⟩

end Sdsce.Guarantees.Authentication
