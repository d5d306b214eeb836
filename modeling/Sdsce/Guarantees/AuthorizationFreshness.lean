import Sdsce.Guarantees.Authentication
import Sdsce.Theory.Freshness
import Sdsce.Theory.Table

/-!
# How old a cached authorization can be

The gateway and the authentication service each keep a cache of what the collector contract said
about a signer. The gateway reads the clock again after the query and the service does not, so the
service's entries live shorter by the time that the query took.
-/
namespace Sdsce.Guarantees.AuthorizationFreshness

open Sdsce.Theory Sdsce.Source Sdsce.Source.Auth

/-! ## The two caches -/

/-- A payer and a signer. -/
abbrev Question := Address × Address

def keyOf (question : Question) : String := authCacheKey question.1 question.2

theorem keyOf_injective : Function.Injective keyOf := by
  intro _ _ same
  obtain ⟨payer, signer⟩ := authCacheKey_injective same
  exact Prod.ext payer signer

/-- What an action of the gateway shows of its lookups. -/
def gatewayShows {β : Type} (a : Source.Act β) (e : Oracle) :
    Option (Lookup Question String Bool) :=
  match β, a with
  | _, .outside .now => some .clock
  | _, .outside (.isAuthorized payer signer) =>
    (e.answer e.yes).toOption.map (.answered (payer, signer))
  | _, .gateway (.authCacheSet key entry) => some (.stored key entry.1 entry.2)
  | _, _ => none

/-- What an action of the service shows of its lookups. -/
def serviceShows {β : Type} (a : AuthAct β) (e : Oracle) : Option (Lookup Question String Bool) :=
  match β, a with
  | _, .service .now => some .clock
  | _, .service (.isAuthorized payer signer) =>
    (e.answer e.yes).toOption.map (.answered (payer, signer))
  | _, .service (.authCacheSet key entry) => some (.stored key entry.ok entry.expires)
  | _, _ => none

theorem lookup_cases {A : Type} {cache : AList (fun _ : String => A)} {key key' : String}
    {entry found : A} (here : (cache.insert key entry).lookup key' = some found) :
    cache.lookup key' = some found ∨ key = key' ∧ entry = found := by
  rw [Table.lookup_insert] at here
  split at here
  · next same => exact .inr ⟨same.symm, Option.some.inj here⟩
  · exact .inl here

/-- `authCache` of the gateway. -/
def gatewayCaching : Caching Source.machine Question String Bool where
  key := keyOf
  key_injective := keyOf_injective
  lifetime := Gateway.authCacheLifetime
  time e := e.time
  cache w k := w.authCache.lookup k
  shows a e := gatewayShows a e
  exec_cache := by
    intro i β w w' e k entry a b ran found
    cases a with
    | outside a =>
      cases ran
      exact .inl found
    | store a | runtime a | rpc a =>
      simp only [Source.machine, World.exec] at ran
      split at ran
      · cases ran
      · cases ran
        exact .inl found
    | gateway a =>
      obtain ⟨rfl, _⟩ := Prod.mk.inj (Option.some.inj ran)
      cases a with
      | authCacheGet key => exact .inl found
      | note note => exact .inl found
      | authCacheSet key new =>
        rcases lookup_cases found with old | ⟨rfl, rfl⟩
        · exact .inl old
        · exact .inr rfl

theorem query_exec {i : ThreadId} {payer signer : Address} {e : Oracle} {s s' : State}
    {answer : Except String Bool}
    (ran : Auth.machine.exec i (.service (.isAuthorized payer signer)) e s =
      some (s', answer)) : s'.authCache = s.authCache ∧ e.answer e.yes = answer := by
  simp only [Auth.machine, State.exec, State.execService, Option.some.injEq] at ran
  split at ran
  · next given =>
      cases ran
      exact ⟨rfl, given⟩
  · next given =>
      cases ran
      exact ⟨rfl, given⟩

/-- `authCache` of the service. -/
def serviceCaching : Caching Auth.machine Question String Bool where
  key := keyOf
  key_injective := keyOf_injective
  lifetime := Auth.authCacheLifetime
  time e := e.time
  cache s k := (s.authCache.lookup k).map fun entry => (entry.ok, entry.expires)
  shows a e := serviceShows a e
  exec_cache := by
    intro i β s s' e k entry a b ran found
    cases a with
    | provider a =>
      simp only [Auth.machine, State.exec] at ran
      split at ran
      · cases ran
      · cases ran
        exact .inl found
    | service a =>
      cases a with
      | now | authCacheGet key =>
        cases ran
        exact .inl found
      | isAuthorized payer signer =>
        rw [(query_exec ran).1] at found
        exact .inl found
      | authCacheSet key new =>
        cases ran
        obtain ⟨entry', here, rfl⟩ := Option.map_eq_some_iff.mp found
        rcases lookup_cases here with old | ⟨rfl, rfl⟩
        · exact .inl (Option.map_eq_some_iff.mpr ⟨entry', old, rfl⟩)
        · exact .inr rfl

def gatewayLookups : Lookups gatewayCaching (Bool × Time) String where
  view entry := entry
  now := .outside .now
  get question := .gateway (.authCacheGet (keyOf question))
  ask question := .outside (.isAuthorized question.1 question.2)
  set question ok expires := .gateway (.authCacheSet (keyOf question) (ok, expires))
  now_shows _ := rfl
  exec_now ran := by
    cases ran
    rfl
  get_shows _ _ := rfl
  exec_get ran := by
    cases ran
    exact Option.map_id'
  ask_shows question e shown shows' := by
    obtain ⟨ok, _, rfl⟩ := Option.map_eq_some_iff.mp shows'
    exact ⟨ok, rfl⟩
  exec_ask {i question e w w' ok} ran := by
    have answered : e.answer e.yes = .ok ok := (Prod.mk.inj (Option.some.inj ran)).2
    exact congrArg (fun r : Except String Bool => r.toOption.map _) answered
  set_shows _ _ _ _ := rfl

def serviceLookups : Lookups serviceCaching AuthCacheEntry String where
  view entry := (entry.ok, entry.expires)
  now := .service .now
  get question := .service (.authCacheGet (keyOf question))
  ask question := .service (.isAuthorized question.1 question.2)
  set question ok expires := .service (.authCacheSet (keyOf question) ⟨ok, expires⟩)
  now_shows _ := rfl
  exec_now ran := by
    cases ran
    rfl
  get_shows _ _ := rfl
  exec_get ran := by
    cases ran
    rfl
  ask_shows question e shown shows' := by
    obtain ⟨ok, _, rfl⟩ := Option.map_eq_some_iff.mp shows'
    exact ⟨ok, rfl⟩
  exec_ask {i question e s s' ok} ran := by
    exact congrArg (fun r : Except String Bool => r.toOption.map _) (query_exec ran).2
  set_shows _ _ _ _ := rfl

theorem gateway_lookUp (payer signer : Address) : Gateway.queryAuthorization payer signer =
    gatewayLookups.lookUp (payer, signer) fun _ => (outside .now).bind fun later =>
      .ret (later + Gateway.authCacheLifetime) := by
  refine congrArg (Prog.bind _) (funext fun now => congrArg (Prog.bind _) (funext fun cached => ?_))
  change _ = gatewayLookups.resume _ _ now (cached.filter fun entry => now < entry.2)
  cases cached.filter fun entry => decide (now < entry.2) with
  | some entry => rfl
  | none =>
    refine congrArg (Prog.bind _) (funext fun answer => ?_)
    cases answer with
    | error | ok => rfl

theorem service_lookUp (payer signer : Address) : AuthService.queryAuthorization payer signer =
    serviceLookups.lookUp (payer, signer) fun now => .ret (now + Auth.authCacheLifetime) := by
  refine congrArg (Prog.bind _) (funext fun now => congrArg (Prog.bind _) (funext fun cached => ?_))
  change _ = serviceLookups.resume _ _ now (cached.filter fun entry => now < entry.expires)
  cases cached.filter fun entry => decide (now < entry.expires) with
  | some entry => rfl
  | none =>
    refine congrArg (Prog.bind _) (funext fun answer => ?_)
    cases answer with
    | error | ok => rfl

/-! ## Every interleaving -/

section
variable {Act : Type → Type} {σ : Type} {M : Machine Act ThreadId Oracle σ}
  (C : Caching M Question String Bool)

/-- Answers are fresh, or `false` where there is nobody to ask, and the cache holds nothing but
answers. -/
structure Upheld (queries : Bool) (calls : ThreadId → Question)
    (c : Config Act ThreadId (Timed ThreadId σ Question String Bool) (Except String Bool)) :
    Prop where
  fresh : ∀ i ok, c.threads i = .ret (.ok ok) →
    if queries then C.Fresh i (calls i) ok c.shared.log else ok = false
  recorded : ∀ question entry, C.cache c.shared.state (C.key question) = some entry →
    ∃ time, C.Recorded question entry.1 time c.shared.log

/-- What a call knows when it returns. -/
def verdict (queries : Bool) (i : ThreadId) (question : Question) (r : Except String Bool) :
    C.discipline.Knowledge i :=
  C.fact i (fun log _ => ∀ ok, r = .ok ok →
      if queries then C.Fresh i question ok log else ok = false) fun grows _ here ok given => by
    cases queries with
    | false => exact here ok given
    | true => exact (here ok given).mono grows

variable {C}

theorem Upheld.of_tasks {queries : Bool} {calls : ThreadId → Question} {time : Int} {start : σ}
    {program : ThreadId → Prog Act (Except String Bool)} (empty : ∀ k, C.cache start k = none)
    (tasks : ∀ i, C.discipline.Task (.none _ i) (program i) (verdict C queries i (calls i)))
    {c : Config Act ThreadId (Timed ThreadId σ Question String Bool) (Except String Bool)}
    (run : C.timed.Reach ⟨⟨start, time, []⟩, program⟩ c) : Upheld C queries calls c := by
  have inv : C.discipline.inv ⟨start, time, []⟩ := by
    refine ⟨.nil, fun k entry found => ?_⟩
    cases (empty k).symm.trans found
  have verified : C.discipline.Verified (fun i r => (verdict C queries i (calls i) r).holds)
      ⟨⟨start, time, []⟩, program⟩ := ⟨inv, fun i => tasks i _ inv trivial⟩
  refine ⟨fun i ok returned => (verified.reach run).returned returned ok rfl,
    fun question entry found => ?_⟩
  obtain ⟨recorded, kept, _⟩ := Caching.recorded_of_cache (verified.reach run).inv found
  exact ⟨recorded, kept⟩

theorem verdict_of_fresh {i : ThreadId} {question : Question}
    {p : Prog Act (Except String Bool)}
    (task : C.discipline.Task (.none _ i) p (Lookups.fresh C i question)) :
    C.discipline.Task (.none _ i) p (verdict C true i question) :=
  task.post fun _ _ _ known ok given => known ok given

end

variable {i : ThreadId} {payer signer : Address}

theorem gateway_task (g : Gateway) (other : payer ≠ signer) :
    gatewayCaching.discipline.Task (.none _ i) (g.isSignerAuthorized payer signer)
      (verdict gatewayCaching g.hasCollectorQuerier i (payer, signer)) := by
  refine .bind (R := verdict gatewayCaching g.hasCollectorQuerier i (payer, signer)) ?_
    fun answer => .bind (R := fun _ => .none _ i) (.perform (fun _ _ _ e shown _ shows' => ?_)
      fun _ _ _ _ _ _ _ => trivial) fun _ => .ret fun _ _ known => known.1.2
  · rw [Gateway.checkAuthorization, addressesEqual, if_neg (by simpa using other)]
    cases g.hasCollectorQuerier with
    | false => exact .ret fun _ _ _ ok given => (Except.ok.inj given).symm
    | true =>
      rw [if_pos rfl, gateway_lookUp]
      refine verdict_of_fresh (Lookups.lookUp_task fun now => ?_)
      refine .bind ((Lookups.now_task (L := gatewayLookups)).pre fun _ _ _ => trivial)
        fun later => .ret fun _ _ known => ?_
      exact Int.add_le_add_right known.2.2 _
  · cases shows'

theorem service_task (s : AuthService) (other : payer ≠ signer) :
    serviceCaching.discipline.Task (.none _ i) (s.isSignerAuthorized payer signer)
      (verdict serviceCaching s.hasCollectorQuerier i (payer, signer)) := by
  rw [AuthService.isSignerAuthorized, addressesEqual, if_neg (by simpa using other)]
  cases s.hasCollectorQuerier with
  | false => exact .ret fun _ _ _ ok given => (Except.ok.inj given).symm
  | true =>
    rw [if_pos rfl, service_lookUp]
    refine verdict_of_fresh (Lookups.lookUp_task fun now => .ret fun _ _ known => ?_)
    exact Int.add_le_add_right known.2 _

/-- Calls of `isSignerAuthorized`, of the gateway or of the service, at once and for any payers and
other signers, on a clock that does not go back. -/
theorem authorizations_fresh (g : Gateway) (s : AuthService) (calls : ThreadId → Question)
    (others : ∀ i, (calls i).1 ≠ (calls i).2) (time : Time) :
    (∀ c, gatewayCaching.timed.Reach
        ⟨⟨{}, time, []⟩, fun i => g.isSignerAuthorized (calls i).1 (calls i).2⟩ c →
      Upheld gatewayCaching g.hasCollectorQuerier calls c) ∧
    (∀ c, serviceCaching.timed.Reach
        ⟨⟨{}, time, []⟩, fun i => s.isSignerAuthorized (calls i).1 (calls i).2⟩ c →
      Upheld serviceCaching s.hasCollectorQuerier calls c) :=
  ⟨fun _ => .of_tasks (fun _ => rfl) fun i => gateway_task g (others i),
    fun _ => .of_tasks (fun _ => rfl) fun i => service_task s (others i)⟩

def delegatingGateway : Gateway := { Sample.gateway with hasCollectorQuerier := true }

/-- What the first is told answers the second a second later. -/
def consulted : Config Source.Act ThreadId (Timed ThreadId World Question String Bool)
    (Except String Bool) :=
  gatewayCaching.timed.play [(0, {}, 9), (1, { time := 10 ^ 9, yes := false }, 9)]
    ⟨⟨{}, 0, []⟩, fun _ => delegatingGateway.isSignerAuthorized Sample.payer Sample.dataService⟩

theorem consulted_fresh : consulted.threads 1 = .ret (.ok true) ∧
    Upheld gatewayCaching true (fun _ => (Sample.payer, Sample.dataService)) consulted := by
  refine ⟨rfl, (authorizations_fresh delegatingGateway Authentication.delegating
    (fun _ => (Sample.payer, Sample.dataService)) (fun _ => ?_) 0).1 consulted
      (Machine.play_reach _ _)⟩
  decide

end Sdsce.Guarantees.AuthorizationFreshness
