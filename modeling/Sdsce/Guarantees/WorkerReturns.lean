import Sdsce.Source.SessionPool
import Sdsce.Theory.Custody
import Sdsce.Theory.Protocol
import Sdsce.Theory.Table

/-!
# Returns of borrowed workers

A key that the service has granted is in one place: with the call that has borrowed it, on the list
of its session, with the call that will return it, or back at the service. Calls move keys between
these places, as long as `ReleaseWorker` and the list of a `Release` do not take the same worker.
-/
namespace Sdsce.Guarantees.WorkerReturns

open Sdsce.Theory Sdsce.Source.SessionPool Function

/-! ## What a call does to keys -/

/-- How far a call has come. -/
inductive Phase where
  | idle
  /-- `Get` was granted the key and has not stored its session. -/
  | opening (key : String)
  | opened (key : String)
  /-- `GetWorker` has found the session. -/
  | looked (session : String)
  /-- `GetWorker` was granted the key and has neither tracked nor returned it. -/
  | borrowed (key session : String)
  | tracked (key : String)
  /-- `ReleaseWorker` has still to return the key. -/
  | passing (key : String)
  | called (session : String)
  | found (session : String)
  /-- `Release` has listed the workers that it will return before the session. -/
  | listed (session : String) (keys : List String)
  | draining (session : String) (keys : List String)
  | closed (session : String)

/-- The keys that the call has still to track or to return. -/
def Phase.holds : Phase → List String
  | opening key | borrowed key _ | passing key => [key]
  | listed session keys | draining session keys => keys ++ [session]
  | _ => []

structure Local where
  call : Call
  phase : Phase := .idle

/-- The key is the next one that the call returns. -/
def Phase.Returns (p : Phase) (key : String) : Prop :=
  (∃ session, p = .borrowed key session) ∨ p = .passing key ∨
    (∃ session keys, p = .draining session (key :: keys)) ∨ p = .draining key []

def Phase.allows (p : Phase) {β : Type} : PoolAct β → Prop
  | .borrowWorker _ none => p = .idle
  | .borrowWorker _ (some session) => p = .looked session
  | .returnWorker key _ => p.Returns key
  | .sessionsGet session =>
    p = .idle ∨ (∃ key, p = .borrowed key session) ∨ p = .called session
  | .sessionsSet key info => p = .opening key ∧ info.workers = [] ∧ info.released = false
  | .sessionsDel session => ∃ keys, p = .listed session keys
  | .sessionsForEach => ∃ key, p = .passing key
  | .workersDel _ key => p = .passing key
  | .beginRelease session => p = .found session
  | .addWorker session key => p = .borrowed key session
  | .giveSession key => p = .opened key
  | .giveWorker key => p = .tracked key
  | .callReleaseWorker _ | .callRelease _ => p = .idle

/-- The phase after a return. -/
def Phase.returned : Phase → Phase
  | draining session (_ :: keys) => .draining session keys
  | draining session [] => .closed session
  | _ => .idle

/-- The phase after a lookup of the session. -/
def Phase.lookedUp (session : String) (hit : Bool) : Phase → Phase
  | idle => if hit then .looked session else .idle
  | called session => if hit then .found session else .closed session
  | p => p

/-- The phase after a grant. -/
def granted (key : String) : Option String → Phase
  | none => .opening key
  | some session => .borrowed key session

def Phase.next (p : Phase) {β : Type} : PoolAct β → β → Phase
  | .borrowWorker _ session, .ok response =>
    if response.status = .borrowed then granted response.workerKey session else .idle
  | .borrowWorker _ _, .error _ => .idle
  | .returnWorker _ _, _ => p.returned
  | .sessionsGet session, info => p.lookedUp session info.isSome
  | .sessionsSet key _, _ => .opened key
  | .sessionsDel session, _ =>
    match p with
    | .listed _ keys => .draining session keys
    | p => p
  | .beginRelease session, some keys => .listed session keys
  | .beginRelease session, none => .closed session
  | .addWorker _ key, true => .tracked key
  | .giveSession _, _ | .giveWorker _, _ => .idle
  | .callReleaseWorker key, _ => .passing key
  | .callRelease session, _ => .called session
  | _, _ => p

/-- The call is about the session. -/
def Serves (call : Call) (session : String) : Prop :=
  (∃ service sdsSessionID max, call = .getWorker service session sdsSessionID max) ∨
    call = .release session

/-- The call looks up its own session and names its own key. -/
def Asks (call : Call) {β : Type} : PoolAct β → Prop
  | .sessionsGet session => Serves call session
  | .callReleaseWorker key => call = .releaseWorker key
  | .callRelease session => call = .release session
  | _ => True

def protocol : Protocol PoolAct Local where
  allows l _ a := l.phase.allows a ∧ Asks l.call a
  next l _ a b := { l with phase := l.phase.next a b }

/-- The phases that a call can be in. -/
def Fits (call : Call) : Phase → Prop
  | .looked session | .borrowed _ session | .called session | .found session
  | .listed session _ | .draining session _ => Serves call session
  | .passing key => call = .releaseWorker key
  | _ => True

/-- A call returns with no key in hand, and `Release` when the session is closed. -/
def Settled (_ : Reply) (l : Local) : Prop :=
  l.phase.holds = [] ∧ ∀ session, l.call = .release session → l.phase = .closed session

section Follows

variable {call : Call}

theorem get_follows (serviceName organizationID apiKeyID sdsSessionID : String) :
    protocol.Follows (Source.SessionPool.get serviceName organizationID apiKeyID sdsSessionID)
      ⟨call, .idle⟩ fun _ l => l = ⟨call, .idle⟩ := by
  unfold Source.SessionPool.get
  split
  · rfl
  refine ⟨⟨rfl, trivial⟩, ?_⟩
  rintro (err | ⟨key, _ | _, max, active⟩)
  · rfl
  · exact ⟨⟨⟨rfl, rfl, rfl⟩, trivial⟩, fun _ => ⟨⟨rfl, trivial⟩, fun _ => rfl⟩⟩
  · rfl

theorem returnUntracked_follows (session key : String) :
    protocol.Follows (returnUntracked session key) ⟨call, .borrowed key session⟩
      fun _ l => l.phase.holds = [] ∧ l.call = call :=
  ⟨⟨.inl ⟨session, rfl⟩, trivial⟩, fun _ => ⟨rfl, rfl⟩⟩

theorem getWorker_follows {sessionKey : String} (serves : Serves call sessionKey)
    (serviceName sdsSessionID : String) (max : Int64) :
    protocol.Follows (getWorker serviceName sessionKey sdsSessionID max) ⟨call, .idle⟩
      fun _ l => l.phase.holds = [] ∧ l.call = call := by
  refine ⟨⟨.inl rfl, serves⟩, ?_⟩
  rintro (_ | info)
  · exact ⟨rfl, rfl⟩
  split
  · exact ⟨rfl, rfl⟩
  refine ⟨⟨rfl, trivial⟩, ?_⟩
  rintro (err | ⟨key, _ | _, max, active⟩)
  · exact ⟨rfl, rfl⟩
  · refine ⟨⟨.inr (.inl ⟨key, rfl⟩), serves⟩, ?_⟩
    rintro (_ | _)
    · exact returnUntracked_follows sessionKey key
    refine ⟨⟨rfl, trivial⟩, ?_⟩
    rintro (_ | _)
    · exact returnUntracked_follows sessionKey key
    · exact ⟨⟨rfl, trivial⟩, fun _ => ⟨rfl, rfl⟩⟩
  · exact ⟨rfl, rfl⟩

theorem releaseWorker_follows (key : String) :
    protocol.Follows (releaseWorker key) ⟨.releaseWorker key, .idle⟩
      fun _ l => l = ⟨.releaseWorker key, .idle⟩ := by
  refine ⟨⟨rfl, rfl⟩, fun _ => ⟨⟨⟨key, rfl⟩, trivial⟩, fun sessions => ?_⟩⟩
  have each (session : String) : protocol.Keeps ⟨.releaseWorker key, .passing key⟩
      (perform (.workersDel session key)) := ⟨⟨rfl, trivial⟩, fun _ => rfl⟩
  exact (Protocol.Keeps.forEach each sessions).bind fun _ =>
    ⟨⟨.inr (.inl rfl), trivial⟩, fun _ => rfl⟩

theorem drain_follows (session : String) (keys : List String) :
    protocol.Follows (Prog.forEach (fun key => perform (.returnWorker key none)) keys)
      ⟨call, .draining session keys⟩ fun _ l => l = ⟨call, .draining session []⟩ := by
  induction keys with
  | nil => rfl
  | cons key keys ih =>
    exact ⟨⟨.inr (.inr (.inl ⟨session, keys, rfl⟩)), trivial⟩, fun _ => ih⟩

theorem release_follows (life : Int) (session : String) :
    protocol.Follows (release life session) ⟨.release session, .idle⟩
      fun _ l => l = ⟨.release session, .closed session⟩ := by
  refine ⟨⟨rfl, rfl⟩, fun _ => ⟨⟨.inr (.inr rfl), .inr rfl⟩, ?_⟩⟩
  rintro (_ | info)
  · rfl
  refine ⟨⟨rfl, trivial⟩, ?_⟩
  rintro (_ | keys)
  · rfl
  · refine ⟨⟨⟨keys, rfl⟩, trivial⟩, fun _ => (drain_follows session keys).bind ?_⟩
    rintro _ _ rfl
    exact ⟨⟨.inr (.inr (.inr rfl)), trivial⟩, fun _ => rfl⟩

theorem program_follows (life : Int) (call : Call) :
    protocol.Follows (call.program life) ⟨call, .idle⟩ Settled := by
  cases call with
  | get serviceName organizationID apiKeyID sdsSessionID =>
    refine (get_follows _ _ _ _).bind ?_
    rintro _ _ rfl
    exact ⟨rfl, nofun⟩
  | getWorker serviceName sessionKey sdsSessionID max =>
    refine (getWorker_follows (.inl ⟨_, _, _, rfl⟩) _ _ _).bind ?_
    rintro _ l ⟨free, same⟩
    refine ⟨free, fun session release => ?_⟩
    rw [same] at release
    cases release
  | releaseWorker key =>
    refine (releaseWorker_follows key).bind ?_
    rintro _ _ rfl
    exact ⟨rfl, nofun⟩
  | release session =>
    refine (release_follows life session).bind ?_
    rintro _ _ rfl
    refine ⟨rfl, ?_⟩
    rintro _ ⟨⟩
    rfl

theorem unstarted_holds {life : Int} {l : Local}
    (follows : protocol.Follows (call.program life) l Settled) : l.phase.holds = [] := by
  have idle {p : Phase} (h : p = .idle) : p.holds = [] := congrArg Phase.holds h
  cases call with
  | get serviceName organizationID apiKeyID sdsSessionID =>
    simp only [Call.program, Source.SessionPool.get] at follows
    split at follows
    · exact follows.1
    · exact idle follows.1.1
  | getWorker serviceName sessionKey sdsSessionID max =>
    obtain ⟨⟨allowed, _⟩, next⟩ := follows
    rcases allowed with h | ⟨key, h⟩ | h
    · exact idle h
    · have settled : ({ l with phase := l.phase.lookedUp sessionKey false } : Local).phase.holds =
          [] := (next none).1
      rw [h] at settled
      cases settled
    · exact congrArg Phase.holds h
  | releaseWorker | release => exact idle follows.1.1

theorem fits_next {p : Phase} {β : Type} {a : PoolAct β} (fits : Fits call p)
    (allowed : p.allows a) (asks : Asks call a) (b : β) : Fits call (p.next a b) := by
  cases a with
  | borrowWorker req origin =>
    cases b with
    | error err => trivial
    | ok response =>
      simp only [Phase.next]
      split_ifs
      · cases origin with
        | none => trivial
        | some session =>
          rw [show p = .looked session from allowed] at fits
          exact fits
      · trivial
  | returnWorker key life =>
    rcases allowed with ⟨session, rfl⟩ | rfl | ⟨session, keys, rfl⟩ | rfl
    · trivial
    · trivial
    · exact fits
    · trivial
  | sessionsGet session =>
    rcases allowed with rfl | ⟨key, rfl⟩ | rfl
    · simp only [Phase.next, Phase.lookedUp]
      split_ifs
      · exact asks
      · trivial
    · exact fits
    simp only [Phase.next, Phase.lookedUp]
    split_ifs
    · exact fits
    · trivial
  | sessionsDel session =>
    obtain ⟨keys, rfl⟩ := allowed
    exact fits
  | beginRelease session =>
    rw [show p = .found session from allowed] at fits
    cases b with
    | none => trivial
    | some keys => exact fits
  | addWorker session key =>
    cases b with
    | false => exact fits
    | true => trivial
  | sessionsForEach | workersDel _ _ => exact fits
  | sessionsSet _ _ | giveSession _ | giveWorker _ => trivial
  | callReleaseWorker key => exact asks
  | callRelease session => exact .inr asks

end Follows

/-! ## The pool -/

def Known (s : Pool) (session : String) : Prop := ∃ info, s.infos.lookup session = some info

def Released (s : Pool) (session : String) : Prop :=
  ∃ info, s.infos.lookup session = some info ∧ info.released = true

/-- The worker is on the list of its session until `ReleaseWorker` was called for it. -/
def Tracked (s : Pool) (key : String) : Prop :=
  key ∈ s.passed ∨ ∃ session info, s.infos.lookup session = some info ∧ key ∈ info.workers

/-- What calls rely on lasts. -/
structure Later (s s' : Pool) : Prop where
  borrows : ∀ entry ∈ s.borrows, entry ∈ s'.borrows
  passed : ∀ key ∈ s.passed, key ∈ s'.passed
  known : ∀ session, Known s session → Known s' session
  released : ∀ session, Released s session → Released s' session
  tracked : ∀ key, Tracked s key → Tracked s' key

/-- The entries of the maps agree with what the service has granted. -/
structure Filed (s : Pool) : Prop where
  once : (s.borrows.map Prod.fst).Nodup
  session : ∀ session info, s.infos.lookup session = some info → (session, none) ∈ s.borrows
  worker : ∀ session info key, s.infos.lookup session = some info → key ∈ info.workers →
    (key, some session) ∈ s.borrows
  distinct : ∀ session info, s.infos.lookup session = some info → info.workers.Nodup
  stored : ∀ session info, s.infos.lookup session = some info → info.released = false →
    session ∈ s.sessions
  givenSessions : ∀ session ∈ s.givenSessions, Known s session
  givenWorkers : ∀ key ∈ s.givenWorkers, Tracked s key
  passed : ∀ key ∈ s.passed, ∃ session, (key, some session) ∈ s.borrows

section Pool

variable {s s' : Pool} {session key : String} {info info' : SessionInfo}

theorem Later.of_infos (infos : s'.infos = s.infos)
    (borrows : ∀ entry ∈ s.borrows, entry ∈ s'.borrows)
    (passed : ∀ key ∈ s.passed, key ∈ s'.passed) : Later s s' := by
  refine ⟨borrows, passed, fun session known => ?_, fun session released => ?_,
    fun key tracked => ?_⟩
  · unfold Known
    rw [infos]
    exact known
  · unfold Released
    rw [infos]
    exact released
  · unfold Tracked
    rw [infos]
    exact tracked.imp (passed key) id

theorem Later.of_eq (infos : s'.infos = s.infos) (borrows : s'.borrows = s.borrows)
    (passed : s'.passed = s.passed) : Later s s' :=
  .of_infos infos (fun _ member => borrows ▸ member) fun _ member => passed ▸ member

theorem Later.setInfo (older : ∀ info, s.infos.lookup session = some info →
      (info.released = true → info'.released = true) ∧
      ∀ key ∈ info.workers, key ∈ info'.workers ∨ key ∈ s.passed) :
    Later s (s.setInfo session info') := by
  refine ⟨fun _ member => member, fun _ member => member, fun other known => ?_,
    fun other released => ?_, fun key tracked => ?_⟩
  · by_cases same : other = session
    · subst same
      exact ⟨info', AList.lookup_insert _⟩
    · obtain ⟨info, found⟩ := known
      exact ⟨info, (AList.lookup_insert_ne same).trans found⟩
  · obtain ⟨info, found, released⟩ := released
    by_cases same : other = session
    · subst same
      exact ⟨info', AList.lookup_insert _, (older info found).1 released⟩
    · exact ⟨info, (AList.lookup_insert_ne same).trans found, released⟩
  · rcases tracked with passed | ⟨other, info, found, member⟩
    · exact .inl passed
    by_cases same : other = session
    · subst same
      rcases (older info found).2 key member with member | passed
      · exact .inr ⟨other, info', AList.lookup_insert _, member⟩
      · exact .inl passed
    · exact .inr ⟨other, info, (AList.lookup_insert_ne same).trans found, member⟩

theorem Filed.borrowed_unique (filed : Filed s) {x y : Option String}
    (first : (key, x) ∈ s.borrows) (second : (key, y) ∈ s.borrows) : x = y :=
  congrArg Prod.snd (List.inj_on_of_nodup_map filed.once first second rfl)

/-- The key of a session is not the key of a worker. -/
theorem Filed.worker_ne (filed : Filed s) {other : String} {info' : SessionInfo}
    (found : s.infos.lookup session = some info) (member : key ∈ info.workers)
    (stored : s.infos.lookup other = some info') : key ≠ other := by
  rintro rfl
  cases filed.borrowed_unique (filed.worker _ _ _ found member) (filed.session _ _ stored)

/-- A worker is on the list of one session. -/
theorem Filed.worker_unique (filed : Filed s) {other : String} {info' : SessionInfo}
    (found : s.infos.lookup session = some info) (member : key ∈ info.workers)
    (found' : s.infos.lookup other = some info') (member' : key ∈ info'.workers) :
    session = other :=
  Option.some.inj (filed.borrowed_unique (filed.worker _ _ _ found member)
    (filed.worker _ _ _ found' member'))

theorem Filed.setInfo (filed : Filed s) (later : Later s (s.setInfo session info'))
    (own : (session, none) ∈ s.borrows)
    (workers : ∀ key ∈ info'.workers, (key, some session) ∈ s.borrows)
    (distinct : info'.workers.Nodup) (stored : info'.released = false → session ∈ s.sessions) :
    Filed (s.setInfo session info') := by
  refine ⟨filed.once, Table.forall_lookup_insert own filed.session, ?_,
    Table.forall_lookup_insert distinct filed.distinct,
    Table.forall_lookup_insert stored filed.stored,
    fun other given => later.known _ (filed.givenSessions other given),
    fun key given => later.tracked _ (filed.givenWorkers key given), filed.passed⟩
  intro other info key found
  exact Table.forall_lookup_insert
    (P := fun other info => key ∈ info.workers → (key, some other) ∈ s.borrows)
    (workers key) (fun other info found => filed.worker other info key found) other info found

end Pool

/-! ## Where a key is -/

inductive Place where
  | thread (i : ThreadId)
  | pool (session : String)
  | sent
deriving DecidableEq

/-- The session is open and its list will return the key: its own, or that of a worker for which
`ReleaseWorker` was not called. -/
def OnList (s : Pool) (session key : String) : Prop :=
  ∃ info, s.infos.lookup session = some info ∧ info.released = false ∧
    (key = session ∨ key ∈ info.workers ∧ key ∉ s.passed)

def At (s : Pool) (loc : ThreadId → Local) (key : String) : Place → Prop
  | .thread i => key ∈ (loc i).phase.holds
  | .pool session => OnList s session key
  | .sent => key ∈ s.returns

def Granted (s : Pool) (key : String) : Prop := key ∈ s.borrows.map Prod.fst

/-- What the phase of a call says about the pool, and lasts. -/
def Sound (s : Pool) : Phase → Prop
  | .opening key => (key, none) ∈ s.borrows
  | .borrowed key session => (key, some session) ∈ s.borrows
  | .opened session | .called session | .found session => Known s session
  | .tracked key => Tracked s key
  | .passing key => key ∈ s.passed
  | .listed session keys | .draining session keys =>
    Released s session ∧ ∀ key ∈ keys, (key, some session) ∈ s.borrows
  | .closed session => Released s session
  | .idle | .looked _ => True

/-- What it says as long as the call has the key. -/
def Fresh (s : Pool) : Phase → Prop
  | .opening key => s.infos.lookup key = none
  | .borrowed key _ => key ∉ s.passed
  | _ => True

structure Kept (calls : ThreadId → Call) (s : Pool) (loc : ThreadId → Local) : Prop where
  called : ∀ i, (loc i).call = calls i
  filed : Filed s
  sound : ∀ i, Sound s (loc i).phase
  fresh : ∀ i, Fresh s (loc i).phase
  custody : Custody (At s loc) (Granted s)
  holdsOnce : ∀ i, (loc i).phase.holds.Nodup
  returnsOnce : s.returns.Nodup

section Moves

variable {calls : ThreadId → Call} {s s' : Pool} {loc : ThreadId → Local} {i : ThreadId}
  {p : Phase} {session key : String} {info : SessionInfo}

/-- The local states after thread `i` has come to phase `p`. -/
def moved (loc : ThreadId → Local) (i : ThreadId) (p : Phase) : ThreadId → Local :=
  Function.update loc i { loc i with phase := p }

theorem moved_self : moved loc i p i = { loc i with phase := p } := update_self ..

theorem moved_other {j : ThreadId} (other : j ≠ i) : moved loc i p j = loc j :=
  update_of_ne other ..

theorem forall_moved {P : ThreadId → Local → Prop} (mine : P i { loc i with phase := p })
    (others : ∀ j, j ≠ i → P j (loc j)) (j : ThreadId) : P j (moved loc i p j) :=
  (forall_update_iff loc P).mpr ⟨mine, others⟩ j

theorem at_moved {place : Place} (other : place ≠ .thread i) :
    At s (moved loc i p) key place ↔ At s loc key place := by
  cases place with
  | thread j =>
    have different : j ≠ i := fun same => other (congrArg _ same)
    simp only [At, moved_other different]
  | pool | sent => rfl

theorem at_moved_self : At s (moved loc i p) key (.thread i) ↔ key ∈ p.holds := by
  simp only [At, moved_self]

theorem onList_iff (found : s.infos.lookup session = some info) : OnList s session key ↔
    info.released = false ∧ (key = session ∨ key ∈ info.workers ∧ key ∉ s.passed) := by
  constructor
  · rintro ⟨other, stored, listed⟩
    cases found.symm.trans stored
    exact listed
  · exact fun listed => ⟨info, found, listed⟩

theorem onList_setInfo_self : OnList (s.setInfo session info) session key ↔
    info.released = false ∧ (key = session ∨ key ∈ info.workers ∧ key ∉ s.passed) :=
  onList_iff (s := s.setInfo session info) (AList.lookup_insert _)

theorem onList_setInfo_other {other : String} (different : other ≠ session) :
    OnList (s.setInfo session info) other key ↔ OnList s other key := by
  unfold OnList Pool.setInfo
  rw [AList.lookup_insert_ne different]

theorem at_setInfo_other {place : Place} (other : place ≠ .pool session) :
    At (s.setInfo session info) loc key place ↔ At s loc key place := by
  cases place with
  | thread | sent => rfl
  | pool session => exact onList_setInfo_other fun same => other (congrArg _ same)

theorem Phase.Returns.holds (returns : p.Returns key) (once : p.holds.Nodup) :
    key ∈ p.holds ∧ p.returned.holds.Nodup ∧
      ∀ other, other ∈ p.returned.holds ↔ other ∈ p.holds ∧ other ≠ key := by
  have single (other : String) : other ∈ [] ↔ other ∈ [key] ∧ other ≠ key := by simp
  rcases returns with ⟨session, rfl⟩ | rfl | ⟨session, keys, rfl⟩ | rfl
  · exact ⟨List.mem_singleton_self key, List.nodup_nil, single⟩
  · exact ⟨List.mem_singleton_self key, List.nodup_nil, single⟩
  · obtain ⟨absent, once⟩ := List.nodup_cons.mp once
    refine ⟨List.mem_cons_self, once, fun other => ?_⟩
    constructor
    · intro member
      refine ⟨List.mem_cons_of_mem _ member, ?_⟩
      rintro rfl
      exact absent member
    · rintro ⟨member, different⟩
      exact (List.mem_cons.mp member).resolve_left different
  · exact ⟨List.mem_singleton_self key, List.nodup_nil, single⟩

theorem Sound.returned (sound : Sound s p) : Sound s p.returned := by
  cases p with
  | draining session keys =>
    cases keys with
    | nil => exact sound.1
    | cons key keys => exact ⟨sound.1, fun other member => sound.2 other (.tail _ member)⟩
  | _ => trivial

theorem Fresh.returned (s : Pool) (p : Phase) : Fresh s p.returned := by
  cases p with
  | draining session keys =>
    cases keys with
    | nil | cons => trivial
  | _ => trivial

theorem lookedUp_holds (p : Phase) (session : String) (hit : Bool) :
    (p.lookedUp session hit).holds = p.holds := by
  cases p <;> cases hit <;> rfl

theorem Fresh.lookedUp (fresh : Fresh s p) (session : String) (hit : Bool) :
    Fresh s (p.lookedUp session hit) := by
  cases p <;> cases hit <;> exact fresh

theorem Fresh.setInfo (fresh : Fresh s p) {info' : SessionInfo}
    (found : s.infos.lookup session = some info) : Fresh (s.setInfo session info') p := by
  cases p with
  | opening key =>
    have different : key ≠ session := by
      rintro rfl
      cases found.symm.trans fresh
    exact (AList.lookup_insert_ne different).trans fresh
  | borrowed key session => exact fresh
  | _ => trivial

theorem Sound.later (later : Later s s') (sound : Sound s p) : Sound s' p := by
  cases p with
  | opening | borrowed => exact later.borrows _ sound
  | opened session | called session | found session => exact later.known _ sound
  | tracked key => exact later.tracked _ sound
  | passing key => exact later.passed _ sound
  | listed session keys | draining session keys =>
    exact ⟨later.released _ sound.1, fun key member => later.borrows _ (sound.2 key member)⟩
  | closed session => exact later.released _ sound
  | idle | looked _ => trivial

namespace Kept

variable (here : Kept calls s loc)

include here

theorem step (later : Later s s') (filed : Filed s') (sound : Sound s' p)
    (fresh : Fresh s' p) (others : ∀ j, j ≠ i → Fresh s (loc j).phase → Fresh s' (loc j).phase)
    (custody : Custody (At s' (moved loc i p)) (Granted s')) (holdsOnce : p.holds.Nodup)
    (returnsOnce : s'.returns.Nodup) : Kept calls s' (moved loc i p) :=
  ⟨forall_moved (P := fun j l => l.call = calls j) (here.called i) fun j _ => here.called j, filed,
    forall_moved (P := fun _ l => Sound s' l.phase) sound fun j _ => (here.sound j).later later,
    forall_moved (P := fun _ l => Fresh s' l.phase) fresh fun j other =>
      others j other (here.fresh j), custody,
    forall_moved (P := fun _ l => l.phase.holds.Nodup) holdsOnce fun j _ => here.holdsOnce j,
    returnsOnce⟩

theorem not_held (mine : key ∈ (loc i).phase.holds) {j : ThreadId}
    (other : j ≠ i) : key ∉ (loc j).phase.holds := by
  intro theirs
  have same : Place.thread j = .thread i := here.custody.unique theirs mine
  exact other (Place.thread.inj same)

theorem not_sent (mine : key ∈ (loc i).phase.holds) :
    key ∉ s.returns := by
  intro sent
  have same : Place.sent = .thread i := here.custody.unique sent mine
  cases same

theorem not_onList (mine : key ∈ (loc i).phase.holds) :
    ¬ OnList s session key := by
  intro listed
  have same : Place.pool session = .thread i := here.custody.unique listed mine
  cases same

theorem adjust (later : Later s s') (filed : Filed s')
    (sound : Sound s' p) (holds : p.holds = (loc i).phase.holds)
    (borrows : s'.borrows = s.borrows) (infos : s'.infos = s.infos) (passed : s'.passed = s.passed)
    (returns : s'.returns = s.returns) (fresh : Fresh s p) : Kept calls s' (moved loc i p) := by
  have sameFresh (p : Phase) (h : Fresh s p) : Fresh s' p := by
    unfold Fresh at h ⊢
    rw [infos, passed]
    exact h
  have same : At s' = At s := by
    funext loc key place
    cases place with
    | thread j => rfl
    | pool session =>
      unfold At OnList
      rw [infos, passed]
    | sent =>
      unfold At
      rw [returns]
  have granted : Granted s' = Granted s := by
    funext key
    unfold Granted
    rw [borrows]
  refine here.step later filed sound (sameFresh p fresh) (fun j _ => sameFresh _) ?_
    (holds ▸ here.holdsOnce i) (returns ▸ here.returnsOnce)
  rw [same, granted]
  refine here.custody.frame fun key place => ?_
  by_cases self : place = .thread i
  · subst self
    rw [at_moved_self, holds]
    rfl
  · exact at_moved self

theorem stay (sound : Sound s p) (fresh : Fresh s p)
    (holds : p.holds = (loc i).phase.holds) : Kept calls s (moved loc i p) :=
  here.adjust (.of_eq rfl rfl rfl) here.filed sound holds rfl rfl rfl rfl fresh

theorem grant {origin : Option String}
    (free : (loc i).phase.holds = []) (new : key ∉ s.borrows.map Prod.fst) :
    Kept calls { s with borrows := (key, origin) :: s.borrows }
      (moved loc i (granted key origin)) := by
  have later : Later s { s with borrows := (key, origin) :: s.borrows } :=
    .of_infos rfl (fun _ member => List.mem_cons_of_mem _ member) fun _ member => member
  have holds : (granted key origin).holds = [key] := by
    cases origin <;> rfl
  have unknown : s.infos.lookup key = none := by
    cases found : s.infos.lookup key with
    | none => rfl
    | some info => exact absurd (List.mem_map_of_mem (here.filed.session key info found)) new
  refine here.step later ?_ ?_ ?_ (fun _ _ => id) ?_ ?_ here.returnsOnce
  · exact ⟨List.nodup_cons.mpr ⟨new, here.filed.once⟩,
      fun session info found => List.mem_cons_of_mem _ (here.filed.session session info found),
      fun session info key found member =>
        List.mem_cons_of_mem _ (here.filed.worker session info key found member),
      here.filed.distinct, here.filed.stored,
      fun session given => later.known _ (here.filed.givenSessions session given),
      fun key given => later.tracked _ (here.filed.givenWorkers key given),
      fun key passed => (here.filed.passed key passed).imp fun _ => List.mem_cons_of_mem _⟩
  · cases origin with
    | none | some => exact List.mem_cons_self
  · cases origin with
    | none => exact unknown
    | some session =>
      intro passed
      obtain ⟨session, member⟩ := here.filed.passed key passed
      exact new (List.mem_map_of_mem member)
  · refine here.custody.enter (b := .thread i) key new (fun other => ?_)
      (fun other place elsewhere => ?_) fun other => ?_
    · rw [at_moved_self, holds, List.mem_singleton]
      simp only [At, free, List.not_mem_nil, false_or]
    · exact at_moved elsewhere
    · exact List.mem_cons
  · rw [holds]
    exact List.nodup_singleton key

theorem send (returns : (loc i).phase.Returns key) :
    Kept calls { s with returns := key :: s.returns } (moved loc i (loc i).phase.returned) := by
  obtain ⟨mine, once, rest⟩ := returns.holds (here.holdsOnce i)
  have sound := (here.sound i).returned
  have later : Later s { s with returns := key :: s.returns } := .of_eq rfl rfl rfl
  refine here.step later { here.filed with } (sound.later later) (Fresh.returned _ _)
    (fun _ _ => id) ?_ once (List.nodup_cons.mpr ⟨here.not_sent mine, here.returnsOnce⟩)
  refine here.custody.move (a := .thread i) (b := .sent) (· = key) ?_ ?_ ?_ ?_
  · rintro _ rfl
    exact mine
  · intro other
    rw [at_moved_self]
    exact rest other
  · intro other
    exact List.mem_cons.trans or_comm
  intro other place source target
  rw [at_moved source]
  cases place with
  | thread | pool => rfl
  | sent => exact absurd rfl target

theorem look (allowed : (loc i).phase.allows (.sessionsGet session)) :
    Kept calls s (moved loc i ((loc i).phase.lookedUp session
      (if session ∈ s.sessions then s.infos.lookup session else none).isSome)) := by
  have sound := here.sound i
  have holds := lookedUp_holds (loc i).phase session
    (if session ∈ s.sessions then s.infos.lookup session else none).isSome
  refine here.stay ?_ ((here.fresh i).lookedUp _ _) holds
  rcases allowed with idle | ⟨key, borrowed⟩ | called
  · rw [idle]
    unfold Phase.lookedUp
    split_ifs <;> trivial
  · rw [borrowed] at sound ⊢
    exact sound
  rw [called] at sound ⊢
  obtain ⟨info, found⟩ := sound
  by_cases stored : session ∈ s.sessions
  · rw [if_pos stored, found]
    exact ⟨info, found⟩
  rw [if_neg stored]
  refine ⟨info, found, ?_⟩
  by_contra unreleased
  exact stored (here.filed.stored session info found (Bool.eq_false_of_not_eq_true unreleased))

theorem store (opening : (loc i).phase = .opening key)
    (empty : info.workers = []) (unreleased : info.released = false) :
    Kept calls { s.setInfo key info with sessions := s.sessions.insert key }
      (moved loc i (.opened key)) := by
  have mine : key ∈ (loc i).phase.holds := by
    rw [opening]
    exact List.mem_singleton_self key
  have granted := here.sound i
  have unknown := here.fresh i
  rw [opening] at granted unknown
  have unheld {found : SessionInfo} (h : s.infos.lookup key = some found) : False := by
    rw [show s.infos.lookup key = none from unknown] at h
    cases h
  have later : Later { s with sessions := s.sessions.insert key }
      { s.setInfo key info with sessions := s.sessions.insert key } :=
    Later.setInfo fun _ found => (unheld found).elim
  have filed : Filed { s with sessions := s.sessions.insert key } :=
    { here.filed with
      stored := fun session info found h =>
        List.mem_insert_of_mem (here.filed.stored session info found h) }
  refine here.step ⟨later.borrows, later.passed, later.known, later.released, later.tracked⟩
    (filed.setInfo later granted (fun key member => ?_) ?_ fun _ => List.mem_insert_self)
    ⟨info, AList.lookup_insert _⟩ trivial ?_ ?_ List.nodup_nil here.returnsOnce
  · rw [empty] at member
    cases member
  · rw [empty]
    exact List.nodup_nil
  · intro j other fresh
    have theirs := here.not_held mine other
    cases phase : (loc j).phase with
    | opening key' =>
      rw [phase] at fresh theirs
      have different : key' ≠ key := fun same => theirs (same ▸ List.mem_singleton_self key')
      exact (AList.lookup_insert_ne different).trans fresh
    | borrowed key' session =>
      rw [phase] at fresh
      exact fresh
    | _ => trivial
  · refine here.custody.move (a := .thread i) (b := .pool key) (· = key) ?_ ?_ ?_ ?_
    · rintro _ rfl
      exact mine
    · intro other
      rw [at_moved_self, At, opening]
      simp [Phase.holds]
    · intro other
      refine onList_setInfo_self.trans ?_
      have nowhere : ¬ OnList s key other := fun ⟨_, found, _⟩ => unheld found
      simp only [At, nowhere, unreleased, empty, List.not_mem_nil, false_and, or_false, true_and,
        false_or]
    · exact fun other place source target => (at_moved source).trans (at_setInfo_other target)

theorem unstore {keys : List String}
    (listed : (loc i).phase = .listed session keys) :
    Kept calls { s with sessions := s.sessions.filter (· ≠ session) }
      (moved loc i (.draining session keys)) := by
  have released := here.sound i
  rw [listed] at released
  have later : Later s { s with sessions := s.sessions.filter (· ≠ session) } := .of_eq rfl rfl rfl
  refine here.adjust later { here.filed with stored := fun other info found unreleased => ?_ }
    released ?_ rfl rfl rfl rfl trivial
  · have different : other ≠ session := by
      rintro rfl
      obtain ⟨⟨info', found', released⟩, _⟩ := released
      cases found.symm.trans found'
      rw [released] at unreleased
      cases unreleased
    exact List.mem_filter.mpr
      ⟨here.filed.stored other info found unreleased, decide_eq_true different⟩
  · rw [listed]
    rfl

theorem untrack (passing : (loc i).phase = .passing key)
    (session : String) : Kept calls (s.workersDel session key) (moved loc i (.passing key)) := by
  have passed := here.sound i
  rw [passing] at passed
  have holds : (Phase.passing key).holds = (loc i).phase.holds := by
    rw [passing]
  unfold Pool.workersDel
  split
  · exact here.stay passed trivial holds
  rename_i info found
  have later : Later s (s.setInfo session { info with
      workers := info.workers.filter (· ≠ key) }) := by
    refine Later.setInfo fun old stored => ?_
    cases found.symm.trans stored
    refine ⟨id, fun other member => ?_⟩
    by_cases same : other = key
    · exact .inr (same ▸ passed)
    · exact .inl (List.mem_filter.mpr ⟨member, decide_eq_true same⟩)
  refine here.step later (here.filed.setInfo later (here.filed.session _ _ found)
      (fun other member => here.filed.worker _ _ _ found (List.mem_filter.mp member).1)
      ((here.filed.distinct _ _ found).filter _) (here.filed.stored session info found))
    passed trivial (fun j _ fresh => fresh.setInfo found)
    (here.custody.frame fun other place => ?_) (List.nodup_singleton key) here.returnsOnce
  by_cases self : place = .thread i
  · subst self
    rw [at_moved_self, holds]
    rfl
  rw [at_moved self]
  by_cases own : place = .pool session
  · subst own
    refine onList_setInfo_self.trans (Iff.trans ?_ (onList_iff found).symm)
    have kept : other ∈ info.workers.filter (· ≠ key) ∧ other ∉ s.passed ↔
        other ∈ info.workers ∧ other ∉ s.passed := by
      rw [List.mem_filter, decide_eq_true_eq]
      constructor
      · rintro ⟨⟨member, _⟩, unpassed⟩
        exact ⟨member, unpassed⟩
      · rintro ⟨member, unpassed⟩
        exact ⟨⟨member, fun same => unpassed (same ▸ passed)⟩, unpassed⟩
    rw [kept]
  · exact at_setInfo_other own

theorem list (phase : (loc i).phase = .found session)
    (found : s.infos.lookup session = some info) (unreleased : info.released = false)
    (untaken : ∀ key ∈ info.workers, key ∉ s.passed) :
    Kept calls (s.setInfo session { info with released := true })
      (moved loc i (.listed session info.workers)) := by
  have later : Later s (s.setInfo session { info with released := true }) := by
    refine Later.setInfo fun old stored => ?_
    cases found.symm.trans stored
    exact ⟨fun _ => rfl, fun key member => .inl member⟩
  have apart : session ∉ info.workers := fun member =>
    here.filed.worker_ne found member found rfl
  refine here.step later (here.filed.setInfo later (here.filed.session _ _ found)
      (fun key member => here.filed.worker _ _ _ found member)
      (here.filed.distinct session info found) nofun)
    ⟨⟨_, AList.lookup_insert _, rfl⟩, fun key member => here.filed.worker _ _ _ found member⟩
    trivial (fun j _ fresh => fresh.setInfo found) ?_ ?_ here.returnsOnce
  · refine here.custody.move (a := .pool session) (b := .thread i)
      (fun key => key ∈ info.workers ++ [session]) ?_ ?_ ?_ ?_
    · intro key member
      refine (onList_iff found).mpr ⟨unreleased, ?_⟩
      rcases List.mem_append.mp member with member | own
      · exact .inr ⟨member, untaken key member⟩
      · exact .inl (List.mem_singleton.mp own)
    · intro key
      refine onList_setInfo_self.trans (iff_of_false (fun closed => ?_) fun stays => ?_)
      · cases closed.1
      obtain ⟨listed, off⟩ := stays
      rw [List.mem_append, List.mem_singleton] at off
      rcases ((onList_iff found).mp listed).2 with own | ⟨member, _⟩
      · exact off (.inr own)
      · exact off (.inl member)
    · intro key
      rw [at_moved_self]
      simp only [At, phase, Phase.holds, List.not_mem_nil, false_or]
    · exact fun key place source target => (at_moved target).trans (at_setInfo_other source)
  · refine List.Nodup.append (here.filed.distinct _ _ found) (List.nodup_singleton session) ?_
    rw [List.disjoint_singleton]
    exact apart

theorem track (borrowed : (loc i).phase = .borrowed key session)
    (found : s.infos.lookup session = some info) (unreleased : info.released = false) :
    Kept calls (s.setInfo session { info with workers := info.workers.insert key })
      (moved loc i (.tracked key)) := by
  have granted := here.sound i
  have unpassed := here.fresh i
  rw [borrowed] at granted unpassed
  have mine : key ∈ (loc i).phase.holds := by
    rw [borrowed]
    exact List.mem_singleton_self key
  have later : Later s (s.setInfo session { info with workers := info.workers.insert key }) := by
    refine Later.setInfo fun old stored => ?_
    cases found.symm.trans stored
    exact ⟨id, fun other member => .inl (List.mem_insert_of_mem member)⟩
  refine here.step later (here.filed.setInfo later (here.filed.session _ _ found)
      (fun other member => ?_) ((here.filed.distinct _ _ found).insert)
      (here.filed.stored session info found))
    (.inr ⟨session, _, AList.lookup_insert _, List.mem_insert_self⟩) trivial
    (fun j _ fresh => fresh.setInfo found) ?_ List.nodup_nil here.returnsOnce
  · rcases List.mem_insert_iff.mp member with rfl | member
    · exact granted
    · exact here.filed.worker _ _ _ found member
  refine here.custody.move (a := .thread i) (b := .pool session) (· = key) ?_ ?_ ?_ ?_
  · rintro _ rfl
    exact mine
  · intro other
    rw [at_moved_self, At, borrowed]
    simp [Phase.holds]
  · intro other
    refine onList_setInfo_self.trans ?_
    by_cases same : other = key
    · subst same
      exact iff_of_true ⟨unreleased, .inr ⟨List.mem_insert_self, unpassed⟩⟩ (.inr rfl)
    · have listed : OnList s session other ↔ _ := onList_iff found
      simp only [At, listed, List.mem_insert_iff, same, false_or, or_false]
  · exact fun other place source target => (at_moved source).trans (at_setInfo_other target)

theorem pass (idle : (loc i).phase = .idle)
    (given : key ∈ s.givenWorkers) (unpassed : key ∉ s.passed)
    (openSession : ∀ session info, s.infos.lookup session = some info → info.released = true →
      key ∉ info.workers) :
    Kept calls { s with passed := key :: s.passed } (moved loc i (.passing key)) := by
  obtain ⟨session, info, found, member⟩ := (here.filed.givenWorkers key given).resolve_left unpassed
  have unreleased : info.released = false := by
    by_contra released
    exact openSession session info found (Bool.eq_true_of_not_eq_false released) member
  have listed : OnList s session key := ⟨info, found, unreleased, .inr ⟨member, unpassed⟩⟩
  have later : Later s { s with passed := key :: s.passed } :=
    .of_infos rfl (fun _ member => member) fun _ member => List.mem_cons_of_mem _ member
  refine here.step later { here.filed with
      givenWorkers := fun other given => later.tracked _ (here.filed.givenWorkers other given)
      passed := ?_ }
    List.mem_cons_self trivial (fun j _ fresh => ?_) ?_ (List.nodup_singleton key) here.returnsOnce
  · intro other passed
    rcases List.mem_cons.mp passed with rfl | passed
    · exact ⟨session, here.filed.worker _ _ _ found member⟩
    · exact here.filed.passed other passed
  · cases phase : (loc j).phase with
    | borrowed key' session' =>
      rw [phase] at fresh
      have theirs : key' ∈ (loc j).phase.holds := by
        rw [phase]
        exact List.mem_singleton_self key'
      have different : key' ≠ key := by
        rintro rfl
        exact here.not_onList theirs listed
      exact fun passed => (List.mem_cons.mp passed).elim different fresh
    | opening key' =>
      rw [phase] at fresh
      exact fresh
    | _ => trivial
  · refine here.custody.move (a := .pool session) (b := .thread i) (· = key) ?_ ?_ ?_ ?_
    · rintro _ rfl
      exact listed
    · intro other
      have after : OnList { s with passed := key :: s.passed } session other ↔ _ := onList_iff found
      have before : OnList s session other ↔ _ := onList_iff found
      have apart : key ≠ session := here.filed.worker_ne found member found
      simp only [At, after, before, List.mem_cons, not_or]
      constructor
      · rintro ⟨_, rfl | ⟨member, different, unpassed⟩⟩
        · exact ⟨⟨unreleased, .inl rfl⟩, apart.symm⟩
        · exact ⟨⟨unreleased, .inr ⟨member, unpassed⟩⟩, different⟩
      · rintro ⟨⟨_, own | ⟨member, unpassed⟩⟩, different⟩
        · exact ⟨unreleased, .inl own⟩
        · exact ⟨unreleased, .inr ⟨member, different, unpassed⟩⟩
    · intro other
      rw [at_moved_self]
      simp only [At, idle, Phase.holds, List.mem_singleton, List.not_mem_nil, false_or]
    intro other place source target
    rw [at_moved target]
    cases place with
    | thread | sent => rfl
    | pool session' =>
      have elsewhere : session' ≠ session := fun same => source (congrArg _ same)
      refine exists_congr fun info' => and_congr_right fun found' => and_congr_right fun _ =>
        or_congr_right (and_congr_right fun member' => ?_)
      have different : other ≠ key := by
        rintro rfl
        exact elsewhere (here.filed.worker_unique found' member' found member)
      simp only [List.mem_cons, different, false_or]

theorem giveSession (opened : (loc i).phase = .opened session) :
    Kept calls { s with givenSessions := session :: s.givenSessions } (moved loc i .idle) := by
  have known := here.sound i
  rw [opened] at known
  have later : Later s { s with givenSessions := session :: s.givenSessions } := .of_eq rfl rfl rfl
  refine here.adjust later { here.filed with givenSessions := fun other given => ?_ }
    trivial (by rw [opened]; rfl) rfl rfl rfl rfl trivial
  rcases List.mem_cons.mp given with rfl | given
  · exact known
  · exact here.filed.givenSessions other given

theorem giveWorker (tracked : (loc i).phase = .tracked key) :
    Kept calls { s with givenWorkers := key :: s.givenWorkers } (moved loc i .idle) := by
  have known := here.sound i
  rw [tracked] at known
  have later : Later s { s with givenWorkers := key :: s.givenWorkers } := .of_eq rfl rfl rfl
  refine here.adjust later { here.filed with givenWorkers := fun other given => ?_ }
    trivial (by rw [tracked]; rfl) rfl rfl rfl rfl trivial
  rcases List.mem_cons.mp given with rfl | given
  · exact known
  · exact here.filed.givenWorkers other given

end Kept

/-- `ReleaseWorker` is called for no worker that a `Release` has listed, and `Release` lists no
worker for which `ReleaseWorker` was called. -/
def takenOnce (_ : ThreadId) {β : Type} : PoolAct β → Pool → Bool
  | .callReleaseWorker key, s =>
    (Table.rows s.infos).all fun info => !info.released || !info.workers.contains key
  | .beginRelease session, s =>
    match s.infos.lookup session with
    | none => true
    | some info => info.released || info.workers.all fun key => !s.passed.contains key
  | _, _ => true

/-- The pool, in runs in which no worker is taken twice. -/
abbrev carefulPool : Machine PoolAct ThreadId PoolOracle Pool := machine.restrict takenOnce

theorem exec_borrow {origin : Option String} {e : PoolOracle} {req : BorrowWorkerRequest}
    {b : Except Source.ConnectError Source.Workers.BorrowWorkerResponse}
    (here : Kept calls s loc) (free : (loc i).phase.holds = [])
    (ran : s.borrow origin e.answer = some (s', b)) :
    Kept calls s' (moved loc i ((loc i).phase.next (.borrowWorker req origin) b)) := by
  have idle : Kept calls s (moved loc i .idle) := here.stay trivial trivial free.symm
  unfold Pool.borrow at ran
  split at ran
  · cases ran
    exact idle
  rename_i response _
  split at ran
  · next exhausted =>
      cases ran
      simp only [Phase.next, exhausted, reduceCtorEq, if_false]
      exact idle
  · next borrowed =>
      split at ran
      · cases ran
      rename_i new
      cases ran
      simp only [Phase.next, borrowed, if_true]
      exact here.grant free new

theorem exec_kept {β : Type} {a : PoolAct β} {e : PoolOracle} {b : β} (here : Kept calls s loc)
    (allowed : (loc i).phase.allows a) (once : takenOnce i a s = true)
    (ran : s.exec a e = some (s', b)) :
    Kept calls s' (moved loc i ((loc i).phase.next a b)) := by
  cases a with
  | borrowWorker req origin =>
    cases origin with
    | none | some => exact exec_borrow here (congrArg Phase.holds allowed) ran
  | returnWorker key life =>
    cases ran
    exact here.send allowed
  | sessionsGet session =>
    cases ran
    exact here.look allowed
  | sessionsSet key info =>
    cases ran
    exact here.store allowed.1 allowed.2.1 allowed.2.2
  | sessionsDel session =>
    obtain ⟨keys, listed⟩ := allowed
    cases ran
    simp only [Phase.next, listed]
    exact here.unstore listed
  | sessionsForEach =>
    obtain ⟨key, passing⟩ := allowed
    cases ran
    exact here.stay (here.sound i) (here.fresh i) rfl
  | workersDel session key =>
    cases ran
    rw [show (loc i).phase = .passing key from allowed]
    exact here.untrack allowed session
  | beginRelease session =>
    have found : (loc i).phase = .found session := allowed
    have known := here.sound i
    rw [found] at known
    obtain ⟨info, stored⟩ := known
    simp only [Pool.exec, Pool.beginRelease, stored, Option.some.injEq] at ran
    simp only [takenOnce, stored, Bool.or_eq_true] at once
    split at ran
    · next released =>
        cases ran
        exact here.stay ⟨info, stored, released⟩ trivial (congrArg Phase.holds found).symm
    · next unreleased =>
        cases ran
        refine here.list found stored (Bool.eq_false_of_not_eq_true unreleased) fun key member => ?_
        have untaken := List.all_eq_true.mp (once.resolve_left unreleased) key member
        simpa using untaken
  | addWorker session key =>
    have borrowed : (loc i).phase = .borrowed key session := allowed
    have same : Kept calls s (moved loc i (loc i).phase) :=
      here.stay (here.sound i) (here.fresh i) rfl
    simp only [Pool.exec, Pool.addWorker, Option.some.injEq] at ran
    split at ran
    · cases ran
      exact same
    rename_i info stored
    split at ran
    · cases ran
      exact same
    · next unreleased =>
        cases ran
        exact here.track borrowed stored (Bool.eq_false_of_not_eq_true unreleased)
  | giveSession key =>
    cases ran
    exact here.giveSession allowed
  | giveWorker key =>
    cases ran
    exact here.giveWorker allowed
  | callReleaseWorker key =>
    simp only [Pool.exec] at ran
    split at ran
    · next given =>
        cases ran
        refine here.pass allowed given.1 given.2 fun session info found released member => ?_
        have row := List.all_eq_true.mp once info (Table.mem_rows.mpr ⟨session, found⟩)
        simp only [released, Bool.not_true, Bool.false_or, Bool.not_eq_true',
          List.contains_eq_mem, decide_eq_false_iff_not] at row
        exact row member
    · cases ran
  | callRelease session =>
    simp only [Pool.exec] at ran
    split at ran
    · next given =>
        cases ran
        exact here.stay (here.filed.givenSessions session given) trivial
          (congrArg Phase.holds allowed).symm
    · cases ran

end Moves

/-! ## Runs -/

/-- The call has started and has not returned. -/
def InProgress (life : Int) (calls : ThreadId → Call) (c : Config PoolAct ThreadId Pool Reply)
    (j : ThreadId) : Prop :=
  (∀ r, c.threads j ≠ .ret r) ∧ c.threads j ≠ (calls j).program life

section Runs

variable {life : Int} {calls : ThreadId → Call} {c : Config PoolAct ThreadId Pool Reply}

theorem start_kept (calls : ThreadId → Call) : Kept calls {} fun i => ⟨calls i, .idle⟩ := by
  have nowhere (key : String) (place : Place) :
      ¬ At {} (fun i => ⟨calls i, .idle⟩) key place := by
    cases place with
    | thread | sent => exact List.not_mem_nil
    | pool session =>
      rintro ⟨info, found, _⟩
      cases found
  have unknown {session : String} {info : SessionInfo}
      (found : ({} : Pool).infos.lookup session = some info) : False := by
    cases found
  refine ⟨fun _ => rfl, ⟨List.nodup_nil, fun _ _ found => (unknown found).elim,
    fun _ _ _ found => (unknown found).elim, fun _ _ found => (unknown found).elim,
    fun _ _ found => (unknown found).elim, ?_, ?_, ?_⟩, fun _ => trivial, fun _ => trivial,
    ⟨fun there => (nowhere _ _ there).elim, fun key => iff_of_false List.not_mem_nil ?_⟩,
    fun _ => List.nodup_nil, List.nodup_nil⟩
  · exact fun _ given => (List.not_mem_nil given).elim
  · exact fun _ given => (List.not_mem_nil given).elim
  · exact fun _ passed => (List.not_mem_nil passed).elim
  · rintro ⟨place, there⟩
    exact nowhere key place there

theorem run_kept (run : carefulPool.Reach (start life calls) c) :
    ∃ loc, (∀ i, protocol.Follows (c.threads i) (loc i) Settled) ∧ Kept calls c.shared loc ∧
      ∀ i, Fits (calls i) (loc i).phase := by
  obtain ⟨loc, observed⟩ := run.observed protocol fun i => ⟨calls i, .idle⟩
  refine ⟨loc, Protocol.Followed.invariant
    (J := fun s => Kept calls s.1 s.2 ∧ ∀ i, Fits (calls i) (s.2 i).phase)
    (fun i => program_follows life (calls i)) observed ⟨start_kept calls, fun _ => trivial⟩ ?_⟩
  rintro i β a e s s' b loc ⟨allowed, asks⟩ ran ⟨here, fits⟩
  simp only [Machine.restrict] at ran
  split at ran
  · next once =>
      refine ⟨exec_kept here allowed once ran, ?_⟩
      rw [here.called i] at asks
      exact forall_moved (P := fun j l => Fits (calls j) l.phase)
        (fits_next (fits i) allowed asks b) fun j _ => fits j
  · cases ran

theorem holds_inProgress {l : Local} {key : String} {j : ThreadId}
    (follows : protocol.Follows (c.threads j) l Settled) (holds : key ∈ l.phase.holds) :
    InProgress life calls c j := by
  constructor
  · intro r returned
    rw [returned] at follows
    rw [follows.1] at holds
    cases holds
  · intro unstarted
    rw [unstarted] at follows
    rw [unstarted_holds follows] at holds
    cases holds

/-- The call that holds a key of the session is about the session or about the key. -/
theorem Kept.holder_serves {s : Pool} {loc : ThreadId → Local} (here : Kept calls s loc)
    {session key : String} {j : ThreadId} (fits : Fits (calls j) (loc j).phase)
    (under : (key, some session) ∈ s.borrows ∨ key = session ∧ Known s session)
    (holds : key ∈ (loc j).phase.holds) :
    Serves (calls j) session ∨ calls j = .releaseWorker key := by
  have sound := here.sound j
  have fresh := here.fresh j
  have own {other : String} (granted : (key, some other) ∈ s.borrows) : other = session := by
    rcases under with under | ⟨rfl, info, found⟩
    · exact Option.some.inj (here.filed.borrowed_unique granted under)
    · cases here.filed.borrowed_unique granted (here.filed.session _ _ found)
  have listed {other : String} {keys : List String} (member : key ∈ keys ++ [other])
      (released : Released s other) (granted : ∀ k ∈ keys, (k, some other) ∈ s.borrows) :
      other = session := by
    rcases List.mem_append.mp member with member | last
    · exact own (granted key member)
    cases List.mem_singleton.mp last
    obtain ⟨info, found, _⟩ := released
    rcases under with under | ⟨same, _⟩
    · cases here.filed.borrowed_unique under (here.filed.session _ _ found)
    · exact same
  cases phase : (loc j).phase with
  | opening other =>
    rw [phase] at holds sound fresh
    cases List.mem_singleton.mp holds
    rcases under with under | ⟨rfl, info, found⟩
    · cases here.filed.borrowed_unique under sound
    · cases found.symm.trans fresh
  | borrowed other session' =>
    rw [phase] at holds sound fits
    cases List.mem_singleton.mp holds
    exact .inl (own sound ▸ fits)
  | passing other =>
    rw [phase] at holds fits
    cases List.mem_singleton.mp holds
    exact .inr fits
  | listed other keys | draining other keys =>
    rw [phase] at holds sound fits
    exact .inl (listed holds sound.1 sound.2 ▸ fits)
  | idle | opened _ | looked _ | tracked _ | called _ | found _ | closed _ =>
    rw [phase] at holds
    cases holds

/-- In every run in which no worker is taken both by `ReleaseWorker` and by the list of a
`Release`: `ReturnWorker` is sent at most once for a key, and once a `Release` has returned it was
sent for every worker of the session, and for the session's own, but those with which another call
on the session or the `ReleaseWorker` of that worker is still in progress. -/
theorem workers_returned_once (run : carefulPool.Reach (start life calls) c) :
    (∀ key, c.shared.returns.count key ≤ 1) ∧
      ∀ i session r, calls i = .release session → c.threads i = .ret r →
        ∀ key, (key, some session) ∈ c.shared.borrows ∨ key = session →
          key ∈ c.shared.returns ∨ ∃ j, InProgress life calls c j ∧
            (Serves (calls j) session ∨ calls j = .releaseWorker key) := by
  obtain ⟨loc, follows, here, fits⟩ := run_kept run
  refine ⟨fun key => List.nodup_iff_count_le_one.mp here.returnsOnce key, ?_⟩
  intro i session r call returned key under
  have mine := follows i
  rw [returned] at mine
  have released := here.sound i
  rw [mine.2 session ((here.called i).trans call)] at released
  obtain ⟨info, found, closed⟩ := released
  have granted : Granted c.shared key := by
    rcases under with under | rfl
    · exact List.mem_map_of_mem under
    · exact List.mem_map_of_mem (here.filed.session _ _ found)
  obtain ⟨place, there⟩ := (here.custody.placed key).mp granted
  cases place with
  | thread j =>
    have under' : (key, some session) ∈ c.shared.borrows ∨
        key = session ∧ Known c.shared session := under.imp_right fun same => ⟨same, info, found⟩
    exact .inr ⟨j, holds_inProgress (follows j) there, here.holder_serves (fits j) under' there⟩
  | pool other =>
    obtain ⟨info', found', unreleased, listed⟩ := there
    have same : other = session := by
      rcases listed with rfl | ⟨member, _⟩
      · rcases under with under | same
        · cases here.filed.borrowed_unique under (here.filed.session _ _ found')
        · exact same
      · rcases under with under | rfl
        · exact Option.some.inj
            (here.filed.borrowed_unique (here.filed.worker _ _ _ found' member) under)
        · exact absurd rfl (here.filed.worker_ne found' member found)
    subst same
    cases found.symm.trans found'
    rw [closed] at unreleased
    cases unreleased
  | sent => exact .inl there

end Runs

/-! ## One session -/

/-- A session with two workers, of which the caller releases the first. -/
def twoWorkers : ThreadId → Call
  | 0 => .get "substreams" "0x0101010101010101010101010101010101010101" "api-key" "s"
  | 1 | 2 => .getWorker "substreams" "session" "s" 0
  | 3 => .releaseWorker "worker-1"
  | _ => .release "session"

/-- The service grants the key. -/
def grants (key : String) : PoolOracle := ⟨.ok ⟨key, .borrowed, 50, 1⟩⟩

def releasedInTurn : Config PoolAct ThreadId Pool Reply :=
  carefulPool.play [(0, grants "session", 9), (1, grants "worker-1", 9), (2, grants "worker-2", 9),
    (3, {}, 9), (4, {}, 9)] (start 5 twoWorkers)

theorem workers_returned_once_in_turn :
    releasedInTurn.shared.returns = ["session", "worker-2", "worker-1"] ∧
      releasedInTurn.shared.returns.count "worker-1" ≤ 1 ∧
      ("worker-2" ∈ releasedInTurn.shared.returns ∨ ∃ j,
        InProgress 5 twoWorkers releasedInTurn j ∧
          (Serves (twoWorkers j) "session" ∨ twoWorkers j = .releaseWorker "worker-2")) := by
  have run : carefulPool.Reach (start 5 twoWorkers) releasedInTurn := Machine.play_reach _ _
  have returned : (releasedInTurn.threads 4).result = some .done := by decide +kernel
  have under : ("worker-2", some "session") ∈ releasedInTurn.shared.borrows := by decide +kernel
  obtain ⟨once, all⟩ := workers_returned_once run
  exact ⟨by decide +kernel, once _, all 4 "session" .done rfl (Prog.result_eq_some returned) _
    (.inl under)⟩

/-- The session is released before the caller releases its first worker. -/
def releasedTwice : Config PoolAct ThreadId Pool Reply :=
  machine.play [(0, grants "session", 9), (1, grants "worker-1", 9), (4, {}, 9), (3, {}, 9)]
    (start 5 twoWorkers)

/-- The session is released while its second worker is being borrowed. -/
def releasedEarly : Config PoolAct ThreadId Pool Reply :=
  machine.play [(0, grants "session", 9), (2, grants "worker-2", 2), (4, {}, 9)]
    (start 5 twoWorkers)

/-- `ReturnWorker` is sent twice for a worker, and not yet for a worker of a released session. -/
theorem workers_returned_twice : (∃ c, machine.Reach (start 5 twoWorkers) c ∧
      ("worker-1", some "session") ∈ c.shared.borrows ∧ c.shared.returns.count "worker-1" = 2) ∧
    ∃ c, machine.Reach (start 5 twoWorkers) c ∧ c.threads 4 = .ret .done ∧
      ("worker-2", some "session") ∈ c.shared.borrows ∧ "worker-2" ∉ c.shared.returns := by
  have returned : (releasedEarly.threads 4).result = some .done := by decide +kernel
  refine ⟨⟨releasedTwice, Machine.play_reach _ _, ?_, ?_⟩,
    releasedEarly, Machine.play_reach _ _, Prog.result_eq_some returned, ?_, ?_⟩
  · decide +kernel
  · decide +kernel
  · decide +kernel
  · decide +kernel

end Sdsce.Guarantees.WorkerReturns
