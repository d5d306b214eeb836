import Sdsce.Source.InMemory
import Sdsce.Theory.RelyGuarantee
import Sdsce.Theory.Table

/-!
# What every goroutine promises

The locking protocol of the in-memory repository and, as a parameter, what the callers of
its methods promise about the data. A policy speaks about the history: what has been
stored before. `Effect` lists everything a permitted action can do to the shared state; the
invariants of the provider are inductions over it.
-/
namespace Sdsce.Guarantees

open Sdsce.Theory Sdsce.Source

/-! ## History -/

/-- The session was once stored under `id`. -/
def Stored (h : History) (id : String) (session : Session) : Prop :=
  ∃ event ∈ h, event.kind.writes = some (id, session)

/-- The record that was stored last under a key. -/
def lastRecord (h : History) (key : String) : Option CollectionRecord :=
  h.foldl (fun found event =>
    match event.kind with
    | .recordStored k record => if k = key then some record else found
    | _ => found) none

/-- The session that was stored last under an ID. -/
def lastSession (h : History) (id : String) : Option Session :=
  h.foldl (fun found event =>
    match event.kind.writes with
    | some (id', session) => if id' = id then some session else found
    | none => found) none

/-- The RAV that a session holds. -/
def lastRAV (h : History) (id : String) : Option SignedRAV :=
  (lastSession h id).bind Session.currentRAV

variable {h : History} {id : String} {session : Session} {kind : EventKind} {i : ThreadId}
  {e : Oracle} {w w' : World} {s : Store}

theorem Stored.mono {h' : History} (grown : h <+: h') (stored : Stored h id session) :
    Stored h' id session := by
  obtain ⟨event, member, writes⟩ := stored
  exact ⟨event, grown.subset member, writes⟩

theorem lastRecord_append (h : History) (i : ThreadId) (kind : EventKind) (key : String) :
    lastRecord (h ++ [⟨i, kind⟩]) key = match kind with
      | .recordStored k record => if k = key then some record else lastRecord h key
      | _ => lastRecord h key := by
  simp only [lastRecord, List.foldl_append, List.foldl_cons, List.foldl_nil]

theorem lastRecord_other (h : History) (i : ThreadId)
    (other : ∀ key record, kind ≠ .recordStored key record) (key : String) :
    lastRecord (h ++ [⟨i, kind⟩]) key = lastRecord h key := by
  rw [lastRecord_append]
  cases kind with
  | recordStored k record => exact absurd rfl (other k record)
  | _ => rfl

theorem lastSession_append (h : History) (i : ThreadId) (kind : EventKind) (id : String) :
    lastSession (h ++ [⟨i, kind⟩]) id = match kind.writes with
      | some (id', session) => if id' = id then some session else lastSession h id
      | none => lastSession h id := by
  simp only [lastSession, List.foldl_append, List.foldl_cons, List.foldl_nil]

theorem lastSession_written (writes : kind.writes = some (id, session)) :
    lastSession (h ++ [⟨i, kind⟩]) id = some session := by
  rw [lastSession_append, writes]
  exact if_pos rfl

theorem lastSession_other (other : ∀ session, kind.writes ≠ some (id, session)) :
    lastSession (h ++ [⟨i, kind⟩]) id = lastSession h id := by
  rw [lastSession_append]
  split
  · next id' session writes =>
      refine if_neg fun same => other session ?_
      rw [writes, same]
  · rfl

theorem Stored.append (stored : Stored h id session) : Stored (h ++ [⟨i, kind⟩]) id session :=
  stored.mono (List.prefix_append _ _)

/-- What is stored in a longer history was stored before or is what the last entry writes. -/
theorem Stored.of_append (stored : Stored (h ++ [⟨i, kind⟩]) id session) :
    Stored h id session ∨ kind.writes = some (id, session) := by
  obtain ⟨event, member, writes⟩ := stored
  rcases List.mem_append.mp member with old | new
  · exact .inl ⟨event, old, writes⟩
  · rw [List.mem_singleton.mp new] at writes
    exact .inr writes

theorem lastSession_stored (last : lastSession h id = some session) : Stored h id session := by
  induction h using List.reverseRecOn with
  | nil => cases last
  | append_singleton h event ih =>
    obtain ⟨i, kind⟩ := event
    rw [lastSession_append] at last
    split at last
    · next id' written writes =>
        split at last
        · next same =>
            cases last
            exact ⟨⟨i, kind⟩, by simp, same ▸ writes⟩
        · exact (ih last).append
    · exact (ih last).append

theorem Stored.lastSession (stored : Stored h id session) :
    ∃ last, lastSession h id = some last := by
  induction h using List.reverseRecOn with
  | nil => obtain ⟨_, member, _⟩ := stored; cases member
  | append_singleton h event ih =>
    obtain ⟨i, kind⟩ := event
    by_cases here : ∃ written, kind.writes = some (id, written)
    · obtain ⟨written, writes⟩ := here
      exact ⟨written, lastSession_written writes⟩
    rw [lastSession_other (not_exists.mp here)]
    rcases stored.of_append with before | now
    · exact ih before
    · exact absurd ⟨session, now⟩ here

/-! ## Coupling -/

/-- The RAV that a session currently holds. -/
def ravOf (s : Store) (id : String) : Option SignedRAV :=
  (s.sessions.lookup id).bind Session.currentRAV

/-- Where the RAV of a session settles. -/
def ravKey (id : String) (rav : SignedRAV) : String :=
  collectionMapKey (collectionKeyFromRAV id rav.message)

abbrev Records := AList (fun _ : String => CollectionRecord)

/-- The record under the settlement tuple of every accepted RAV carries its value. -/
def CoupledOn (records : Records) (held : String → Option SignedRAV) : Prop :=
  ∀ id rav, held id = some rav → ∃ record, records.lookup (ravKey id rav) = some record ∧
    record.valueAggregate = rav.message.valueAggregate

def Coupled (s : Store) : Prop := CoupledOn s.records (ravOf s)

/-! ## Policies -/

/-- What callers promise, as a function of the history. -/
structure Policy where
  create : ThreadId → History → Session → Prop
  update : ThreadId → History → String → SessionUpdate → Prop
  mark : History → CollectionKey → Int → CollectionMark → Prop
  pending : History → String → PendingRAVRequest → Prop
  request : History → OperatorRequest → Prop
  note : ThreadId → History → Note → Prop
  create_mono : ∀ {i h h' s}, GrowsFor i h h' → create i h s → create i h' s
  update_mono : ∀ {i h h' id u}, GrowsFor i h h' → update i h id u → update i h' id u
  mark_mono : ∀ {h h' key value m}, h <+: h' → mark h key value m → mark h' key value m
  pending_mono : ∀ {h h' id p}, h <+: h' → pending h id p → pending h' id p
  request_mono : ∀ {h h' r}, h <+: h' → request h r → request h' r

/-- A permitted record write: the outcome of an acceptance that has just replaced the
session's RAV, or an operator transition. -/
def RecordStep (P : Policy) (h : History) (key : String) (record : CollectionRecord) : Prop :=
  (∃ id rav now fresh, newCollectionRecordFromRAV id rav now = .ok fresh ∧
    key = collectionMapKey fresh.key ∧ lastRAV h id = some rav ∧
    nextCollectible fresh (lastRecord h key) = .ok record) ∨
  (∃ current mark updatedAt, lastRecord h key = some current ∧
    mark.apply updatedAt current = .ok record ∧ P.mark h current.key current.valueAggregate mark)

def mayStore (P : Policy) (i : ThreadId) (w : World) {β : Type} : StoreAct β → Prop
  | .sessionsGetOrSet session =>
    P.create i w.history session ∧ (session.currentRAV ≠ none → w.store.collectionMu = some i)
  | .sessionsCompareAndSwap id _ update =>
    P.update i w.history id update ∧ (update.setsRAV = true → w.store.collectionMu = some i)
  | .unlockCollection => w.store.collectionMu = some i ∧ Coupled w.store
  | .recordsSet key record => w.store.collectionMu = some i ∧ RecordStep P w.history key record
  | _ => True

def mayRuntime (P : Policy) (w : World) {β : Type} : RuntimeAct β → Prop
  | .dispatchLocked id _ pending => ∀ p, pending = some p → P.pending w.history id p
  | .clearQueuedResponse id _ _ pending => ∀ p, pending = some p → P.pending w.history id p
  | _ => True

def mayRpc (P : Policy) (w : World) {β : Type} : RpcAct β → Prop
  | .send request => P.request w.history request
  | _ => True

def mayGateway (P : Policy) (i : ThreadId) (w : World) {β : Type} : GatewayAct β → Prop
  | .note note => P.note i w.history note
  | _ => True

def may (P : Policy) (i : ThreadId) {β : Type} (a : Act β) (w : World) : Prop :=
  match a with
  | .store a => mayStore P i w a
  | .runtime a => mayRuntime P w a
  | .rpc a => mayRpc P w a
  | .outside _ => True
  | .gateway a => mayGateway P i w a

/-- Every in-flight request that the runtime manager holds keeps the policy. -/
def PendingOK (P : Policy) (h : History) (r : Runtime) : Prop :=
  ∀ p pending, (r.heap p).pendingRAV = some pending → P.pending h p.sessionID pending

/-- Everything a permitted action of thread `i` can do. -/
inductive Effect (P : Policy) (i : ThreadId) (w : World) : World → Prop
  | created (session : Session) (absent : w.store.sessions.lookup session.id = none)
      (policy : P.create i w.history session)
      (locked : session.currentRAV ≠ none → w.store.collectionMu = some i) :
      Effect P i w { w with
        store := { w.store with sessions := w.store.sessions.insert session.id session }
        history := w.history ++ [⟨i, .created session⟩] }
  | swapped (id : String) (session : Session) (update : SessionUpdate)
      (present : w.store.sessions.lookup id = some session)
      (policy : P.update i w.history id update)
      (locked : update.setsRAV = true → w.store.collectionMu = some i) :
      Effect P i w { w with
        store := { w.store with sessions := w.store.sessions.insert id (update.apply session) }
        history := w.history ++ [⟨i, .swapped id session update⟩] }
  | recordStored (key : String) (record : CollectionRecord)
      (locked : w.store.collectionMu = some i) (step : RecordStep P w.history key record) :
      Effect P i w { w with
        store := { w.store with records := w.store.records.insert key record }
        history := w.history ++ [⟨i, .recordStored key record⟩] }
  | acquired (free : w.store.collectionMu = none) :
      Effect P i w { w with store := { w.store with collectionMu := some i } }
  | released (locked : w.store.collectionMu = some i) (coupled : Coupled w.store) :
      Effect P i w { w with store := { w.store with collectionMu := none } }
  | noted (note : Note) (policy : P.note i w.history note) :
      Effect P i w { w with history := w.history ++ [⟨i, .note note⟩] }
  | receipt (call : CollectCall) (success : Bool) :
      Effect P i w { w with history := w.history ++ [⟨i, .note (.receipt call success)⟩] }
  | runtime (r : Runtime) (pending : PendingOK P w.history w.runtime → PendingOK P w.history r) :
      Effect P i w { w with runtime := r }
  | calls (cs : List Call)
      (request : (∀ c ∈ w.calls, P.request w.history c.request) →
        ∀ c ∈ cs, P.request w.history c.request) :
      Effect P i w { w with calls := cs }
  | other (usage : AList (fun _ : String => List UsageEvent))
      (authCache : AList (fun _ : String => Bool × Time)) :
      Effect P i w { w with store := { w.store with usage }, authCache }

/-! ## Effects of the runtime manager -/

namespace PendingOK

variable {P : Policy} {h : History} {r : Runtime}

theorem write (ok : PendingOK P h r) (p : StatePtr) {state : RuntimeSessionState}
    (new : ∀ pending, state.pendingRAV = some pending → P.pending h p.sessionID pending) :
    PendingOK P h (r.write p state) := by
  intro q pending found
  change (Function.update r.heap p state q).pendingRAV = some pending at found
  by_cases same : q = p
  · subst same
    rw [Function.update_self] at found
    exact new pending found
  · rw [Function.update_of_ne same] at found
    exact ok q pending found

theorem ensure (ok : PendingOK P h r) (id : String) : PendingOK P h (r.ensure id).1 := by
  unfold Runtime.ensure
  split
  · exact ok
  · exact ok.write ⟨id, r.next⟩ nofun

theorem deleteWhen (ok : PendingOK P h r) (id : String) (condition : Bool) :
    PendingOK P h (r.deleteWhen id condition) := by
  unfold Runtime.deleteWhen
  split
  · exact ok
  · exact ok

theorem exec {i : ThreadId} {e : Oracle} {w : World} {β : Type} {a : RuntimeAct β}
    {r' : Runtime} {b : β} (allowed : mayRuntime P w a)
    (ran : w.runtime.exec i a e = some (r', b)) (ok : PendingOK P w.history w.runtime) :
    PendingOK P w.history r' := by
  have kept (p : StatePtr) (pending) (found : (w.runtime.heap p).pendingRAV = some pending) :=
    ok p pending found
  cases a with
  | ensureSessionState id =>
    obtain rfl : (w.runtime.ensure id).1 = r' := congrArg Prod.fst (Option.some.inj ran)
    exact ok.ensure id
  | lockEval p =>
    simp only [Runtime.exec] at ran
    split at ran
    · cases ran
    · cases ran
      exact ok.write p (kept p)
  | unlockEval p | dropQueuedResponse p =>
    cases ran
    exact ok.write p (kept p)
  | readPendingRAV | makeEvents =>
    cases ran
    exact ok
  | dropPendingRAV p =>
    cases ran
    exact ok.write p nofun
  | bindLocked id events =>
    have ensured := ok.ensure id
    simp only [Runtime.exec] at ran
    split at ran
    · cases ran
      exact ensured
    cases ran
    refine ensured.write _ fun pending found => ?_
    split at found
    · cases found
    · exact ensured _ pending found
  | runtimeState | hasPendingRAV | hasPendingPaymentControl | trySend =>
    simp only [Runtime.exec] at ran
    split at ran <;> (cases ran; exact ok)
  | dispatchLocked id response pending =>
    simp only [Runtime.exec, Option.some.injEq, Prod.mk.injEq] at ran
    obtain ⟨rfl, -⟩ := ran
    refine (ok.ensure id).write _ fun p found => ?_
    rw [Runtime.ensure_sessionID]
    exact allowed p found
  | clearQueuedResponse id events queued pending =>
    simp only [Runtime.exec] at ran
    split at ran
    · cases ran
      exact ok
    rename_i p found
    split at ran
    · cases ran
      exact ok
    cases ran
    refine ok.write p fun q same => ?_
    rw [Runtime.find_sessionID found]
    exact allowed q same
  | cleanupSessionState id events =>
    simp only [Runtime.exec] at ran
    split at ran
    · cases ran
      exact ok
    rename_i p found
    split at ran
    · cases ran
      exact ok
    · cases ran
      refine PendingOK.deleteWhen (ok.write p ?_) id _
      exact kept p
  | clearPendingRAV id =>
    simp only [Runtime.exec] at ran
    split at ran
    · cases ran
      exact ok
    · cases ran
      exact ok.write _ nofun
  | clearQueuedControl id =>
    simp only [Runtime.exec] at ran
    split at ran
    · cases ran
      exact ok
    · cases ran
      refine PendingOK.deleteWhen (ok.write _ ?_) id _
      exact nofun
  | select events requests =>
    simp only [Runtime.exec] at ran
    split at ran
    · cases ran
      exact ok
    · split at ran
      · cases ran
        exact ok
      · cases ran
    · split at ran
      · cases ran
      split at ran
      · cases ran
      · cases ran
        exact ok

end PendingOK

variable {P : Policy}

/-- A call in flight is one that was sent. -/
theorem RpcAct.exec_request {β : Type} {a : RpcAct β} {calls : List Call} {b : β}
    (allowed : mayRpc P w a) (ran : a.exec e w.calls = some (calls, b))
    (ok : ∀ c ∈ w.calls, P.request w.history c.request) :
    ∀ c ∈ calls, P.request w.history c.request := by
  cases a with
  | send request =>
    cases ran
    intro c member
    rcases List.mem_append.mp member with old | new
    · exact ok c old
    · rw [List.mem_singleton.mp new]
      exact allowed
  | await call =>
    simp only [RpcAct.exec] at ran
    split at ran
    · split at ran
      · cases ran
        exact ok
      · cases ran
    · cases ran
      exact ok
  | take =>
    simp only [RpcAct.exec] at ran
    split at ran
    · next request response found =>
        cases ran
        intro c member
        rcases List.mem_or_eq_of_mem_set member with old | new
        · exact ok c old
        · rw [new]
          exact ok { request, taken := false, response } (List.mem_of_getElem? found)
    · cases ran
  | reply call response =>
    cases ran
    intro c member
    obtain ⟨n, found⟩ := List.mem_iff_getElem?.mp member
    rw [List.getElem?_modify] at found
    obtain ⟨d, old, rfl⟩ := Option.map_eq_some_iff.mp found
    have sent := ok d (List.mem_of_getElem? old)
    split <;> exact sent
  | authorize =>
    cases ran
    exact ok

/-- A permitted action has one of the listed effects. -/
theorem exec_effect {β : Type} {a : Act β} {b : β} (allowed : may P i a w)
    (ran : machine.exec i a e w = some (w', b)) : Effect P i w w' := by
  have idle : Effect P i w w := .other w.store.usage w.authCache
  cases a with
  | store a =>
    simp only [machine, World.exec] at ran
    split at ran
    · cases ran
    rename_i store result kind found
    cases ran
    cases a with
    | sessionsGet | recordsGet | sessionsKeys | recordsKeys =>
      cases found
      exact idle
    | sessionsGetOrSet session =>
      simp only [Store.exec] at found
      split at found
      · cases found
        exact idle
      · next absent =>
          cases found
          exact .created session absent allowed.1 allowed.2
    | sessionsCompareAndSwap id session update =>
      simp only [Store.exec] at found
      split at found
      · next present =>
          cases found
          exact .swapped id session update present.1 allowed.1 allowed.2
      · cases found
        exact idle
    | usageAdd id event =>
      cases found
      exact .other _ w.authCache
    | lockCollection =>
      simp only [Store.exec] at found
      split at found
      · cases found
      · next free =>
          cases found
          exact .acquired free
    | unlockCollection =>
      cases found
      exact .released allowed.1 allowed.2
    | recordsSet key record =>
      cases found
      exact .recordStored key record allowed.1 allowed.2
  | runtime a =>
    simp only [machine, World.exec] at ran
    split at ran
    · cases ran
    · next r b found =>
        cases ran
        exact .runtime r (PendingOK.exec allowed found)
  | outside a =>
    cases ran
    cases a with
    | transactionReceipt call hash =>
      cases answer : e.receipt with
      | found status =>
        simp only [OutsideAct.exec, answer]
        exact .receipt call (status ≠ 0)
      | notFound | failed =>
        simp only [OutsideAct.exec, answer]
        exact idle
    | _ => exact idle
  | rpc a =>
    simp only [machine, World.exec] at ran
    split at ran
    · cases ran
    · next calls b found =>
        cases ran
        exact .calls calls (RpcAct.exec_request allowed found)
  | gateway a =>
    cases a with
    | authCacheGet key =>
      cases ran
      exact idle
    | authCacheSet key entry =>
      cases ran
      exact .other w.store.usage _
    | note note =>
      cases ran
      exact .noted note allowed

/-! ## The discipline -/

/-- What holds between any two actions. -/
structure Sound (P : Policy) (w : World) : Prop where
  keyed : ∀ id session, w.store.sessions.lookup id = some session → session.id = id
  lastSessions : ∀ id, w.store.sessions.lookup id = lastSession w.history id
  recordKeys : ∀ key record, w.store.records.lookup key = some record →
    collectionMapKey record.key = key
  lastRecords : ∀ key, w.store.records.lookup key = lastRecord w.history key
  coupled : w.store.collectionMu = none → Coupled w.store
  pending : PendingOK P w.history w.runtime
  calls : ∀ c ∈ w.calls, P.request w.history c.request

theorem Sound.stored (sound : Sound P w) (id : String) (session : Session)
    (found : w.store.sessions.lookup id = some session) : Stored w.history id session :=
  lastSession_stored ((sound.lastSessions id).symm.trans found)

theorem Sound.lastRAVs (sound : Sound P w) (id : String) :
    ravOf w.store id = lastRAV w.history id := by
  rw [ravOf, sound.lastSessions]
  rfl

/-- While others move, a thread keeps its own history and, under `collectionMu`, the records
and every session's RAV. -/
structure Rely (i : ThreadId) (w w' : World) : Prop where
  grows : GrowsFor i w.history w'.history
  locked : w.store.collectionMu = some i → w'.store.collectionMu = some i ∧
    w'.store.records = w.store.records ∧ ∀ id, ravOf w'.store id = ravOf w.store id

theorem ravOf_insert (s : Store) (id : String) (session : Session) (other : String) :
    ravOf { s with sessions := s.sessions.insert id session } other =
      if other = id then session.currentRAV else ravOf s other := by
  unfold ravOf
  split
  · next same =>
      rw [same, AList.lookup_insert]
      rfl
  · next different => rw [AList.lookup_insert_ne different]

/-- A session entry whose RAV is the one already there does not move any RAV. -/
theorem ravOf_insert_same (same : session.currentRAV = ravOf s id) (other : String) :
    ravOf { s with sessions := s.sessions.insert id session } other = ravOf s other := by
  rw [ravOf_insert]
  split
  · next equal => rw [same, equal]
  · rfl

theorem ravOf_of_lookup (present : s.sessions.lookup id = some session) :
    ravOf s id = session.currentRAV := by
  rw [ravOf, present]
  rfl

theorem Coupled.congr {s' : Store} (records : s'.records = s.records)
    (same : ∀ id, ravOf s' id = ravOf s id) (coupled : Coupled s) : Coupled s' := by
  intro id rav held
  rw [records]
  exact coupled id rav (same id ▸ held)

theorem RecordStep.key {key : String} {record : CollectionRecord} (sound : Sound P w)
    (step : RecordStep P w.history key record) : collectionMapKey record.key = key := by
  rcases step with ⟨id, rav, now, fresh, _, rfl, _, next⟩ | ⟨current, mark, time, found, marked, _⟩
  · rcases nextCollectible_ok next with ⟨found, _⟩ | ⟨_, createdAt, rfl⟩
    · exact sound.recordKeys _ _ ((sound.lastRecords _).trans found)
    · rfl
  · rw [(CollectionMark.apply_ok marked).1]
    exact sound.recordKeys key current ((sound.lastRecords _).trans found)

/-- A change of one session keeps the facts about all of them. -/
theorem Sound.insertSession (sound : Sound P w) (named : session.id = id)
    (last : ∀ id', lastSession (w.history ++ [⟨i, kind⟩]) id' =
      if id = id' then some session else lastSession w.history id')
    (other : ∀ key record, kind ≠ .recordStored key record)
    (rav : w.store.collectionMu = none → session.currentRAV = ravOf w.store id) :
    Sound P { w with
      store := { w.store with sessions := w.store.sessions.insert id session }
      history := w.history ++ [⟨i, kind⟩] } where
  keyed := Table.forall_lookup_insert named sound.keyed
  lastSessions id' := by
    rw [last]
    by_cases same : id = id'
    · rw [if_pos same, same, AList.lookup_insert]
    · rw [if_neg same, AList.lookup_insert_ne (Ne.symm same)]
      exact sound.lastSessions id'
  recordKeys := sound.recordKeys
  lastRecords key := (sound.lastRecords key).trans (lastRecord_other _ _ other key).symm
  coupled free := Coupled.congr (s := w.store) rfl (ravOf_insert_same (rav free))
    (sound.coupled free)
  pending p pending found := P.pending_mono (List.prefix_append _ _) (sound.pending p pending found)
  calls c member := P.request_mono (List.prefix_append _ _) (sound.calls c member)

/-- An entry of the history that reports no store write keeps everything. -/
theorem Sound.note (sound : Sound P w) (unwritten : kind.writes = none)
    (other : ∀ key record, kind ≠ .recordStored key record) :
    Sound P { w with history := w.history ++ [⟨i, kind⟩] } where
  keyed := sound.keyed
  lastSessions id := (sound.lastSessions id).trans
    (lastSession_other (by simp [unwritten])).symm
  recordKeys := sound.recordKeys
  lastRecords key := (sound.lastRecords key).trans (lastRecord_other _ _ other key).symm
  coupled := sound.coupled
  pending p pending found := P.pending_mono (List.prefix_append _ _) (sound.pending p pending found)
  calls c member := P.request_mono (List.prefix_append _ _) (sound.calls c member)

section

variable (effect : Effect P i w w')

include effect

theorem Effect.sound (sound : Sound P w) : Sound P w' := by
  cases effect with
  | created session absent policy locked =>
    refine sound.insertSession rfl (fun _ => lastSession_append _ _ _ _)
      (fun _ _ => EventKind.noConfusion) fun free => ?_
    have unlocked : session.currentRAV = none := by
      by_contra held
      rw [locked held] at free
      cases free
    rw [unlocked, ravOf, absent]
    rfl
  | swapped id session update present policy locked =>
    refine sound.insertSession ?_ (fun _ => lastSession_append _ _ _ _)
      (fun _ _ => EventKind.noConfusion) fun free => ?_
    · rw [update.apply_id]
      exact sound.keyed id session present
    have unlocked : update.setsRAV = false := by
      by_contra sets
      rw [locked (by simpa using sets)] at free
      cases free
    rw [update.apply_currentRAV unlocked, ravOf_of_lookup present]
  | recordStored key record locked step =>
    refine { keyed := sound.keyed, lastSessions := ?_, recordKeys := ?_,
             lastRecords := ?_, coupled := ?_, pending := ?_, calls := ?_ }
    · exact fun id => (sound.lastSessions id).trans
        (lastSession_other fun _ writes => by cases writes).symm
    · exact Table.forall_lookup_insert (step.key sound) sound.recordKeys
    · intro key'
      rw [lastRecord_append]
      by_cases same : key = key'
      · simp [same]
      · simp only [same, if_false]
        rw [AList.lookup_insert_ne (Ne.symm same)]
        exact sound.lastRecords key'
    · intro free
      rw [locked] at free
      cases free
    · exact fun p pending found =>
        P.pending_mono (List.prefix_append _ _) (sound.pending p pending found)
    · exact fun c member => P.request_mono (List.prefix_append _ _) (sound.calls c member)
  | acquired free => exact { sound with coupled := nofun }
  | released locked coupled => exact { sound with coupled := fun _ => coupled }
  | noted | receipt => exact sound.note rfl fun _ _ => EventKind.noConfusion
  | runtime r pending => exact { sound with pending := pending sound.pending }
  | calls cs request => exact { sound with calls := request sound.calls }
  | other usage authCache => exact { sound with coupled := sound.coupled }

theorem Effect.rely {j : ThreadId} (different : j ≠ i) :
    Rely j w w' := by
  have grown (kind : EventKind) : GrowsFor j w.history (w.history ++ [⟨i, kind⟩]) :=
    growsFor_append different w.history kind
  have still := GrowsFor.refl j w.history
  have mine {P : Prop} (held : w.store.collectionMu = some j)
      (locked : w.store.collectionMu = some i) : P := by
    rw [held] at locked
    exact absurd (Option.some.inj locked) different
  cases effect with
  | created session absent policy locked =>
    refine ⟨grown _, fun held => ⟨held, rfl, ravOf_insert_same ?_⟩⟩
    rw [ravOf, absent]
    by_contra rav
    exact mine held (locked rav)
  | swapped id session update present policy locked =>
    refine ⟨grown _, fun held => ⟨held, rfl, ravOf_insert_same ?_⟩⟩
    cases sets : update.setsRAV with
    | true => exact mine held (locked sets)
    | false => rw [update.apply_currentRAV sets, ravOf_of_lookup present]
  | recordStored key record locked step => exact ⟨grown _, fun held => mine held locked⟩
  | acquired free =>
    refine ⟨still, fun held => ?_⟩
    rw [free] at held
    cases held
  | released locked coupled => exact ⟨still, fun held => mine held locked⟩
  | noted | receipt => exact ⟨grown _, fun held => ⟨held, rfl, fun _ => rfl⟩⟩
  | runtime | calls | other => exact ⟨still, fun held => ⟨held, rfl, fun _ => rfl⟩⟩

theorem Effect.history : w.history <+: w'.history := by
  cases effect with
  | created | swapped | recordStored | noted | receipt => exact List.prefix_append _ _
  | acquired | released | runtime | calls | other => exact List.prefix_refl _

/-- An action that writes no session and no record, or one that the history reports. -/
theorem Effect.written :
    (w'.store.sessions = w.store.sessions ∧ w'.store.records = w.store.records) ∨
      ∃ kind, ⟨i, kind⟩ ∈ w'.history := by
  cases effect with
  | created session => exact .inr ⟨.created session, by simp⟩
  | swapped id session update => exact .inr ⟨.swapped id session update, by simp⟩
  | recordStored key record => exact .inr ⟨.recordStored key record, by simp⟩
  | acquired | released | noted | receipt | runtime | calls | other => exact .inl ⟨rfl, rfl⟩

end

theorem sound_empty (P : Policy) : Sound P {} where
  keyed id session found := by simp at found
  lastSessions id := by simp [lastSession]
  recordKeys key record found := by simp at found
  lastRecords key := by simp [lastRecord]
  coupled _ id rav held := by simp [ravOf] at held
  pending p pending found := by cases found
  calls c member := by cases member

/-- The discipline that a policy induces. -/
def discipline (P : Policy) : Discipline machine where
  inv := Sound P
  rely := Rely
  may i _ a w := may P i a w
  rely_refl i w := ⟨GrowsFor.refl i w.history, fun held => ⟨held, rfl, fun _ => rfl⟩⟩
  rely_trans first second := by
    refine ⟨first.grows.trans second.grows, fun held => ?_⟩
    obtain ⟨held₁, records₁, rav₁⟩ := first.locked held
    obtain ⟨held₂, records₂, rav₂⟩ := second.locked held₁
    exact ⟨held₂, records₂.trans records₁, fun id => (rav₂ id).trans (rav₁ id)⟩
  preserves sound allowed ran := (exec_effect allowed ran).sound sound
  respects different _ allowed ran := (exec_effect allowed ran).rely different

section Runs

variable {P : Policy} {ρ : Type} {post : ThreadId → ρ → World → Prop}
  {c c' : Config Act ThreadId World ρ}

variable {i : ThreadId} {cond : ThreadId → History → EventKind → Prop}

/-- A step of a verified configuration is an effect or leaves the shared state alone. -/
theorem verified_step {e : Oracle} (verified : (discipline P).Verified post c)
    (stepped : machine.stepAt c i e = some c') :
    (discipline P).Verified post c' ∧ (c'.shared = c.shared ∨ Effect P i c.shared c'.shared) := by
  obtain ⟨after, same | ⟨β, a, b, allowed, ran⟩⟩ := verified.step stepped
  · exact ⟨after, .inl same⟩
  · exact ⟨after, .inr (exec_effect allowed ran)⟩

/-- What the thread that caused an entry had promised then. -/
def Justified (P : Policy) (i : ThreadId) (h : History) : EventKind → Prop
  | .created session => lastSession h session.id = none ∧ P.create i h session
  | .swapped id session update => lastSession h id = some session ∧ P.update i h id update
  | .recordStored key record => RecordStep P h key record
  | .note (.receipt _ _) => True
  | .note note => P.note i h note

theorem Effect.justified {w w' : World} (effect : Effect P i w w') (sound : Sound P w) :
    w'.history = w.history ∨
      ∃ kind, w'.history = w.history ++ [⟨i, kind⟩] ∧ Justified P i w.history kind := by
  cases effect with
  | created session absent policy locked =>
    exact .inr ⟨_, rfl, (sound.lastSessions session.id).symm.trans absent, policy⟩
  | swapped id session update present policy locked =>
    exact .inr ⟨_, rfl, (sound.lastSessions id).symm.trans present, policy⟩
  | recordStored key record locked step => exact .inr ⟨_, rfl, step⟩
  | noted note policy =>
    refine .inr ⟨_, rfl, ?_⟩
    cases note with
    | receipt => trivial
    | _ => exact policy
  | receipt call success => exact .inr ⟨_, rfl, trivial⟩
  | acquired | released | runtime | calls | other => exact .inl rfl

/-- Every entry of the history was justified by what stood before it. -/
abbrev Accountable (P : Policy) : History → Prop := Along (Justified P)

/-- A step whose entry in the history, if it makes one, meets a condition. -/
def StepMeeting {ρ : Type} (cond : ThreadId → History → EventKind → Prop)
    (c c' : Config Act ThreadId World ρ) : Prop :=
  machine.Step c c' ∧ ∀ i kind, c'.shared.history = c.shared.history ++ [⟨i, kind⟩] →
    cond i c.shared.history kind

/-- Runs all of whose steps meet a condition. -/
def ReachMeeting {ρ : Type} (cond : ThreadId → History → EventKind → Prop) :
    Config Act ThreadId World ρ → Config Act ThreadId World ρ → Prop :=
  Relation.ReflTransGen (StepMeeting cond)

theorem ReachMeeting.reach {ρ : Type} {c c' : Config Act ThreadId World ρ}
    (run : ReachMeeting cond c c') : machine.Reach c c' :=
  Relation.ReflTransGen.mono (fun _ _ step => step.1) _ _ run

variable (verified : (discipline P).Verified post c)

include verified

/-- A step of a verified system leaves the history alone or makes one justified entry. -/
theorem verified_entry (step : machine.Step c c') :
    c'.shared.history = c.shared.history ∨
      ∃ i kind, c'.shared.history = c.shared.history ++ [⟨i, kind⟩] ∧
        Justified P i c.shared.history kind := by
  obtain ⟨i, e, stepped⟩ := step
  rcases (verified_step verified stepped).2 with same | effect
  · exact .inl (congrArg World.history same)
  · rcases effect.justified verified.inv with same | ⟨kind, grown, why⟩
    · exact .inl same
    · exact .inr ⟨i, kind, grown, why⟩

theorem verified_along
    (start : Along (fun i h kind => Justified P i h kind ∧ cond i h kind) c.shared.history)
    (run : ReachMeeting cond c c') :
    Along (fun i h kind => Justified P i h kind ∧ cond i h kind) c'.shared.history := by
  induction run with
  | refl => exact start
  | tail before step ih =>
    rcases verified_entry (verified.reach (ReachMeeting.reach before)) step.1 with
      same | ⟨i, kind, grown, why⟩
    · exact same ▸ ih
    · exact grown ▸ ih.append ⟨why, step.2 i kind grown⟩

/-- A run meets a condition when the history it leaves does. -/
theorem verified_meeting (run : machine.Reach c c')
    (along : Along cond c'.shared.history) : ReachMeeting cond c c' := by
  induction run with
  | refl => exact .refl
  | @tail mid next before step ih =>
    rcases verified_entry (verified.reach before) step with same | ⟨i, kind, grown, _⟩
    · refine .tail (ih (same ▸ along)) ⟨step, fun i kind grown => ?_⟩
      simp [same] at grown
    rw [grown] at along
    refine .tail (ih along.init) ⟨step, fun j kind' grown' => ?_⟩
    cases List.append_cancel_left (grown.symm.trans grown')
    exact along.last

theorem verified_accountable
    (start : Accountable P c.shared.history) (run : machine.Reach c c') :
    Accountable P c'.shared.history := by
  have unconditional : ReachMeeting (fun _ _ _ => True) c c' :=
    Relation.ReflTransGen.mono (fun _ _ step => ⟨step, fun _ _ _ => trivial⟩) _ _ run
  exact (verified_along verified (start.imp fun _ _ _ why => ⟨why, trivial⟩) unconditional).imp
    fun _ _ _ why => why.1

/-- The history of a run only grows. -/
theorem verified_history
    (run : machine.Reach c c') : c.shared.history <+: c'.shared.history := by
  refine verified.invariant run (J := fun w => c.shared.history <+: w.history)
    (List.prefix_refl _) ?_
  rintro w w' ⟨i, β, a, e, b, _, allowed, ran⟩ before
  exact before.trans (exec_effect allowed ran).history

end Runs

end Sdsce.Guarantees
