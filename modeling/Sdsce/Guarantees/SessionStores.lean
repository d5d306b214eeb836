import Sdsce.Guarantees.CollectionLifecycle
import Sdsce.Theory.Table

/-!
# One session store, two repositories

What the methods on sessions do to a finite map of sessions, and the two repositories against it.
The in-memory repository implements it call by call. PostgreSQL does so for calls that meet a
condition on their times, addresses and counters: its trigger and its columns treat some of them
otherwise, and its filter is another one at the boundary.
-/
namespace Sdsce.Guarantees.SessionStores

open Sdsce.Theory Sdsce.Source Function
open Sdsce.Source.Psql hiding ThreadId machine Program run Reply start SessionCall passes
  sessionCreate sessionTouch sessionUpdateRuntimeState sessionUpdateRAVAndBaseline
  sessionApplyUsage sessionGet sessionList
open Sdsce.Guarantees.CollectionLifecycle (standing_new Standing collectionCollectibleParams_error)

/-! ## The store -/

abbrev Shelf := Finmap (fun _ : String => Session)

/-- The session without its prices, which PostgreSQL does not store. -/
def priceless (session : Session) : Session := { session with pricingConfig := ⟨.zero, .zero⟩ }

inductive SessionCall where
  | create (session : Session)
  | touch (id : String) (lastKeepAlive : Time)
  | applyUsage (id : String) (usage : UsageEvent) (cost : Int)
  | updateRuntimeState (id : String) (status : SessionStatus) (metadata : Metadata)
      (endedAt : Option Time) (endReason : EndReason) (updatedAt : Time)
  | updateRAVAndBaseline (id : String) (rav : SignedRAV) (baseline : Baseline)
  | get (id : String)
  | list (filter : SessionFilter)

/-- What a call returns. Errors are not told apart, and a list is not ordered. -/
inductive Answer where
  | done
  | failed
  | session (session : Session)
  | sessions (sessions : Multiset Session)
deriving DecidableEq

/-- The session under `id` is updated. -/
def Shelf.update (shelf : Shelf) (id : String) (update : SessionUpdate) : Shelf × Answer :=
  match shelf.lookup id with
  | none => (shelf, .failed)
  | some session => (shelf.insert id (update.apply session), .done)

variable {shelf : Shelf} {id : String}

theorem Shelf.update_none (absent : shelf.lookup id = none) (update : SessionUpdate) :
    shelf.update id update = (shelf, .failed) := by
  rw [Shelf.update, absent]

theorem Shelf.update_some {session : Session} (found : shelf.lookup id = some session)
    (update : SessionUpdate) :
    shelf.update id update = (shelf.insert id (update.apply session), .done) := by
  rw [Shelf.update, found]

/-- The sessions that pass the filter. -/
def Shelf.list (shelf : Shelf) (filter : SessionFilter) : Multiset Session :=
  (shelf.entries.map Sigma.snd).filter fun session => InMemory.passes filter session

/-- The swap of a call of one of the four methods that update a session. -/
def SessionCall.update (now : Time) : SessionCall → Option (String × SessionUpdate)
  | touch id lastKeepAlive => some (id, .touch lastKeepAlive)
  | applyUsage id usage cost => some (id, .applyUsage usage.sanitizedTotals.1
      usage.sanitizedTotals.2.1 usage.sanitizedTotals.2.2 cost now)
  | updateRuntimeState id status metadata endedAt endReason updatedAt =>
    some (id, .runtimeState status metadata endedAt endReason updatedAt)
  | updateRAVAndBaseline id rav baseline => some (id, .ravAndBaseline (some rav) baseline.blocks
      baseline.bytes baseline.reqs baseline.cost now)
  | create _ | get _ | list _ => none

/-- What each call does, at the time that the clock reads. -/
def sessionStore : Spec (Time × SessionCall) Shelf Answer where
  step
    | (_, .create session), shelf =>
      if session.id = "" ∨ (shelf.lookup session.id).isSome then (shelf, .failed)
      else (shelf.insert session.id (priceless session), .done)
    | (_, .get id), shelf =>
      (shelf, match shelf.lookup id with
        | none => .failed
        | some session => .session session)
    | (_, .list filter), shelf => (shelf, .sessions (shelf.list filter))
    | (now, call), shelf =>
      match call.update now with
      | none => (shelf, .failed)
      | some (id, update) => shelf.update id update

theorem apply_priceless (update : SessionUpdate) (session : Session) :
    update.apply (priceless session) = priceless (update.apply session) := by
  cases update with
  | runtimeState status metadata endedAt endReason updatedAt =>
    by_cases running : session.status ≠ .terminated
    · rw [SessionUpdate.apply, SessionUpdate.apply, if_pos running,
        if_pos (show (priceless session).status ≠ _ from running)]
      rfl
    · rw [SessionUpdate.apply, SessionUpdate.apply, if_neg running,
        if_neg (show ¬ (priceless session).status ≠ _ from running)]
  | _ => rfl

/-! ## The in-memory repository -/

/-- What a call of a repository returns. -/
inductive Reply (ε : Type) where
  | updated (result : Except ε Unit)
  | got (result : Except ε Session)
  | listed (result : Except ε (List Session))

def Reply.answer {ε : Type} : Reply ε → Answer
  | updated (.ok ()) => .done
  | got (.ok session) => .session (priceless session)
  | listed (.ok sessions) => .sessions (sessions.map priceless)
  | updated (.error _) | got (.error _) | listed (.error _) => .failed

namespace SessionCall

def inMemory : SessionCall → Source.Program (Reply RepoError)
  | create session => do
    let result ← InMemory.sessionCreate session
    return .updated result
  | touch id lastKeepAlive => do
    let result ← InMemory.sessionTouch id lastKeepAlive
    return .updated result
  | applyUsage id usage cost => do
    let result ← InMemory.sessionApplyUsage id usage cost
    return .updated result
  | updateRuntimeState id status metadata endedAt endReason updatedAt => do
    let result ← InMemory.sessionUpdateRuntimeState id status metadata endedAt endReason updatedAt
    return .updated result
  | updateRAVAndBaseline id rav baseline => do
    let result ← InMemory.sessionUpdateRAVAndBaseline id (some rav) baseline.blocks
      baseline.bytes baseline.reqs baseline.cost
    return .updated result
  | get id => do
    let result ← InMemory.sessionGet id
    return .got result
  | list filter => do
    let sessions ← InMemory.sessionList filter
    return .listed (.ok sessions)

/-- The times of a call as the columns take them. -/
def psql : SessionCall → Psql.Program (Reply DbError)
  | create session => do
    let result ← Psql.sessionCreate session
    return .updated result
  | touch id lastKeepAlive => do
    let result ← Psql.sessionTouch id (timestamptz lastKeepAlive)
    return .updated result
  | applyUsage id usage cost => do
    let result ← Psql.sessionApplyUsage id usage cost
    return .updated result
  | updateRuntimeState id status metadata endedAt endReason _ => do
    let result ← Psql.sessionUpdateRuntimeState id status metadata (endedAt.map timestamptz)
      endReason
    return .updated result
  | updateRAVAndBaseline id rav baseline => do
    let result ← Psql.sessionUpdateRAVAndBaseline id (some rav) baseline
    return .updated result
  | get id => do
    let result ← Psql.sessionGet id
    return .got result
  | list filter => do
    let result ← Psql.sessionList filter
    return .listed result

end SessionCall

/-- The outside of a call that is made alone: the clock, and no swap that is lost to another. -/
def ReadsClock (call : Time × SessionCall) (e : Oracle) : Prop := e.time = call.1 ∧ e.yes = true

/-- The sessions of the in-memory repository. -/
def shelfOf (sessions : AList fun _ : String => Session) : Shelf :=
  (Table.map (fun _ session => priceless session) sessions).toFinmap

/-- The repository stands for a shelf between two calls. Records are collectible: no call here
settles one. -/
structure StoreStands (w : World) (shelf : Shelf) : Prop where
  sessions : shelfOf w.store.sessions = shelf
  named : w.store.sessions.lookup "" = none
  free : w.store.collectionMu = none
  unsettled : ∀ key record, w.store.records.lookup key = some record → record.state = .collectible

theorem shelfOf_lookup (sessions : AList fun _ : String => Session) (id : String) :
    (shelfOf sessions).lookup id = (sessions.lookup id).map priceless := by
  rw [shelfOf, Finmap.lookup_toFinmap, Table.lookup_map]

theorem shelfOf_insert (sessions : AList fun _ : String => Session) (id : String)
    (session : Session) :
    shelfOf (sessions.insert id session) = (shelfOf sessions).insert id (priceless session) := by
  refine Finmap.ext_lookup fun other => ?_
  rw [shelfOf_lookup]
  by_cases same : other = id
  · rw [same, AList.lookup_insert, Finmap.lookup_insert, Option.map_some]
  · rw [AList.lookup_insert_ne same, Finmap.lookup_insert_of_ne _ same, shelfOf_lookup]

section InMemory

variable {i : Source.ThreadId} {w : World} {shelf : Shelf} {now : Time} {fair : Oracle → Prop}

variable {id : String}

theorem swapSession_finishes {Q : Except RepoError Unit → World → Prop}
    {update : Time → SessionUpdate} (clock : ∀ e, fair e → e.time = now ∧ e.yes = true)
    (absent : w.store.sessions.lookup id = none → Q (.error (.sessionNotFound id)) w)
    (swapped : ∀ session history, w.store.sessions.lookup id = some session →
      Q (.ok ()) { w with
        store := { w.store with
          sessions := w.store.sessions.insert id ((update now).apply session) }
        history }) : machine.Finishes i fair Q (InMemory.swapSession id update) w := by
  refine swapSession_once (fun e here => (clock e here).2) absent ?_
  intro e session history here found
  rw [(clock e here).1]
  exact swapped session history found

namespace StoreStands

variable (here : StoreStands w shelf)

include here

theorem frame {w' : World}
    (sessions : w'.store.sessions = w.store.sessions)
    (records : w'.store.records = w.store.records) (free : w'.store.collectionMu = none) :
    StoreStands w' shelf where
  sessions := sessions ▸ here.sessions
  named := sessions ▸ here.named
  free := free
  unsettled := records ▸ here.unsettled

theorem lookup (id : String) :
    shelf.lookup id = (w.store.sessions.lookup id).map priceless := by
  rw [← here.sessions, shelfOf_lookup]

variable {id : String} {session : Session}

theorem update_absent (update : SessionUpdate)
    (absent : w.store.sessions.lookup id = none) : shelf.update id update = (shelf, .failed) :=
  Shelf.update_none (by rw [here.lookup, absent]; rfl) update

theorem update_found (update : SessionUpdate)
    (found : w.store.sessions.lookup id = some session) :
    shelf.update id update =
      (shelfOf (w.store.sessions.insert id (update.apply session)), .done) := by
  have held : shelf.lookup id = some (priceless session) := by
    rw [here.lookup, found, Option.map_some]
  rw [Shelf.update_some held, shelfOf_insert, here.sessions, apply_priceless]

theorem named_of_found
    (found : w.store.sessions.lookup id = some session) : "" ≠ id := by
  rintro rfl
  rw [here.named] at found
  cases found

theorem write (named : "" ≠ id) (session : Session)
    (usage : AList fun _ : String => List UsageEvent) (history : History) :
    StoreStands { w with
      store := { w.store with sessions := w.store.sessions.insert id session, usage }, history }
      (shelfOf (w.store.sessions.insert id session)) where
  sessions := rfl
  named := (AList.lookup_insert_ne named).trans here.named
  free := here.free
  unsettled := here.unsettled

theorem record {key : String} {record : CollectionRecord}
    (collectible : record.state = .collectible) (history : History) :
    StoreStands { w with
      store := { w.store with records := w.store.records.insert key record }, history } shelf where
  sessions := here.sessions
  named := here.named
  free := here.free
  unsettled := Table.forall_lookup_insert collectible here.unsettled

end StoreStands

/-- The end of a call: its answer and the state it leaves are those of the store. -/
def Ends (target : Shelf × Answer) (reply : Reply RepoError) (w : World) : Prop :=
  reply.answer = target.2 ∧ StoreStands w target.1

theorem nextCollectible_open {record : CollectionRecord} {current : Option CollectionRecord}
    (fresh : record.state = .collectible)
    (held : ∀ c, current = some c → c.state = .collectible) :
    ∃ next, nextCollectible record current = .ok next ∧ next.state = .collectible := by
  cases current with
  | none => exact ⟨record, rfl, fresh⟩
  | some c =>
    have state := held c rfl
    refine ⟨{ record with createdAt := c.createdAt }, ?_, fresh⟩
    simp [nextCollectible, state]

/-- No record is in the way of a RAV. -/
theorem nextCollectibleLocked_open (id : String) (rav : SignedRAV)
    (held : ∀ key record, w.store.records.lookup key = some record → record.state = .collectible) :
    machine.Finishes i fair
      (fun r w' => w' = w ∧ ((id = "" ∧ ∃ err, r = .error err) ∨
        id ≠ "" ∧ ∃ next, r = .ok next ∧ next.state = .collectible))
      (InMemory.collectionNextCollectibleLocked id rav) w := by
  refine now_finishes fun e _ => ?_
  cases made : newCollectionRecordFromRAV id rav e.time with
  | error err => exact .ret ⟨rfl, .inl ⟨newCollectionRecordFromRAV_error made, err, rfl⟩⟩
  | ok record =>
    obtain ⟨named, fresh⟩ := standing_new made
    refine recordsGet_finishes (.ret ⟨rfl, .inr ⟨named, ?_⟩⟩)
    exact nextCollectible_open (congrArg Standing.state fresh) fun c found => held _ c found

theorem swap_inMemory {update : Time → SessionUpdate}
    (clock : ∀ e, fair e → e.time = now ∧ e.yes = true) (here : StoreStands w shelf) :
    machine.Finishes i fair (fun r w' => Ends (shelf.update id (update now)) (.updated r) w')
      (InMemory.swapSession id update) w := by
  refine swapSession_finishes clock (fun absent => ?_) fun session history found => ?_
  · rw [here.update_absent _ absent]
    exact ⟨rfl, here⟩
  · rw [here.update_found _ found]
    exact ⟨rfl, here.write (here.named_of_found found) _ _ _⟩

theorem applyUsage_inMemory (id : String) (usage : UsageEvent) (cost : Int)
    (clock : ∀ e, fair e → e.time = now ∧ e.yes = true) (here : StoreStands w shelf) :
    machine.Finishes i fair
      (fun r w' => Ends (shelf.update id (.applyUsage usage.sanitizedTotals.1
        usage.sanitizedTotals.2.1 usage.sanitizedTotals.2.2 cost now)) (.updated r) w')
      (InMemory.sessionApplyUsage id usage cost) w := by
  refine (swap_inMemory clock here).bind fun r w' ended => ?_
  cases r with
  | error err => exact .ret ended
  | ok _ =>
    refine .step (fun _ _ => rfl) (.ret ⟨ended.1, ?_⟩)
    exact ended.2.frame rfl rfl ended.2.free

theorem updateRAV_inMemory (id : String) (rav : SignedRAV) (baseline : Baseline)
    (clock : ∀ e, fair e → e.time = now ∧ e.yes = true) (here : StoreStands w shelf) :
    machine.Finishes i fair
      (fun r w' => Ends (shelf.update id (.ravAndBaseline (some rav) baseline.blocks baseline.bytes
        baseline.reqs baseline.cost now)) (.updated r) w')
      (InMemory.sessionUpdateRAVAndBaseline id (some rav) baseline.blocks baseline.bytes
        baseline.reqs baseline.cost) w := by
  refine withCollectionMu_finishes here.free ?_
  refine (nextCollectibleLocked_open (w := withMutex w (some i)) id rav here.unsettled).bind ?_
  have back : StoreStands (withMutex (withMutex w (some i)) none) shelf := here.frame rfl rfl rfl
  rintro r _ ⟨rfl, ⟨rfl, err, rfl⟩ | ⟨named, next, rfl, collectible⟩⟩
  · rw [here.update_absent _ here.named]
    exact .ret ⟨rfl, back⟩
  refine .bind (R := fun r w' => Ends (shelf.update id (.ravAndBaseline
    (some rav) baseline.blocks baseline.bytes baseline.reqs baseline.cost now)) (.updated r)
    (withMutex w' none)) (swapSession_finishes clock (fun absent => ?_)
      fun session history found => ?_) fun r w' ended => ?_
  · rw [here.update_absent _ absent]
    exact ⟨rfl, back⟩
  · rw [here.update_found _ found]
    exact ⟨rfl, back.write (here.named_of_found found) _ _ _⟩
  cases r with
  | error err => exact .ret ended
  | ok _ =>
    exact .step (fun _ _ => rfl)
      (.ret ⟨ended.1, ended.2.record collectible _⟩)

theorem create_inMemory (session : Session) (here : StoreStands w shelf) :
    machine.Finishes i fair
      (fun r w' => Ends (sessionStore.step (now, .create session) shelf) (.updated r) w')
      (InMemory.sessionCreate session) w := by
  have refused (taken : session.id = "" ∨ (w.store.sessions.lookup session.id).isSome) :
      sessionStore.step (now, .create session) shelf = (shelf, .failed) := by
    simp only [sessionStore, here.lookup, Option.isSome_map]
    exact if_pos taken
  have accepted (named : session.id ≠ "") (absent : w.store.sessions.lookup session.id = none) :
      sessionStore.step (now, .create session) shelf =
        (shelfOf (w.store.sessions.insert session.id session), .done) := by
    simp only [sessionStore, here.lookup, Option.isSome_map]
    rw [if_neg (by rw [absent]; exact fun h => h.elim named nofun), shelfOf_insert, here.sessions]
  let created (found : Bool) : Reply RepoError :=
    .updated (if found then .error (.alreadyExists session.id) else .ok ())
  generalize sessionStore.step (now, .create session) shelf = target at refused accepted ⊢
  unfold InMemory.sessionCreate
  split
  · next empty =>
      rw [refused (.inl empty)]
      exact .ret ⟨rfl, here⟩
  rename_i named
  split
  · refine .bind (R := fun found w' => Ends target (created found) w')
      (getOrSet_finishes (fun taken => ?_) fun history absent => ?_) fun found w' ended => ?_
    · rw [refused (.inr taken)]
      exact ⟨rfl, here⟩
    · rw [accepted named absent]
      exact ⟨rfl, here.write (Ne.symm named) _ _ _⟩
    · cases found with
      | true | false => exact .ret ended
  · next rav _ =>
      refine withCollectionMu_finishes here.free ?_
      refine (nextCollectibleLocked_open (w := withMutex w (some i)) session.id rav
        here.unsettled).bind ?_
      have back : StoreStands (withMutex (withMutex w (some i)) none) shelf :=
        here.frame rfl rfl rfl
      rintro r _ ⟨rfl, ⟨empty, err, rfl⟩ | ⟨_, next, rfl, collectible⟩⟩
      · exact absurd empty named
      refine .bind
        (R := fun found w' => Ends target (created found) (withMutex w' none))
        (getOrSet_finishes (fun taken => ?_) fun history absent => ?_) fun found w' ended => ?_
      · rw [refused (.inr taken)]
        exact ⟨rfl, back⟩
      · rw [accepted named absent]
        exact ⟨rfl, back.write (Ne.symm named) _ _ _⟩
      cases found with
      | true => exact .ret ended
      | false =>
        exact .step (fun _ _ => rfl)
          (.ret ⟨ended.1, ended.2.record collectible _⟩)

theorem get_inMemory (id : String) (here : StoreStands w shelf) :
    machine.Finishes i fair
      (fun r w' => Ends (sessionStore.step (now, .get id) shelf) (.got r) w')
      (InMemory.sessionGet id) w := by
  refine .step (fun _ _ => rfl) ?_
  simp only [sessionStore, here.lookup]
  cases w.store.sessions.lookup id with
  | none | some => exact .ret ⟨rfl, here⟩

theorem collectSessions_finishes (filter : SessionFilter) (ids : List String) :
    machine.Finishes i fair
      (fun sessions w' => w' = w ∧ sessions =
        (ids.filterMap w.store.sessions.lookup).filter fun s => InMemory.passes filter s)
      (InMemory.collectSessions filter ids) w := by
  induction ids with
  | nil => exact .ret ⟨rfl, rfl⟩
  | cons id rest ih =>
    refine .step (fun _ _ => rfl) ?_
    cases found : w.store.sessions.lookup id with
    | none =>
      simp only [List.filterMap_cons, found]
      exact ih
    | some session =>
      simp only [List.filterMap_cons, found, List.filter_cons]
      refine ih.bind ?_
      rintro others _ ⟨rfl, rfl⟩
      exact .ret ⟨rfl, rfl⟩

theorem shelfOf_list (sessions : AList fun _ : String => Session) (filter : SessionFilter) :
    (shelfOf sessions).list filter =
      ↑(((Table.rows sessions).filter fun s => InMemory.passes filter s).map priceless) := by
  have entries : (shelfOf sessions).entries.map Sigma.snd =
      ↑((Table.rows sessions).map priceless) := by
    rw [Table.rows, List.map_map]
    exact congrArg Multiset.ofList List.map_map
  have same : (fun s => decide (InMemory.passes filter s = true)) ∘ priceless =
      fun s => InMemory.passes filter s :=
    funext fun _ => Bool.decide_eq_true
  rw [Shelf.list, entries, Multiset.filter_coe, List.filter_map, same]

theorem list_inMemory (filter : SessionFilter) (here : StoreStands w shelf) :
    machine.Finishes i fair
      (fun sessions w' => Ends (sessionStore.step (now, .list filter) shelf)
        (.listed (.ok sessions)) w')
      (InMemory.sessionList filter) w := by
  refine .step (fun _ _ => rfl) ?_
  refine (collectSessions_finishes filter _).mono ?_
  rintro sessions _ ⟨rfl, rfl⟩
  refine ⟨?_, here⟩
  rw [Table.filterMap_lookup_keys]
  simp only [Reply.answer, sessionStore]
  rw [← here.sessions, shelfOf_list]

theorem inMemory_step (call : Time × SessionCall) (here : StoreStands w shelf) :
    machine.Finishes i (ReadsClock call) (Ends (sessionStore.step call shelf))
      call.2.inMemory w := by
  obtain ⟨now, call⟩ := call
  have clock (e : Oracle) (reads : ReadsClock (now, call) e) : e.time = now ∧ e.yes = true := reads
  cases call with
  | create session => exact (create_inMemory session here).bind fun _ _ ended => .ret ended
  | touch | updateRuntimeState =>
    exact (swap_inMemory clock here).bind fun _ _ ended => .ret ended
  | applyUsage id usage cost =>
    exact (applyUsage_inMemory id usage cost clock here).bind fun _ _ ended => .ret ended
  | updateRAVAndBaseline id rav baseline =>
    exact (updateRAV_inMemory id rav baseline clock here).bind fun _ _ ended => .ret ended
  | get id => exact (get_inMemory id here).bind fun _ _ ended => .ret ended
  | list filter => exact (list_inMemory filter here).bind fun _ _ ended => .ret ended

end InMemory

/-! ## PostgreSQL -/

/-- The columns take the session: an ID of at most 255 characters, no U+0000 in its texts, and times
in the range of `TIMESTAMPTZ`. -/
def Fits (session : Session) : Prop :=
  isText session.id ∧ session.id.toList.length ≤ 255 ∧ isJSONB session.metadata ∧
    ∀ t ∈ [session.createdAt, session.updatedAt, session.lastKeepAlive] ++ session.endedAt.toList,
      isTimestamptz t

/-- The columns hold the session as it is: whole microseconds and addresses of 20 bytes. -/
def Held (session : Session) : Prop :=
  timestamptz session.createdAt = session.createdAt ∧
    timestamptz session.updatedAt = session.updatedAt ∧
    timestamptz session.lastKeepAlive = session.lastKeepAlive ∧
    session.endedAt.map timestamptz = session.endedAt ∧
    newAddress session.payer = session.payer ∧ newAddress session.receiver = session.receiver ∧
    newAddress session.dataService = session.dataService ∧
    session.currentRAV.map columnsOf = session.currentRAV

/-- The counters of the session stay in the range of their columns. -/
def AddsUp (usage : UsageEvent) (session : Session) : Prop :=
  Db.addsUp session.blocksProcessed usage.sanitizedTotals.1 &&
    Db.addsUp session.bytesTransferred usage.sanitizedTotals.2.1 &&
    Db.addsUp session.requests usage.sanitizedTotals.2.2

/-- The condition on a call and the sessions that it finds. The trigger of `sessions` sets
`updated_at` to the clock, so the two methods that take a time must be given one that leads
there. -/
def Agreeable : Time × SessionCall → Shelf → Prop
  | (_, .create session), _ => session.id ≠ "" ∧ Fits session ∧ Held session
  | (now, .touch id lastKeepAlive), shelf =>
    (isText id ∧ isTimestamptz lastKeepAlive ∧ timestamptz lastKeepAlive = lastKeepAlive) ∧
      ∀ session ∈ shelf.lookup id,
        (session.lastKeepAlive < lastKeepAlive →
          max session.updatedAt lastKeepAlive = timestamptz now) ∧
        (lastKeepAlive ≤ session.lastKeepAlive → session.lastKeepAlive ≤ session.updatedAt)
  | (now, .applyUsage id usage _), shelf =>
    (isText id ∧ isTimestamptz (timestamptz usage.timestamp) ∧ timestamptz now = now) ∧
      ∀ session ∈ shelf.lookup id, AddsUp usage session
  | (now, .updateRuntimeState id _ metadata endedAt _ updatedAt), shelf =>
    (isText id ∧ isJSONB metadata ∧ (∀ t ∈ endedAt.toList, isTimestamptz t) ∧
      endedAt.map timestamptz = endedAt) ∧
      ∀ session ∈ shelf.lookup id, session.status ≠ .terminated →
        max session.updatedAt updatedAt = timestamptz now
  | (now, .updateRAVAndBaseline id rav _), _ =>
    isText id ∧ timestamptz now = now ∧ columnsOf rav = rav
  | (_, .get id), _ => isText id
  | (_, .list filter), shelf =>
    ∀ session ∈ shelf.entries.map Sigma.snd, filter.createdAfter ≠ some session.createdAt

instance (session : Session) : Decidable (Fits session) :=
  inferInstanceAs (Decidable (_ ∧ _ ∧ _ ∧ ∀ t ∈ _, _))

instance (session : Session) : Decidable (Held session) :=
  inferInstanceAs (Decidable (_ ∧ _ ∧ _ ∧ _ ∧ _ ∧ _ ∧ _ ∧ _))

instance (usage : UsageEvent) (session : Session) : Decidable (AddsUp usage session) :=
  inferInstanceAs (Decidable (_ = true))

instance (call : Time × SessionCall) (shelf : Shelf) : Decidable (Agreeable call shelf) :=
  match call with
  | (_, .create session) =>
    inferInstanceAs (Decidable (session.id ≠ "" ∧ Fits session ∧ Held session))
  | (_, .touch ..) | (_, .applyUsage ..) =>
    inferInstanceAs (Decidable ((_ ∧ _ ∧ _) ∧ ∀ session ∈ _, _))
  | (_, .updateRuntimeState ..) =>
    inferInstanceAs (Decidable ((_ ∧ _ ∧ (∀ t ∈ _, _) ∧ _) ∧ ∀ session ∈ _, _))
  | (_, .updateRAVAndBaseline ..) => inferInstanceAs (Decidable (_ ∧ _ ∧ _))
  | (_, .get id) => inferInstanceAs (Decidable (isText id = true))
  | (_, .list _) => inferInstanceAs (Decidable (∀ session ∈ _, _))

/-- The connection answers every statement, and the database has the clock of the call. Every amount
fits a `NUMERIC`, and no row or `JSONB` is too large. -/
def Served (call : Time × SessionCall) (e : DbOracle) : Prop :=
  e.error = none ∧ e.time = timestamptz call.1

theorem refusesID_none {id : String} (text : isText id) : Db.refusesID id = none := if_pos text

theorem refusesTimes_none {times : List Time} (range : ∀ t ∈ times, isTimestamptz t) :
    Db.refusesTimes times = none :=
  if_pos (List.all_eq_true.mpr range)

/-- The RAV of a session. -/
def ravIn (t : Tables) (id : String) : Option SignedRAV :=
  (t.ravs.lookup id).map RavRow.toRepository

/-- The sessions of the database, each with its RAV. -/
def shelfIn (t : Tables) : Shelf :=
  (Table.map (fun id row => SessionRow.toRepository row (ravIn t id)) t.sessions).toFinmap

theorem shelfIn_lookup (t : Tables) (id : String) :
    (shelfIn t).lookup id = (t.sessions.lookup id).map (·.toRepository (ravIn t id)) := by
  rw [shelfIn, Finmap.lookup_toFinmap, Table.lookup_map]

theorem shelfIn_write {t t' : Tables} {row : SessionRow}
    (sessions : t'.sessions = t.sessions.insert id row)
    (ravs : ∀ other, other ≠ id → t'.ravs.lookup other = t.ravs.lookup other) :
    shelfIn t' = (shelfIn t).insert id (row.toRepository (ravIn t' id)) := by
  refine Finmap.ext_lookup fun other => ?_
  rw [shelfIn_lookup, sessions]
  by_cases same : other = id
  · subst same
    rw [AList.lookup_insert, Finmap.lookup_insert, Option.map_some]
  · rw [AList.lookup_insert_ne same, Finmap.lookup_insert_of_ne _ same, shelfIn_lookup]
    unfold ravIn
    rw [ravs other same]

/-- The tables stand for a shelf. -/
structure TablesStand (t : Tables) (shelf : Shelf) : Prop where
  sessions : shelfIn t = shelf
  named : t.sessions.lookup "" = none
  keyed : ∀ id row, t.sessions.lookup id = some row → row.id = id
  owned : ∀ id, t.sessions.lookup id = none → t.ravs.lookup id = none
  unsettled : ∀ key record, t.collectionRecords.lookup key = some record →
    record.state = .collectible

/-- The database stands for a shelf between two calls of thread `j`. -/
structure DbStands (j : Psql.ThreadId) (db : Db) (shelf : Shelf) : Prop where
  tables : TablesStand db.tables shelf
  idle : db.txs j = []
  rows : ∀ id, db.rowLocks id = none
  records : ∀ key, db.recordLocks key = none

section Psql

variable {j : Psql.ThreadId} {db : Db} {t t' : Tables} {shelf : Shelf} {call : Time × SessionCall}
  {e : DbOracle} {id : String} {row : SessionRow}

namespace TablesStand

variable (here : TablesStand t shelf)

include here

theorem lookup (id : String) :
    shelf.lookup id = (t.sessions.lookup id).map (·.toRepository (ravIn t id)) := by
  rw [← here.sessions, shelfIn_lookup]

theorem lookup_found (found : t.sessions.lookup id = some row) :
    shelf.lookup id = some (row.toRepository (ravIn t id)) := by
  rw [here.lookup, found, Option.map_some]

theorem named_of_found (found : t.sessions.lookup id = some row) :
    "" ≠ id := by
  rintro rfl
  rw [here.named] at found
  cases found

theorem write (named : "" ≠ id) (own : row.id = id)
    (sessions : t'.sessions = t.sessions.insert id row)
    (ravs : ∀ other, other ≠ id → t'.ravs.lookup other = t.ravs.lookup other)
    (records : ∀ key record, t'.collectionRecords.lookup key = some record →
      record.state = .collectible) :
    TablesStand t' (shelf.insert id (row.toRepository (ravIn t' id))) where
  sessions := by rw [shelfIn_write sessions ravs, here.sessions]
  named := by rw [sessions, AList.lookup_insert_ne named, here.named]
  keyed := sessions ▸ Table.forall_lookup_insert own here.keyed
  owned other absent := by
    rw [sessions] at absent
    by_cases same : other = id
    · subst same
      rw [AList.lookup_insert] at absent
      cases absent
    · rw [AList.lookup_insert_ne same] at absent
      rw [ravs other same]
      exact here.owned other absent
  unsettled := records

end TablesStand

/-- The database while thread `j` keeps writes back and holds no locks but its own. -/
structure InTx (j : Psql.ThreadId) (db : Db) (tables : Tables) (writes : List Write) : Prop where
  tables : db.tables = tables
  writes : db.txs j = writes
  rows : ∀ id, db.rowLocks id = none ∨ db.rowLocks id = some j
  records : ∀ key, db.recordLocks key = none ∨ db.recordLocks key = some j

namespace InTx

variable {writes : List Write}

theorem begins (here : DbStands j db shelf) : InTx j db db.tables [] :=
  ⟨rfl, here.idle, fun id => .inl (here.rows id), fun key => .inl (here.records key)⟩

variable (here : InTx j db t writes)

include here

theorem add (w : Write) : InTx j (db.addWrite j w) t (writes ++ [w]) where
  tables := here.tables
  writes := by
    simp only [Db.addWrite, update_self, here.writes]
  rows := here.rows
  records := here.records

theorem lockRow (id : String) :
    InTx j { db with rowLocks := Function.update db.rowLocks id (some j) } t writes where
  tables := here.tables
  writes := here.writes
  rows other := by
    by_cases same : other = id
    · subst same
      exact .inr (update_self ..)
    · simpa only [update_of_ne same] using here.rows other
  records := here.records

theorem lockRecord (key : String) :
    InTx j { db with recordLocks := Function.update db.recordLocks key (some j) } t writes where
  tables := here.tables
  writes := here.writes
  rows := here.rows
  records other := by
    by_cases same : other = key
    · subst same
      exact .inr (update_self ..)
    · simpa only [update_of_ne same] using here.records other

/-- Nothing of the transaction is left. -/
theorem closed (stands : TablesStand db.tables shelf) :
    DbStands j (db.closeTx j) shelf where
  tables := stands
  idle := update_self ..
  rows id := by
    rcases here.rows id with free | mine
    · simp only [Db.closeTx, free, reduceCtorEq, if_false]
    · simp only [Db.closeTx, mine, if_true]
  records key := by
    rcases here.records key with free | mine
    · simp only [Db.closeTx, free, reduceCtorEq, if_false]
    · simp only [Db.closeTx, mine, if_true]

theorem committed
    (stands : TablesStand (writes.foldl Tables.write t) shelf) :
    DbStands j ((db.applyCommit j).closeTx j) shelf := by
  have tables : (db.applyCommit j).tables = writes.foldl Tables.write t := by
    simp only [Db.applyCommit, here.writes, here.tables]
  have mine : InTx j (db.applyCommit j) (writes.foldl Tables.write t) writes :=
    ⟨tables, here.writes, here.rows, here.records⟩
  exact mine.closed (tables ▸ stands)

end InTx

theorem DbStands.frame {db' : Db} (here : DbStands j db shelf) (tables : db'.tables = db.tables)
    (txs : db'.txs = db.txs) (rows : db'.rowLocks = db.rowLocks)
    (records : db'.recordLocks = db.recordLocks) : DbStands j db' shelf where
  tables := tables ▸ here.tables
  idle := txs ▸ here.idle
  rows := rows ▸ here.rows
  records := records ▸ here.records

theorem DbStands.applyNow {shelf' : Shelf} (here : DbStands j db shelf) {w : Write}
    (stands : TablesStand (db.tables.write w) shelf') : DbStands j (db.applyNow w) shelf' :=
  ⟨stands, here.idle, here.rows, here.records⟩

/-- The end of a call: its answer and the state it leaves are those of the store. -/
def DbEnds (j : Psql.ThreadId) (target : Shelf × Answer) (reply : Reply DbError) (db : Db) : Prop :=
  reply.answer = target.2 ∧ DbStands j db target.1

theorem RowUpdate.apply_id (update : RowUpdate) (now : Time) (row : SessionRow) :
    (update.apply now row).id = row.id := by
  cases update <;> rfl

variable {now : Time} {swap : SessionUpdate} {rav : SignedRAV} {fresh : CollectionRecord}
  {writes : List Write} {session : Session}

section

variable (here : TablesStand t shelf) (found : t.sessions.lookup id = some row)

include here found

theorem TablesStand.updated
    {update : RowUpdate} (agrees : swap.apply (row.toRepository (ravIn t id)) =
      (update.apply now row).toRepository (ravIn t id)) :
    TablesStand (t.write (.session id now update)) (shelf.update id swap).1 ∧
      (shelf.update id swap).2 = .done := by
  have written : t.write (.session id now update) =
      { t with sessions := t.sessions.insert id (update.apply now row) } := by
    simp only [Tables.write, found]
  rw [Shelf.update_some (here.lookup_found found), agrees, written]
  exact ⟨here.write (here.named_of_found found)
    ((RowUpdate.apply_id ..).trans (here.keyed id row found)) rfl (fun _ _ => rfl) here.unsettled,
    rfl⟩

theorem TablesStand.kept
    {update : SessionUpdate}
    (agrees : update.apply (row.toRepository (ravIn t id)) = row.toRepository (ravIn t id)) :
    shelf.update id update = (shelf, .done) := by
  have held := here.lookup_found found
  rw [Shelf.update_some held, agrees]
  refine congrArg (Prod.mk · _) (Finmap.ext_lookup fun other => ?_)
  by_cases same : other = id
  · subst same
    rw [Finmap.lookup_insert, held]
  · rw [Finmap.lookup_insert_of_ne _ same]

end

theorem TablesStand.update_absent (here : TablesStand t shelf)
    (absent : t.sessions.lookup id = none) (update : SessionUpdate) :
    shelf.update id update = (shelf, .failed) :=
  Shelf.update_none (by rw [here.lookup, absent]; rfl) update

/-- `session/touch.sql` and `session/update_runtime_state.sql`. -/
theorem execSession_psql (statement : String) (here : DbStands j db shelf) {update : RowUpdate}
    (text : isText id) (taken : Db.refusesUpdate update = none)
    (agrees : ∀ row, db.tables.sessions.lookup id = some row →
      swap.apply (row.toRepository (ravIn db.tables id)) =
        (if update.applies row then update.apply (timestamptz call.1) row else row).toRepository
          (ravIn db.tables id)) :
    Psql.machine.Finishes j (Served call)
      (fun r db' => DbEnds j (shelf.update id swap) (.updated r) db')
      (Psql.execSession statement id update) db := by
  cases found : db.tables.sessions.lookup id with
  | none =>
    have answer (e : DbOracle) (served : Served call e) :
        Psql.machine.exec j (.updateSession statement id update) e db = some (db, .ok false) := by
      change db.exec j (.updateSession statement id update) e = _
      simp only [Db.exec, served.1, refusesID_none text, taken, Option.or_none, found]
    refine .step answer (.ret ?_)
    rw [here.tables.update_absent found]
    exact ⟨rfl, here⟩
  | some row =>
    have same := agrees row found
    by_cases applies : update.applies row = true
    · have answer (e : DbOracle) (served : Served call e) :
          Psql.machine.exec j (.updateSession statement id update) e db =
            some (db.applyNow (.session id (timestamptz call.1) update), .ok true) := by
        change db.exec j (.updateSession statement id update) e = _
        simp only [Db.exec, served.1, refusesID_none text, taken, Option.or_none, found,
          here.rows id, applies, if_true, served.2]
      rw [if_pos applies] at same
      obtain ⟨stands, done⟩ := here.tables.updated found same
      exact .step answer (.ret ⟨done.symm, here.applyNow stands⟩)
    · have answer (e : DbOracle) (served : Served call e) :
          Psql.machine.exec j (.updateSession statement id update) e db =
            some (db, .ok true) := by
        change db.exec j (.updateSession statement id update) e = _
        simp only [Db.exec, served.1, refusesID_none text, taken, Option.or_none, found,
          here.rows id, if_neg applies]
      rw [if_neg applies] at same
      refine .step answer (.ret ?_)
      rw [here.tables.kept found same]
      exact ⟨rfl, here⟩

theorem touch_psql (lastKeepAlive : Time) (here : DbStands j db shelf)
    (agreeable : Agreeable (call.1, .touch id lastKeepAlive) shelf) :
    Psql.machine.Finishes j (Served call)
      (fun r db' => DbEnds j (shelf.update id (.touch lastKeepAlive)) (.updated r) db')
      (Psql.sessionTouch id (timestamptz lastKeepAlive)) db := by
  obtain ⟨⟨text, range, whole⟩, led⟩ := agreeable
  rw [whole]
  have taken : Db.refusesUpdate (.touch lastKeepAlive) = none :=
    refusesTimes_none (List.forall_mem_singleton.mpr range)
  refine execSession_psql _ here text taken fun row found => ?_
  obtain ⟨advanced, stayed⟩ := led _ (here.tables.lookup_found found)
  simp only [RowUpdate.applies, decide_eq_true_eq]
  by_cases later : row.lastKeepAlive < lastKeepAlive
  · have updated : max row.updatedAt lastKeepAlive = timestamptz call.1 := advanced later
    rw [if_pos later]
    simp only [SessionUpdate.apply, SessionRow.toRepository, RowUpdate.apply,
      max_eq_right later.le, updated]
  · have updated : row.lastKeepAlive ≤ row.updatedAt := stayed (not_lt.mp later)
    rw [if_neg later]
    simp only [SessionUpdate.apply, SessionRow.toRepository, max_eq_left (not_lt.mp later),
      max_eq_left updated]

theorem runtimeState_psql (status : SessionStatus) (metadata : Metadata) (endedAt : Option Time)
    (endReason : EndReason) (updatedAt : Time) (here : DbStands j db shelf)
    (agreeable : Agreeable
      (call.1, .updateRuntimeState id status metadata endedAt endReason updatedAt) shelf) :
    Psql.machine.Finishes j (Served call)
      (fun r db' => DbEnds j (shelf.update id
        (.runtimeState status metadata endedAt endReason updatedAt)) (.updated r) db')
      (Psql.sessionUpdateRuntimeState id status metadata (endedAt.map timestamptz) endReason)
      db := by
  obtain ⟨⟨text, jsonb, range, whole⟩, led⟩ := agreeable
  rw [whole]
  have taken : Db.refusesUpdate (.runtimeState status metadata endedAt endReason) = none := by
    rw [Db.refusesUpdate, refusesTimes_none range, Option.or_none]
    exact if_pos jsonb
  refine execSession_psql _ here text taken fun row found => ?_
  have led := led _ (here.tables.lookup_found found)
  simp only [SessionRow.toRepository] at led
  simp only [RowUpdate.applies, decide_eq_true_eq]
  by_cases running : row.status ≠ .terminated
  · simp only [SessionUpdate.apply, SessionRow.toRepository, RowUpdate.apply, if_pos running,
      led running]
  · rw [if_neg running, SessionUpdate.apply,
      if_neg (show ¬ (row.toRepository _).status ≠ _ from running)]

/-- The end of the statements between `BeginTxx` and `Commit`: they leave nothing behind when they
fail, and else what the store says. -/
def TxEnds (j : Psql.ThreadId) (t : Tables) (shelf : Shelf) (target : Shelf × Answer)
    (r : Except DbError Unit) (db : Db) : Prop :=
  ∃ writes, InTx j db t writes ∧ match r with
    | .error _ => target = (shelf, .failed)
    | .ok () => TablesStand (writes.foldl Tables.write t) target.1 ∧ target.2 = .done

/-- A method that runs its statements in a transaction. -/
theorem transaction_psql {body : Psql.Program (Except DbError Unit)} {target : Shelf × Answer}
    {unbegun uncommitted : DbError → Psql.Program (Except DbError Unit)}
    (here : DbStands j db shelf)
    (inside : Psql.machine.Finishes j (Served call) (TxEnds j db.tables shelf target) body db) :
    Psql.machine.Finishes j (Served call) (fun r db' => DbEnds j target (.updated r) db')
      ((Psql.run .beginTx).bind fun
        | .error err => unbegun err
        | .ok () => body.bind fun
          | .error err => Psql.rollbackWith err
          | .ok () => (Psql.run .commit).bind fun
            | .error err => uncommitted err
            | .ok () => .ret (.ok ())) db := by
  have begins (e : DbOracle) (served : Served call e) :
      Psql.machine.exec j .beginTx e db = some (db, .ok ()) := by
    simp only [Psql.machine, Db.exec, served.1]
  have commits (db' : Db) (e : DbOracle) (served : Served call e) :
      Psql.machine.exec j .commit e db' = some ((db'.applyCommit j).closeTx j, .ok ()) := by
    simp only [Psql.machine, Db.exec, served.1]
  refine .step begins (inside.bind ?_)
  rintro r db' ⟨writes, inTx, ended⟩
  cases r with
  | error err =>
    refine .step (fun _ _ => rfl) (.ret ?_)
    rw [show target = (shelf, .failed) from ended]
    exact ⟨rfl, inTx.closed (inTx.tables.symm ▸ here.tables)⟩
  | ok _ =>
    exact .step (commits db') (.ret ⟨ended.2.symm, inTx.committed ended.1⟩)

/-- What `session/apply_usage.sql` sets. -/
def usageUpdate (usage : UsageEvent) (cost : Int) : RowUpdate :=
  .usage usage.sanitizedTotals.1 usage.sanitizedTotals.2.1 usage.sanitizedTotals.2.2 cost

theorem applyUsage_psql (usage : UsageEvent) (cost : Int) (here : DbStands j db shelf)
    (agreeable : Agreeable (call.1, .applyUsage id usage cost) shelf) :
    Psql.machine.Finishes j (Served call)
      (fun r db' => DbEnds j (shelf.update id (.applyUsage usage.sanitizedTotals.1
        usage.sanitizedTotals.2.1 usage.sanitizedTotals.2.2 cost call.1)) (.updated r) db')
      (Psql.sessionApplyUsage id usage cost) db := by
  obtain ⟨⟨text, range, whole⟩, within⟩ := agreeable
  have recorded : Db.refusesTimes [timestamptz usage.timestamp] = none :=
    refusesTimes_none (List.forall_mem_singleton.mpr range)
  refine transaction_psql here ?_
  cases found : db.tables.sessions.lookup id with
  | none =>
    have answer (e : DbOracle) (served : Served call e) :
        Psql.machine.exec j (.applyUsage id usage.sanitizedTotals.1 usage.sanitizedTotals.2.1
          usage.sanitizedTotals.2.2 cost) e db = some (db, .ok false) := by
      simp only [Psql.machine, Db.exec, served.1, refusesID_none text, Option.or_none, found]
    exact .step answer
      (.ret ⟨[], InTx.begins here, here.tables.update_absent found _⟩)
  | some row =>
    have fits := within _ (here.tables.lookup_found found)
    have answer (e : DbOracle) (served : Served call e) :
        Psql.machine.exec j (.applyUsage id usage.sanitizedTotals.1 usage.sanitizedTotals.2.1
          usage.sanitizedTotals.2.2 cost) e db = some
            (({ db with rowLocks := Function.update db.rowLocks id (some j) }).addWrite j
              (.session id call.1 (usageUpdate usage cost)), .ok true) := by
      simp only [Psql.machine, Db.exec, served.1, refusesID_none text, Option.or_none, found,
        here.rows id, served.2, whole]
      exact if_pos fits
    have added (db' : Db) (e : DbOracle) (served : Served call e) :
        Psql.machine.exec j (.addUsage id usage) e db' = some (db', .ok ()) := by
      simp only [Psql.machine, Db.exec, served.1, recorded, Option.or_none]
    have agrees : SessionUpdate.apply (.applyUsage usage.sanitizedTotals.1
        usage.sanitizedTotals.2.1 usage.sanitizedTotals.2.2 cost call.1)
          (row.toRepository (ravIn db.tables id)) =
        ((usageUpdate usage cost).apply call.1 row).toRepository (ravIn db.tables id) := rfl
    refine .step answer (.answers (added _) ?_)
    exact ⟨_, ((InTx.begins here).lockRow id).add _, here.tables.updated found agrees⟩

theorem collectionCollectibleParams_state
    (made : collectionCollectibleParams id rav now = .ok fresh) : fresh.state = .collectible := by
  unfold collectionCollectibleParams at made
  split at made
  · cases made
  · next record new =>
      cases made
      exact (newCollectionRecordFromRAV_ok new).2.2

theorem upsertCollectible_open {current : Option CollectionRecord}
    (new : fresh.state = .collectible) (held : ∀ c, current = some c → c.state = .collectible) :
    ∃ next, Psql.upsertCollectible fresh current = some next ∧ next.state = .collectible := by
  cases current with
  | none => exact ⟨fresh, rfl, new⟩
  | some c => exact ⟨_, if_pos (.inl (held c rfl)), new⟩

theorem now_exec (db : Db) (served : Served call e) :
    Psql.machine.exec j .now e db = some (db, timestamptz call.1) := by
  simp only [Psql.machine, Db.exec, served.2]

/-- No record is in the way of a RAV. -/
theorem collectible_psql (rav : SignedRAV) (named : id ≠ "") (inside : InTx j db t writes)
    (unlocked : ∀ key, db.recordLocks key = none)
    (held : ∀ key record, t.collectionRecords.lookup key = some record →
      record.state = .collectible) :
    Psql.machine.Finishes j (Served call)
      (fun r db' => ∃ key record, r = .ok record ∧ record.state = .collectible ∧
        InTx j db' t (writes ++ [.record key record]))
      (Psql.collectionCreateOrUpdateCollectibleTx id rav) db := by
  refine .step (fun e => now_exec db) ?_
  cases made : collectionCollectibleParams id rav (timestamptz call.1) with
  | error err => exact absurd (collectionCollectibleParams_error made).1 named
  | ok fresh =>
    obtain ⟨next, upsert, collectible⟩ := upsertCollectible_open
      (collectionCollectibleParams_state made) (held (collectionMapKey fresh.key))
    let locks := Function.update db.recordLocks (collectionMapKey fresh.key) (some j)
    have stored (e : DbOracle) (served : Served call e) :
        Psql.machine.exec j (.upsertCollectible fresh) e db =
          some (({ db with recordLocks := locks }).addWrite j
            (.record (collectionMapKey fresh.key) next), .ok (some next)) := by
      simp only [Psql.machine, Db.exec, served.1, unlocked, inside.tables, upsert, locks]
    refine .step stored ?_
    exact .ret ⟨_, next, rfl, collectible, (inside.lockRecord _).add _⟩

/-- The statements that store a RAV, the same in `sessionCreateWithRAVTx` and in
`SessionUpdateRAVAndBaseline`. -/
def storeRAV (sessionID : String) (rav : SignedRAV) : Psql.Program (Except DbError Unit) := do
  let createdAt ← Psql.run .now
  match ← Psql.run (.upsertRav sessionID (fromRAV rav createdAt)) with
  | .error err => return .error err
  | .ok () =>
    match ← Psql.collectionCreateOrUpdateCollectibleTx sessionID rav with
    | .error err => return .error err
    | .ok _ => return .ok ()

theorem storeRAV_psql (rav : SignedRAV) (named : id ≠ "") (inside : InTx j db t writes)
    (unlocked : ∀ key, db.recordLocks key = none)
    (held : ∀ key record, t.collectionRecords.lookup key = some record →
      record.state = .collectible) :
    Psql.machine.Finishes j (Served call)
      (fun r db' => r = .ok () ∧ ∃ row key record, row.signedRAV = columnsOf rav ∧
        record.state = .collectible ∧
        InTx j db' t (writes ++ [.rav id row] ++ [.record key record]))
      (storeRAV id rav) db := by
  have upserted (row : RavRow) (e : DbOracle) (served : Served call e) :
      Psql.machine.exec j (.upsertRav id row) e db =
        some (db.addWrite j (.rav id row), .ok ()) := by
    simp only [Psql.machine, Db.exec, served.1]
  refine .step (fun e => now_exec db) (.step (upserted _) ?_)
  refine (collectible_psql rav named (inside.add _) unlocked held).bind ?_
  rintro _ db' ⟨key, record, rfl, collectible, within⟩
  exact .ret ⟨rfl, _, key, record, rfl, collectible, within⟩

theorem TablesStand.withRAV {key : String} {record : CollectionRecord} {ravRow : RavRow}
    (here : TablesStand t shelf) (named : "" ≠ id) (own : row.id = id)
    (collectible : record.state = .collectible) :
    TablesStand
      ⟨t.sessions.insert id row, t.ravs.insert id ravRow, t.collectionRecords.insert key record⟩
      (shelf.insert id (row.toRepository (some ravRow.signedRAV))) := by
  have own_rav : ravIn { t with ravs := t.ravs.insert id ravRow } id = some ravRow.signedRAV := by
    rw [ravIn, AList.lookup_insert]
    rfl
  rw [← own_rav]
  exact here.write named own rfl (fun other differs => AList.lookup_insert_ne differs)
    (Table.forall_lookup_insert collectible here.unsettled)

theorem updateRAV_psql (rav : SignedRAV) (baseline : Baseline) (here : DbStands j db shelf)
    (agreeable : Agreeable (call.1, .updateRAVAndBaseline id rav baseline) shelf) :
    Psql.machine.Finishes j (Served call)
      (fun r db' => DbEnds j (shelf.update id (.ravAndBaseline (some rav) baseline.blocks
        baseline.bytes baseline.reqs baseline.cost call.1)) (.updated r) db')
      (Psql.sessionUpdateRAVAndBaseline id (some rav) baseline) db := by
  obtain ⟨text, whole, columns⟩ := agreeable
  refine transaction_psql here (.step (fun e => now_exec db) ?_)
  cases found : db.tables.sessions.lookup id with
  | none =>
    have answer (e : DbOracle) (served : Served call e) :
        Psql.machine.exec j (.updateRavBaseline id (timestamptz call.1) baseline) e db =
          some (db, .ok false) := by
      simp only [Psql.machine, Db.exec, served.1, refusesID_none text, Option.or_none, found]
    exact .step answer
      (.ret ⟨[], InTx.begins here, here.tables.update_absent found _⟩)
  | some row =>
    have answer (e : DbOracle) (served : Served call e) :
        Psql.machine.exec j (.updateRavBaseline id (timestamptz call.1) baseline) e db = some
          (({ db with rowLocks := Function.update db.rowLocks id (some j) }).addWrite j
            (.baseline id call.1 baseline), .ok true) := by
      simp only [Psql.machine, Db.exec, served.1, refusesID_none text, Option.or_none, found,
        here.rows id, served.2, whole]
    refine .step answer ?_
    refine (storeRAV_psql rav (here.tables.named_of_found found).symm
      (((InTx.begins here).lockRow id).add _) here.records here.tables.unsettled).mono ?_
    rintro r db' ⟨rfl, ravRow, key, record, stored, collectible, inside⟩
    refine ⟨_, inside, ?_⟩
    rw [Shelf.update_some (here.tables.lookup_found found)]
    have written : ([.baseline id call.1 baseline, .rav id ravRow, .record key record] :
        List Write).foldl Tables.write db.tables =
          ⟨db.tables.sessions.insert id { row with updatedAt := call.1, baseline },
            db.tables.ravs.insert id ravRow, db.tables.collectionRecords.insert key record⟩ := by
      simp only [List.foldl, Tables.write, found]
    have agrees : SessionUpdate.apply (.ravAndBaseline (some rav) baseline.blocks baseline.bytes
        baseline.reqs baseline.cost call.1) (row.toRepository (ravIn db.tables id)) =
          SessionRow.toRepository { row with updatedAt := call.1, baseline }
            (some ravRow.signedRAV) := by
      rw [stored, columns]
      rfl
    rw [agrees]
    exact ⟨written ▸ here.tables.withRAV (here.tables.named_of_found found)
      (here.tables.keyed id row found) collectible, rfl⟩

theorem Held.toRepository (held : Held session) :
    (fromSession session).toRepository session.currentRAV = priceless session := by
  obtain ⟨created, updated, kept, ended, payer, receiver, service, _⟩ := held
  simp only [SessionRow.toRepository, fromSession, priceless, created, updated, kept, ended, payer,
    receiver, service]

theorem Fits.taken (fits : Fits session) (held : Held session) :
    Db.refusesRow (fromSession session) = none := by
  obtain ⟨text, short, jsonb, range⟩ := fits
  obtain ⟨created, updated, kept, ended, _⟩ := held
  simp only [Db.refusesRow, fromSession, created, updated, kept, ended, refusesID_none text,
    Option.none_or, if_pos short, refusesTimes_none range, Option.or_none]
  exact if_pos jsonb

theorem TablesStand.create_taken (here : TablesStand t shelf)
    (taken : t.sessions.lookup (fromSession session).id = some row) :
    sessionStore.step (now, .create session) shelf = (shelf, .failed) := by
  have taken : t.sessions.lookup session.id = some row := taken
  simp only [sessionStore, here.lookup, taken]
  exact if_pos (.inr rfl)

theorem TablesStand.create_free (here : TablesStand t shelf)
    (agreeable : Agreeable (now, .create session) shelf)
    (absent : t.sessions.lookup (fromSession session).id = none) :
    sessionStore.step (now, .create session) shelf =
      (shelf.insert session.id ((fromSession session).toRepository session.currentRAV), .done) := by
  obtain ⟨named, _, held⟩ := agreeable
  have absent : t.sessions.lookup session.id = none := absent
  simp only [sessionStore, here.lookup, absent, held.toRepository]
  exact if_neg fun h => h.elim named nofun

theorem write_create (absent : t.sessions.lookup row.id = none) :
    t.write (.create row) = { t with sessions := t.sessions.insert row.id row } := by
  simp only [Tables.write, absent]

theorem createBare_psql (session : Session) (here : DbStands j db shelf)
    (agreeable : Agreeable (call.1, .create session) shelf) (bare : session.currentRAV = none) :
    Psql.machine.Finishes j (Served call)
      (fun r db' => DbEnds j (sessionStore.step (call.1, .create session) shelf) (.updated r) db')
      (Psql.run (.createSession (fromSession session))) db := by
  have taken := agreeable.2.1.taken agreeable.2.2
  cases found : db.tables.sessions.lookup (fromSession session).id with
  | some other =>
    have answer (e : DbOracle) (served : Served call e) :
        Psql.machine.exec j (.createSession (fromSession session)) e db =
          some (db, Db.fail "session/create.sql" Db.duplicateKey) := by
      simp only [Psql.machine, Db.exec, served.1, taken, Option.or_none, found]
    refine .answers answer ?_
    rw [here.tables.create_taken found]
    exact ⟨rfl, here⟩
  | none =>
    have answer (e : DbOracle) (served : Served call e) :
        Psql.machine.exec j (.createSession (fromSession session)) e db =
          some (db.applyNow (.create (fromSession session)), .ok ()) := by
      simp only [Psql.machine, Db.exec, served.1, taken, Option.or_none, found, here.rows]
    have unsigned : ravIn db.tables session.id = none := by
      rw [ravIn, here.tables.owned session.id found]
      rfl
    refine .answers answer ?_
    rw [here.tables.create_free agreeable found, bare, ← unsigned]
    refine ⟨rfl, here.applyNow ?_⟩
    rw [write_create found]
    exact here.tables.write (Ne.symm agreeable.1) rfl rfl (fun _ _ => rfl) here.tables.unsettled

theorem createInTx_psql (session : Session) (here : DbStands j db shelf)
    (agreeable : Agreeable (call.1, .create session) shelf)
    (signed : session.currentRAV = some rav) :
    Psql.machine.Finishes j (Served call)
      (TxEnds j db.tables shelf (sessionStore.step (call.1, .create session) shelf))
      (Psql.createInTx (fromSession session) rav) db := by
  have taken := agreeable.2.1.taken agreeable.2.2
  cases found : db.tables.sessions.lookup (fromSession session).id with
  | some other =>
    have answer (e : DbOracle) (served : Served call e) :
        Psql.machine.exec j (.createSessionTx (fromSession session)) e db =
          some (db, .error (.failed Db.duplicateKey)) := by
      simp only [Psql.machine, Db.exec, served.1, taken, Option.or_none, found]
    exact .step answer
      (.ret ⟨[], InTx.begins here, here.tables.create_taken found⟩)
  | none =>
    let locks := Function.update db.rowLocks session.id (some j)
    have answer (e : DbOracle) (served : Served call e) :
        Psql.machine.exec j (.createSessionTx (fromSession session)) e db =
          some (({ db with rowLocks := locks }).addWrite j (.create (fromSession session)),
            .ok ()) := by
      simp only [Psql.machine, Db.exec, served.1, taken, Option.or_none, found, here.rows]
      rfl
    refine .step answer ?_
    refine (storeRAV_psql rav agreeable.1 (((InTx.begins here).lockRow session.id).add _)
      here.records here.tables.unsettled).mono ?_
    rintro r db' ⟨rfl, ravRow, key, record, columns, collectible, inside⟩
    have own : session.currentRAV = some ravRow.signedRAV := by
      obtain ⟨_, _, _, _, _, _, _, _, _, kept⟩ := agreeable
      rw [← kept, signed, columns, Option.map_some]
    have written : ([.create (fromSession session), .rav session.id ravRow, .record key record] :
        List Write).foldl Tables.write db.tables =
          ⟨db.tables.sessions.insert session.id (fromSession session),
            db.tables.ravs.insert session.id ravRow,
            db.tables.collectionRecords.insert key record⟩ := by
      rw [List.foldl_cons, write_create found]
      rfl
    refine ⟨_, inside, ?_⟩
    rw [here.tables.create_free agreeable found, own]
    exact ⟨written ▸ here.tables.withRAV (Ne.symm agreeable.1) rfl collectible, rfl⟩

theorem create_psql (session : Session) (here : DbStands j db shelf)
    (agreeable : Agreeable (call.1, .create session) shelf) :
    Psql.machine.Finishes j (Served call)
      (fun r db' => DbEnds j (sessionStore.step (call.1, .create session) shelf) (.updated r) db')
      (Psql.sessionCreate session) db := by
  unfold Psql.sessionCreate
  split
  · next bare => exact createBare_psql session here agreeable bare
  · next rav signed => exact transaction_psql here (createInTx_psql session here agreeable signed)

theorem getRav_exec {found : Option RavRow} (signed : db.tables.ravs.lookup id = found)
    (served : Served call e) : Psql.machine.exec j (.getRav id) e db =
      some (db.stopReading j, found.elim (.error .notFound) .ok) := by
  simp only [Psql.machine, Db.exec, served.1, signed]
  cases found <;> rfl

theorem get_psql (id : String) (here : DbStands j db shelf) (text : isText id) :
    Psql.machine.Finishes j (Served call)
      (fun r db' => DbEnds j (sessionStore.step (call.1, .get id) shelf) (.got r) db')
      (Psql.sessionGet id) db := by
  simp only [sessionStore, here.tables.lookup, ravIn]
  cases found : db.tables.sessions.lookup id with
  | none =>
    have answer (e : DbOracle) (served : Served call e) :
        Psql.machine.exec j (.getSession id) e db = some (db, .error .notFound) := by
      simp only [Psql.machine, Db.exec, served.1, refusesID_none text, Option.or_none, found]
    exact .step answer (.ret ⟨rfl, here⟩)
  | some row =>
    have answer (e : DbOracle) (served : Served call e) :
        Psql.machine.exec j (.getSession id) e db = some (db.startReading j id row, .ok row) := by
      simp only [Psql.machine, Db.exec, served.1, refusesID_none text, Option.or_none, found]
    refine .step answer ?_
    cases signed : db.tables.ravs.lookup id with
    | none | some ravRow =>
      exact .step (fun e => getRav_exec signed) (.ret ⟨rfl, here.frame rfl rfl rfl rfl⟩)

theorem collectRows_psql (filter : SessionFilter) (rows : List SessionRow)
    (here : DbStands j db shelf) (tables : db.tables = t) :
    Psql.machine.Finishes j (Served call)
      (fun r db' => DbStands j db' shelf ∧ r = .ok
        ((rows.filter (Psql.passes filter)).map fun row => row.toRepository (ravIn t row.id)))
      (Psql.collectRows filter rows) db := by
  induction rows generalizing db with
  | nil => exact .ret ⟨here, rfl⟩
  | cons row rest ih =>
    unfold Psql.collectRows
    split
    · next passing =>
        rw [List.filter_cons_of_pos passing, List.map_cons, ravIn]
        have read : DbStands j (db.stopReading j) shelf := here.frame rfl rfl rfl rfl
        have next := ih read tables
        cases signed : t.ravs.lookup row.id with
        | none | some ravRow =>
          refine .step (fun e => getRav_exec (tables ▸ signed)) (next.bind ?_)
          rintro _ db' ⟨stands, rfl⟩
          exact .ret ⟨stands, rfl⟩
    · next failing =>
        rw [List.filter_cons_of_neg failing]
        exact ih here tables

theorem TablesStand.entries (here : TablesStand t shelf) :
    shelf.entries.map Sigma.snd =
      ↑((Table.rows t.sessions).map fun row => row.toRepository (ravIn t row.id)) := by
  rw [← here.sessions]
  refine congrArg Multiset.ofList ?_
  rw [Table.rows, List.map_map]
  change (List.map _ _).map _ = _
  rw [List.map_map]
  refine List.map_congr_left fun entry member => ?_
  have own := here.keyed entry.1 entry.2 (AList.mem_lookup_iff.mpr member)
  simp only [Function.comp, own]

/-- The filter of `SessionList` in `psql/session.go`, on the session that a row stands for. -/
def passesRow (filter : SessionFilter) (session : Session) : Bool :=
  filter.payer.all (· = session.payer) && filter.status.all (· = session.status) &&
    filter.createdAfter.all (¬ session.createdAt < ·)

/-- The sessions that pass the filter of PostgreSQL. -/
def Shelf.listRows (shelf : Shelf) (filter : SessionFilter) : Multiset Session :=
  (shelf.entries.map Sigma.snd).filter fun session => passesRow filter session

theorem listRows_psql (filter : SessionFilter) (here : DbStands j db shelf) :
    Psql.machine.Finishes j (Served call)
      (fun r db' => DbEnds j (shelf, .sessions (shelf.listRows filter)) (.listed r) db')
      (Psql.sessionList filter) db := by
  let sorted := (Table.rows db.tables.sessions).insertionSort fun a b => b.createdAt ≤ a.createdAt
  have answer (e : DbOracle) (served : Served call e) :
      Psql.machine.exec j .listSessions e db = some (db, .ok sorted) := by
    simp only [Psql.machine, Db.exec, served.1]
    rfl
  refine .step answer ((collectRows_psql filter sorted here rfl).mono ?_)
  rintro _ db' ⟨stands, rfl⟩
  refine ⟨?_, stands⟩
  have order : sorted.Perm (Table.rows db.tables.sessions) := List.perm_insertionSort ..
  have passing : (fun session => decide (passesRow filter session = true)) ∘
      (fun row : SessionRow => row.toRepository (ravIn db.tables row.id)) = Psql.passes filter :=
    funext fun _ => Bool.decide_eq_true
  rw [Shelf.listRows, here.tables.entries, Multiset.filter_coe, List.filter_map, passing,
    Reply.answer, List.map_map]
  exact congrArg Answer.sessions (Multiset.coe_eq_coe.mpr ((order.filter _).map _))

/-- Away from the boundary the two filters are one. -/
theorem passesRow_eq {filter : SessionFilter}
    (apart : filter.createdAfter ≠ some session.createdAt) :
    passesRow filter session = InMemory.passes filter session := by
  have payers : filter.payer.all (· = session.payer) =
      filter.payer.all (·.pretty = session.payer.pretty) := by
    have same (a : Address) : a = session.payer ↔ a.pretty = session.payer.pretty :=
      ⟨congrArg _, Address.pretty_injective⟩
    simp only [same]
  have times : filter.createdAfter.all (¬ session.createdAt < ·) =
      filter.createdAfter.all (· < session.createdAt) := by
    cases after : filter.createdAfter with
    | none => rfl
    | some time =>
      have differs : time ≠ session.createdAt :=
        fun same => apart (after.trans (congrArg some same))
      have strict : ¬ session.createdAt < time ↔ time < session.createdAt :=
        ⟨fun h => lt_of_le_of_ne (not_lt.mp h) differs, lt_asymm⟩
      simp only [Option.all_some, strict]
  exact congrArg₂ and (congrArg₂ and payers rfl) times

theorem list_psql (filter : SessionFilter) (here : DbStands j db shelf)
    (agreeable : Agreeable (call.1, .list filter) shelf) :
    Psql.machine.Finishes j (Served call)
      (fun r db' => DbEnds j (sessionStore.step (call.1, .list filter) shelf) (.listed r) db')
      (Psql.sessionList filter) db := by
  have same : shelf.listRows filter = shelf.list filter :=
    Multiset.filter_congr fun session member => by rw [passesRow_eq (agreeable session member)]
  have listed : Psql.machine.Finishes j (Served call)
      (fun r db' => DbEnds j (shelf, .sessions (shelf.listRows filter)) (.listed r) db')
      (Psql.sessionList filter) db := listRows_psql filter here
  rwa [same] at listed

theorem psql_step (call : Time × SessionCall) (here : DbStands j db shelf)
    (agreeable : Agreeable call shelf) :
    Psql.machine.Finishes j (Served call) (DbEnds j (sessionStore.step call shelf)) call.2.psql
      db := by
  obtain ⟨now, call⟩ := call
  cases call with
  | create session =>
    exact (create_psql session here agreeable).bind fun _ _ ended => .ret ended
  | touch id lastKeepAlive =>
    exact (touch_psql lastKeepAlive here agreeable).bind fun _ _ ended => .ret ended
  | applyUsage id usage cost =>
    exact (applyUsage_psql usage cost here agreeable).bind fun _ _ ended => .ret ended
  | updateRuntimeState id status metadata endedAt endReason updatedAt =>
    exact (runtimeState_psql status metadata endedAt endReason updatedAt here agreeable).bind
      fun _ _ ended => .ret ended
  | updateRAVAndBaseline id rav baseline =>
    exact (updateRAV_psql rav baseline here agreeable).bind fun _ _ ended => .ret ended
  | get id => exact (get_psql id here agreeable).bind fun _ _ ended => .ret ended
  | list filter => exact (list_psql filter here agreeable).bind fun _ _ ended => .ret ended

end Psql

/-! ## Both repositories -/

theorem storeStands_empty : StoreStands {} ∅ where
  sessions := rfl
  named := rfl
  free := rfl
  unsettled _ _ := nofun

theorem dbStands_empty (j : Psql.ThreadId) : DbStands j { tables := {} } ∅ where
  tables := ⟨rfl, rfl, fun _ _ => nofun, fun _ _ => rfl, fun _ _ => nofun⟩
  idle := rfl
  rows _ := rfl
  records _ := rfl

theorem inMemory_serves (i : Source.ThreadId) (calls : List (Time × SessionCall)) :
    machine.Serves i ReadsClock (fun call => call.2.inMemory)
      (fun replies _ => replies.map Reply.answer = (sessionStore.run calls ∅).2) calls {} := by
  have served : machine.Serves i ReadsClock (fun call => call.2.inMemory)
      (fun replies w => replies.map Reply.answer = (sessionStore.run calls ∅).2 ∧
        StoreStands w (sessionStore.run calls ∅).1) calls {} :=
    Machine.Serves.of_steps (fun call _ _ _ here => inMemory_step call here)
      (Spec.meets_true calls ∅) storeStands_empty
  exact served.mono fun _ _ served => served.1

/-- Calls made one after the other get the same answers from both repositories, each time the one
of the store, when every call meets the condition on what it finds. -/
theorem repositories_agree (i : Source.ThreadId) (j : Psql.ThreadId)
    (calls : List (Time × SessionCall)) (agreeable : sessionStore.Meets Agreeable calls ∅) :
    machine.Serves i ReadsClock (fun call => call.2.inMemory)
        (fun replies _ => replies.map Reply.answer = (sessionStore.run calls ∅).2) calls {} ∧
      Psql.machine.Serves j Served (fun call => call.2.psql)
        (fun replies _ => replies.map Reply.answer = (sessionStore.run calls ∅).2) calls
        { tables := {} } := by
  have psql : Psql.machine.Serves j Served (fun call => call.2.psql)
      (fun replies db => replies.map Reply.answer = (sessionStore.run calls ∅).2 ∧
        DbStands j db (sessionStore.run calls ∅).1) calls { tables := {} } :=
    Machine.Serves.of_steps (fun call _ _ meets here => psql_step call here meets) agreeable
      (dbStands_empty j)
  exact ⟨inMemory_serves i calls, psql.mono fun _ _ served => served.1⟩

/-- A session that was opened at 1 ms. -/
def opened : Session where
  id := "s"
  createdAt := 1000000
  updatedAt := 1000000
  lastKeepAlive := 1000000
  status := .active
  metadata := ∅
  endedAt := none
  endReason := .unspecified
  payer := List.replicate 20 1
  receiver := List.replicate 20 2
  dataService := List.replicate 20 3
  currentRAV := none
  blocksProcessed := 0
  bytesTransferred := 0
  requests := 0
  totalCost := 0
  baselineBlocks := 0
  baselineBytes := 0
  baselineReqs := 0
  baselineCost := 0
  pricingConfig := ⟨.zero, .zero⟩

/-- The life of a session, and listings of it. -/
def lifetime : List (Time × SessionCall) :=
  [(1000000, .create opened), (2000000, .applyUsage "s" ⟨2000000, 5, 100, 1⟩ 7),
    (3000000, .touch "s" 3000000), (4000000, .list ⟨some opened.payer, some .active, some 999000⟩),
    (5000000, .updateRuntimeState "s" .terminated ∅ (some 5000000) .complete 5000000),
    (6000000, .list ⟨none, some .terminated, some 1001000⟩), (7000000, .get "s")]

theorem repositories_agree_lifetime : sessionStore.Meets Agreeable lifetime ∅ ∧
    machine.Serves 0 ReadsClock (fun call => call.2.inMemory)
        (fun replies _ => replies.map Reply.answer = (sessionStore.run lifetime ∅).2) lifetime {} ∧
      Psql.machine.Serves 0 Served (fun call => call.2.psql)
        (fun replies _ => replies.map Reply.answer = (sessionStore.run lifetime ∅).2) lifetime
        { tables := {} } :=
  have agreeable : sessionStore.Meets Agreeable lifetime ∅ := by decide +kernel
  ⟨agreeable, repositories_agree 0 0 lifetime agreeable⟩

/-- A listing of what was created after the time at which the session was. -/
def boundary : List (Time × SessionCall) :=
  [(1000000, .create opened), (2000000, .list ⟨none, none, some 1000000⟩)]

/-- The in-memory repository leaves the session out, and PostgreSQL does not. -/
theorem list_at_boundary :
    machine.Serves 0 ReadsClock (fun call => call.2.inMemory)
        (fun replies _ => replies.map Reply.answer = [.done, .sessions 0]) boundary {} ∧
      Psql.machine.Serves 0 Served (fun call => call.2.psql)
        (fun replies _ => replies.map Reply.answer = [.done, .sessions {opened}]) boundary
        { tables := {} } := by
  constructor
  · refine (inMemory_serves 0 boundary).mono fun replies _ served => ?_
    rw [served]
    decide +kernel
  refine (psql_step _ (dbStands_empty 0) (by decide +kernel)).mono fun reply db created => ?_
  refine ((listRows_psql _ created.2).bind fun _ _ ended => .ret ended).mono
    fun listing db' listed => ?_
  change [reply.answer, listing.answer] = _
  rw [created.1, listed.1]
  decide +kernel

end Sdsce.Guarantees.SessionStores
