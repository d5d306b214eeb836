import Sdsce.Source.World

/-!
# The in-memory repository

The methods of `provider/repository/inmemory.go` as programs over the shared maps. Each
read and each swap of a compare-and-swap loop is a step of its own, and a section under
`collectionMu` runs from its `Lock` to its deferred `Unlock`.

`SessionUpdate` has no caller outside tests and is left out; nor has
`CollectionCreateOrUpdateCollectible`, whose body `SessionCreate` and
`SessionUpdateRAVAndBaseline` share.
-/
namespace Sdsce.Source.InMemory

open Sdsce.Theory

/-- A section between `collectionMu.Lock()` and the deferred `Unlock()`. -/
def withCollectionMu {α : Type} (body : Program α) : Program α := do
  store .lockCollection
  let result ← body
  store .unlockCollection
  return result

/-- The loop `for { Get; clone and modify; CompareAndSwap }`. -/
def swapSession (sessionID : String) (update : Time → SessionUpdate) :
    Program (Except RepoError Unit) :=
  .retry do
    match ← store (.sessionsGet sessionID) with
    | none => return some (.error (.sessionNotFound sessionID))
    | some session =>
      let now ← outside .now
      if ← store (.sessionsCompareAndSwap sessionID session (update now)) then
        return some (.ok ())
      else return none

/-- `collectionNextCollectibleLocked`. -/
def collectionNextCollectibleLocked (sessionID : String) (rav : SignedRAV) :
    Program (Except RepoError CollectionRecord) := do
  let now ← outside .now
  match newCollectionRecordFromRAV sessionID rav now with
  | .error err => return .error err
  | .ok record =>
    let current ← store (.recordsGet (collectionMapKey record.key))
    return nextCollectible record current

/-- `r.records.Set(collectionMapKey(next.Key), next)`. -/
def setRecord (next : CollectionRecord) : Program Unit :=
  store (.recordsSet (collectionMapKey next.key) next)

def sessionCreate (session : Session) : Program (Except RepoError Unit) :=
  if session.id = "" then .ret (.error .sessionIDEmpty)
  else
    match session.currentRAV with
    | none => do
      if ← store (.sessionsGetOrSet session) then
        return .error (.alreadyExists session.id)
      else return .ok ()
    | some rav => withCollectionMu do
        match ← collectionNextCollectibleLocked session.id rav with
        | .error err => return .error err
        | .ok next =>
          if ← store (.sessionsGetOrSet session) then
            return .error (.alreadyExists session.id)
          else
            setRecord next
            return .ok ()

def sessionGet (sessionID : String) : Program (Except RepoError Session) := do
  match ← store (.sessionsGet sessionID) with
  | none => return .error (.sessionNotFound sessionID)
  | some session => return .ok session

def sessionTouch (sessionID : String) (lastKeepAlive : Time) :
    Program (Except RepoError Unit) :=
  swapSession sessionID fun _ => .touch lastKeepAlive

def sessionUpdateRuntimeState (sessionID : String) (status : SessionStatus)
    (metadata : Metadata) (endedAt : Option Time) (endReason : EndReason) (updatedAt : Time) :
    Program (Except RepoError Unit) :=
  swapSession sessionID fun _ => .runtimeState status metadata endedAt endReason updatedAt

def sessionUpdateRAVAndBaseline (sessionID : String) (currentRAV : Option SignedRAV)
    (baselineBlocks baselineBytes baselineReqs : UInt64) (baselineCost : Int) :
    Program (Except RepoError Unit) :=
  let update := fun now => SessionUpdate.ravAndBaseline currentRAV baselineBlocks baselineBytes
    baselineReqs baselineCost now
  match currentRAV with
  | none => swapSession sessionID update
  | some rav => withCollectionMu do
      match ← collectionNextCollectibleLocked sessionID rav with
      | .error err => return .error err
      | .ok next =>
        match ← swapSession sessionID update with
        | .error err => return .error err
        | .ok () =>
          setRecord next
          return .ok ()

def sessionApplyUsage (sessionID : String) (usage : UsageEvent) (cost : Int) :
    Program (Except RepoError Unit) := do
  let (blocks, bytes, requests) := usage.sanitizedTotals
  match ← swapSession sessionID fun now => .applyUsage blocks bytes requests cost now with
  | .error err => return .error err
  | .ok () =>
    store (.usageAdd sessionID usage)
    return .ok ()

/-- The filter of `SessionList`. -/
def passes (filter : SessionFilter) (session : Session) : Bool :=
  filter.payer.all (·.pretty = session.payer.pretty) && filter.status.all (· = session.status) &&
    filter.createdAfter.all (· < session.createdAt)

/-- The sessions under `ids` that pass, each read when its turn comes. -/
def collectSessions (filter : SessionFilter) : List String → Program (List Session)
  | [] => return []
  | id :: rest => do
    match ← store (.sessionsGet id) with
    | some session =>
      let others ← collectSessions filter rest
      return if passes filter session then session :: others else others
    | none => collectSessions filter rest

def sessionList (filter : SessionFilter) : Program (List Session) := do
  let ids ← store .sessionsKeys
  collectSessions filter ids

def collectionCreateOrUpdateCollectible (sessionID : String) (rav : SignedRAV) :
    Program (Except RepoError CollectionRecord) :=
  withCollectionMu do
    match ← collectionNextCollectibleLocked sessionID rav with
    | .error err => return .error err
    | .ok next =>
      setRecord next
      return .ok next

def collectionGet (key : CollectionKey) : Program (Except RepoError CollectionRecord) := do
  match ← store (.recordsGet (collectionMapKey key)) with
  | none => return .error .notFound
  | some record => return .ok record

structure CollectionFilter where
  sessionID : Option String
  state : Option CollectionState
  payer : Option Address

def CollectionFilter.passes (filter : CollectionFilter) (record : CollectionRecord) : Bool :=
  filter.sessionID.all (· = record.key.sessionID) && filter.state.all (· = record.state) &&
    filter.payer.all (·.pretty = record.key.payer.pretty)

/-- The records under `keys` that pass, each read when its turn comes. -/
def collectRecords (filter : CollectionFilter) : List String → Program (List CollectionRecord)
  | [] => return []
  | key :: rest => do
    match ← store (.recordsGet key) with
    | some record =>
      let others ← collectRecords filter rest
      return if filter.passes record then record :: others else others
    | none => collectRecords filter rest

def collectionList (filter : CollectionFilter) : Program (List CollectionRecord) := do
  let keys ← store .recordsKeys
  collectRecords filter keys

/-- `updateCollection` with the callback of one of the `CollectionMark` methods. -/
def updateCollection (key : CollectionKey) (expectedValue : Int) (mark : CollectionMark)
    (updatedAt : Time) : Program (Except RepoError CollectionRecord) :=
  withCollectionMu do
    match ← store (.recordsGet (collectionMapKey key)) with
    | none => return .error .notFound
    | some current =>
      if current.valueAggregate ≠ expectedValue then
        return .error .conflict
      else
        let now ← outside .now
        match mark.apply (collectionUpdatedAt updatedAt now) current with
        | .error err => return .error err
        | .ok next =>
          store (.recordsSet (collectionMapKey key) next)
          return .ok next

def collectionMarkPending (key : CollectionKey) (expectedValue : Int) (txHash : String)
    (updatedAt : Time) : Program (Except RepoError CollectionRecord) :=
  updateCollection key expectedValue (.pending txHash) updatedAt

def collectionMarkCollected (key : CollectionKey) (expectedValue : Int) (txHash : String)
    (collectedAmount : Option Int) (updatedAt : Time) :
    Program (Except RepoError CollectionRecord) :=
  updateCollection key expectedValue (.collected txHash collectedAmount) updatedAt

def collectionMarkFailedRetryable (key : CollectionKey) (expectedValue : Int) (txHash : String)
    (lastError : String) (updatedAt : Time) : Program (Except RepoError CollectionRecord) :=
  updateCollection key expectedValue (.failedRetryable txHash lastError) updatedAt

end Sdsce.Source.InMemory
