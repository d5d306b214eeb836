import Mathlib.Data.Finmap
import Sdsce.Source.Wire

/-!
# Sessions and collection records

The types of `provider/repository/repository.go` and the pure parts of
`provider/repository/inmemory.go`: the field updates that the compare-and-swap loops
apply, the collection state machine and the record keys. `time.Now()` is an argument.
Workers and quotas do not meet the payment state and are left out.
-/
namespace Sdsce.Source

open Sdsce.Theory

/-- A `time.Time` as nanoseconds since the Unix epoch. -/
abbrev Time := Int

/-- `time.Time{}`, the first of January of year 1. -/
def zeroTime : Time := -62135596800 * 10 ^ 9

inductive SessionStatus where
  | active | paused | terminated
deriving DecidableEq, Repr

inductive EndReason where
  | unspecified | complete | clientDisconnect | providerStop | error | paymentIssue
deriving DecidableEq, Repr

abbrev Metadata := Finmap (fun _ : String => String)

structure Session where
  id : String
  createdAt : Time
  updatedAt : Time
  lastKeepAlive : Time
  status : SessionStatus
  metadata : Metadata
  endedAt : Option Time
  endReason : EndReason
  payer : Address
  receiver : Address
  dataService : Address
  currentRAV : Option SignedRAV
  blocksProcessed : UInt64
  bytesTransferred : UInt64
  requests : UInt64
  totalCost : Int
  baselineBlocks : UInt64
  baselineBytes : UInt64
  baselineReqs : UInt64
  baselineCost : Int
  pricingConfig : PricingConfig
deriving DecidableEq

/-- `repository.UsageEvent`. -/
structure UsageEvent where
  timestamp : Time
  blocks : Int64
  bytes : Int64
  requests : Int64
deriving DecidableEq

def sanitizeUsageMetric (v : Int64) : UInt64 := if v ≤ 0 then 0 else v.toUInt64

def UsageEvent.sanitizedTotals (u : UsageEvent) : UInt64 × UInt64 × UInt64 :=
  (sanitizeUsageMetric u.blocks, sanitizeUsageMetric u.bytes, sanitizeUsageMetric u.requests)

/-- Counters and cost accrued since the baseline snapshot. -/
structure UsageDelta where
  blocks : UInt64
  bytes : UInt64
  requests : UInt64
  cost : Int
deriving DecidableEq

namespace Session

/-- `repository.NewSession`. -/
def new (id : String) (payer receiver dataService : Address) (pricingConfig : PricingConfig)
    (now : Time) : Session where
  id
  payer
  receiver
  dataService
  status := .active
  createdAt := now
  updatedAt := now
  lastKeepAlive := now
  metadata := ∅
  endedAt := none
  endReason := .unspecified
  currentRAV := none
  blocksProcessed := 0
  bytesTransferred := 0
  requests := 0
  totalCost := 0
  baselineBlocks := 0
  baselineBytes := 0
  baselineReqs := 0
  baselineCost := 0
  pricingConfig

def isActive (s : Session) : Bool := s.status == .active

def addUsage (s : Session) (blocks bytes requests : UInt64) (cost : Int) (now : Time) :
    Session :=
  { s with
    blocksProcessed := s.blocksProcessed + blocks
    bytesTransferred := s.bytesTransferred + bytes
    requests := s.requests + requests
    totalCost := s.totalCost + cost
    updatedAt := now }

def usageDeltaSinceBaseline (s : Session) : UsageDelta where
  blocks := if s.baselineBlocks ≤ s.blocksProcessed then s.blocksProcessed - s.baselineBlocks else 0
  bytes := if s.baselineBytes ≤ s.bytesTransferred then s.bytesTransferred - s.baselineBytes else 0
  requests := if s.baselineReqs ≤ s.requests then s.requests - s.baselineReqs else 0
  cost :=
    let cost := s.totalCost - s.baselineCost
    if cost < 0 then 0 else cost

theorem usageDelta_cost_nonneg (s : Session) : 0 ≤ s.usageDeltaSinceBaseline.cost := by
  simp only [usageDeltaSinceBaseline]
  split <;> omega

def markBaseline (s : Session) : Session :=
  { s with
    baselineBlocks := s.blocksProcessed
    baselineBytes := s.bytesTransferred
    baselineReqs := s.requests
    baselineCost := s.totalCost }

/-- `Session.End`. -/
def «end» (s : Session) (reason : EndReason) (now : Time) : Session :=
  { s with status := .terminated, endedAt := some now, endReason := reason, updatedAt := now }

/-- The value of the current RAV; an absent RAV counts as zero, as in `currentRAVValue`. -/
def ravValue (s : Session) : Int :=
  match s.currentRAV with
  | none => 0
  | some rav => rav.message.valueAggregate

end Session

/-- `repository.SessionFilter`. -/
structure SessionFilter where
  payer : Option Address
  status : Option SessionStatus
  createdAfter : Option Time
deriving DecidableEq

/-- What the body of each compare-and-swap loop does to the session it has read. -/
inductive SessionUpdate where
  | touch (lastKeepAlive : Time)
  | runtimeState (status : SessionStatus) (metadata : Metadata) (endedAt : Option Time)
      (endReason : EndReason) (updatedAt : Time)
  | ravAndBaseline (currentRAV : Option SignedRAV)
      (baselineBlocks baselineBytes baselineReqs : UInt64) (baselineCost : Int) (now : Time)
  | applyUsage (blocks bytes requests : UInt64) (cost : Int) (now : Time)
deriving DecidableEq

namespace SessionUpdate

def apply : SessionUpdate → Session → Session
  | touch lastKeepAlive, s =>
    let kept := max s.lastKeepAlive lastKeepAlive
    { s with lastKeepAlive := kept, updatedAt := max s.updatedAt kept }
  | runtimeState status metadata endedAt endReason updatedAt, s =>
    if s.status ≠ .terminated then
      { s with status, metadata, endedAt, endReason, updatedAt := max s.updatedAt updatedAt }
    else s
  | ravAndBaseline currentRAV blocks bytes reqs cost now, s =>
    { s with
      currentRAV
      baselineBlocks := blocks
      baselineBytes := bytes
      baselineReqs := reqs
      baselineCost := cost
      updatedAt := now }
  | applyUsage blocks bytes requests cost now, s => s.addUsage blocks bytes requests cost now

/-- The cost that the update adds to the session. -/
def cost : SessionUpdate → Int
  | applyUsage _ _ _ cost _ => cost
  | _ => 0

/-- The update replaces the accepted RAV. -/
def setsRAV : SessionUpdate → Bool
  | ravAndBaseline .. => true
  | _ => false

theorem apply_id (u : SessionUpdate) (s : Session) : (u.apply s).id = s.id := by
  cases u with
  | runtimeState =>
    simp only [apply]
    split <;> rfl
  | _ => rfl

theorem apply_parties (u : SessionUpdate) (s : Session) :
    (u.apply s).payer = s.payer ∧ (u.apply s).dataService = s.dataService := by
  cases u with
  | runtimeState =>
    simp only [apply]
    split <;> exact ⟨rfl, rfl⟩
  | _ => exact ⟨rfl, rfl⟩

theorem apply_totalCost (u : SessionUpdate) (s : Session) :
    (u.apply s).totalCost = s.totalCost + u.cost := by
  cases u with
  | runtimeState =>
    simp only [apply, cost, Int.add_zero]
    split <;> rfl
  | applyUsage => rfl
  | _ => exact (Int.add_zero _).symm

variable {u : SessionUpdate}

theorem apply_currentRAV (h : u.setsRAV = false) (s : Session) :
    (u.apply s).currentRAV = s.currentRAV := by
  cases u with
  | touch | applyUsage => rfl
  | runtimeState =>
    simp only [apply]
    split <;> rfl
  | ravAndBaseline => cases h

theorem apply_baselineCost (h : u.setsRAV = false) (s : Session) :
    (u.apply s).baselineCost = s.baselineCost := by
  cases u with
  | touch | applyUsage => rfl
  | runtimeState =>
    simp only [apply]
    split <;> rfl
  | ravAndBaseline => cases h

end SessionUpdate

inductive CollectionState where
  | collectible | collectPending | collected | collectFailedRetryable
deriving DecidableEq, Repr

structure CollectionKey where
  sessionID : String
  collectionID : CollectionID
  payer : Address
  serviceProvider : Address
  dataService : Address
deriving DecidableEq

/-- `attemptCount` is an `int`, and an `INTEGER` in PostgreSQL: that it stays below `2 ^ 31` is left
to the number of attempts. -/
structure CollectionRecord where
  key : CollectionKey
  signedRAV : SignedRAV
  valueAggregate : Int
  state : CollectionState
  attemptCount : Nat
  lastTxHash : String
  lastError : String
  collectedAmount : Option Int
  createdAt : Time
  updatedAt : Time
deriving DecidableEq

/-- The key of the record that a session's RAV settles under. -/
def collectionKeyFromRAV (sessionID : String) (rav : RAV) : CollectionKey where
  sessionID
  collectionID := rav.collectionID
  payer := rav.payer
  serviceProvider := rav.serviceProvider
  dataService := rav.dataService

/-- `collectionMapKey`: the five parts joined by bars. -/
def collectionMapKey (key : CollectionKey) : String :=
  String.ofList (key.sessionID.toList ++ '|' :: Bytes.hex key.collectionID.bytes ++
    '|' :: key.payer.pretty ++ '|' :: key.serviceProvider.pretty ++ '|' :: key.dataService.pretty)

theorem collectionMapKey_injective {a b : CollectionKey}
    (h : collectionMapKey a = collectionMapKey b) : a = b := by
  have bar := Address.bar_not_mem_pretty
  have text := String.ofList_injective h
  obtain ⟨text, dataService⟩ := Bytes.append_separator_inj (bar _) (bar _) text
  obtain ⟨text, serviceProvider⟩ := Bytes.append_separator_inj (bar _) (bar _) text
  obtain ⟨text, payer⟩ := Bytes.append_separator_inj (bar _) (bar _) text
  obtain ⟨text, collectionID⟩ :=
    Bytes.append_separator_inj (Bytes.bar_not_mem_hex _) (Bytes.bar_not_mem_hex _) text
  obtain ⟨_, ⟨_, _⟩, _, _, _⟩ := a
  obtain ⟨_, ⟨_, _⟩, _, _, _⟩ := b
  simp only [CollectionKey.mk.injEq, CollectionID.mk.injEq]
  exact ⟨String.toList_injective text, Bytes.hex_injective collectionID,
    Address.pretty_injective payer, Address.pretty_injective serviceProvider,
    Address.pretty_injective dataService⟩

/-- Errors of the repository. The sentinel that `errors.Is` finds is part of the kind. -/
inductive RepoError where
  | sessionIDEmpty
  | alreadyExists (id : String)
  | sessionNotFound (id : String)
  | notFound
  | pendingConflict (key : String) (pending new : Int)
  | staleConflict (key : String) (collected stale : Int)
  | conflict
  | invalidCollectionTransition
deriving DecidableEq, Repr

namespace RepoError

def text : RepoError → String
  | sessionIDEmpty => "session ID must not be empty"
  | alreadyExists id => s!"session {id.quote} already exists"
  | sessionNotFound id => s!"session {id.quote}: not found"
  | notFound => "not found"
  | pendingConflict key pending new =>
    s!"collection {key.quote} has pending value {pending}, new value {new}: " ++
      "collection record conflict"
  | staleConflict key collected stale =>
    s!"collection {key.quote} has collected value {collected}, stale value {stale}: " ++
      "collection record conflict"
  | conflict => "collection record conflict"
  | invalidCollectionTransition => "invalid collection state transition"

/-- `errors.Is(err, ErrNotFound)`. -/
def isNotFound : RepoError → Bool
  | sessionNotFound _ | notFound => true
  | _ => false

/-- `errors.Is(err, ErrCollectionConflict)`. -/
def isConflict : RepoError → Bool
  | pendingConflict .. | staleConflict .. | conflict => true
  | _ => false

end RepoError

/-- `newCollectionRecordFromRAV`. -/
def newCollectionRecordFromRAV (sessionID : String) (rav : SignedRAV) (now : Time) :
    Except RepoError CollectionRecord :=
  if sessionID = "" then .error .sessionIDEmpty
  else .ok {
    key := collectionKeyFromRAV sessionID rav.message
    signedRAV := rav
    valueAggregate := rav.message.valueAggregate
    state := .collectible
    attemptCount := 0
    lastTxHash := ""
    lastError := ""
    collectedAmount := none
    createdAt := now
    updatedAt := now }

variable {sessionID : String} {rav : SignedRAV} {now : Time} {record : CollectionRecord}

theorem newCollectionRecordFromRAV_ok
    (h : newCollectionRecordFromRAV sessionID rav now = .ok record) :
    record.key = collectionKeyFromRAV sessionID rav.message ∧
      record.valueAggregate = rav.message.valueAggregate ∧ record.state = .collectible := by
  unfold newCollectionRecordFromRAV at h
  split at h
  · cases h
  · cases h
    exact ⟨rfl, rfl, rfl⟩

variable {err : RepoError}

theorem newCollectionRecordFromRAV_error
    (h : newCollectionRecordFromRAV sessionID rav now = .error err) : sessionID = "" := by
  unfold newCollectionRecordFromRAV at h
  split at h
  · assumption
  · cases h

/-- The decision of `collectionNextCollectibleLocked` once the record under the RAV's key
has been looked up. -/
def nextCollectible (record : CollectionRecord) : Option CollectionRecord →
    Except RepoError CollectionRecord
  | none => .ok record
  | some current =>
    if current.state = .collectPending then
      if current.valueAggregate = record.valueAggregate then .ok current
      else .error (.pendingConflict (collectionMapKey record.key) current.valueAggregate
        record.valueAggregate)
    else if current.state = .collected ∧ current.valueAggregate = record.valueAggregate then
      .ok current
    else if current.state = .collected ∧ record.valueAggregate < current.valueAggregate then
      .error (.staleConflict (collectionMapKey record.key) current.valueAggregate
        record.valueAggregate)
    else .ok { record with createdAt := current.createdAt }

variable {next : CollectionRecord} {current : Option CollectionRecord}

/-- An accepted RAV either finds its value already under settlement and leaves the record
alone, or starts a fresh collectible record. -/
theorem nextCollectible_ok (h : nextCollectible record current = .ok next) :
    (current = some next ∧ (next.state = .collectPending ∨ next.state = .collected) ∧
      next.valueAggregate = record.valueAggregate) ∨
    ((∀ c, current = some c → c.state ≠ .collectPending) ∧
      ∃ createdAt, next = { record with createdAt }) := by
  unfold nextCollectible at h
  split at h
  · cases h
    exact .inr ⟨nofun, record.createdAt, rfl⟩
  rename_i c
  split at h
  · next pending =>
      split at h
      · next same =>
          cases h
          exact .inl ⟨rfl, .inl pending, same⟩
      · cases h
  · next notPending =>
      have free : ∀ d, some c = some d → d.state ≠ .collectPending := by
        intro d same
        cases same
        exact notPending
      split at h
      · next collected =>
          cases h
          exact .inl ⟨rfl, .inr collected.1, collected.2⟩
      · split at h
        · cases h
        · cases h
          exact .inr ⟨free, c.createdAt, rfl⟩

/-- The two ways an accepted RAV meets a conflicting record. -/
theorem nextCollectible_error (h : nextCollectible record current = .error err) :
    ∃ c, current = some c ∧
      ((c.state = .collectPending ∧ c.valueAggregate ≠ record.valueAggregate) ∨
        (c.state = .collected ∧ record.valueAggregate < c.valueAggregate)) := by
  unfold nextCollectible at h
  split at h
  · cases h
  rename_i c
  refine ⟨c, rfl, ?_⟩
  split at h
  · next pending =>
      split at h
      · cases h
      · next different => exact .inl ⟨pending, different⟩
  · split at h
    · cases h
    · split at h
      · next stale => exact .inr stale
      · cases h

/-- `collectionUpdatedAt`. -/
def collectionUpdatedAt (updatedAt now : Time) : Time :=
  if updatedAt = zeroTime then now else updatedAt

/-- The transitions that the operator drives. -/
inductive CollectionMark where
  | pending (txHash : String)
  | collected (txHash : String) (collectedAmount : Option Int)
  | failedRetryable (txHash lastError : String)
deriving DecidableEq

/-- The `apply` callbacks of `CollectionMarkPending`, `CollectionMarkCollected` and
`CollectionMarkFailedRetryable`. -/
def CollectionMark.apply (updatedAt : Time) (record : CollectionRecord) :
    CollectionMark → Except RepoError CollectionRecord
  | pending txHash =>
    if record.state ≠ .collectible ∧ record.state ≠ .collectFailedRetryable then
      .error .invalidCollectionTransition
    else .ok { record with
      state := .collectPending
      attemptCount := record.attemptCount + 1
      lastTxHash := txHash
      lastError := ""
      updatedAt }
  | collected txHash collectedAmount =>
    if record.state ≠ .collectPending then .error .invalidCollectionTransition
    else .ok { record with
      state := .collected
      lastTxHash := txHash
      lastError := ""
      collectedAmount
      updatedAt }
  | failedRetryable txHash lastError =>
    if record.state ≠ .collectPending then .error .invalidCollectionTransition
    else .ok { record with
      state := .collectFailedRetryable
      lastTxHash := txHash
      lastError
      updatedAt }

/-- A transition keeps the key and the value, and collects only what was pending. -/
theorem CollectionMark.apply_ok {mark : CollectionMark} {updatedAt : Time}
    (h : mark.apply updatedAt record = .ok next) :
    next.key = record.key ∧ next.valueAggregate = record.valueAggregate ∧
      (next.state = .collected → record.state = .collectPending ∧
        ∃ txHash amount, mark = .collected txHash amount) := by
  cases mark with
  | pending | failedRetryable =>
    simp only [apply] at h
    split at h
    · cases h
    · cases h
      exact ⟨rfl, rfl, nofun⟩
  | collected txHash amount =>
    simp only [apply] at h
    split at h
    · cases h
    · next pending =>
        cases h
        exact ⟨rfl, rfl, fun _ => ⟨not_not.mp pending, txHash, amount, rfl⟩⟩

end Sdsce.Source
