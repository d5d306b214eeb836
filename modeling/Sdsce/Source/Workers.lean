import Mathlib.Data.List.AList
import Sdsce.Source.Messages
import Sdsce.Theory.Program

/-!
# Worker slots

`BorrowWorker` and `ReturnWorker` of `provider/session/service.go`, the limits of
`provider/session/quotas.go`, and the worker and quota methods of
`provider/repository/inmemory.go`. Each of these methods runs under `InMemoryRepository.mu` and is
one action.

The rest of the provider opens sessions and updates them. `eth.NewAddress` belongs to eth-go: it
reads hexadecimal text. What is logged, and the service name that only a log reads, are left out.
-/
namespace Sdsce.Source.Workers

open Sdsce.Theory

abbrev ThreadId := Nat

/-! ## Limits -/

structure PayerQuota where
  maxConcurrentSessions : Int64
  maxWorkersPerSession : Int64

structure QuotaConfig where
  defaultMaxConcurrentSessions : Int64
  defaultMaxWorkersPerSession : Int64
  perPayerOverrides : AList (fun _ : String => PayerQuota) := ∅

/-- `DefaultQuotaConfig`. -/
def defaultQuotaConfig : QuotaConfig where
  defaultMaxConcurrentSessions := 10
  defaultMaxWorkersPerSession := 5

namespace QuotaConfig

def maxConcurrentSessions (c : QuotaConfig) (payer : String) : Int64 :=
  match c.perPayerOverrides.lookup payer with
  | some override => override.maxConcurrentSessions
  | none => c.defaultMaxConcurrentSessions

def maxWorkersPerSession (c : QuotaConfig) (payer : String) : Int64 :=
  match c.perPayerOverrides.lookup payer with
  | some override => override.maxWorkersPerSession
  | none => c.defaultMaxWorkersPerSession

end QuotaConfig

/-- The quotas of `SessionService` and the address parser that it calls. -/
structure SessionService where
  quotas : QuotaConfig
  newAddress : String → Except String Address
  newAddress_plain : ∀ {text : String} {address : Address},
    newAddress text = .ok address → '|' ∉ text.toList

/-- The limit that `BorrowWorker` enforces. -/
def SessionService.maxWorkers (svc : SessionService) (payer : String) : Int :=
  (svc.quotas.maxWorkersPerSession payer * svc.quotas.maxConcurrentSessions payer).toInt

/-! ## The repository -/

/-- `repository.Worker`. -/
structure Worker where
  key : String
  sessionID : String
  payer : Address
  createdAt : Time
  traceID : String
deriving DecidableEq

/-- `repository.QuotaUsage`. -/
structure QuotaUsage where
  payer : Address
  activeSessions : Int
  activeWorkers : Int
  lastUpdated : Time
deriving DecidableEq

/-- The errors of `WorkerCreateAndReserveQuota`. -/
inductive ReserveError where
  | workerKeyEmpty
  | maxWorkersNegative
  | alreadyExists (key : String)
  | quotaExceeded (quota : QuotaUsage)
deriving DecidableEq

def ReserveError.text : ReserveError → String
  | workerKeyEmpty => "worker key must not be empty"
  | maxWorkersNegative => "max workers must not be negative"
  | alreadyExists key => s!"worker {key.quote} already exists"
  | quotaExceeded _ => "quota exceeded"

/-- The sessions, workers and quotas of `InMemoryRepository`. -/
structure Rows where
  sessions : AList (fun _ : String => Session) := ∅
  workers : AList (fun _ : String => Worker) := ∅
  quotas : AList (fun _ : List Char => QuotaUsage) := ∅

namespace Rows

/-- The two writes at the end of `WorkerCreateAndReserveQuota`. -/
def addWorker (s : Rows) (worker : Worker) (quota : QuotaUsage) : Rows :=
  { s with
    workers := s.workers.insert worker.key worker
    quotas := s.quotas.insert worker.payer.pretty quota }

/-- `WorkerCreateAndReserveQuota`. -/
def workerCreateAndReserveQuota (s : Rows) (worker : Worker) (maxWorkers : Int) (now : Time) :
    Except ReserveError (Rows × QuotaUsage) :=
  if worker.key = "" then .error .workerKeyEmpty
  else if maxWorkers < 0 then .error .maxWorkersNegative
  else
    match s.workers.lookup worker.key with
    | some _ => .error (.alreadyExists worker.key)
    | none =>
      match s.quotas.lookup worker.payer.pretty with
      | none =>
        if 1 > maxWorkers then .error (.quotaExceeded ⟨worker.payer, 0, 0, now⟩)
        else
          let next : QuotaUsage := ⟨worker.payer, 0, 1, now⟩
          .ok (s.addWorker worker next, next)
      | some current =>
        if current.activeWorkers + 1 > maxWorkers then .error (.quotaExceeded current)
        else
          let next := { current with
            activeWorkers := current.activeWorkers + 1
            lastUpdated := now }
          .ok (s.addWorker worker next, next)

/-- `QuotaDecrement`. -/
def quotaDecrement (s : Rows) (payer : Address) (sessions workers : Int) (now : Time) : Rows :=
  match s.quotas.lookup payer.pretty with
  | none => s
  | some current =>
    let activeSessions := current.activeSessions - sessions
    let activeWorkers := current.activeWorkers - workers
    { s with quotas := s.quotas.insert payer.pretty { current with
        activeSessions := if activeSessions < 0 then 0 else activeSessions
        activeWorkers := if activeWorkers < 0 then 0 else activeWorkers
        lastUpdated := now } }

end Rows

/-- Methods of the repository, the clock and the wait of `ReturnWorker`, which ends with an error
when the request is cancelled. -/
inductive ServiceAct : Type → Type
  | sessionCreate (session : Session) : ServiceAct Bool
  | sessionUpdate (id : String) (update : SessionUpdate) : ServiceAct Unit
  | sessionGet (id : String) : ServiceAct (Option Session)
  | workerCreateAndReserveQuota (worker : Worker) (maxWorkers : Int) :
      ServiceAct (Except ReserveError QuotaUsage)
  | workerGet (key : String) : ServiceAct (Option Worker)
  | workerDelete (key : String) : ServiceAct Bool
  | quotaDecrement (payer : Address) (sessions workers : Int) : ServiceAct Unit
  | now : ServiceAct Time
  | wait : ServiceAct (Option String)

structure ServiceOracle where
  time : Time := 0
  cancelled : Option String := none
deriving Inhabited

namespace Rows

def exec {β : Type} (a : ServiceAct β) (e : ServiceOracle) (s : Rows) : Rows × β :=
  match β, a with
  | _, .sessionCreate session =>
    match s.sessions.lookup session.id with
    | some _ => (s, true)
    | none => ({ s with sessions := s.sessions.insert session.id session }, false)
  | _, .sessionUpdate id update =>
    match s.sessions.lookup id with
    | none => (s, ())
    | some session => ({ s with sessions := s.sessions.insert id (update.apply session) }, ())
  | _, .sessionGet id => (s, s.sessions.lookup id)
  | _, .workerCreateAndReserveQuota worker maxWorkers =>
    match s.workerCreateAndReserveQuota worker maxWorkers e.time with
    | .error err => (s, .error err)
    | .ok (next, quota) => (next, .ok quota)
  | _, .workerGet key => (s, s.workers.lookup key)
  | _, .workerDelete key =>
    match s.workers.lookup key with
    | none => (s, false)
    | some _ => ({ s with workers := s.workers.erase key }, true)
  | _, .quotaDecrement payer sessions workers =>
    (s.quotaDecrement payer sessions workers e.time, ())
  | _, .now => (s, e.time)
  | _, .wait => (s, e.cancelled)

end Rows

def machine : Machine ServiceAct ThreadId ServiceOracle Rows where
  exec _ _ a e s := some (s.exec a e)

abbrev Program := Prog ServiceAct

def perform {β : Type} (a : ServiceAct β) : Program β := .perform a

/-! ## The service -/

structure BorrowWorkerRequest where
  organizationId : String
  sessionId : String
  /-- Nothing reads it. -/
  maxWorkersPerSession : Int64
deriving DecidableEq

inductive BorrowStatus where
  | borrowed | resourceExhausted
deriving DecidableEq

structure BorrowWorkerResponse where
  workerKey : String
  status : BorrowStatus
  maxWorkers : Int
  activeWorkers : Int
deriving DecidableEq

/-- `minimalWorkerLifeDuration` in nanoseconds. -/
structure ReturnWorkerRequest where
  workerKey : String
  minimalWorkerLifeDuration : Option Int
deriving DecidableEq

def statusText : SessionStatus → String
  | .active => "active"
  | .paused => "paused"
  | .terminated => "terminated"

def sessionStateError (session : Session) : ConnectError :=
  if session.endReason = .paymentIssue then
    ⟨.resourceExhausted, "session ended due to payment issue"⟩
  else
    let status := statusText session.status
    ⟨.permissionDenied, s!"session is not active (status: {status})"⟩

def authorizeSession (sessionID : String) (payer : Address) :
    Program (Except ConnectError Session) := do
  match ← perform (.sessionGet sessionID) with
  | none => return .error ⟨.permissionDenied, "session not found"⟩
  | some session =>
    return if session.payer.pretty ≠ payer.pretty then
        .error ⟨.permissionDenied, "session payer mismatch"⟩
      else if session.isActive then .ok session
      else .error (sessionStateError session)

/-- `buildWorkerKey`: the three parts joined by bars. -/
def buildWorkerKey (payer traceID : String) (createdAt : Time) : String :=
  String.ofList (payer.toList ++ '|' :: (traceID.toList ++ '|' :: (toString createdAt).toList))

/-- The worker of a borrow at time `now`. -/
def newWorker (req : BorrowWorkerRequest) (payer : Address) (now : Time) : Worker where
  key := buildWorkerKey req.organizationId req.sessionId now
  sessionID := req.sessionId
  payer
  createdAt := now
  traceID := ""

/-- `BorrowWorker` once the request has been parsed. -/
def SessionService.reserve (svc : SessionService) (req : BorrowWorkerRequest) (payer : Address) :
    Program (Except ConnectError BorrowWorkerResponse) := do
  match ← authorizeSession req.sessionId payer with
  | .error err => return .error err
  | .ok _ =>
    let maxWorkers := svc.maxWorkers req.organizationId
    let now ← perform .now
    let worker := newWorker req payer now
    match ← perform (.workerCreateAndReserveQuota worker maxWorkers) with
    | .error (.quotaExceeded quota) => return .ok {
        workerKey := ""
        status := .resourceExhausted
        maxWorkers
        activeWorkers := quota.activeWorkers }
    | .error err =>
      let text := err.text
      return .error ⟨.internal, s!"creating worker and reserving quota: {text}"⟩
    | .ok quota => return .ok {
        workerKey := worker.key
        status := .borrowed
        maxWorkers
        activeWorkers := quota.activeWorkers }

def SessionService.borrowWorker (svc : SessionService) (req : BorrowWorkerRequest) :
    Program (Except ConnectError BorrowWorkerResponse) :=
  if req.organizationId = "" then
    return .error ⟨.invalidArgument, "organization_id is required"⟩
  else
    match svc.newAddress req.organizationId with
    | .error err => return .error ⟨.invalidArgument, s!"invalid organization_id address: {err}"⟩
    | .ok payer =>
      if req.sessionId = "" then
        return .error ⟨.permissionDenied, "session_id not provided in request"⟩
      else svc.reserve req payer

/-- The wait of `ReturnWorker` for a worker that has not lived long enough. -/
def awaitMinimalLife (worker : Worker) (minDuration : Option Int) : Program (Option String) :=
  match minDuration with
  | none => return none
  | some minDuration => do
    let now ← perform .now
    if now - worker.createdAt < minDuration then perform .wait else return none

def returnWorker (req : ReturnWorkerRequest) : Program (Except ConnectError Unit) :=
  if req.workerKey = "" then return .error ⟨.invalidArgument, "worker_key is required"⟩
  else do
    match ← perform (.workerGet req.workerKey) with
    | none => return .ok ()
    | some worker =>
      match ← awaitMinimalLife worker req.minimalWorkerLifeDuration with
      | some err => return .error ⟨.deadlineExceeded, err⟩
      | none =>
        -- a worker that is gone is only logged
        let _ ← perform (.workerDelete req.workerKey)
        perform (.quotaDecrement worker.payer 0 1)
        return .ok ()

/-! ## Calls -/

/-- Calls to the service, and what the rest of the provider does to sessions. -/
inductive Call where
  | borrowWorker (req : BorrowWorkerRequest)
  | returnWorker (req : ReturnWorkerRequest)
  | sessionCreate (session : Session)
  | sessionUpdate (id : String) (update : SessionUpdate)

inductive Reply where
  | borrowWorker (response : Except ConnectError BorrowWorkerResponse)
  | returnWorker (response : Except ConnectError Unit)
  | done
deriving DecidableEq

def Call.program (svc : SessionService) : Call → Program Reply
  | borrowWorker req => do
    let response ← svc.borrowWorker req
    return .borrowWorker response
  | returnWorker req => do
    let response ← Workers.returnWorker req
    return .returnWorker response
  | sessionCreate session => do
    let _ ← perform (.sessionCreate session)
    return .done
  | sessionUpdate id update => do
    perform (.sessionUpdate id update)
    return .done

/-- A fresh repository and one call on each thread. -/
def start (svc : SessionService) (calls : ThreadId → Call) :
    Config ServiceAct ThreadId Rows Reply :=
  ⟨{}, fun i => (calls i).program svc⟩

end Sdsce.Source.Workers
