import Sdsce.Source.Workers

/-!
# The session plugin

`sessionPool` of `provider/plugin/session.go`, which borrows workers of the session service and
returns them. An operation of a `haxmap.Map`, a `ForEach` over one, `beginRelease` and `addWorker`,
which hold `info.mu` from end to end, and an RPC are one action each. A goroutine that a call leaves
behind is the rest of its thread.

The service is reliable: it grants no key twice, and what is sent to it arrives. A session's info is
therefore identified with its key. The callers keep to their keys: they pass to `Release` a key that
`Get` has returned, and to `ReleaseWorker` a key that `GetWorker` has returned, once. Keep-alives,
which read the maps only, and the trace id, which only logs read, are left out.
-/
namespace Sdsce.Source.SessionPool

open Sdsce.Theory
open Sdsce.Source.Workers (BorrowWorkerResponse)

abbrev ThreadId := Nat

/-! ## Messages -/

/-- `sessionv1.BorrowWorkerRequest`. -/
structure BorrowWorkerRequest where
  service : String
  organizationId : String
  apiKeyId : String
  sessionId : String
  maxWorkersPerSession : Int64 := 0
deriving DecidableEq

/-- The errors of `dsession` that the plugin wraps. -/
inductive Cause where
  | unavailable | permissionDenied | quotaExceeded | concurrentStreamLimitExceeded
  | sessionNotFound | workersLimitExceeded
deriving DecidableEq

/-- An error of the plugin: the wrapped error and the text after it. -/
structure PoolError where
  cause : Option Cause
  text : String
deriving DecidableEq

def codeText : ConnectCode → String
  | .invalidArgument => "invalid_argument"
  | .notFound => "not_found"
  | .aborted => "aborted"
  | .failedPrecondition => "failed_precondition"
  | .internal => "internal"
  | .unauthenticated => "unauthenticated"
  | .unavailable => "unavailable"
  | .permissionDenied => "permission_denied"
  | .resourceExhausted => "resource_exhausted"
  | .deadlineExceeded => "deadline_exceeded"

/-- `connect.Error.Error`. -/
def errorText (err : ConnectError) : String :=
  let code := codeText err.code
  if err.message = "" then code else
    let message := err.message
    s!"{code}: {message}"

/-- The errors of `Get` when `BorrowWorker` fails. -/
def getError (err : ConnectError) : PoolError :=
  let text := errorText err
  match err.code with
  | .unavailable => ⟨some .unavailable, s!": {text}"⟩
  | .permissionDenied => ⟨some .permissionDenied, s!": {text}"⟩
  | .resourceExhausted => ⟨some .quotaExceeded, s!": {text}"⟩
  | _ => ⟨none, s!"failed to borrow session: {text}"⟩

/-- The errors of `GetWorker` when `BorrowWorker` fails. -/
def getWorkerError (err : ConnectError) : PoolError :=
  let text := errorText err
  match err.code with
  | .notFound => ⟨some .sessionNotFound, ": session not found"⟩
  | .permissionDenied => ⟨some .permissionDenied, s!": {text}"⟩
  | .resourceExhausted => ⟨some .workersLimitExceeded, ": maximum workers per session exceeded"⟩
  | _ => ⟨none, s!"failed to borrow worker: {text}"⟩

/-- What an exhausted quota adds to the error. -/
def quotaDetails (what : String) (response : BorrowWorkerResponse) : String :=
  if response.maxWorkers ≠ 0 then
    let active := response.activeWorkers
    let max := response.maxWorkers
    s!" ({what}: {active}/{max})"
  else ""

/-! ## The maps -/

/-- `sessionInfo`. -/
structure SessionInfo where
  organizationID : String
  apiKeyID : String
  workers : List String := []
  released : Bool := false
deriving DecidableEq

/-- The infos by the key of their session, the keys of `sessions`, what the service has granted
(with the session of a `GetWorker`) and what was returned to it, and what callers were given and
have passed to `ReleaseWorker`. -/
structure Pool where
  infos : AList (fun _ : String => SessionInfo) := ∅
  sessions : List String := []
  borrows : List (String × Option String) := []
  returns : List String := []
  givenSessions : List String := []
  givenWorkers : List String := []
  passed : List String := []

inductive PoolAct : Type → Type
  | borrowWorker (req : BorrowWorkerRequest) (session : Option String) :
      PoolAct (Except ConnectError BorrowWorkerResponse)
  | returnWorker (key : String) (minimalWorkerLifeDuration : Option Int) : PoolAct Unit
  | sessionsGet (key : String) : PoolAct (Option SessionInfo)
  | sessionsSet (key : String) (info : SessionInfo) : PoolAct Unit
  | sessionsDel (key : String) : PoolAct Unit
  | sessionsForEach : PoolAct (List String)
  | workersDel (session key : String) : PoolAct Unit
  | beginRelease (session : String) : PoolAct (Option (List String))
  | addWorker (session key : String) : PoolAct Bool
  | giveSession (key : String) : PoolAct Unit
  | giveWorker (key : String) : PoolAct Unit
  | callReleaseWorker (key : String) : PoolAct Unit
  | callRelease (key : String) : PoolAct Unit

structure PoolOracle where
  answer : Except ConnectError BorrowWorkerResponse := .error ⟨.unavailable, ""⟩

namespace Pool

def setInfo (s : Pool) (session : String) (info : SessionInfo) : Pool :=
  { s with infos := s.infos.insert session info }

def borrow (s : Pool) (session : Option String)
    (answer : Except ConnectError BorrowWorkerResponse) :
    Option (Pool × Except ConnectError BorrowWorkerResponse) :=
  match answer with
  | .error err => some (s, .error err)
  | .ok response =>
    match response.status with
    | .resourceExhausted => some (s, .ok response)
    | .borrowed =>
      if response.workerKey ∈ s.borrows.map Prod.fst then none
      else some ({ s with borrows := (response.workerKey, session) :: s.borrows }, .ok response)

/-- `beginRelease`. -/
def beginRelease (s : Pool) (session : String) : Pool × Option (List String) :=
  match s.infos.lookup session with
  | none => (s, none)
  | some info =>
    if info.released then (s, none)
    else (s.setInfo session { info with released := true }, some info.workers)

/-- `addWorker`. -/
def addWorker (s : Pool) (session key : String) : Pool × Bool :=
  match s.infos.lookup session with
  | none => (s, false)
  | some info =>
    if info.released then (s, false)
    else (s.setInfo session { info with workers := info.workers.insert key }, true)

/-- `info.workers.Del`. -/
def workersDel (s : Pool) (session key : String) : Pool :=
  match s.infos.lookup session with
  | none => s
  | some info => s.setInfo session { info with workers := info.workers.filter (· ≠ key) }

def exec {β : Type} (a : PoolAct β) (e : PoolOracle) (s : Pool) : Option (Pool × β) :=
  match β, a with
  | _, .borrowWorker _ session => s.borrow session e.answer
  | _, .returnWorker key _ => some ({ s with returns := key :: s.returns }, ())
  | _, .sessionsGet key =>
    some (s, if key ∈ s.sessions then s.infos.lookup key else none)
  | _, .sessionsSet key info =>
    some ({ s.setInfo key info with sessions := s.sessions.insert key }, ())
  | _, .sessionsDel key => some ({ s with sessions := s.sessions.filter (· ≠ key) }, ())
  | _, .sessionsForEach => some (s, s.sessions)
  | _, .workersDel session key => some (s.workersDel session key, ())
  | _, .beginRelease session => some (s.beginRelease session)
  | _, .addWorker session key => some (s.addWorker session key)
  | _, .giveSession key => some ({ s with givenSessions := key :: s.givenSessions }, ())
  | _, .giveWorker key => some ({ s with givenWorkers := key :: s.givenWorkers }, ())
  | _, .callReleaseWorker key =>
    if key ∈ s.givenWorkers ∧ key ∉ s.passed then some ({ s with passed := key :: s.passed }, ())
    else none
  | _, .callRelease key => if key ∈ s.givenSessions then some (s, ()) else none

end Pool

def machine : Machine PoolAct ThreadId PoolOracle Pool where
  exec _ _ a e s := s.exec a e

abbrev Program := Prog PoolAct

def perform {β : Type} (a : PoolAct β) : Program β := .perform a

/-! ## The plugin -/

/-- `Get`. `sdsSessionID` comes from the trusted headers of the context. -/
def get (serviceName organizationID apiKeyID sdsSessionID : String) :
    Program (Except PoolError String) :=
  if sdsSessionID = "" then return .error ⟨none, "sds session ID not found in auth context"⟩
  else do
    match ← perform (.borrowWorker ⟨serviceName, organizationID, apiKeyID, sdsSessionID, 0⟩
      none) with
    | .error err => return .error (getError err)
    | .ok response =>
      match response.status with
      | .resourceExhausted =>
        return .error ⟨some .concurrentStreamLimitExceeded, quotaDetails "active sessions" response⟩
      | .borrowed => do
        perform (.sessionsSet response.workerKey { organizationID, apiKeyID })
        perform (.giveSession response.workerKey)
        return .ok response.workerKey

/-- `GetWorker` when the session was released while it borrowed. -/
def returnUntracked (sessionKey workerKey : String) : Program (Except PoolError String) := do
  perform (.returnWorker workerKey none)
  return .error ⟨some .sessionNotFound, s!": session key {sessionKey} was released"⟩

/-- `GetWorker`. -/
def getWorker (serviceName sessionKey sdsSessionID : String) (maxWorkersPerSession : Int64) :
    Program (Except PoolError String) := do
  match ← perform (.sessionsGet sessionKey) with
  | none => return .error ⟨some .sessionNotFound, s!": session key {sessionKey} not found"⟩
  | some info =>
    if sdsSessionID = "" then return .error ⟨none, "sds session ID not found in auth context"⟩
    else do
      match ← perform (.borrowWorker ⟨serviceName, info.organizationID, info.apiKeyID,
          sdsSessionID, maxWorkersPerSession⟩ (some sessionKey)) with
      | .error err => return .error (getWorkerError err)
      | .ok response =>
        match response.status with
        | .resourceExhausted =>
          return .error ⟨some .workersLimitExceeded, quotaDetails "active workers" response⟩
        | .borrowed => do
          match ← perform (.sessionsGet sessionKey) with
          | none => returnUntracked sessionKey response.workerKey
          | some _ =>
            match ← perform (.addWorker sessionKey response.workerKey) with
            | false => returnUntracked sessionKey response.workerKey
            | true => do
              perform (.giveWorker response.workerKey)
              return .ok response.workerKey

/-- `ReleaseWorker` and its goroutine. -/
def releaseWorker (workerKey : String) : Program Unit := do
  perform (.callReleaseWorker workerKey)
  let sessions ← perform .sessionsForEach
  Prog.forEach (fun session => perform (.workersDel session workerKey)) sessions
  perform (.returnWorker workerKey none)

/-- The goroutine of `Release`. -/
def release (minimalWorkerLifeDuration : Int) (sessionKey : String) : Program Unit := do
  perform (.callRelease sessionKey)
  match ← perform (.sessionsGet sessionKey) with
  | none => return
  | some _ =>
    match ← perform (.beginRelease sessionKey) with
    | none => return
    | some workersToRelease => do
      perform (.sessionsDel sessionKey)
      Prog.forEach (fun key => perform (.returnWorker key none)) workersToRelease
      perform (.returnWorker sessionKey (some minimalWorkerLifeDuration))

/-! ## Calls -/

inductive Call where
  | get (serviceName organizationID apiKeyID sdsSessionID : String)
  | getWorker (serviceName sessionKey sdsSessionID : String) (maxWorkersPerSession : Int64)
  | releaseWorker (workerKey : String)
  | release (sessionKey : String)

inductive Reply where
  | key (result : Except PoolError String)
  | done
deriving DecidableEq

/-- The program of a call, in a pool with this `minimalWorkerLifeDuration`. -/
def Call.program (life : Int) : Call → Program Reply
  | get serviceName organizationID apiKeyID sdsSessionID => do
    let result ← SessionPool.get serviceName organizationID apiKeyID sdsSessionID
    return .key result
  | getWorker serviceName sessionKey sdsSessionID maxWorkersPerSession => do
    let result ← SessionPool.getWorker serviceName sessionKey sdsSessionID maxWorkersPerSession
    return .key result
  | releaseWorker workerKey => do
    SessionPool.releaseWorker workerKey
    return .done
  | release sessionKey => do
    SessionPool.release life sessionKey
    return .done

/-- An empty pool and one call on each thread. -/
def start (life : Int) (calls : ThreadId → Call) : Config PoolAct ThreadId Pool Reply :=
  ⟨{}, fun i => (calls i).program life⟩

end Sdsce.Source.SessionPool
