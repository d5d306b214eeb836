import Mathlib.Data.List.AList
import Sdsce.Source.Messages
import Sdsce.Theory.Program
import Sdsce.Theory.Trace

/-!
# The shared state and its atomic actions

What the provider's goroutines and the operator's collectors share: the maps of
`provider/repository/inmemory.go`, the runtime manager of
`provider/gateway/runtime_manager.go`, the RPCs in flight between a collector and the
operator gateway. One action is one operation on a concurrent map, one section under
`runtimeManager.mu`, one channel operation or one exchange with the outside. What the
outside answers is read from an oracle.

`haxmap.CompareAndSwap` compares by `reflect.DeepEqual` and then swaps a pointer, so it may
fail although the values agree.

`history` is a history variable: nothing reads it, every store write appends to it, and
notes record what a handler has seen.
-/
namespace Sdsce.Source

open Sdsce.Theory

abbrev ThreadId := Nat

/-- The arguments of the `collect` call that a transaction carries to the chain, as
`PackQueryFeeCollect` and `EncodeDataServiceCollectData` hand them to the ABI encoder. -/
structure CollectCall where
  indexer : Address
  paymentType : UInt8
  rav : RAV
  signature : List UInt8
  dataServiceCut : UInt64
deriving DecidableEq

/-- Observations of a handler or a collector that change nothing: a RAV request that is about
to be dispatched, the in-flight request that a submission met and the answer it got, the answer
of the signer check, the stored value a RAV was compared with, and the receipt of a collect
transaction. -/
inductive Note where
  | requested (id : String) (currentRav : Proto.SignedRAV) (usage : Proto.Usage)
  | inFlight (id : String) (session : Session) (submission : SignedRAVSubmission)
      (pending : PendingRAVRequest)
  | answered (id : String) (session : Session) (submission : SignedRAVSubmission)
      (pending : PendingRAVRequest) (response : PaymentSessionResponse)
  | authorization (payer signer : Address) (answer : Except String Bool)
  | checked (id : String) (value : Int)
  | receipt (call : CollectCall) (success : Bool)
deriving DecidableEq

inductive EventKind where
  | created (session : Session)
  | swapped (id : String) (session : Session) (update : SessionUpdate)
  | recordStored (key : String) (record : CollectionRecord)
  | note (note : Note)
deriving DecidableEq

/-- What an entry reports as written to the session map. -/
def EventKind.writes : EventKind → Option (String × Session)
  | created session => some (session.id, session)
  | swapped id session update => some (id, update.apply session)
  | _ => none

abbrev Event := Entry ThreadId EventKind

abbrev History := List Event

/-- `InMemoryRepository`: sessions, collection records, usage log and `collectionMu`. -/
structure Store where
  sessions : AList (fun _ : String => Session) := ∅
  records : AList (fun _ : String => CollectionRecord) := ∅
  usage : AList (fun _ : String => List UsageEvent) := ∅
  collectionMu : Option ThreadId := none

/-- A `*runtimeSessionState`: entries are deleted and made afresh, so the session ID alone
does not identify one. -/
structure StatePtr where
  sessionID : String
  gen : Nat
deriving DecidableEq

abbrev Chan := Nat

/-- A response waiting in the runtime state. `ref` stands for the pointer that
`clearQueuedResponse` compares. -/
structure Queued where
  ref : Nat
  response : PaymentSessionResponse
deriving DecidableEq

structure RuntimeSessionState where
  evalMu : Option ThreadId := none
  events : Option Chan := none
  pendingRAV : Option PendingRAVRequest := none
  queuedResponse : Option Queued := none

/-- `runtimeManager` with the heap of its entries and of the event channels. -/
structure Runtime where
  live : AList (fun _ : String => Nat) := ∅
  heap : StatePtr → RuntimeSessionState := fun _ => {}
  channels : Chan → List PaymentSessionResponse := fun _ => []
  next : Nat := 0

/-- An RPC that a collector has sent to the operator gateway. -/
structure Call where
  request : OperatorRequest
  taken : Bool := false
  response : Option OperatorResponse := none

structure World where
  store : Store := {}
  runtime : Runtime := {}
  authCache : AList (fun _ : String => Bool × Time) := ∅
  calls : List Call := []
  history : History := []

/-- Capacity of the event channel that `PaymentSession` makes. -/
def eventsCapacity : Nat := 4

inductive Selected where
  | done | event (response : PaymentSessionResponse) | request
deriving DecidableEq

inductive SendOutcome where
  | sent | canceled | failed
deriving DecidableEq

inductive ReceiptAnswer where
  | found (status : Nat) | notFound | failed (err : String)
deriving DecidableEq

/-- Operations on the repository's maps and mutex. -/
inductive StoreAct : Type → Type
  | sessionsGet (id : String) : StoreAct (Option Session)
  | sessionsGetOrSet (session : Session) : StoreAct Bool
  | sessionsKeys : StoreAct (List String)
  | sessionsCompareAndSwap (id : String) (session : Session) (update : SessionUpdate) :
      StoreAct Bool
  | usageAdd (id : String) (event : UsageEvent) : StoreAct Unit
  | lockCollection : StoreAct Unit
  | unlockCollection : StoreAct Unit
  | recordsGet (key : String) : StoreAct (Option CollectionRecord)
  | recordsSet (key : String) (record : CollectionRecord) : StoreAct Unit
  | recordsKeys : StoreAct (List String)

/-- Sections under `runtimeManager.mu`, the evaluation mutex, the unsynchronised accesses
to a session's runtime state, and channel operations. -/
inductive RuntimeAct : Type → Type
  | ensureSessionState (id : String) : RuntimeAct StatePtr
  | lockEval (p : StatePtr) : RuntimeAct Unit
  | unlockEval (p : StatePtr) : RuntimeAct Unit
  | readPendingRAV (p : StatePtr) : RuntimeAct (Option PendingRAVRequest)
  | dropPendingRAV (p : StatePtr) : RuntimeAct Unit
  | dropQueuedResponse (p : StatePtr) : RuntimeAct Unit
  | bindLocked (id : String) (events : Chan) :
      RuntimeAct (Option (Option Queued × Option PendingRAVRequest))
  | runtimeState (id : String) : RuntimeAct (Option Chan × Option PendingRAVRequest)
  | dispatchLocked (id : String) (response : PaymentSessionResponse)
      (pending : Option PendingRAVRequest) : RuntimeAct (Option Chan × Queued)
  | clearQueuedResponse (id : String) (events : Chan) (queued : Queued)
      (pending : Option PendingRAVRequest) : RuntimeAct Unit
  | cleanupSessionState (id : String) (events : Chan) : RuntimeAct Unit
  | clearPendingRAV (id : String) : RuntimeAct Unit
  | clearQueuedControl (id : String) : RuntimeAct Unit
  | hasPendingRAV (id : String) : RuntimeAct Bool
  | hasPendingPaymentControl (id : String) : RuntimeAct Bool
  | makeEvents : RuntimeAct Chan
  | trySend (events : Chan) (response : PaymentSessionResponse) : RuntimeAct Bool
  | select (events : Option Chan) (requests : Bool) : RuntimeAct Selected

/-- Clock, randomness, peers, contracts and the chain. -/
inductive OutsideAct : Type → Type
  | now : OutsideAct Time
  | generateID : OutsideAct String
  | streamSend (response : PaymentSessionResponse) : OutsideAct SendOutcome
  | escrowBalance (payer : Address) : OutsideAct (Except String Int)
  | isAuthorized (payer signer : Address) : OutsideAct (Except String Bool)
  | chainQuery : OutsideAct (Except String Nat)
  | sendTransaction (call : CollectCall) : OutsideAct (Except String String)
  | transactionReceipt (call : CollectCall) (hash : String) : OutsideAct ReceiptAnswer
  | contextDone : OutsideAct Bool

/-- The operator RPCs, seen from both ends. -/
inductive RpcAct : Type → Type
  | send (request : OperatorRequest) : RpcAct Nat
  | await (call : Nat) : RpcAct (Option OperatorResponse)
  | take : RpcAct (Nat × OperatorRequest)
  | reply (call : Nat) (response : OperatorResponse) : RpcAct Unit
  | authorize : RpcAct Bool

/-- The signer cache of `isSignerAuthorized`, and entries of the history variable. -/
inductive GatewayAct : Type → Type
  | authCacheGet (key : String) : GatewayAct (Option (Bool × Time))
  | authCacheSet (key : String) (entry : Bool × Time) : GatewayAct Unit
  | note (note : Note) : GatewayAct Unit

inductive Act (β : Type) : Type
  | store (a : StoreAct β)
  | runtime (a : RuntimeAct β)
  | outside (a : OutsideAct β)
  | rpc (a : RpcAct β)
  | gateway (a : GatewayAct β)

/-- What the outside answers to one action. -/
structure Oracle where
  time : Time := 0
  text : String := ""
  yes : Bool := true
  error : Option String := none
  amount : Int := 0
  send : SendOutcome := .sent
  choice : Selected := .request
  receipt : ReceiptAnswer := .found 1
  call : Nat := 0

namespace Store

/-- Map operations; the second component is what the caller sees. A swap that the oracle
denies is one that lost the race for the pointer. -/
def exec (i : ThreadId) {β : Type} (a : StoreAct β) (e : Oracle) (s : Store) :
    Option (Store × β × Option EventKind) :=
  match β, a with
  | _, .sessionsGet id => some (s, s.sessions.lookup id, none)
  | _, .sessionsGetOrSet session =>
    match s.sessions.lookup session.id with
    | some _ => some (s, true, none)
    | none => some ({ s with sessions := s.sessions.insert session.id session }, false,
        some (.created session))
  | _, .sessionsKeys => some (s, s.sessions.keys, none)
  | _, .sessionsCompareAndSwap id session update =>
    if s.sessions.lookup id = some session ∧ e.yes = true then
      some ({ s with sessions := s.sessions.insert id (update.apply session) }, true,
        some (.swapped id session update))
    else some (s, false, none)
  | _, .usageAdd id event =>
    some ({ s with usage := s.usage.insert id ((s.usage.lookup id).getD [] ++ [event]) }, (), none)
  | _, .lockCollection =>
    match s.collectionMu with
    | some _ => none
    | none => some ({ s with collectionMu := some i }, (), none)
  | _, .unlockCollection => some ({ s with collectionMu := none }, (), none)
  | _, .recordsGet key => some (s, s.records.lookup key, none)
  | _, .recordsSet key record =>
    some ({ s with records := s.records.insert key record }, (), some (.recordStored key record))
  | _, .recordsKeys => some (s, s.records.keys, none)

end Store

namespace Runtime

/-- `ensureSessionStateLocked`. -/
def ensure (r : Runtime) (id : String) : Runtime × StatePtr :=
  match r.live.lookup id with
  | some gen => (r, ⟨id, gen⟩)
  | none =>
    ({ r with
        live := r.live.insert id r.next
        heap := Function.update r.heap ⟨id, r.next⟩ {}
        next := r.next + 1 }, ⟨id, r.next⟩)

def write (r : Runtime) (p : StatePtr) (state : RuntimeSessionState) : Runtime :=
  { r with heap := Function.update r.heap p state }

/-- `m.sessions[sessionID]`. -/
def find (r : Runtime) (id : String) : Option StatePtr :=
  (r.live.lookup id).map fun gen => ⟨id, gen⟩

/-- `delete(m.sessions, sessionID)` under a condition. -/
def deleteWhen (r : Runtime) (id : String) (condition : Bool) : Runtime :=
  if condition then { r with live := r.live.erase id } else r

theorem write_self (r : Runtime) (p : StatePtr) (state : RuntimeSessionState) :
    (r.write p state).heap p = state :=
  Function.update_self ..

theorem write_of_ne (r : Runtime) {p q : StatePtr} (state : RuntimeSessionState)
    (different : q ≠ p) : (r.write p state).heap q = r.heap q :=
  Function.update_of_ne different ..

theorem deleteWhen_heap (r : Runtime) (id : String) (condition : Bool) :
    (r.deleteWhen id condition).heap = r.heap := by
  unfold deleteWhen
  split <;> rfl

theorem ensure_sessionID (r : Runtime) (id : String) : (r.ensure id).2.sessionID = id := by
  unfold ensure
  split <;> rfl

theorem find_sessionID {r : Runtime} {id : String} {p : StatePtr} (found : r.find id = some p) :
    p.sessionID = id := by
  obtain ⟨gen, _, rfl⟩ := Option.map_eq_some_iff.mp found
  rfl

def exec (i : ThreadId) {β : Type} (a : RuntimeAct β) (e : Oracle) (r : Runtime) :
    Option (Runtime × β) :=
  match β, a with
  | _, .ensureSessionState id => some (r.ensure id)
  | _, .lockEval p =>
    match (r.heap p).evalMu with
    | some _ => none
    | none => some (r.write p { r.heap p with evalMu := some i }, ())
  | _, .unlockEval p => some (r.write p { r.heap p with evalMu := none }, ())
  | _, .readPendingRAV p => some (r, (r.heap p).pendingRAV)
  | _, .dropPendingRAV p => some (r.write p { r.heap p with pendingRAV := none }, ())
  | _, .dropQueuedResponse p => some (r.write p { r.heap p with queuedResponse := none }, ())
  | _, .bindLocked id events =>
    let (r, p) := r.ensure id
    let current := r.heap p
    if current.events.isSome then some (r, none)
    else
      let needsRefresh := current.pendingRAV.isSome && current.queuedResponse.isNone
      let pending := if needsRefresh then none else current.pendingRAV
      some (r.write p { current with pendingRAV := pending, events := some events },
        some (current.queuedResponse, pending))
  | _, .runtimeState id =>
    match r.find id with
    | none => some (r, none, none)
    | some p => some (r, (r.heap p).events, (r.heap p).pendingRAV)
  | _, .dispatchLocked id response pending =>
    let (r, p) := r.ensure id
    let queued : Queued := ⟨r.next, response⟩
    some ({ r.write p { r.heap p with queuedResponse := some queued, pendingRAV := pending } with
        next := r.next + 1 }, (r.heap p).events, queued)
  | _, .clearQueuedResponse id events queued pending =>
    match r.find id with
    | none => some (r, ())
    | some p =>
      let current := r.heap p
      if current.events ≠ some events ∨ current.queuedResponse.map Queued.ref ≠ some queued.ref
      then some (r, ())
      -- `events` is bound here, so the deletion of an unbound entry cannot apply
      else some (r.write p { current with queuedResponse := none, pendingRAV := pending }, ())
  | _, .cleanupSessionState id events =>
    match r.find id with
    | none => some (r, ())
    | some p =>
      let current := r.heap p
      if current.events ≠ some events then some (r, ())
      else
        some ((r.write p { current with events := none }).deleteWhen id
          (current.pendingRAV.isNone && current.queuedResponse.isNone), ())
  | _, .clearPendingRAV id =>
    match r.find id with
    | none => some (r, ())
    | some p => some (r.write p { r.heap p with pendingRAV := none }, ())
  | _, .clearQueuedControl id =>
    match r.find id with
    | none => some (r, ())
    | some p =>
      let current := r.heap p
      some ((r.write p { current with pendingRAV := none, queuedResponse := none }).deleteWhen
        id current.events.isNone, ())
  | _, .hasPendingRAV id =>
    match r.find id with
    | none => some (r, false)
    | some p => some (r, (r.heap p).pendingRAV.isSome)
  | _, .hasPendingPaymentControl id =>
    match r.find id with
    | none => some (r, false)
    | some p => some (r, (r.heap p).pendingRAV.isSome || (r.heap p).queuedResponse.isSome)
  | _, .makeEvents =>
    some ({ r with channels := Function.update r.channels r.next [], next := r.next + 1 }, r.next)
  | _, .trySend events response =>
    if (r.channels events).length < eventsCapacity then
      some ({ r with
        channels := Function.update r.channels events (r.channels events ++ [response]) }, true)
    else some (r, false)
  | _, .select events requests =>
    match e.choice with
    | .done => some (r, .done)
    | .request => if requests then some (r, .request) else none
    | .event _ =>
      match events with
      | none => none
      | some ch =>
        match r.channels ch with
        | [] => none
        | response :: rest =>
          some ({ r with channels := Function.update r.channels ch rest }, .event response)

end Runtime

/-- An answer that may be an error. -/
def Oracle.answer {α : Type} (e : Oracle) (a : α) : Except String α :=
  match e.error with
  | some err => .error err
  | none => .ok a

/-- The outside answers what the oracle says; a receipt is noted in the history. -/
def OutsideAct.exec {β : Type} (a : OutsideAct β) (e : Oracle) : β × Option EventKind :=
  match β, a with
  | _, .now => (e.time, none)
  | _, .generateID => (e.text, none)
  | _, .streamSend _ => (e.send, none)
  | _, .escrowBalance _ => (e.answer e.amount, none)
  | _, .isAuthorized _ _ => (e.answer e.yes, none)
  | _, .chainQuery => (e.answer e.amount.toNat, none)
  | _, .sendTransaction _ => (e.answer e.text, none)
  | _, .transactionReceipt call _ =>
    match e.receipt with
    | .found status => (.found status, some (.note (.receipt call (status ≠ 0))))
    | .notFound => (.notFound, none)
    | .failed err => (.failed err, none)
  | _, .contextDone => (!e.yes, none)

/-- RPCs in flight. A collector may stop waiting although its request is still to be
served; a request is served at most once. -/
def RpcAct.exec {β : Type} (a : RpcAct β) (e : Oracle) (calls : List Call) :
    Option (List Call × β) :=
  match β, a with
  | _, .send request => some (calls ++ [{ request }], calls.length)
  | _, .await call =>
    if e.yes then
      match calls[call]? with
      | some { response := some response, .. } => some (calls, some response)
      | _ => none
    else some (calls, none)
  | _, .take =>
    match calls[e.call]? with
    | some { request, taken := false, response } =>
      some (calls.set e.call { request, taken := true, response }, e.call, request)
    | _ => none
  | _, .reply call response =>
    some (calls.modify call fun c => { c with response := some response }, ())
  | _, .authorize => some (calls, e.yes)

namespace World

/-- The history after thread `i` has caused `kind`. -/
def log (w : World) (i : ThreadId) : Option EventKind → History
  | none => w.history
  | some kind => w.history ++ [⟨i, kind⟩]

def execGateway (i : ThreadId) {β : Type} (a : GatewayAct β) (w : World) : World × β :=
  match β, a with
  | _, .authCacheGet key => (w, w.authCache.lookup key)
  | _, .authCacheSet key entry => ({ w with authCache := w.authCache.insert key entry }, ())
  | _, .note note => ({ w with history := w.log i (some (.note note)) }, ())

/-- One atomic action of thread `i`. -/
def exec (i : ThreadId) {β : Type} (a : Act β) (e : Oracle) (w : World) : Option (World × β) :=
  match a with
  | .store a =>
    match w.store.exec i a e with
    | none => none
    | some (store, b, kind) => some ({ w with store, history := w.log i kind }, b)
  | .runtime a =>
    match w.runtime.exec i a e with
    | none => none
    | some (runtime, b) => some ({ w with runtime }, b)
  | .outside a => some ({ w with history := w.log i (a.exec e).2 }, (a.exec e).1)
  | .rpc a =>
    match a.exec e w.calls with
    | none => none
    | some (calls, b) => some ({ w with calls }, b)
  | .gateway a => some (w.execGateway i a)

end World

/-- The provider, its operator and their collectors as one interleaving machine. -/
def machine : Machine Act ThreadId Oracle World where
  exec i := World.exec i

abbrev Program := Prog Act

/-- Actions as programs. -/
def store {β : Type} (a : StoreAct β) : Program β := .perform (.store a)
def runtime {β : Type} (a : RuntimeAct β) : Program β := .perform (.runtime a)
def outside {β : Type} (a : OutsideAct β) : Program β := .perform (.outside a)
def rpc {β : Type} (a : RpcAct β) : Program β := .perform (.rpc a)
def gateway {β : Type} (a : GatewayAct β) : Program β := .perform (.gateway a)

end Sdsce.Source
