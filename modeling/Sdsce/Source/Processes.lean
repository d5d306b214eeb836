import Sdsce.Source.Handlers
import Sdsce.Source.Psql

/-!
# Provider processes over one database

`StartSession` of `provider/gateway/handler_start_session.go` from the creation of the session on,
and `Report` of `provider/usage/service.go`, over the PostgreSQL repository. The database outlives
the process that serves it, so every call runs under the configuration of its own process: that of
an earlier one, of a later one, or of one beside it.

The evaluation that follows each reported event and the other handlers reach the database through
the remaining methods of the repository, which are calls of their own here, in any order and with
any arguments. A call whose process has stopped makes no further step, or meets errors until it
rolls back.
-/
namespace Sdsce.Source.Psql

open Sdsce.Theory Sdsce.Source

def DbError.text : DbError → String
  | notFound => "not found"
  | collectionConflict => "collection record conflict"
  | invalidCollectionTransition => "invalid collection state transition"
  | failed text => text

/-- `StartSession` once the request has been validated and the session ID generated. -/
def createSession (g : Gateway) (initialRav : Option Proto.SignedRAV) (sessionID : String)
    (payer dataService : Address) (initialRAV : Option SignedRAV) :
    Program (Except ConnectError StartSessionResponse) := do
  let now ← run .now
  match ← sessionCreate (g.consumerSession sessionID payer dataService initialRAV now) with
  | .error err =>
    let text := err.text
    return .error ⟨.internal, s!"failed to create session: {text}"⟩
  | .ok () =>
    let dataPlaneEndpoint := trimSpace g.dataPlaneEndpoint
    if dataPlaneEndpoint = "" then
      return .error ⟨.internal, "provider data-plane endpoint is not configured"⟩
    else return .ok {
      sessionId := sessionID
      useRav := initialRav
      accepted := true
      rejectionReason := ""
      pricingConfig := some g.pricingConfig
      dataPlaneEndpoint }

/-- The body of the loop of `Report` up to the evaluation; an error is only logged. -/
def reportEvent (g : Gateway) (event : Option Gateway.MeteringEvent) : Program Unit :=
  match event with
  | none => return ()
  | some event =>
    if event.sdsSessionId = "" then return ()
    else do
      let now ← run .now
      let usageEvent := Gateway.protoEventToUsageEvent event now
      let (blocks, bytes, _) := usageEvent.sanitizedTotals
      let cost := (g.pricingConfig.calculateUsageCost blocks bytes).bigInt
      let _ ← sessionApplyUsage event.sdsSessionId usageEvent cost
      return ()

def report (g : Gateway) (events : List (Option Gateway.MeteringEvent)) : Program Unit :=
  .forEach (reportEvent g) events

inductive ProviderCall where
  | startSession (initialRav : Option Proto.SignedRAV) (sessionID : String)
      (payer dataService : Address) (initialRAV : Option SignedRAV)
  | report (events : List (Option Gateway.MeteringEvent))
  | sessionGet (sessionID : String)
  | sessionList (filter : SessionFilter)
  | sessionTouch (sessionID : String) (lastKeepAlive : Time)
  | sessionUpdateRuntimeState (sessionID : String) (status : SessionStatus) (metadata : Metadata)
      (endedAt : Option Time) (endReason : EndReason)
  | sessionUpdateRAVAndBaseline (sessionID : String) (currentRAV : Option SignedRAV)
      (baseline : Baseline)
  | collectionGet (key : CollectionKey)
  | collectionMark (statement : String) (key : CollectionKey) (expectedValue : Int)
      (mark : CollectionMark) (updatedAt : Time)

inductive ProviderReply where
  | startSession (response : Except ConnectError StartSessionResponse)
  | done

/-- The call, under the configuration of its process. -/
def ProviderCall.program (g : Gateway) : ProviderCall → Program ProviderReply
  | startSession initialRav sessionID payer dataService initialRAV => do
    let response ← createSession g initialRav sessionID payer dataService initialRAV
    return .startSession response
  | report events => do
    Psql.report g events
    return .done
  | sessionGet sessionID => do
    let _ ← Psql.sessionGet sessionID
    return .done
  | sessionList filter => do
    let _ ← Psql.sessionList filter
    return .done
  | sessionTouch sessionID lastKeepAlive => do
    let _ ← Psql.sessionTouch sessionID lastKeepAlive
    return .done
  | sessionUpdateRuntimeState sessionID status metadata endedAt endReason => do
    let _ ← Psql.sessionUpdateRuntimeState sessionID status metadata endedAt endReason
    return .done
  | sessionUpdateRAVAndBaseline sessionID currentRAV baseline => do
    let _ ← Psql.sessionUpdateRAVAndBaseline sessionID currentRAV baseline
    return .done
  | collectionGet key => do
    let _ ← Psql.collectionGet key
    return .done
  | collectionMark statement key expectedValue mark updatedAt => do
    let _ ← execCollectionTransition statement key expectedValue mark updatedAt
    return .done

/-- An empty database and the calls that will ever be made on it, each under the gateway of its
process. -/
def provide (gateways : ThreadId → Gateway) (calls : ThreadId → ProviderCall) :
    Config DbAct ThreadId Db ProviderReply :=
  ⟨{ tables := {} }, fun i => (calls i).program (gateways i)⟩

end Sdsce.Source.Psql
