import Sdsce.Source.Encodings
import Sdsce.Source.System
import Sdsce.Source.Workers

/-!
# The authentication service

`provider/auth/service.go` and `headers.go`. A call of `ValidateAuth` works on the repository that
it shares with the gateway's handlers, and on a signer cache that all calls share.

The clock and the collector contract answer what the oracle says. `seen` is a history variable:
nothing reads it, the readings of the clock and the answers of the contract are appended to it.
The header names of `dauth` are those of another module and stand as an enumeration.
-/
namespace Sdsce.Source.Auth

open Sdsce.Theory

/-- `authCacheEntry`. -/
structure AuthCacheEntry where
  ok : Bool
  expires : Time
deriving DecidableEq

/-- A reading of the clock, or an answer of the collector contract. -/
inductive Observation where
  | clock (time : Time)
  | answered (payer signer : Address) (ok : Bool)
deriving DecidableEq

/-- The clock, the collector contract and `authCache`. -/
inductive ServiceAct : Type → Type
  | now : ServiceAct Time
  | isAuthorized (payer signer : Address) : ServiceAct (Except String Bool)
  | authCacheGet (key : String) : ServiceAct (Option AuthCacheEntry)
  | authCacheSet (key : String) (entry : AuthCacheEntry) : ServiceAct Unit

/-- An action of the provider, or one of the service. -/
inductive AuthAct (β : Type) : Type
  | provider (a : Act β)
  | service (a : ServiceAct β)

structure State where
  provider : World := {}
  authCache : AList (fun _ : String => AuthCacheEntry) := ∅
  seen : List Observation := []

namespace State

def observe (s : State) (observation : Observation) : State :=
  { s with seen := s.seen ++ [observation] }

def execService {β : Type} (a : ServiceAct β) (e : Oracle) (s : State) : State × β :=
  match β, a with
  | _, .now => (s.observe (.clock e.time), e.time)
  | _, .isAuthorized payer signer =>
    match e.answer e.yes with
    | .error err => (s, .error err)
    | .ok ok => (s.observe (.answered payer signer ok), .ok ok)
  | _, .authCacheGet key => (s, s.authCache.lookup key)
  | _, .authCacheSet key entry => ({ s with authCache := s.authCache.insert key entry }, ())

def exec (i : ThreadId) {β : Type} (a : AuthAct β) (e : Oracle) (s : State) : Option (State × β) :=
  match a with
  | .provider a =>
    match Source.machine.exec i a e s.provider with
    | none => none
    | some (provider, b) => some ({ s with provider }, b)
  | .service a => some (s.execService a e)

end State

/-- The provider with its authentication service. -/
def machine : Machine AuthAct ThreadId Oracle State where
  exec i := State.exec i

abbrev Program := Prog AuthAct

def onProvider {β : Type} (p : Source.Program β) : Program β := p.lift .provider

def onService {β : Type} (a : ServiceAct β) : Program β := .perform (.service a)

/-! ## Messages -/

def headerRAV : String := "x-sds-rav"

def headerSessionID : String := "x-sds-session-id"

/-- `map[string]*HeaderValues` in the order in which a loop ranges over it. -/
abbrev UntrustedHeaders := List (String × Option (List String))

/-- `ValidateAuthRequest`; the path is only logged. -/
structure ValidateAuthRequest where
  untrustedHeaders : UntrustedHeaders
  ipAddress : String

/-- `dauth.HeaderOrganizationID`, `dauth.HeaderIP`, `sds.HeaderSessionID` and
`dauth.HeaderApiKeyID`. -/
inductive TrustedHeader where
  | organizationID | ip | sessionID | apiKeyID
deriving DecidableEq

abbrev TrustedHeaders := AList (fun _ : TrustedHeader => String)

structure AuthResult where
  organizationId : String
  apiKeyId : String

/-- An error, or the panic of a RAV that has no typed data. -/
inductive AuthFailure where
  | refused (err : ConnectError)
  | panicked
deriving DecidableEq

def refuse {α : Type} (code : ConnectCode) (message : String) : Except AuthFailure α :=
  .error (.refused ⟨code, message⟩)

/-! ## The service -/

/-- `AuthService`, with the protobuf library, `Keccak256`, `Signature.Recover`, `unicode.ToLower`
and `Duration.String`. -/
structure AuthService where
  serviceProvider : Address
  domain : Domain
  hasCollectorQuerier : Bool
  hasRepository : Bool
  protobuf : Protobuf
  keccak256 : List UInt8 → List UInt8
  recover : Signature → List UInt8 → Except String Address
  toLower : Char → Char
  durationText : Time → String

/-- `SessionKeepAliveTimeout`, in nanoseconds. -/
def sessionKeepAliveTimeout : Time := 5 * 60 * 10 ^ 9

/-- Lifetime of a cached authorization, in nanoseconds. -/
def authCacheLifetime : Time := 30 * 10 ^ 9

/-- `payer.String() + "|" + signer.String()`. -/
def authCacheKey (payer signer : Address) : String :=
  String.ofList (payer.pretty ++ '|' :: signer.pretty)

theorem authCacheKey_injective {payer payer' signer signer' : Address}
    (same : authCacheKey payer signer = authCacheKey payer' signer') :
    payer = payer' ∧ signer = signer' := by
  have text := String.ofList_injective same
  obtain ⟨first, second⟩ := Bytes.append_separator_inj signer.bar_not_mem_pretty
    signer'.bar_not_mem_pretty text
  exact ⟨Address.pretty_injective first, Address.pretty_injective second⟩

namespace AuthService

variable (s : AuthService)

/-- `strings.ToLower`. -/
def lower (name : String) : String := String.ofList (name.toList.map s.toLower)

/-- A turn of the loop that fills `lowerHeaders`. -/
def lowerHeader (lowerHeaders : AList (fun _ : String => List String))
    (header : String × Option (List String)) : AList (fun _ : String => List String) :=
  match header.2 with
  | none | some [] => lowerHeaders
  | some (value :: values) => lowerHeaders.insert (s.lower header.1) (value :: values)

def lowerHeaders (headers : UntrustedHeaders) : AList (fun _ : String => List String) :=
  headers.foldl s.lowerHeader ∅

/-- The first value of a header. -/
def headerValue (headers : UntrustedHeaders) (name : String) : Option String :=
  ((s.lowerHeaders headers).lookup (s.lower name)).bind List.head?

def missingHeader {α : Type} (name : String) : Except AuthFailure α :=
  refuse .unauthenticated s!"missing {name} header"

/-- `ValidateAuth` up to the validation of the RAV. -/
def readRAV (headers : UntrustedHeaders) : Except AuthFailure SignedRAV :=
  match s.headerValue headers headerRAV with
  | none => missingHeader headerRAV
  | some ravHeader =>
    match decodeRAVFromHeader s.protobuf ravHeader.toList with
    | .error err => refuse .invalidArgument s!"invalid {headerRAV} header: {err}"
    | .ok signedRAV =>
      match protoSignedRAVToHorizon signedRAV with
      | .error err => refuse .invalidArgument s!"invalid RAV: {err}"
      | .ok horizonRAV => .ok horizonRAV

/-- `signedRAV.RecoverSigner(s.domain)`. -/
def recoverSigner (signedRAV : SignedRAV) : Except AuthFailure Address :=
  match hashTypedData s.keccak256 s.domain signedRAV.message with
  | none => .error .panicked
  | some hash =>
    match s.recover signedRAV.signature hash with
    | .error err => refuse .unauthenticated s!"invalid signature: {err}"
    | .ok signer => .ok signer

/-- The lookup of `isSignerAuthorized` for a signer that is not the payer itself. The entry expires
30 seconds after the reading of the clock that came before the query. -/
def queryAuthorization (payer signer : Address) : Program (Except String Bool) := do
  let key := authCacheKey payer signer
  let now ← onService .now
  let cached ← onService (.authCacheGet key)
  match cached.filter (fun entry => now < entry.expires) with
  | some entry => return .ok entry.ok
  | none =>
    match ← onService (.isAuthorized payer signer) with
    | .error err => return .error err
    | .ok ok =>
      onService (.authCacheSet key ⟨ok, now + authCacheLifetime⟩)
      return .ok ok

def isSignerAuthorized (payer signer : Address) : Program (Except String Bool) :=
  if addressesEqual payer signer then return .ok true
  else if s.hasCollectorQuerier then queryAuthorization payer signer
  else return .ok false

def validateRAV (signedRAV : SignedRAV) : Program (Except AuthFailure AuthResult) :=
  match s.recoverSigner signedRAV with
  | .error failure => return .error failure
  | .ok signer => do
    let payer := signedRAV.message.payer
    let payerText := String.ofList payer.pretty
    match ← s.isSignerAuthorized payer signer with
    | .error err => return refuse .internal s!"authorization check failed: {err}"
    | .ok false =>
      let signerText := String.ofList signer.pretty
      return refuse .permissionDenied
        s!"signer {signerText} is not authorized for payer {payerText}"
    | .ok true =>
      if addressesEqual signedRAV.message.serviceProvider s.serviceProvider then
        return .ok { organizationId := payerText, apiKeyId := "" }
      else
        let got := String.ofList signedRAV.message.serviceProvider.pretty
        let expected := String.ofList s.serviceProvider.pretty
        return refuse .permissionDenied s!"RAV targets service provider {got}, not {expected}"

/-- The checks of `validateSession` on the session that it has found. A keep-alive that cannot be
stored is only logged. -/
def checkSession (sess : Session) (sessionID organizationID : String) :
    Program (Except String Unit) :=
  if sess.isActive then do
    let now ← onService .now
    if sessionKeepAliveTimeout < now - sess.lastKeepAlive then
      let later ← onService .now
      let idle := s.durationText (later - sess.lastKeepAlive)
      return .error s!"session has been idle for too long (last activity: {idle} ago)"
    else if String.ofList sess.payer.pretty = organizationID then
      let lastKeepAlive ← onService .now
      let _ ← onProvider (InMemory.sessionTouch sessionID lastKeepAlive)
      return .ok ()
    else
      let payer := String.ofList sess.payer.pretty
      return .error s!"session payer mismatch (session: {payer}, auth: {organizationID})"
  else
    let status := Workers.statusText sess.status
    return .error s!"session is not active (status: {status})"

/-- `SessionGet` wraps `ErrNotFound`, so that the comparison with `==` fails for a session that
does not exist. -/
def validateSession (sessionID organizationID : String) : Program (Except String Unit) :=
  if s.hasRepository then do
    match ← onProvider (InMemory.sessionGet sessionID) with
    | .error err =>
      if err = .notFound then return .error "session not found"
      else
        let reason := err.text
        return .error s!"failed to retrieve session: {reason}"
    | .ok sess => s.checkSession sess sessionID organizationID
  else return .error "session validation not available (repository not configured)"

def trustedHeaders (result : AuthResult) (ipAddress sessionID : String) : TrustedHeaders :=
  let trusted := (((∅ : TrustedHeaders).insert .organizationID result.organizationId).insert .ip
    ipAddress).insert .sessionID sessionID
  if result.apiKeyId ≠ "" then trusted.insert .apiKeyID result.apiKeyId else trusted

def validateAuth (req : ValidateAuthRequest) : Program (Except AuthFailure TrustedHeaders) :=
  match s.readRAV req.untrustedHeaders with
  | .error failure => return .error failure
  | .ok horizonRAV => do
    match ← s.validateRAV horizonRAV with
    | .error failure => return .error failure
    | .ok result =>
      match s.headerValue req.untrustedHeaders headerSessionID with
      | none => return missingHeader headerSessionID
      | some sessionID =>
        match ← s.validateSession sessionID result.organizationId with
        | .error err => return refuse .unauthenticated s!"invalid session: {err}"
        | .ok () => return .ok (trustedHeaders result req.ipAddress sessionID)

end AuthService

end Sdsce.Source.Auth
