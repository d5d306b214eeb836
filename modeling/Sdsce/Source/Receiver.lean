import Sdsce.Source.System

/-!
# The receive goroutine of a payment stream

`receivePaymentSessionRequests` of `provider/gateway/handler_payment_session.go` beside the handlers
of the provider. A stream's handler takes its requests from a channel that the goroutine fills. The
handler is `Gateway.paymentSession`; each request that it selects is taken out of the channel, so
that it goes through its list of inputs in the order in which the goroutine has received them.

`stream.Receive` fails once the handler has returned; until then it delivers what the peer sends.
-/
namespace Sdsce.Source.Receiver

open Sdsce.Theory Sdsce.Source.Gateway

/-- The channel `requests` of a stream with its peer. -/
structure Requests where
  buffer : List StreamInput := []
  unread : List StreamInput := []
  returned : Bool := false

/-- Capacity of the channel that `PaymentSession` makes for its requests. -/
def requestsCapacity : Nat := 1

/-- `res.err != nil`. -/
def isError : StreamInput → Bool
  | .request _ => false
  | .closed | .failed => true

inductive ReceiveAct : Type → Type
  | receive : ReceiveAct StreamInput
  | send (result : StreamInput) : ReceiveAct Unit
  | handlerReturns : ReceiveAct Unit

/-- An action of a handler, or one on the stream. -/
inductive GoroutineAct (β : Type)
  | handler (a : Act β)
  | stream (a : ReceiveAct β)

/-- The goroutines of a call. -/
inductive Goroutine where
  | handler (i : ThreadId)
  | receiver (i : ThreadId)
deriving DecidableEq

def Goroutine.call : Goroutine → ThreadId
  | handler i | receiver i => i

structure State where
  world : World := {}
  requests : ThreadId → Requests

/-- The `select` of `PaymentSession` takes a request. -/
def takesRequest {β : Type} (a : Act β) (e : Oracle) : Bool :=
  match a with
  | .runtime a =>
    match a with
    | .select _ _ => e.choice = .request
    | _ => false
  | _ => false

namespace Requests

def execStream {β : Type} (a : ReceiveAct β) (r : Requests) : Option (Requests × β) :=
  match β, a with
  | _, .receive =>
    if r.returned then some (r, .failed)
    else
      match r.unread with
      | [] => none
      | input :: unread => some ({ r with unread }, input)
  | _, .send result =>
    if r.buffer.length < requestsCapacity then
      some ({ r with buffer := r.buffer ++ [result] }, ())
    else none
  | _, .handlerReturns => some ({ r with returned := true }, ())

/-- The channel after an action of the handler. -/
def taken (r : Requests) (takes : Bool) : Option Requests :=
  if takes then
    match r.buffer with
    | [] => none
    | _ :: buffer => some { r with buffer }
  else some r

end Requests

def State.exec (i : ThreadId) {β : Type} (a : GoroutineAct β) (e : Oracle) (s : State) :
    Option (State × β) :=
  match a with
  | .handler a =>
    match machine.exec i a e s.world, (s.requests i).taken (takesRequest a e) with
    | some (world, b), some requests =>
      some (⟨world, Function.update s.requests i requests⟩, b)
    | _, _ => none
  | .stream a =>
    match (s.requests i).execStream a with
    | some (requests, b) => some ({ s with requests := Function.update s.requests i requests }, b)
    | none => none

def goroutines : Machine GoroutineAct Goroutine Oracle State where
  exec j := State.exec j.call

abbrev Routine := Prog GoroutineAct

def stream {β : Type} (a : ReceiveAct β) : Routine β := .perform (.stream a)

/-- A turn of the loop of `receivePaymentSessionRequests`. -/
def receiveTurn : Routine (Unit ⊕ Unit) := do
  let result ← stream .receive
  stream (.send result)
  return if isError result then .inr () else .inl ()

def receivePaymentSessionRequests : Routine Unit := .iterate (fun _ => receiveTurn) ()

/-- A handler on its goroutine. -/
def call (g : Gateway) (handler : Handler) : Routine Unit := do
  let _ ← (handler.program g).lift .handler
  stream .handlerReturns

/-- What the peer of a stream sends. -/
def inputsOf : Handler → List StreamInput
  | .paymentSession inputs => inputs
  | _ => []

/-- The goroutine that a handler starts. -/
def receiverOf : Handler → Routine Unit
  | .paymentSession _ => receivePaymentSessionRequests
  | _ => .ret ()

/-- A gateway that has just started, with the goroutines of its calls. -/
def start (g : Gateway) (pool : Pool) : Config GoroutineAct Goroutine State Unit where
  shared := { requests := fun i => { unread := inputsOf (pool i) } }
  threads
    | .handler i => call g (pool i)
    | .receiver i => receiverOf (pool i)

end Sdsce.Source.Receiver
