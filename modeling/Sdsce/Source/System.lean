import Sdsce.Source.Collector

/-!
# The provider as one system

Any number of concurrent handlers of one gateway, operator RPCs, collect commands and collect
daemons over one in-memory repository. Every thread runs one of them; a thread that is never
scheduled again is a process that has crashed.
-/
namespace Sdsce.Source

open Sdsce.Theory

/-- What a thread has been started for. -/
inductive Handler where
  | startSession (req : StartSessionRequest)
  | paymentSession (inputs : List Gateway.StreamInput)
  | submitRAV (req : SubmitRAVRequest)
  | getSessionStatus (sessionID : String) (activeWorkers : Nat)
  | report (events : List (Option Gateway.MeteringEvent))
  | keepAlive (sessionID : String) (payer : Address)
  | operatorRPC
  | collect (opts : Collector.CollectOptions)
  | collectDaemon (collector : Collector.AutoCollector)

inductive Reply where
  | startSession (response : Except ConnectError StartSessionResponse)
  | paymentSession (result : Gateway.StreamEnd)
  | submitRAV (response : Except ConnectError SubmitRAVResponse)
  | getSessionStatus (response : Except ConnectError GetSessionStatusResponse)
  | collect (result : Except String Unit)
  | done

namespace Handler

/-- Run `p` and wrap its result. -/
def reply {α : Type} (p : Program α) (wrap : α → Reply) : Program Reply :=
  p.bind fun a => .ret (wrap a)

def program (g : Gateway) : Handler → Program Reply
  | startSession req => reply (g.startSession req) .startSession
  | paymentSession inputs => reply (g.paymentSession inputs) .paymentSession
  | submitRAV req => reply (g.submitRAV req) .submitRAV
  | getSessionStatus sessionID activeWorkers =>
    reply (g.getSessionStatus sessionID activeWorkers) .getSessionStatus
  | report events => reply (g.report events) fun _ => .done
  | keepAlive sessionID payer => reply (Gateway.keepAlive sessionID payer) fun _ => .done
  | operatorRPC => reply Operator.serve fun _ => .done
  | collect opts => reply (Collector.collect opts) .collect
  | collectDaemon collector => reply collector.run fun _ => .done

end Handler

/-- The handlers that will ever run, one for each thread. -/
abbrev Pool := ThreadId → Handler

/-- A gateway that has just started, over an empty repository. -/
def boot (g : Gateway) (pool : Pool) : Config Act ThreadId World Reply :=
  ⟨{}, fun i => (pool i).program g⟩

/-! ## A small deployment

One payer that signs for itself, one provider, one data service; the session that
`StartSession` opens is called `s`. -/
namespace Sample

def payer : Address := List.replicate 20 1

def serviceProvider : Address := List.replicate 20 2

def dataService : Address := List.replicate 20 3

/-- One unit for a block, nothing for bytes; every unpaid unit is asked for. -/
def gateway : Gateway where
  serviceProvider
  recoverSigner _ := .ok payer
  hasEscrowQuerier := false
  hasCollectorQuerier := false
  pricingConfig := ⟨⟨1⟩, ⟨0⟩⟩
  ravRequestThreshold := 0
  dataPlaneEndpoint := "localhost:10016"

def rav (value : Nat) : Proto.RAV where
  collectionId := CollectionID.zero.bytes
  payer := some payer
  dataService := some dataService
  serviceProvider := some serviceProvider
  timestampNs := 0
  valueAggregate := some (.fromBigInt value)
  metadata := []

def signed (rav : Proto.RAV) : Proto.SignedRAV := ⟨some rav, 27 :: List.replicate 64 1⟩

def start (value : Nat) : Handler :=
  .startSession ⟨some ⟨some payer, some serviceProvider, some dataService⟩,
    some (signed (rav value))⟩

def submit (rav : Proto.RAV) : Handler := .submitRAV ⟨"s", some (signed rav)⟩

def report (blocks : Int64) : Handler := .report [some ⟨"s", some 0, [some ⟨"blocks", blocks⟩]⟩]

/-- The usage of `blocks` blocks, at one unit each. -/
def usage (blocks : UInt64) : Proto.Usage := ⟨blocks, 0, 0, some (.fromBigInt blocks.toNat)⟩

/-- A stream whose first message pays for `blocks` blocks. -/
def pay (rav : Proto.RAV) (blocks : UInt64) : Handler :=
  .paymentSession [.request ⟨"s", some (.ravSubmission (some ⟨some (signed rav),
    some (usage blocks)⟩))⟩]

/-- The collect command for the session's record. -/
def collect : Handler :=
  .collect {
    key := ⟨"s", CollectionID.zero.bytes, some payer, some serviceProvider, some dataService⟩
    providerAddress := serviceProvider
    dataServiceAddress := dataService
    dataServiceCutPPM := 0
    tx := {
      legacy := false
      chainID := 42161
      gasLimit := 300000
      gasPrice := none
      maxFeePerGas := some 1
      maxPriorityFeePerGas := some 1
      noWait := false
      dryRun := false } }

/-- These handlers, and operator RPCs on all other threads. -/
def pool (handlers : List Handler) : Pool := fun i => handlers.getD i .operatorRPC

/-- The thread runs until it returns or blocks. -/
def whole (i : ThreadId) : ThreadId × Oracle × Nat := (i, { text := "s" }, 200)

/-- The thread serves an operator call from its arrival to its reply. -/
def serve (i : ThreadId) (call : Nat) : ThreadId × Oracle × Nat := (i, { call }, 200)

/-- The thread makes `n` steps. -/
def steps (i : ThreadId) (n : Nat) : ThreadId × Oracle × Nat := (i, { text := "s" }, n)

end Sample

end Sdsce.Source
