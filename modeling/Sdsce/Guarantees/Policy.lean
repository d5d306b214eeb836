import Sdsce.Guarantees.RepositoryTriples
import Sdsce.Source.System
import Sdsce.Theory.Knowledge

/-!
# What the provider's handlers promise

The policy that every handler of a gateway keeps: where a stored session, an accepted RAV, an
in-flight request and a settlement report come from. Everything is said about the history,
so that it stays true whatever the other threads do.
-/
namespace Sdsce.Guarantees

open Sdsce.Theory Sdsce.Source Sdsce.Source.InMemory

/-! ## Sources of data -/

/-- The signed RAVs that a handler is given on the wire. -/
def submissions : Handler → List Proto.SignedRAV
  | .startSession req => req.initialRav.toList
  | .submitRAV req => req.signedRav.toList
  | .paymentSession inputs => inputs.filterMap fun
      | .request { message := some (.ravSubmission (some submission)), .. } => submission.signedRav
      | _ => none
  | _ => []

/-- The thread was handed this RAV. -/
def Submits (pool : Pool) (i : ThreadId) (rav : SignedRAV) : Prop :=
  ∃ psr ∈ submissions (pool i), protoSignedRAVToHorizon psr = .ok rav

def isSubmitRAV : Handler → Bool
  | .submitRAV _ => true
  | _ => false

/-- The thread is a `SubmitRAV` call. -/
def CallsSubmitRAV (pool : Pool) (i : ThreadId) : Prop := isSubmitRAV (pool i) = true

instance (pool : Pool) (i : ThreadId) : Decidable (CallsSubmitRAV pool i) :=
  inferInstanceAs (Decidable (_ = true))

/-- The session is one that `StartSession` opens. -/
def Opened (g : Gateway) (pool : Pool) (i : ThreadId) (session : Session) : Prop :=
  ∃ id payer dataService initialRAV now,
    session = g.consumerSession id payer dataService initialRAV now ∧
    ∀ rav, initialRAV = some rav →
      Submits pool i rav ∧ g.checkInitialRAV payer dataService rav = .ok ()

/-- The request was made from a session that was once stored. -/
def Requested (h : History) (id : String) (pending : PendingRAVRequest) : Prop :=
  ∃ session, Stored h id session ∧
    newPendingRAVRequest session (requestedUsage session) = some pending

/-- The request quotes the RAV and the unpaid usage of a session that was once stored. -/
def Quoted (h : History) (id : String) (currentRav : Proto.SignedRAV) (usage : Proto.Usage) :
    Prop :=
  ∃ session rav, Stored h id session ∧ session.currentRAV = some rav ∧
    currentRav = horizonSignedRAVToProto rav ∧ usage = requestedUsage session

/-- The value with which the thread has just compared a RAV for this session. -/
def comparedWith (i : ThreadId) (h : History) (id : String) : Option Int :=
  match (own i h).getLast? with
  | some ⟨_, .note (.checked id' value)⟩ => if id' = id then some value else none
  | _ => none

/-- The unpaid cost of a session as a request carries it. -/
def requestedCost (session : Session) : Int :=
  (Proto.GRT.fromBigInt session.usageDeltaSinceBaseline.cost).toBigInt

/-- The value and the baseline of an accepted RAV belong to one stored session. -/
structure Covers (pool : Pool) (i : ThreadId) (rav : SignedRAV) (blocks bytes reqs : UInt64)
    (cost : Int) (session : Session) : Prop where
  blocks : blocks = session.blocksProcessed
  bytes : bytes = session.bytesTransferred
  reqs : reqs = session.requests
  cost : cost = session.totalCost
  value : rav.message.valueAggregate = session.ravValue + requestedCost session ∨
    (CallsSubmitRAV pool i ∧
      session.ravValue + session.usageDeltaSinceBaseline.cost ≤ rav.message.valueAggregate)

/-- What a handler has made sure of when it accepts a RAV. -/
structure Vetted (g : Gateway) (pool : Pool) (i : ThreadId) (h : History) (id : String)
    (rav : SignedRAV) (blocks bytes reqs : UInt64) (cost : Int) : Prop where
  submits : Submits pool i rav
  provider : rav.message.serviceProvider = g.serviceProvider
  parties : ∃ session, Stored h id session ∧ rav.message.payer = session.payer ∧
    (CallsSubmitRAV pool i ∨ rav.message.dataService = session.dataService)
  covers : ∃ session, Stored h id session ∧ Covers pool i rav blocks bytes reqs cost session

/-- A commit follows the comparison with a value that the RAV does not fall below. -/
structure Commits (g : Gateway) (pool : Pool) (i : ThreadId) (h : History) (id : String)
    (rav : SignedRAV) (blocks bytes reqs : UInt64) (cost : Int) : Prop extends
    Vetted g pool i h id rav blocks bytes reqs cost where
  compared : ∃ value ∈ comparedWith i h id, value ≤ rav.message.valueAggregate

def mayUpdate (g : Gateway) (pool : Pool) (i : ThreadId) (h : History) (id : String) :
    SessionUpdate → Prop
  | .ravAndBaseline (some rav) blocks bytes reqs cost _ =>
    Commits g pool i h id rav blocks bytes reqs cost
  | .ravAndBaseline none _ _ _ _ _ => False
  | .applyUsage blocks bytes _ cost _ =>
    cost = (g.pricingConfig.calculateUsageCost blocks bytes).bigInt
  | .touch _ => True
  | .runtimeState _ _ _ _ _ => True

/-- A collect transaction for this value under this settlement tuple succeeded. -/
def Paid (h : History) (key : CollectionKey) (value : Int) : Prop :=
  ∃ j call, ⟨j, .note (.receipt call true)⟩ ∈ h ∧ call.rav.valueAggregate = value ∧
    collectionKeyFromRAV key.sessionID call.rav = key

def mayMark (h : History) (key : CollectionKey) (value : Int) : CollectionMark → Prop
  | .collected _ _ => Paid h key value
  | _ => True

def mayRequest (h : History) : OperatorRequest → Prop
  | .markCollection key expected (.collected _ _) => ∀ k v,
      Operator.mutationKeyAndExpectedValue key expected = .ok (k, v) → Paid h k v
  | _ => True

/-- The submission answers the in-flight request exactly. -/
structure Exact (g : Gateway) (session : Session) (submission : SignedRAVSubmission)
    (pending : PendingRAVRequest) (rav : SignedRAV) (signer : Address) : Prop where
  usage : ∃ usage, submission.usage = some usage ∧ pending.matchesUsage usage = true
  wire : ∃ psr, submission.signedRav = some psr ∧ protoSignedRAVToHorizon psr = .ok rav
  signer : g.recoverSigner rav = .ok signer
  payer : rav.message.payer = session.payer
  serviceProvider : rav.message.serviceProvider = g.serviceProvider
  dataService : rav.message.dataService = session.dataService
  value : rav.message.valueAggregate = pending.targetValue

/-- The entry was made after `h₀`. -/
def Since (h₀ : History) (event : Event) (h : History) : Prop :=
  ∃ tail, h = h₀ ++ tail ∧ event ∈ tail

/-- Since `h₀`, an exact submission by an authorized signer was stored and is answered with
CONTINUE, or its commit met a conflicting record. -/
def Settles (g : Gateway) (i : ThreadId) (h₀ : History) (id : String) (session : Session)
    (submission : SignedRAVSubmission) (pending : PendingRAVRequest)
    (response : PaymentSessionResponse) (h : History) : Prop :=
  ∀ rav signer, Exact g session submission pending rav signer →
    (∀ answer, Since h₀ ⟨i, .note (.authorization session.payer signer answer)⟩ h →
      answer = .ok true) →
    (response = continuePaymentSessionResponse ∧
      ∃ old now, Since h₀ ⟨i, .swapped id old (.ravAndBaseline (some rav) pending.baselineBlocks
        pending.baselineBytes pending.baselineReqs pending.baselineCost now)⟩ h) ∨
    (response = stopPaymentSessionResponse "failed to update session state" ∧
      ∃ h', h₀ <+: h' ∧ h' <+: h ∧ Conflict h' id rav)

/-- The answer to a submission, counted from the moment it met its in-flight request. -/
def Answered (g : Gateway) (i : ThreadId) (h : History) (id : String) (session : Session)
    (submission : SignedRAVSubmission) (pending : PendingRAVRequest)
    (response : PaymentSessionResponse) : Prop :=
  ∃ h₀, h₀ ++ [⟨i, .note (.inFlight id session submission pending)⟩] <+: h ∧
    Settles g i (h₀ ++ [⟨i, .note (.inFlight id session submission pending)⟩]) id session
      submission pending response h

def mayNote (g : Gateway) (i : ThreadId) (h : History) : Note → Prop
  | .requested id currentRav usage => Quoted h id currentRav usage
  | .answered id session submission pending response =>
    Answered g i h id session submission pending response
  | .receipt _ _ => False
  | _ => True

/-! ## The policy -/

variable {h h' : History} {id : String} {g : Gateway} {pool : Pool} {i : ThreadId} {rav : SignedRAV}
  {blocks bytes reqs : UInt64} {cost : Int}

theorem Requested.mono {pending : PendingRAVRequest} (grown : h <+: h')
    (requested : Requested h id pending) : Requested h' id pending := by
  obtain ⟨session, stored, made⟩ := requested
  exact ⟨session, stored.mono grown, made⟩

theorem Paid.mono {key : CollectionKey} {value : Int} (grown : h <+: h') (paid : Paid h key value) :
    Paid h' key value := by
  obtain ⟨j, call, member, rest⟩ := paid
  exact ⟨j, call, grown.subset member, rest⟩

theorem Vetted.mono (grown : h <+: h') (vetted : Vetted g pool i h id rav blocks bytes reqs cost) :
    Vetted g pool i h' id rav blocks bytes reqs cost where
  submits := vetted.submits
  provider := vetted.provider
  parties := by
    obtain ⟨session, stored, rest⟩ := vetted.parties
    exact ⟨session, stored.mono grown, rest⟩
  covers := by
    obtain ⟨session, stored, rest⟩ := vetted.covers
    exact ⟨session, stored.mono grown, rest⟩

theorem Commits.mono (grows : GrowsFor i h h')
    (commits : Commits g pool i h id rav blocks bytes reqs cost) :
    Commits g pool i h' id rav blocks bytes reqs cost where
  toVetted := commits.toVetted.mono grows.pre
  compared := by
    obtain ⟨value, compared, rest⟩ := commits.compared
    refine ⟨value, ?_, rest⟩
    rw [comparedWith, grows.same]
    exact compared

/-- The promise of every handler of the gateway `g`. -/
def providerPolicy (g : Gateway) (pool : Pool) : Policy where
  create i _ session := Opened g pool i session
  update := mayUpdate g pool
  mark := mayMark
  pending := Requested
  request := mayRequest
  note := mayNote g
  create_mono _ opened := opened
  update_mono := by
    intro i h h' id u grows allowed
    cases u with
    | ravAndBaseline rav =>
      cases rav with
      | none => exact allowed
      | some rav => exact Commits.mono grows allowed
    | _ => exact allowed
  mark_mono := by
    intro h h' key value m grown allowed
    cases m with
    | collected => exact Paid.mono grown allowed
    | _ => trivial
  pending_mono := Requested.mono
  request_mono := by
    intro h h' r grown allowed
    cases r with
    | markCollection key expected mark =>
      cases mark with
      | collected => exact fun k v parsed => (allowed k v parsed).mono grown
      | _ => trivial
    | _ => trivial

/-! ## Knowledge about the history -/

section History

variable {P : Policy} {i : ThreadId}

/-- A statement about the history that its growth keeps. -/
def recorded (P : Policy) (i : ThreadId) (A : History → Prop)
    (mono : ∀ h h', h <+: h' → A h → A h') : (discipline P).Knowledge i where
  holds w := A w.history
  persistent :=
    ⟨fun _ _ _ _ r => mono _ _ r.grows.pre, fun {_ _ _ _ _ _} _ allowed ran =>
      mono _ _ (exec_effect allowed ran).history⟩

/-- The session was once stored. -/
def stored (P : Policy) (i : ThreadId) (id : String) (session : Session) :
    (discipline P).Knowledge i :=
  recorded P i (fun h => Stored h id session) fun _ _ => Stored.mono

/-- The history began like this. -/
def after (P : Policy) (i : ThreadId) (h₀ : History) : (discipline P).Knowledge i :=
  recorded P i (fun h => h₀ <+: h) fun _ _ grown before => before.trans grown

variable {h₀ h h' : History}

theorem Since.mono {event : Event} (grown : h <+: h') (since : Since h₀ event h) :
    Since h₀ event h' := by
  obtain ⟨tail, rfl, member⟩ := since
  obtain ⟨rest, rfl⟩ := grown
  exact ⟨tail ++ rest, List.append_assoc _ _ _, List.mem_append_left _ member⟩

theorem Since.last (before : h₀ <+: h) (event : Event) : Since h₀ event (h ++ [event]) := by
  obtain ⟨tail, rfl⟩ := before
  exact ⟨tail ++ [event], List.append_assoc _ _ _, by simp⟩

theorem Settles.mono {g : Gateway} {id : String} {session : Session}
    {submission : SignedRAVSubmission} {pending : PendingRAVRequest}
    {response : PaymentSessionResponse} (grown : h <+: h')
    (settles : Settles g i h₀ id session submission pending response h) :
    Settles g i h₀ id session submission pending response h' := by
  intro rav signer exact authorized
  rcases settles rav signer exact fun answer noted => authorized answer (noted.mono grown) with
    ⟨response, old, now, swapped⟩ | ⟨response, h'', after, before, conflict⟩
  · exact .inl ⟨response, old, now, swapped.mono grown⟩
  · exact .inr ⟨response, h'', after, before.trans grown, conflict⟩

def since (P : Policy) (i : ThreadId) (h₀ : History) (event : Event) :
    (discipline P).Knowledge i :=
  recorded P i (Since h₀ event) fun _ _ => Since.mono

end History

end Sdsce.Guarantees
