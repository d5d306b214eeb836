import Sdsce.Guarantees.Footprints
import Sdsce.Theory.Protocol

/-!
# What a handler does with the runtime manager

A stream makes its channel once, binds it once, and unbinds no other; a stream that was refused
only unbinds. An evaluation mutex is unlocked by the thread that has locked it, and an entry is
accessed without the manager's mutex only by the thread that holds the entry's own. All handlers
of the provider follow this protocol.
-/
namespace Sdsce.Guarantees.Streams

open Sdsce.Theory Sdsce.Source Sdsce.Source.InMemory Sdsce.Source.Gateway

/-! ## The loop of a stream under any protocol -/

section Rules

variable {L : Type} {P : Protocol Act L}

/-- A protocol that speaks of the runtime manager only. -/
def Confined (P : Protocol Act L) : Prop :=
  ∀ (l : L) {β : Type} (a : Act β), Apart a → P.allows l a ∧ ∀ b, P.next l a b = l

theorem Confined.keeps {α : Type} {p : Program α} (confined : Confined P) (apart : p.Only Apart)
    (l : L) : P.Keeps l p :=
  .of_only (confined l) apart

/-- A turn that changes neither the variables of the loop nor the local state. -/
def SameTurn (s : StreamState) (l : L) (turn : Turn) (l' : L) : Prop :=
  l' = l ∧ (turn = .inl s ∨ ∃ result, turn = .inr (s, result))

variable {s : StreamState} {l : L} {g : Gateway}

/-- After such a turn what held between two turns still holds, or it is left. -/
theorem SameTurn.elim {Between Leaving : StreamState → L → Prop} {l' : L} {turn : Turn}
    (same : SameTurn s l turn l') (here : Between s l) (leaving : Leaving s l) :
    Sum.elim Between (fun r => Leaving r.1) turn l' := by
  obtain ⟨rfl, rfl | ⟨result, rfl⟩⟩ := same
  · exact here
  · exact leaving

theorem streamSend_keeps (confined : Confined P) (l : L) (response : PaymentSessionResponse) :
    P.Keeps l (outside (.streamSend response)) := by
  have apart : (outside (.streamSend response)).Only Apart := .perform trivial
  exact confined.keeps apart l

theorem sendAndReturn_follows (confined : Confined P) (s : StreamState) (l : L)
    (response : PaymentSessionResponse) :
    P.Follows (sendAndReturn s response) l fun turn l' => l' = l ∧
      ∃ result, turn = .inr (s, result) :=
  (streamSend_keeps confined l response).bind fun _ => ⟨rfl, _, rfl⟩

theorem sendAndReturn_same (confined : Confined P) (s : StreamState) (l : L)
    (response : PaymentSessionResponse) :
    P.Follows (sendAndReturn s response) l (SameTurn s l) :=
  (sendAndReturn_follows confined s l response).mono fun _ _ sent => ⟨sent.1, .inr sent.2⟩

theorem sendAndContinue_same (confined : Confined P) (s : StreamState) (l : L)
    (response : PaymentSessionResponse) :
    P.Follows (sendAndContinue s response) l (SameTurn s l) := by
  refine (streamSend_keeps confined l response).bind ?_
  rintro (_ | _ | _)
  · change SameTurn s l (if _ then _ else _) l
    split
    · exact ⟨rfl, .inr ⟨_, rfl⟩⟩
    · exact ⟨rfl, .inl rfl⟩
  · exact ⟨rfl, .inr ⟨_, rfl⟩⟩
  · exact ⟨rfl, .inr ⟨_, rfl⟩⟩

theorem handleMessage_same (confined : Confined P) (submissions : ∀ session submission,
      P.Keeps l (g.handleRAVSubmission s.sessionID session submission))
    (acknowledgments : ∀ willDeposit, P.Keeps l (handleFundsAcknowledgment s.sessionID willDeposit))
    (message : Option PaymentSessionMessage) :
    P.Follows (g.handleMessage s message) l (SameTurn s l) := by
  refine (confined.keeps (sessionGet_apart s.sessionID) l).bind ?_
  rintro (_ | session)
  · exact sendAndReturn_same confined s l _
  dsimp only
  split
  · split
    · exact ⟨rfl, .inl rfl⟩
    · exact (submissions session _).bind fun _ => sendAndContinue_same confined s l _
    · exact (acknowledgments _).bind fun _ => sendAndContinue_same confined s l _
  · exact sendAndReturn_same confined s l _

/-- What holds between two turns of the loop, and what holds when it is left. -/
structure StreamRule (P : Protocol Act L) (g : Gateway) (Between Leaving : StreamState → L → Prop) :
    Prop where
  confined : Confined P
  inputs : ∀ {s l} inputs, Between s l → Between { s with inputs } l
  leaving : ∀ {s l}, Between s l → Leaving s l
  select : ∀ {s l} events requests, Between s l → P.Keeps l (runtime (.select events requests))
  message : ∀ {s l} message, Between s l → s.sessionID ≠ "" →
    P.Follows (g.handleMessage s message) l (SameTurn s l)
  bind : ∀ {s l} id message, Between s l → s.sessionID = "" →
    P.Follows (g.bindStream s id message) l (Sum.elim Between fun r => Leaving r.1)

namespace StreamRule

variable {g : Gateway} {Between Leaving : StreamState → L → Prop} {s : StreamState} {l : L}

theorem same (rule : StreamRule P g Between Leaving) (here : Between s l) (turn : Turn) (l' : L)
    (same : SameTurn s l turn l') : Sum.elim Between (fun r => Leaving r.1) turn l' :=
  same.elim here (rule.leaving here)

theorem turn (rule : StreamRule P g Between Leaving) (here : Between s l) :
    P.Follows (g.paymentSessionTurn s) l (Sum.elim Between fun r => Leaving r.1) := by
  refine (rule.select _ _ here).bind ?_
  rintro (_ | response | _)
  · exact rule.leaving here
  · exact (sendAndContinue_same rule.confined s l response).mono (rule.same here)
  dsimp only
  split
  · exact rule.leaving here
  rename_i input inputs _
  have kept := rule.inputs inputs here
  cases input with
  | closed | failed => exact rule.leaving kept
  | request msg =>
    dsimp only [handleRequest]
    split
    · next unbound => exact rule.bind _ _ kept unbound
    rename_i named
    split
    · exact (sendAndReturn_same rule.confined _ l _).mono (rule.same kept)
    · exact (rule.message _ kept named).mono (rule.same kept)

theorem loop (rule : StreamRule P g Between Leaving) (here : Between s l) :
    P.Follows (.iterate g.paymentSessionTurn s) l fun r => Leaving r.1 :=
  .iterate Between here fun _ _ => rule.turn

end StreamRule

theorem reportEvent_keeps (confined : Confined P) (metered : ∀ id, P.Keeps l (g.onMeteredUsage id))
    (event : Option MeteringEvent) : P.Keeps l (g.reportEvent event) := by
  unfold reportEvent
  split
  · exact .ret _
  rename_i event
  split
  · exact .ret _
  have now : (outside .now).Only Apart := .perform trivial
  refine (confined.keeps now l).bind fun _ => ?_
  refine (confined.keeps ((sessionApplyUsage_onRepository _ _ _).mono OnRepository.apart)
    l).bind ?_
  rintro (err | _)
  · dsimp only
    split
    · exact rfl
    · exact (metered _).bind fun _ => rfl
  · exact (metered _).bind fun _ => rfl

/-- A handler follows a protocol if the streams and the evaluations do. -/
theorem program_follows_of (confined : Confined P)
    (asks : ∀ {β : Type} (a : Act β), Asking a → P.allows l a ∧ ∀ b, P.next l a b = l)
    (stream : ∀ inputs, P.Follows (g.paymentSession inputs) l fun _ _ => True)
    (metered : ∀ id, P.Keeps l (g.onMeteredUsage id)) (handler : Handler) :
    P.Follows (handler.program g) l fun _ _ => True := by
  have reply {α : Type} {p : Program α} (wrap : α → Reply) (kept : P.Keeps l p) :
      P.Follows (Handler.reply p wrap) l fun _ _ => True :=
    kept.bind fun _ => trivial
  cases handler with
  | startSession req => exact reply _ (confined.keeps (startSession_apart g req) l)
  | paymentSession inputs => exact (stream inputs).bind fun _ _ _ => trivial
  | submitRAV req => exact reply _ (.of_only asks (submitRAV_asking g req))
  | getSessionStatus sessionID activeWorkers =>
    exact reply _ (.of_only asks (getSessionStatus_asking g sessionID activeWorkers))
  | report events => exact reply _ (.forEach (reportEvent_keeps confined metered) events)
  | keepAlive sessionID payer => exact reply _ (confined.keeps (keepAlive_apart sessionID payer) l)
  | operatorRPC => exact reply _ (confined.keeps serve_apart l)
  | collect opts => exact reply _ (confined.keeps (collect_apart opts) l)
  | collectDaemon collector => exact reply _ (confined.keeps (collectDaemon_apart collector) l)

end Rules

/-! ## The protocol -/

/-- How far the stream of a thread has come. A handler that is no stream stays `closed`. -/
inductive Stream where
  | closed
  | opened (events : Chan)
  | refused (events : Chan)
  | bound (events : Chan)
deriving DecidableEq

/-- The channel that a stream has made. -/
def Stream.channel : Stream → Option Chan
  | closed => none
  | opened events | refused events | bound events => some events

def Stream.isRefused : Stream → Bool
  | refused _ => true
  | _ => false

/-- A thread's stream, and the entry whose `evalMu` it holds: it runs a `withSessionEval` body
exactly while there is one. -/
structure Local where
  stream : Stream := .closed
  eval : Option StatePtr := none
deriving DecidableEq

/-- The entry that an action accesses outside the sections under `runtimeManager.mu`. -/
def direct {β : Type} : RuntimeAct β → Option StatePtr
  | .readPendingRAV p | .dropPendingRAV p | .dropQueuedResponse p => some p
  | _ => none

namespace Local

def allowsRuntime (l : Local) {β : Type} : RuntimeAct β → Prop
  | .makeEvents => l.stream = .closed
  | .bindLocked _ events => l.stream = .opened events
  | .cleanupSessionState _ events => l.stream = .bound events ∨ l.stream = .refused events
  | .lockEval _ => l.eval = none ∧ l.stream.isRefused = false
  | .unlockEval p => l.eval = some p ∧ l.stream.isRefused = false
  | .readPendingRAV p | .dropPendingRAV p | .dropQueuedResponse p =>
    l.eval = some p ∧ l.stream.isRefused = false
  | _ => l.stream.isRefused = false

def nextRuntime (l : Local) {β : Type} : RuntimeAct β → β → Local
  | .makeEvents, events => { l with stream := .opened events }
  | .bindLocked _ events, none => { l with stream := .refused events }
  | .bindLocked _ events, some _ => { l with stream := .bound events }
  | .lockEval p, _ => { l with eval := some p }
  | .unlockEval _, _ => { l with eval := none }
  | _, _ => l

def allows (l : Local) {β : Type} : Act β → Prop
  | .runtime a => l.allowsRuntime a
  | _ => True

def next (l : Local) {β : Type} : Act β → β → Local
  | .runtime a, b => l.nextRuntime a b
  | _, _ => l

end Local

def protocol : Protocol Act Local where
  allows l _ a := l.allows a
  next l _ a b := l.next a b

def SteadyRuntime {β : Type} : RuntimeAct β → Prop
  | .makeEvents | .bindLocked _ _ | .cleanupSessionState _ _ | .lockEval _ | .unlockEval _ => False
  | .readPendingRAV _ | .dropPendingRAV _ | .dropQueuedResponse _ => False
  | _ => True

/-- Actions that leave the local state alone and that every stream may perform unless it was
refused. -/
def Steady {β : Type} : Act β → Prop
  | .runtime a => SteadyRuntime a
  | _ => True

/-- A program that neither opens nor closes a stream, and evaluates nothing itself. -/
def Quiet {α : Type} (p : Program α) : Prop := p.Only Steady

variable {α β : Type} {s : StreamState} {p q : Program α}

/-- Programs that stay away from the runtime manager. -/
theorem Quiet.of_apart (apart : p.Only Apart) : Quiet p := by
  refine apart.mono fun a away => ?_
  cases a with
  | runtime _ => exact away.elim
  | _ => trivial

theorem Quiet.of_repository (only : p.Only OnRepository) : Quiet p :=
  .of_apart (only.mono OnRepository.apart)

variable {l : Local}

theorem steady_stays (accepted : l.stream.isRefused = false) (a : Act β) (steady : Steady a) :
    protocol.allows l a ∧ ∀ b, protocol.next l a b = l := by
  cases a with
  | runtime a =>
    cases a with
    | makeEvents | bindLocked | cleanupSessionState | lockEval | unlockEval | readPendingRAV
    | dropPendingRAV | dropQueuedResponse => exact steady.elim
    | _ => exact ⟨accepted, fun _ => rfl⟩
  | _ => exact ⟨trivial, fun _ => rfl⟩

theorem protocol_confined : Confined protocol := by
  intro l β a apart
  cases a with
  | runtime _ => exact apart.elim
  | _ => exact ⟨trivial, fun _ => rfl⟩

/-- An action away from the runtime manager leaves the local state alone. -/
theorem next_apart {a : Act β} (apart : Apart a) (l : Local) (b : β) : protocol.next l a b = l :=
  (protocol_confined l a apart).2 b

theorem Quiet.keeps (quiet : Quiet p) (accepted : l.stream.isRefused = false) :
    protocol.Keeps l p :=
  .of_only (steady_stays accepted) quiet

/-! ## Evaluations -/

/-- Programs that do no more than an evaluation. -/
theorem Quiet.of_evaluating (only : p.Only Evaluating) : Quiet p := by
  refine only.mono fun a evaluating => ?_
  cases a with
  | runtime a =>
    cases a with
    | makeEvents | bindLocked | cleanupSessionState | lockEval | unlockEval | readPendingRAV
    | dropPendingRAV | dropQueuedResponse => exact evaluating.elim
    | _ => trivial
  | _ => trivial

theorem tryDeliverQueuedResponse_quiet (id : String) (events : Chan) (queued : Option Queued)
    (pending : Option PendingRAVRequest) :
    Quiet (tryDeliverQueuedResponse id events queued pending) := by
  cases queued with
  | none => exact .ret _
  | some queued => exact .of_evaluating (deliver_evaluating id events queued pending)

theorem evaluateMeteredUsage_quiet (g : Gateway) (id : String) :
    Quiet (g.evaluateMeteredUsage id) :=
  .of_evaluating (evaluateMeteredUsage_evaluating g id)

/-- A thread outside of all streams and evaluations, or on a stream that was not refused. -/
structure Idle (l : Local) : Prop where
  eval : l.eval = none
  stream : l.stream.isRefused = false

/-- A body of `withSessionEval`: it may access its own entry directly. -/
def Body {α : Type} (p : StatePtr) (q : Program α) : Prop :=
  q.Only fun a => Steady a ∨ ∃ b, a = .runtime b ∧ direct b = some p

theorem Quiet.body (quiet : Quiet q) (p : StatePtr) : Body p q :=
  quiet.mono fun _ steady => .inl steady

theorem Body.access {p : StatePtr} {a : RuntimeAct β} (mine : direct a = some p) :
    Body p (runtime a) :=
  .perform (.inr ⟨a, rfl, mine⟩)

theorem Body.keeps {p : StatePtr} (body : Body p q) {stream : Stream}
    (accepted : stream.isRefused = false) : protocol.Keeps ⟨stream, some p⟩ q := by
  refine .of_only (fun a here => ?_) body
  obtain steady | ⟨b, rfl, mine⟩ := here
  · exact steady_stays accepted a steady
  · cases b with
    | readPendingRAV | dropPendingRAV | dropQueuedResponse =>
      exact ⟨⟨mine.symm, accepted⟩, fun _ => rfl⟩
    | _ => cases mine

theorem withSessionEval_keeps (idle : Idle l) (id : String) {fn : StatePtr → Program α}
    (body : ∀ p, Body p (fn p)) : protocol.Keeps l (withSessionEval id fn) := by
  obtain ⟨stream, eval⟩ := l
  obtain ⟨rfl, accepted⟩ := idle
  refine ⟨accepted, fun p => ⟨⟨rfl, accepted⟩, fun _ => ?_⟩⟩
  have inside : protocol.Keeps ⟨stream, some p⟩ (fn p) := (body p).keeps accepted
  exact inside.bind fun _ => ⟨⟨rfl, accepted⟩, fun _ => rfl⟩

theorem onMeteredUsage_keeps (idle : Idle l) (g : Gateway) (id : String) :
    protocol.Keeps l (g.onMeteredUsage id) :=
  withSessionEval_keeps idle id fun p => (evaluateMeteredUsage_quiet g id).body p

/-! ## Streams -/

theorem acceptSubmission_body (g : Gateway) (p : StatePtr) (id : String) (rav : SignedRAV)
    (pending : PendingRAVRequest) : Body p (g.acceptSubmission p id rav pending) := by
  refine .bind (.perform (.inl trivial)) fun _ => ?_
  refine ((Quiet.of_repository
    (sessionUpdateRAVAndBaseline_onRepository _ _ _ _ _ _)).body p).bind ?_
  rintro (_ | _)
  · exact .ret _
  · exact (Body.access rfl).bind fun _ => (Body.access rfl).bind fun _ =>
      ((evaluateMeteredUsage_quiet g id).body p).bind fun _ => .ret _

theorem answerInFlight_body (g : Gateway) (p : StatePtr) (id : String) (session : Session)
    (signedRav : Proto.SignedRAV) (usage : Option Proto.Usage) (pending : PendingRAVRequest) :
    Body p (g.answerInFlight p id session signedRav usage pending) := by
  unfold answerInFlight
  split
  · exact .ret _
  refine ((Quiet.of_apart (isSignerAuthorized_apart g _ _)).body p).bind ?_
  rintro (_ | _ | _)
  · exact .ret _
  · exact .ret _
  dsimp only
  split
  · exact .ret _
  · exact acceptSubmission_body g p _ _ _

theorem handleRAVSubmission_keeps (idle : Idle l) (g : Gateway) (id : String) (session : Session)
    (submission : Option SignedRAVSubmission) :
    protocol.Keeps l (g.handleRAVSubmission id session submission) := by
  unfold handleRAVSubmission
  split
  · exact .ret _
  split
  · exact .ret _
  refine withSessionEval_keeps idle id fun p => (Body.access rfl).bind ?_
  rintro (_ | pending)
  · exact (Quiet.of_apart (answerUnexpected_apart id)).body p
  · exact .bind (.perform (.inl trivial)) fun _ =>
      (answerInFlight_body g p _ _ _ _ _).bind fun _ =>
        .bind (.perform (.inl trivial)) fun _ => .ret _

theorem handleFundsAcknowledgment_quiet (id : String) (willDeposit : Option Bool) :
    Quiet (handleFundsAcknowledgment id willDeposit) := by
  cases willDeposit with
  | none => exact .ret _
  | some willDeposit => exact .bind (.perform trivial) fun _ => .ret _

/-- Between two turns: nothing is bound yet, or the stream's own channel is. -/
def Attached (s : StreamState) (l : Local) : Prop :=
  l.eval = none ∧ ((s.sessionID = "" ∧ s.events = none ∧ l.stream = .closed) ∨
    s.sessionID ≠ "" ∧ ∃ events, s.events = some events ∧ l.stream = .bound events)

/-- At the end of the loop the stream holds no channel but its own. -/
def Leaving (s : StreamState) (l : Local) : Prop :=
  ∀ events, s.events = some events → l.stream = .bound events ∨ l.stream = .refused events

theorem Attached.idle (here : Attached s l) : Idle l := by
  obtain ⟨eval, ⟨_, _, stream⟩ | ⟨_, events, _, stream⟩⟩ := here
  · exact ⟨eval, stream ▸ rfl⟩
  · exact ⟨eval, stream ▸ rfl⟩

theorem Attached.leaving (here : Attached s l) : Leaving s l := by
  obtain ⟨_, ⟨_, nothing, _⟩ | ⟨_, events, mine, stream⟩⟩ := here
  · intro events held
    cases nothing.symm.trans held
  · intro events' held
    cases mine.symm.trans held
    exact .inl stream

theorem Attached.same (here : Attached s l) (turn : Turn) (l' : Local)
    (same : SameTurn s l turn l') :
    Sum.elim Attached (fun r => Leaving r.1) turn l' :=
  same.elim here here.leaving

theorem bindSession_follows (g : Gateway) {id : String} (named : id ≠ "") (events : Chan) :
    protocol.Follows (g.bindSession id events) ⟨.opened events, none⟩ fun r l =>
      l = ⟨.bound events, none⟩ ∨ (∃ err, r = .error err) ∧ l = ⟨.refused events, none⟩ := by
  unfold bindSession
  rw [if_neg named]
  refine ⟨rfl, ?_⟩
  rintro (_ | ⟨queued, pending⟩)
  · exact .inr ⟨⟨_, rfl⟩, rfl⟩
  have idle : Idle ⟨.bound events, none⟩ := ⟨rfl, rfl⟩
  have deliver := (tryDeliverQueuedResponse_quiet id events queued pending).keeps idle.stream
  refine deliver.bind fun _ => (onMeteredUsage_keeps idle g id).bind ?_
  rintro (_ | _)
  · exact ⟨.inl rfl, fun _ => .inl rfl⟩
  · exact .inl rfl

theorem handleMessage_follows (idle : Idle l) (g : Gateway) (s : StreamState)
    (message : Option PaymentSessionMessage) :
    protocol.Follows (g.handleMessage s message) l (SameTurn s l) :=
  handleMessage_same protocol_confined (handleRAVSubmission_keeps idle g _)
    (fun _ => (handleFundsAcknowledgment_quiet _ _).keeps idle.stream) message

theorem bindStream_follows (here : Attached s l) (unbound : s.sessionID = "") (g : Gateway)
    (id : String) (message : Option PaymentSessionMessage) :
    protocol.Follows (g.bindStream s id message) l (Sum.elim Attached fun r => Leaving r.1) := by
  obtain ⟨stream, eval⟩ := l
  have closed : stream = .closed := by
    obtain ⟨_, ⟨_, _, stream⟩ | ⟨named, _⟩⟩ := here
    · exact stream
    · exact absurd unbound named
  obtain rfl : eval = none := here.1
  subst closed
  have stop (response : PaymentSessionResponse) :=
    (sendAndReturn_same protocol_confined s ⟨.closed, none⟩ response).mono here.same
  unfold bindStream
  split
  · exact stop _
  rename_i named
  refine (protocol_confined.keeps (sessionGet_apart id) _).bind ?_
  rintro (_ | session)
  · exact stop _
  dsimp only
  split
  · refine ⟨rfl, fun events => ?_⟩
    have bound : Attached { s with sessionID := id, events := some events }
        ⟨.bound events, none⟩ := ⟨rfl, .inr ⟨named, events, rfl, rfl⟩⟩
    refine (bindSession_follows g named events).bind ?_
    rintro (err | _) l (rfl | ⟨⟨_, failed⟩, rfl⟩)
    · exact (sendAndReturn_same protocol_confined _ _ _).mono bound.same
    · refine (sendAndReturn_follows protocol_confined _ _ _).mono ?_
      rintro _ _ ⟨rfl, result, rfl⟩ events' held
      cases held
      exact .inr rfl
    · cases message with
      | none => exact bound
      | some message => exact (handleMessage_follows bound.idle g _ _).mono bound.same
    · cases failed
  · exact stop _

theorem streamRule (g : Gateway) : StreamRule protocol g Attached Leaving where
  confined := protocol_confined
  inputs _ here := here
  leaving := Attached.leaving
  select _ _ here := .of_only (steady_stays here.idle.stream) (.perform trivial)
  message message here _ := handleMessage_follows here.idle g _ message
  bind id message here unbound := bindStream_follows here unbound g id message

theorem paymentSession_follows (g : Gateway) (inputs : List StreamInput) :
    protocol.Follows (g.paymentSession inputs) {} fun _ _ => True := by
  have start : Attached { inputs } {} := ⟨rfl, .inl ⟨rfl, rfl, rfl⟩⟩
  refine ((streamRule g).loop start).bind ?_
  rintro ⟨s, result⟩ l leaving
  dsimp only [unbindSession]
  split
  · trivial
  rename_i events held
  split
  · trivial
  · exact ⟨leaving events held, fun _ => trivial⟩

/-! ## The provider -/

theorem program_follows (g : Gateway) (handler : Handler) :
    protocol.Follows (handler.program g) {} fun _ _ => True := by
  refine program_follows_of protocol_confined (fun a asking => steady_stays rfl a ?_)
    (paymentSession_follows g) (onMeteredUsage_keeps ⟨rfl, rfl⟩ g) handler
  cases a with
  | runtime op =>
    cases op with
    | hasPendingRAV | hasPendingPaymentControl => trivial
    | _ => exact asking.elim
  | _ => trivial

/-- The provider with the local states of its threads. -/
def observedBoot (g : Gateway) (pool : Pool) :
    Config Act ThreadId (World × (ThreadId → Local)) Reply :=
  (boot g pool).observe fun _ => {}

theorem observedBoot_followed (g : Gateway) (pool : Pool) :
    protocol.Followed (fun _ _ => True) (observedBoot g pool) :=
  fun i => program_follows g (pool i)

end Sdsce.Guarantees.Streams
