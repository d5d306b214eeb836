import Sdsce.Source.PaymentClient
import Sdsce.Theory.Protocol

/-!
# Generations of the payment client

The client is closed, binding or bound, and a generation goes through these stages once: an attempt
opens the stream of its generation, it is the only one to bind it, and what it finds after its send
is either its own binding or a later generation, which it leaves alone.
-/
namespace Sdsce.Guarantees.ClientGenerations

open Sdsce.Theory Sdsce.Source Sdsce.Source.PaymentClient Function

/-! ## Stages -/

inductive Stage where
  | closed
  | binding (stream : Nat) (sessionID : String) (done : Nat)
  | bound (stream : Nat) (sessionID : String)

namespace Stage

def stream : Stage → Option Nat
  | closed => none
  | binding stream _ _ | bound stream _ => some stream

def done : Stage → Option Nat
  | binding _ _ done => some done
  | closed | bound _ _ => none

def bindingSessionID : Stage → String
  | binding _ sessionID _ => sessionID
  | closed | bound _ _ => ""

def boundSessionID : Stage → String
  | bound _ sessionID => sessionID
  | closed | binding _ _ _ => ""

/-- Sessions have names. -/
def Named : Stage → Prop
  | closed => True
  | binding _ sessionID _ | bound _ sessionID => sessionID ≠ ""

/-- The fields of a client in this stage. -/
def client (stage : Stage) (providerEndpoint : String) (closes : Nat) : Client where
  providerEndpoint := providerEndpoint
  stream := stage.stream
  sendMu := stage.stream
  boundSessionID := stage.boundSessionID
  bindingSessionID := stage.bindingSessionID
  bindingDone := stage.done
  streamGeneration := UInt64.ofNat closes

end Stage

/-- The client is in the stage. -/
def Represents (s : Shared) (stage : Stage) : Prop :=
  s.client = stage.client s.client.providerEndpoint s.closes

variable {s : Shared} {stage : Stage} {sessionID : String} {t : Transport} {done : Nat}

/-! ## What the critical sections do -/

/-- The state after `closeLocked`, with an endpoint that may be new. -/
def closedFrom (s : Shared) (stage : Stage) (providerEndpoint : String) : Shared :=
  { s with
    client := Stage.closed.client providerEndpoint (s.closes + 1)
    closes := s.closes + 1
    closed := stage.done.toList ++ s.closed }

/-- The state after `BindSession` has opened a stream. -/
def openedFrom (s : Shared) (sessionID : String) : Shared :=
  { s with
    client := (Stage.binding s.streams sessionID s.channels).client
      s.client.providerEndpoint s.closes
    streams := s.streams + 1
    channels := s.channels + 1 }

/-- The state after `BindSession` has bound its stream. -/
def boundFrom (s : Shared) (stream : Nat) (sessionID : String) (done : Nat) : Shared :=
  { s with
    client := (Stage.bound stream sessionID).client s.client.providerEndpoint s.closes
    closed := done :: s.closed }

theorem closeLocked_eq (h : Represents s stage) :
    s.closeLocked = closedFrom s stage s.client.providerEndpoint := by
  unfold Shared.closeLocked Shared.finishBindingLocked
  rw [h]
  cases stage <;> simp [closedFrom, Stage.client, Stage.done, Stage.stream, Stage.boundSessionID,
    Stage.bindingSessionID, UInt64.ofNat_add]

theorem setEndpoint_eq (h : Represents s stage) (providerEndpoint : String) :
    s.setEndpoint providerEndpoint = s ∨
      s.setEndpoint providerEndpoint = closedFrom s stage providerEndpoint := by
  unfold Shared.setEndpoint
  split
  · exact .inl rfl
  · right
    rw [closeLocked_eq h]
    rfl

/-- `BindSession` opens a stream when the client is closed; else it changes nothing. -/
theorem bindEnter_cases (h : Represents s stage) (named : stage.Named) (sessionID : String) :
    (∃ entry, s.bindEnter sessionID = (s, entry) ∧ (∀ t done, entry ≠ .attempt t done) ∧
      ∀ ch, entry = .binding (some ch) → stage.done = some ch) ∨
    (stage = .closed ∧ s.bindEnter sessionID = (openedFrom s sessionID,
      .attempt ⟨s.streams, some s.streams, UInt64.ofNat s.closes, s.closes⟩ s.channels)) := by
  unfold Shared.bindEnter
  rw [h]
  dsimp only
  split
  · exact .inl ⟨_, rfl, nofun, nofun⟩
  split
  · refine .inl ⟨_, rfl, nofun, fun ch waits => ?_⟩
    exact BindEntry.binding.inj waits
  split
  · exact .inl ⟨_, rfl, nofun, nofun⟩
  split
  · exact .inl ⟨_, rfl, nofun, nofun⟩
  next notBound notBinding notOther notElse =>
    cases stage with
    | closed =>
      refine .inr ⟨rfl, ?_⟩
      unfold Shared.bindAttempt Shared.ensureStreamLocked Shared.ensureBindingDone
      rw [h]
      rfl
    | binding stream other ch =>
      exact absurd ⟨named, notBinding⟩ notElse
    | bound stream other =>
      exact absurd ⟨named, fun same => notBound ⟨same, rfl⟩⟩ notOther

theorem sendRefusal_ne_send (c : Client) :
    Shared.sendEnter.sendRefusal sessionID c ≠ .send t := by
  unfold Shared.sendEnter.sendRefusal
  split
  · nofun
  split
  · nofun
  split
  · nofun
  · nofun

variable {ch g m : Nat} {req : PaymentSessionRequest} {err : Option String} {β : Type}
  {a : ClientAct β}

theorem sendRefusal_binding {c : Client}
    (waits : Shared.sendEnter.sendRefusal sessionID c = .binding (some ch)) :
    c.bindingDone = some ch := by
  unfold Shared.sendEnter.sendRefusal at waits
  split at waits
  · exact SendEntry.binding.inj waits
  split at waits
  · cases waits
  split at waits
  · cases waits
  · cases waits

section

variable (h : Represents s stage)

include h

theorem sendEnter_send (sends : s.sendEnter sessionID = .send t) :
    stage.stream = some t.stream ∧ t.sendMu = some t.stream ∧
      t.streamGeneration = UInt64.ofNat s.closes ∧ t.started = s.closes := by
  unfold Shared.sendEnter at sends
  dsimp only at sends
  split at sends
  · next stream found =>
      split at sends
      · rw [h] at sends found
        have opened : stage.stream = some stream := found
        have same := SendEntry.send.inj sends
        rw [← same]
        exact ⟨opened, opened, rfl, rfl⟩
      · exact absurd sends (sendRefusal_ne_send _)
  · exact absurd sends (sendRefusal_ne_send _)

theorem sendEnter_binding
    (waits : s.sendEnter sessionID = .binding (some ch)) : stage.done = some ch := by
  have waited : s.client.bindingDone = some ch := by
    unfold Shared.sendEnter at waits
    dsimp only at waits
    split at waits
    · split at waits
      · cases waits
      · exact sendRefusal_binding waits
    · exact sendRefusal_binding waits
  rw [h] at waited
  exact waited

theorem sameStream_iff :
    s.sameStream t ↔ stage.stream = some t.stream ∧ UInt64.ofNat s.closes = t.streamGeneration := by
  unfold Shared.sameStream
  rw [h]
  rfl

theorem attemptActive_iff :
    s.attemptActive sessionID done ↔
      stage.done = some done ∧ stage.bindingSessionID = sessionID := by
  unfold Shared.attemptActive
  rw [h]
  rfl

end

section

variable (h : Represents s (.binding t.stream sessionID done))
  (generation : t.streamGeneration = UInt64.ofNat s.closes)

include h generation

theorem binding_mine : s.sameStream t ∧ s.attemptActive sessionID done :=
  ⟨(sameStream_iff h).mpr ⟨rfl, generation.symm⟩, (attemptActive_iff h).mpr ⟨rfl, rfl⟩⟩

theorem bindFinish_bound :
    (s.bindFinish sessionID t done none).1 = boundFrom s t.stream sessionID done := by
  unfold Shared.bindFinish
  simp only [if_pos (binding_mine h generation)]
  rw [h]
  rfl

theorem bindFinish_failed (err : String) :
    (s.bindFinish sessionID t done (some err)).1 =
      closedFrom s (.binding t.stream sessionID done) s.client.providerEndpoint := by
  unfold Shared.bindFinish
  simp only [if_pos (binding_mine h generation)]
  exact closeLocked_eq h

end

theorem bindFinish_stale (h : Represents s stage) (stream : stage.stream ≠ some t.stream)
    (channel : stage.done ≠ some done) (err : Option String) :
    (s.bindFinish sessionID t done err).1 = s := by
  have later : ¬s.sameStream t := fun same => stream ((sameStream_iff h).mp same).1
  have other : ¬s.attemptActive sessionID done :=
    fun active => channel ((attemptActive_iff h).mp active).1
  unfold Shared.bindFinish
  cases err with
  | none | some => simp only [if_neg (not_and_of_not_left _ later), if_neg other]

theorem sendFail_current (h : Represents s stage) (stream : stage.stream = some t.stream)
    (generation : t.streamGeneration = UInt64.ofNat s.closes) :
    s.sendFail t = closedFrom s stage s.client.providerEndpoint := by
  unfold Shared.sendFail
  rw [if_pos ((sameStream_iff h).mpr ⟨stream, generation.symm⟩)]
  exact closeLocked_eq h

theorem sendFail_stale (h : Represents s stage) (stream : stage.stream ≠ some t.stream) :
    s.sendFail t = s := by
  unfold Shared.sendFail
  rw [if_neg fun same => stream ((sameStream_iff h).mp same).1]

/-! ## How far a call has come -/

inductive Job where
  | bind (sessionID : String) (done : Nat)
  | rav

inductive Phase where
  | idle
  | waiting (ch : Nat)
  /-- The attempt has begun and does not hold `sendMu`. -/
  | trying (job : Job) (t : Transport)
  | locked (job : Job) (t : Transport)
  | sent (job : Job) (t : Transport) (err : Option String)
  /-- `sendRequest` has returned. -/
  | answered (job : Job) (t : Transport) (err : Option String)

namespace Phase

def attempt : Phase → Option (Job × Transport)
  | idle | waiting _ => none
  | trying job t | locked job t | sent job t _ | answered job t _ => some (job, t)

/-- The generation that the call is binding. -/
def bindStart (p : Phase) : Option Nat :=
  match p.attempt with
  | some (.bind _ _, t) => some t.started
  | _ => none

/-- The `sendMu` that the call holds. -/
def mutex : Phase → Option Nat
  | locked _ t | sent _ t _ => t.sendMu
  | idle | waiting _ | trying _ _ | answered _ _ _ => none

/-- `sendRequest` answers `err` to the attempt. -/
def Ends (p : Phase) (job : Job) (t : Transport) (err : Option String) : Prop :=
  p = answered job t err ∨ p = trying job t ∧ t.sendMu = none

end Phase

def Job.Requests : Job → PaymentSessionRequest → Prop
  | bind sessionID _, req => req = bindRequest sessionID
  | rav, req => req.message ≠ none

def Phase.allows (p : Phase) {β : Type} : ClientAct β → Prop
  | .bindEnter sessionID => p = idle ∧ sessionID ≠ ""
  | .bindFinish sessionID t done err => p.Ends (.bind sessionID done) t err
  | .sendEnter _ => p = idle
  | .sendFail t => ∃ err, p.Ends .rav t err
  | .wait ch => p = waiting ch
  | .lockSend t sendMu => ∃ job, p = trying job t ∧ t.sendMu = some sendMu
  | .send t req => ∃ job, p = locked job t ∧ job.Requests req
  | .unlockSend t sendMu => ∃ job err, p = sent job t err ∧ t.sendMu = some sendMu
  | .setEndpoint _ => p = idle
  | .close => p = idle

/-- A call that waits does so for a channel. -/
def waitingFor : Option Nat → Phase
  | some ch => .waiting ch
  | none => .idle

def Phase.next (p : Phase) {β : Type} (a : ClientAct β) (b : β) : Phase :=
  match β, a, b, p with
  | _, .bindEnter sessionID, .attempt t done, _ => trying (.bind sessionID done) t
  | _, .bindEnter _, .binding waitCh, _ => waitingFor waitCh
  | _, .sendEnter _, .send t, _ => trying .rav t
  | _, .sendEnter _, .binding waitCh, _ => waitingFor waitCh
  | _, .lockSend _ _, _, trying job t => locked job t
  | _, .send _ _, err, locked job t => sent job t err
  | _, .unlockSend _ _, _, sent .rav _ none => idle
  | _, .unlockSend _ _, _, sent job t err => answered job t err
  | _, _, _, _ => idle

def protocol : Protocol ClientAct Phase where
  allows p := p.allows
  next p := p.next

/-- What `sendRequest` leaves behind. -/
def Phase.After (job : Job) (t : Transport) (err : Option String) (p : Phase) : Prop :=
  p.Ends job t err ∧ (job = .rav → err ≠ none) ∨ job = .rav ∧ err = none ∧ p = idle

variable {job : Job}

theorem sendRequest_follows (asks : job.Requests req) :
    protocol.Follows (sendRequest t req) (.trying job t) fun err p => p.After job t err := by
  unfold sendRequest
  split
  · next missing => exact .inl ⟨.inr ⟨rfl, missing⟩, nofun⟩
  rename_i sendMu found
  refine ⟨⟨job, rfl, found⟩, fun _ => ⟨⟨job, rfl, asks⟩, fun err => ⟨⟨job, err, rfl, found⟩, ?_⟩⟩⟩
  intro _
  cases job with
  | bind sessionID done => exact .inl ⟨.inl rfl, nofun⟩
  | rav =>
    cases err with
    | none => exact .inr ⟨rfl, rfl, rfl⟩
    | some err => exact .inl ⟨.inl rfl, nofun⟩

theorem await_follows (waitCh : Option Nat) :
    protocol.Follows (await waitCh) (waitingFor waitCh) fun _ p => p = .idle := by
  cases waitCh with
  | none => rfl
  | some ch => exact ⟨rfl, fun _ => rfl⟩

/-- A loop whose body starts and ends between attempts. -/
theorem retry_follows {α : Type} {body : Program (Option α)}
    (step : protocol.Follows body .idle fun _ p => p = .idle) :
    protocol.Follows (.retry body) .idle fun _ p => p = .idle := by
  refine .retry (· = .idle) rfl ?_
  rintro _ rfl
  refine step.mono ?_
  rintro (_ | _) _ idle
  · exact idle
  · exact idle

theorem bindSession_follows (sessionID : String) :
    protocol.Follows (bindSession sessionID) .idle fun _ p => p = .idle := by
  unfold bindSession
  split
  · exact rfl
  rename_i given
  refine retry_follows ⟨⟨rfl, given⟩, fun entry => ?_⟩
  cases entry with
  | bound | refused => exact rfl
  | binding waitCh => exact (await_follows waitCh).bind fun _ _ idle => idle
  | attempt t done =>
    have asks : (Job.bind sessionID done).Requests (bindRequest sessionID) := rfl
    refine (sendRequest_follows asks).bind fun err p after => ?_
    obtain ⟨ends, _⟩ | ⟨other, _⟩ := after
    · exact ⟨ends, fun _ => rfl⟩
    · cases other

theorem sendRAV_follows (sessionID : String) (signed : SignedRAV) (usage : Option Proto.Usage) :
    protocol.Follows (sendRAV sessionID signed usage) .idle fun _ p => p = .idle := by
  refine retry_follows ⟨rfl, fun entry => ?_⟩
  cases entry with
  | send t =>
    have asks : Job.rav.Requests (ravRequest sessionID signed usage) := nofun
    refine (sendRequest_follows asks).bind fun err p after => ?_
    cases err with
    | none =>
      obtain ⟨_, failed⟩ | ⟨_, _, idle⟩ := after
      · exact absurd rfl (failed rfl)
      · exact idle
    | some err =>
      obtain ⟨ends, _⟩ | ⟨_, other, _⟩ := after
      · exact ⟨⟨_, ends⟩, fun _ => rfl⟩
      · cases other
  | binding waitCh => exact (await_follows waitCh).bind fun _ _ idle => idle
  | refused | again => exact rfl

theorem sendRAVSubmission_follows (sessionID : String) (signed : Option SignedRAV)
    (usage : Option Proto.Usage) :
    protocol.Follows (sendRAVSubmission sessionID signed usage) .idle fun _ p => p = .idle := by
  unfold sendRAVSubmission
  split
  · exact rfl
  · cases signed with
    | none => exact rfl
    | some signed => exact sendRAV_follows sessionID signed usage

theorem setEndpoint_follows (providerEndpoint : String) :
    protocol.Follows (PaymentClient.setEndpoint providerEndpoint) .idle fun _ p => p = .idle := by
  unfold PaymentClient.setEndpoint
  split
  · exact rfl
  · exact ⟨rfl, fun _ => rfl⟩

theorem program_follows (call : Call) :
    protocol.Follows call.program .idle fun _ p => p = .idle := by
  cases call with
  | bindSession sessionID => exact bindSession_follows sessionID
  | sendRAVSubmission sessionID signed usage =>
    exact sendRAVSubmission_follows sessionID signed usage
  | setEndpoint providerEndpoint =>
    exact (setEndpoint_follows providerEndpoint).bind fun _ _ idle => idle
  | close => exact ⟨rfl, fun _ => rfl⟩

/-! ## What holds in every state -/

/-- The generations for which a bind message was sent. -/
def bindStarts (s : Shared) : List Nat :=
  (s.sent.filter fun m => m.request.message = none).map fun m => m.transport.started

namespace Job

/-- The stage that an attempt of the current generation finds. -/
def Current (job : Job) (stage : Stage) (t : Transport) : Prop :=
  match job with
  | bind sessionID done => stage = .binding t.stream sessionID done
  | rav => stage.stream = some t.stream

/-- A binding of an earlier generation has been ended. -/
def Ended (job : Job) (s : Shared) : Prop :=
  match job with
  | bind _ done => done ∈ s.closed
  | rav => True

def Unsent (job : Job) (s : Shared) (t : Transport) : Prop :=
  match job with
  | bind _ _ => t.started ∉ bindStarts s
  | rav => True

/-- What a send of the job adds to `bindStarts`. -/
def starts : Job → Transport → List Nat
  | bind _ _, t => [t.started]
  | rav, _ => []

def Delivered (job : Job) (s : Shared) (t : Transport) (err : Option String) : Prop :=
  match job, err with
  | bind sessionID _, none => ⟨t, bindRequest sessionID, none⟩ ∈ s.sent
  | _, _ => True

end Job

/-- What an attempt can rely on while others move. -/
structure Attempt (s : Shared) (stage : Stage) (job : Job) (t : Transport) : Prop where
  sendMu : t.sendMu = some t.stream
  generation : t.streamGeneration = UInt64.ofNat t.started
  opened : t.stream < s.streams
  begun : t.started ≤ s.closes
  current : t.started = s.closes → job.Current stage t
  stale : t.started < s.closes → stage.stream ≠ some t.stream ∧ job.Ended s

/-- The phase of a call agrees with the state. -/
def Fits (s : Shared) (stage : Stage) : Phase → Prop
  | .idle => True
  | .waiting ch => ch < s.channels
  | .trying job t | .locked job t => Attempt s stage job t ∧ job.Unsent s t
  | .sent job t err | .answered job t err => Attempt s stage job t ∧ job.Delivered s t err

/-- What the state says of its stage. -/
structure Settled (s : Shared) (stage : Stage) : Prop where
  client : Represents s stage
  named : stage.Named
  opened : ∀ stream, stage.stream = some stream → stream < s.streams
  channels : ∀ ch, ch < s.channels ↔ ch ∈ s.closed ∨ stage.done = some ch
  unclosed : ∀ ch, stage.done = some ch → ch ∉ s.closed
  closedOnce : s.closed.Nodup
  begun : ∀ m ∈ s.sent, m.transport.started ≤ s.closes
  silent : stage = .closed → ∀ m ∈ s.sent, m.transport.started ≠ s.closes
  boundOnce : (bindStarts s).Nodup
  delivered : ∀ stream sessionID, stage = .bound stream sessionID → ∃ m ∈ s.sent,
    m.request = bindRequest sessionID ∧ m.err = none ∧ m.transport.stream = stream ∧
      m.transport.started = s.closes

/-- What the state says of the calls. -/
structure Ordered (s : Shared) (loc : ThreadId → Phase) (stage : Stage) : Prop
    extends Settled s stage where
  fits : ∀ i, Fits s stage (loc i)
  alone : ∀ i j g, (loc i).bindStart = some g → (loc j).bindStart = some g → i = j
  owned : stage.done ≠ none → ∃ i, (loc i).bindStart = some s.closes
  holders : ∀ m, s.held m = true → ∃ i, (loc i).mutex = some m

variable {s' : Shared} {stage' : Stage} {loc : ThreadId → Phase} {i : ThreadId} {p : Phase}

theorem Job.Current.stream (h : job.Current stage t) : stage.stream = some t.stream := by
  cases job with
  | bind sessionID done =>
    have same : stage = .binding t.stream sessionID done := h
    rw [same]
    rfl
  | rav => exact h

theorem Phase.bindStart_eq (h : p.bindStart = some g) :
    ∃ sessionID done t, p.attempt = some (.bind sessionID done, t) ∧ t.started = g := by
  unfold bindStart at h
  split at h
  · next sessionID done t runs => exact ⟨sessionID, done, t, runs, Option.some.inj h⟩
  · cases h

theorem Fits.attempt (h : Fits s stage p) (runs : p.attempt = some (job, t)) :
    Attempt s stage job t := by
  cases p <;> cases runs <;> exact h.1

theorem Fits.mono (h : Fits s stage p) (channels : s.channels ≤ s'.channels)
    (attempt : ∀ job t, p.attempt = some (job, t) → Attempt s stage job t → Attempt s' stage' job t)
    (unsent : ∀ job t, p.attempt = some (job, t) → job.Unsent s t → job.Unsent s' t)
    (sent : ∀ m ∈ s.sent, m ∈ s'.sent) : Fits s' stage' p := by
  have delivered (job : Job) (t : Transport) (err : Option String) (d : job.Delivered s t err) :
      job.Delivered s' t err := by
    cases job <;> cases err
    · exact sent _ d
    all_goals trivial
  cases p with
  | idle => trivial
  | waiting ch => exact lt_of_lt_of_le h channels
  | trying job t | locked job t => exact ⟨attempt job t rfl h.1, unsent job t rfl h.2⟩
  | sent job t err | answered job t err => exact ⟨attempt job t rfl h.1, delivered job t err h.2⟩

theorem Attempt.of_eq (h : Attempt s stage job t) (streams : s'.streams = s.streams)
    (closes : s'.closes = s.closes) (closed : s'.closed = s.closed) : Attempt s' stage job t where
  sendMu := h.sendMu
  generation := h.generation
  opened := streams ▸ h.opened
  begun := closes ▸ h.begun
  current now := h.current (now.trans closes)
  stale earlier := by
    obtain ⟨stream, ended⟩ := h.stale (closes ▸ earlier)
    refine ⟨stream, ?_⟩
    cases job with
    | bind sessionID done =>
      change done ∈ s'.closed
      rw [closed]
      exact ended
    | rav => trivial

theorem bindStarts_sends (asks : job.Requests req) :
    bindStarts { s with sent := ⟨t, req, err⟩ :: s.sent } = job.starts t ++ bindStarts s := by
  cases job with
  | bind sessionID done =>
    have bind : req = bindRequest sessionID := asks
    rw [bind]
    rfl
  | rav =>
    have other : req.message ≠ none := asks
    simp only [bindStarts, List.filter_cons, other, decide_false, Bool.false_eq_true, if_false,
      Job.starts, List.nil_append]

namespace Ordered

variable {q : Phase} {err : Option String}

section

variable (h : Ordered s loc stage)

include h

theorem move (settled : Settled s' stage') (mine : Fits s' stage' q)
    (others : ∀ j ≠ i, Fits s' stage' (loc j))
    (alone : ∀ g, q.bindStart = some g → (loc i).bindStart = some g ∨
      ∀ j, (loc j).bindStart ≠ some g) (owned : stage'.done ≠ none → q.bindStart = some s'.closes ∨
      ∃ j ≠ i, (loc j).bindStart = some s'.closes)
    (holders : ∀ m, s'.held m = true → q.mutex = some m ∨ ∃ j ≠ i, (loc j).mutex = some m) :
    Ordered s' (Function.update loc i q) stage' where
  toSettled := settled
  fits := (forall_update_iff loc fun _ => Fits s' stage').mpr ⟨mine, others⟩
  alone := by
    have keep (j k : ThreadId) (g : Nat) (ne : k ≠ i)
        (first : (Function.update loc i q j).bindStart = some g)
        (second : (loc k).bindStart = some g) : j = k := by
      by_cases here : j = i
      · subst here
        rw [update_self] at first
        obtain before | none := alone g first
        · exact h.alone j k g before second
        · exact absurd second (none k)
      · rw [update_of_ne here] at first
        exact h.alone j k g first second
    intro j k g first second
    by_cases here : k = i
    · subst here
      by_cases there : j = k
      · exact there
      · rw [update_of_ne there] at first
        exact (keep k j g there second first).symm
    · rw [update_of_ne here] at second
      exact keep j k g here first second
  owned binding := by
    obtain mine | ⟨j, ne, other⟩ := owned binding
    · exact ⟨i, by rw [update_self]; exact mine⟩
    · exact ⟨j, by rw [update_of_ne ne]; exact other⟩
  holders m locked := by
    obtain mine | ⟨j, ne, other⟩ := holders m locked
    · exact ⟨i, by rw [update_self]; exact mine⟩
    · exact ⟨j, by rw [update_of_ne ne]; exact other⟩

/-- The owner of the current binding is not a call that binds no current generation. -/
theorem owner_other (mine : (loc i).bindStart ≠ some s.closes)
    (binding : stage.done ≠ none) : ∃ j ≠ i, (loc j).bindStart = some s.closes := by
  obtain ⟨j, owner⟩ := h.owned binding
  exact ⟨j, fun same => mine (same ▸ owner), owner⟩

theorem holder_other {m : Nat} (mine : (loc i).mutex ≠ some m)
    (locked : s.held m = true) : ∃ j ≠ i, (loc j).mutex = some m := by
  obtain ⟨j, holder⟩ := h.holders m locked
  exact ⟨j, fun same => mine (same ▸ holder), holder⟩

theorem still (mine : Fits s stage q) (free : (loc i).mutex = none)
    (start : q.bindStart = none) (notOwner : (loc i).bindStart ≠ some s.closes) :
    Ordered s (Function.update loc i q) stage :=
  h.move h.toSettled mine (fun j _ => h.fits j)
    (fun g binds => by rw [start] at binds; cases binds)
    (fun binding => .inr (h.owner_other notOwner binding))
    (fun m locked => .inr (h.holder_other (by rw [free]; nofun) locked))

/-- The binding of the current generation is what its attempt has left. -/
theorem current_binding (binds : (loc i).bindStart = some s.closes) :
    ∃ sessionID done t, (loc i).attempt = some (.bind sessionID done, t) ∧ t.started = s.closes ∧
      stage = .binding t.stream sessionID done := by
  obtain ⟨sessionID, done, t, runs, now⟩ := Phase.bindStart_eq binds
  exact ⟨sessionID, done, t, runs, now, ((h.fits i).attempt runs).current now⟩

end

theorem opens (h : Ordered s loc .closed) (idle : loc i = .idle) (given : sessionID ≠ "") :
    Ordered (openedFrom s sessionID) (Function.update loc i (.trying (.bind sessionID s.channels)
      ⟨s.streams, some s.streams, UInt64.ofNat s.closes, s.closes⟩))
      (.binding s.streams sessionID s.channels) := by
  have silent : s.closes ∉ bindStarts s := by
    intro there
    obtain ⟨m, listed, same⟩ := List.mem_map.mp there
    exact h.silent rfl m (List.mem_of_mem_filter listed) same
  refine h.move ?_ ⟨?_, silent⟩ (fun j _ => ?_) (fun g binds => .inr fun j other => ?_)
    (fun _ => .inl rfl) (fun m locked => .inr (h.holder_other (by rw [idle]; nofun) locked))
  · exact {
      client := rfl
      named := given
      opened := by
        intro stream same
        cases same
        exact Nat.lt_succ_self _
      channels := by
        intro ch
        have old := h.channels ch
        simp only [Stage.done, reduceCtorEq, or_false] at old
        simp only [openedFrom, Stage.done, Option.some.injEq]
        rw [← old]
        omega
      unclosed := by
        intro ch same there
        cases same
        exact absurd ((h.channels _).mpr (.inl there)) (lt_irrefl _)
      closedOnce := h.closedOnce
      begun := h.begun
      silent := nofun
      boundOnce := h.boundOnce
      delivered := nofun }
  · exact {
      sendMu := rfl
      generation := rfl
      opened := Nat.lt_succ_self _
      begun := le_rfl
      current := fun _ => rfl
      stale := fun earlier => absurd earlier (lt_irrefl _) }
  · refine (h.fits j).mono (Nat.le_succ _) (fun job t _ attempt => ?_) (fun _ _ _ unsent => unsent)
      (fun _ listed => listed)
    exact {
      sendMu := attempt.sendMu
      generation := attempt.generation
      opened := attempt.opened.trans (Nat.lt_succ_self _)
      begun := attempt.begun
      -- a closed client has no attempt of its generation
      current := fun now => nomatch (attempt.current now).stream
      stale := fun earlier =>
        ⟨fun same => attempt.opened.ne (Option.some.inj same).symm, (attempt.stale earlier).2⟩ }
  · cases binds
    obtain ⟨_, _, _, _, _, other⟩ := h.current_binding other
    cases other

theorem binds (h : Ordered s loc (.binding t.stream sessionID done))
    (mine : loc i = .answered (.bind sessionID done) t none) (now : t.started = s.closes) :
    Ordered (boundFrom s t.stream sessionID done) (Function.update loc i .idle)
      (.bound t.stream sessionID) := by
  have fits := h.fits i
  rw [mine] at fits
  have myStart : (loc i).bindStart = some s.closes := by
    rw [mine]
    exact congrArg some now
  refine h.move ?_ trivial (fun j ne => ?_) nofun nofun
    (fun m locked => .inr (h.holder_other (by rw [mine]; nofun) locked))
  · exact {
      client := rfl
      named := h.named
      opened := h.opened
      channels := by
        intro ch
        have old := h.channels ch
        simp only [Stage.done, Option.some.injEq] at old
        simp only [boundFrom, Stage.done, reduceCtorEq, or_false, List.mem_cons]
        rw [old, or_comm, eq_comm]
      unclosed := nofun
      closedOnce := List.nodup_cons.mpr ⟨h.unclosed done rfl, h.closedOnce⟩
      begun := h.begun
      silent := nofun
      boundOnce := h.boundOnce
      delivered := by
        intro stream name same
        cases same
        exact ⟨_, fits.2, rfl, rfl, rfl, now⟩ }
  · refine (h.fits j).mono le_rfl (fun job u runs attempt => ?_) (fun _ _ _ unsent => unsent)
      (fun _ listed => listed)
    exact {
      sendMu := attempt.sendMu
      generation := attempt.generation
      opened := attempt.opened
      begun := attempt.begun
      current := by
        intro also
        cases job with
        | bind other ch =>
          have start : (loc j).bindStart = some s.closes := by
            unfold Phase.bindStart
            rw [runs]
            exact congrArg some also
          exact absurd (h.alone j i _ start myStart) ne
        | rav => exact attempt.current also
      stale := by
        intro earlier
        obtain ⟨stream, ended⟩ := attempt.stale earlier
        refine ⟨stream, ?_⟩
        cases job with
        | bind other ch => exact List.mem_cons_of_mem _ ended
        | rav => trivial }

variable (h : Ordered s loc stage)

include h

theorem closes (free : (loc i).mutex = none) (endpoint : String) :
    Ordered (closedFrom s stage endpoint) (Function.update loc i .idle) .closed := by
  refine h.move ?_ trivial (fun j _ => ?_) nofun nofun
    (fun m locked => .inr (h.holder_other (by rw [free]; nofun) locked))
  · exact {
      client := rfl
      named := trivial
      opened := nofun
      channels := by
        intro ch
        change ch < s.channels ↔ ch ∈ stage.done.toList ++ s.closed ∨ none = some ch
        rw [h.channels ch, List.mem_append, Option.mem_toList, or_comm]
        simp only [reduceCtorEq, or_false]
      unclosed := nofun
      closedOnce := by
        refine List.Nodup.append ?_ h.closedOnce fun ch new old => ?_
        · cases stage.done <;> simp
        · exact h.unclosed ch (Option.mem_toList.mp new) old
      begun := fun m listed => (h.begun m listed).trans (Nat.le_succ _)
      silent := fun _ m listed => (Nat.lt_succ_of_le (h.begun m listed)).ne
      boundOnce := h.boundOnce
      delivered := nofun }
  · refine (h.fits j).mono le_rfl (fun job u runs attempt => ?_) (fun _ _ _ unsent => unsent)
      (fun _ listed => listed)
    exact {
      sendMu := attempt.sendMu
      generation := attempt.generation
      opened := attempt.opened
      begun := attempt.begun.trans (Nat.le_succ _)
      current := fun now => absurd now (Nat.lt_succ_of_le attempt.begun).ne
      stale := by
        intro _
        refine ⟨nofun, ?_⟩
        cases job with
        | rav => trivial
        | bind other ch =>
          refine List.mem_append.mpr ?_
          obtain now | earlier := attempt.begun.eq_or_lt
          · left
            rw [show stage = _ from attempt.current now]
            exact List.mem_singleton_self _
          · exact .inr (attempt.stale earlier).2 }

theorem relock {m : Nat} {value : Bool} (mine : Fits s stage q)
    (start : q.bindStart = (loc i).bindStart) (others : ∀ k, k ≠ m → (loc i).mutex ≠ some k)
    (holds : value = true → q.mutex = some m) :
    Ordered { s with held := Function.update s.held m value } (Function.update loc i q) stage := by
  refine h.move ?_ ?_ (fun j _ => ?_) (fun g binds => .inl (start ▸ binds)) (fun binding => ?_)
    (fun k locked => ?_)
  · exact { h.toSettled with }
  · exact mine.mono le_rfl (fun _ _ _ attempt => attempt.of_eq rfl rfl rfl)
      (fun _ _ _ unsent => unsent) (fun _ listed => listed)
  · exact (h.fits j).mono le_rfl (fun _ _ _ attempt => attempt.of_eq rfl rfl rfl)
      (fun _ _ _ unsent => unsent) (fun _ listed => listed)
  · obtain ⟨j, owner⟩ := h.owned binding
    by_cases here : j = i
    · exact .inl (start.trans (here ▸ owner))
    · exact .inr ⟨j, here, owner⟩
  · dsimp only at locked
    by_cases same : k = m
    · subst same
      rw [update_self] at locked
      exact .inl (holds locked)
    · rw [update_of_ne same] at locked
      exact .inr (h.holder_other (others k same) locked)

variable {job : Job}

theorem sends {req : PaymentSessionRequest} (mine : loc i = .locked job t)
    (asks : job.Requests req) (err : Option String) :
    Ordered { s with sent := ⟨t, req, err⟩ :: s.sent } (Function.update loc i (.sent job t err))
      stage := by
  have fits := h.fits i
  rw [mine] at fits
  refine h.move ?_ ⟨fits.1.of_eq rfl rfl rfl, ?_⟩ (fun j ne => ?_) (fun g binds => .inl ?_)
    (fun binding => ?_) (fun k locked => ?_)
  · exact {
      client := h.client
      named := h.named
      opened := h.opened
      channels := h.channels
      unclosed := h.unclosed
      closedOnce := h.closedOnce
      begun := List.forall_mem_cons.mpr ⟨fits.1.begun, h.begun⟩
      silent := by
        intro closed
        refine List.forall_mem_cons.mpr ⟨fun now => ?_, h.silent closed⟩
        have stream := (fits.1.current now).stream
        rw [closed] at stream
        cases stream
      boundOnce := by
        rw [bindStarts_sends asks]
        cases job with
        | bind sessionID done => exact List.nodup_cons.mpr ⟨fits.2, h.boundOnce⟩
        | rav => exact h.boundOnce
      delivered := by
        intro stream sessionID bound
        obtain ⟨m, listed, rest⟩ := h.delivered stream sessionID bound
        exact ⟨m, List.mem_cons_of_mem _ listed, rest⟩ }
  · cases job with
    | rav => trivial
    | bind sessionID done =>
      cases err with
      | some err => trivial
      | none =>
        have bind : req = bindRequest sessionID := asks
        rw [bind]
        exact List.mem_cons_self
  · refine (h.fits j).mono le_rfl (fun _ _ _ attempt => attempt.of_eq rfl rfl rfl)
      (fun other u runs unsent => ?_) (fun _ listed => List.mem_cons_of_mem _ listed)
    cases other with
    | rav => trivial
    | bind name ch =>
      change u.started ∉ bindStarts _
      rw [bindStarts_sends asks]
      cases job with
      | rav => exact unsent
      | bind sessionID done =>
        refine List.not_mem_cons_of_ne_of_not_mem (fun same => ne ?_) unsent
        refine h.alone j i u.started ?_ ?_
        · unfold Phase.bindStart
          rw [runs]
        · rw [mine, same]
          rfl
  · rw [mine]
    exact binds
  · obtain ⟨j, owner⟩ := h.owned binding
    by_cases here : j = i
    · subst here
      rw [mine] at owner
      exact .inl owner
    · exact .inr ⟨j, here, owner⟩
  · obtain ⟨j, holder⟩ := h.holders k locked
    by_cases here : j = i
    · subst here
      rw [mine] at holder
      exact .inl holder
    · exact .inr ⟨j, here, holder⟩

/-- What an attempt that ends has been through. -/
theorem ends (ending : (loc i).Ends job t err) :
    loc i = .answered job t err ∧ Attempt s stage job t := by
  obtain here | ⟨here, missing⟩ := ending
  · exact ⟨here, (h.fits i).attempt (by rw [here]; rfl)⟩
  · have attempt : Attempt s stage job t := (h.fits i).attempt (by rw [here]; rfl)
    rw [attempt.sendMu] at missing
    cases missing

theorem bindFinish_of_stale
    (attempt : Attempt s stage (.bind sessionID done) t) (earlier : t.started < s.closes) :
    (s.bindFinish sessionID t done err).1 = s := by
  obtain ⟨stream, ended⟩ := attempt.stale earlier
  exact bindFinish_stale h.client stream (fun same => h.unclosed done same ended) err

end Ordered

/-! ## Every action keeps it -/

section

variable (h : Ordered s loc stage)

include h

theorem Ordered.waits {waitCh : Option Nat}
    (found : ∀ ch, waitCh = some ch → stage.done = some ch) :
    Fits s stage (waitingFor waitCh) ∧ (waitingFor waitCh).bindStart = none := by
  cases waitCh with
  | none => exact ⟨trivial, rfl⟩
  | some ch => exact ⟨(h.channels ch).mpr (.inr (found ch rfl)), rfl⟩

theorem Ordered.enters {q : Phase} (idle : loc i = .idle)
    (mine : Fits s stage q ∧ q.bindStart = none) :
    ∃ stage', Ordered s (Function.update loc i q) stage' :=
  ⟨stage, h.still mine.1 (by rw [idle]; rfl) mine.2 (by rw [idle]; nofun)⟩

theorem bindEnter_ordered {entry : BindEntry} (idle : loc i = .idle)
    (given : sessionID ≠ "") (entered : s.bindEnter sessionID = (s', entry)) :
    ∃ stage', Ordered s' (Function.update loc i ((loc i).next (.bindEnter sessionID) entry))
      stage' := by
  obtain ⟨found, same, noAttempt, waits⟩ | ⟨rfl, opened⟩ :=
    bindEnter_cases h.client h.named sessionID
  · obtain ⟨rfl, rfl⟩ := Prod.mk.inj (same.symm.trans entered)
    refine h.enters idle ?_
    cases found with
    | bound | refused => exact ⟨trivial, rfl⟩
    | attempt t done => exact absurd rfl (noAttempt t done)
    | binding waitCh => exact h.waits fun ch found => waits ch (congrArg _ found)
  · obtain ⟨rfl, rfl⟩ := Prod.mk.inj (opened.symm.trans entered)
    exact ⟨_, h.opens idle given⟩

theorem sendEnter_ordered (idle : loc i = .idle) :
    ∃ stage', Ordered s (Function.update loc i
      ((loc i).next (.sendEnter sessionID) (s.sendEnter sessionID))) stage' := by
  refine h.enters idle ?_
  cases entered : s.sendEnter sessionID with
  | refused | again => exact ⟨trivial, rfl⟩
  | binding waitCh =>
    refine h.waits fun ch found => ?_
    rw [found] at entered
    exact sendEnter_binding h.client entered
  | send t =>
    obtain ⟨stream, sendMu, generation, now⟩ := sendEnter_send h.client entered
    refine ⟨⟨?_, trivial⟩, rfl⟩
    exact {
      sendMu := sendMu
      generation := now ▸ generation
      opened := h.opened _ stream
      begun := now.le
      current := fun _ => stream
      stale := fun earlier => absurd now earlier.ne }

theorem bindFinish_ordered {result : Except String Unit}
    (ending : (loc i).Ends (.bind sessionID done) t err)
    (finished : s.bindFinish sessionID t done err = (s', result)) :
    ∃ stage', Ordered s' (Function.update loc i .idle) stage' := by
  obtain ⟨mine, attempt⟩ := h.ends ending
  have moved : s' = (s.bindFinish sessionID t done err).1 := by rw [finished]
  obtain now | earlier := attempt.begun.eq_or_lt
  · obtain rfl : stage = .binding t.stream sessionID done := attempt.current now
    have generation := now ▸ attempt.generation
    cases err with
    | none =>
      rw [moved, bindFinish_bound h.client generation]
      exact ⟨_, h.binds mine now⟩
    | some err =>
      rw [moved, bindFinish_failed h.client generation]
      exact ⟨_, h.closes (by rw [mine]; rfl) _⟩
  · rw [moved, h.bindFinish_of_stale attempt earlier]
    refine ⟨stage, h.still trivial (by rw [mine]; rfl) rfl ?_⟩
    rw [mine]
    exact fun owner => earlier.ne (Option.some.inj owner)

theorem sendFail_ordered (ending : (loc i).Ends .rav t err) :
    ∃ stage', Ordered (s.sendFail t) (Function.update loc i .idle) stage' := by
  obtain ⟨mine, attempt⟩ := h.ends ending
  obtain now | earlier := attempt.begun.eq_or_lt
  · rw [sendFail_current h.client (attempt.current now) (now ▸ attempt.generation)]
    exact ⟨_, h.closes (by rw [mine]; rfl) _⟩
  · rw [sendFail_stale h.client (attempt.stale earlier).1]
    exact ⟨stage, h.still trivial (by rw [mine]; rfl) rfl (by rw [mine]; nofun)⟩

theorem lockSend_ordered (mine : loc i = .trying job t)
    (sendMu : t.sendMu = some m) :
    Ordered { s with held := Function.update s.held m true }
      (Function.update loc i (.locked job t)) stage := by
  have fits := h.fits i
  rw [mine] at fits
  exact h.relock fits (by rw [mine]; rfl) (fun k _ => by rw [mine]; nofun) fun _ => sendMu

theorem unlockSend_ordered (mine : loc i = .sent job t err)
    (sendMu : t.sendMu = some m) :
    Ordered { s with held := Function.update s.held m false }
      (Function.update loc i ((Phase.sent job t err).next (.unlockSend t m) ())) stage := by
  have fits := h.fits i
  rw [mine] at fits
  have others (k : Nat) (ne : k ≠ m) : (loc i).mutex ≠ some k := by
    rw [mine]
    exact fun holds => ne (Option.some.inj (holds.symm.trans sendMu))
  cases job with
  | bind sessionID done => exact h.relock fits (by rw [mine]; rfl) others nofun
  | rav =>
    cases err with
    | none => exact h.relock trivial (by rw [mine]; rfl) others nofun
    | some err => exact h.relock fits (by rw [mine]; rfl) others nofun

end

theorem exec_ordered {b : β} (allowed : (loc i).allows a) (ran : s.exec a err = some (s', b))
    (h : Ordered s loc stage) :
    ∃ stage', Ordered s' (Function.update loc i ((loc i).next a b)) stage' := by
  cases a with
  | bindEnter sessionID =>
    exact bindEnter_ordered h allowed.1 allowed.2 (Option.some.inj ran)
  | bindFinish sessionID t done err =>
    exact bindFinish_ordered h allowed (Option.some.inj ran)
  | sendEnter sessionID =>
    cases ran
    exact sendEnter_ordered h allowed
  | sendFail t =>
    cases ran
    obtain ⟨err, ending⟩ := allowed
    exact sendFail_ordered h ending
  | wait ch =>
    have here : loc i = .waiting ch := allowed
    unfold Shared.exec at ran
    dsimp only at ran
    split at ran
    · cases ran
      exact ⟨stage, h.still trivial (by rw [here]; rfl) rfl (by rw [here]; nofun)⟩
    · cases ran
  | lockSend t m =>
    obtain ⟨job, mine, sendMu⟩ := allowed
    unfold Shared.exec at ran
    dsimp only at ran
    split at ran
    · cases ran
    · cases ran
      rw [mine]
      exact ⟨stage, lockSend_ordered h mine sendMu⟩
  | send t req =>
    cases ran
    obtain ⟨job, mine, asks⟩ := allowed
    rw [mine]
    exact ⟨stage, h.sends mine asks err⟩
  | unlockSend t m =>
    cases ran
    obtain ⟨job, err, mine, sendMu⟩ := allowed
    rw [mine]
    exact ⟨stage, unlockSend_ordered h mine sendMu⟩
  | setEndpoint endpoint =>
    cases ran
    have idle : loc i = .idle := allowed
    obtain same | closed := setEndpoint_eq h.client endpoint
    · rw [same]
      exact h.enters idle ⟨trivial, rfl⟩
    · rw [closed]
      exact ⟨_, h.closes (by rw [idle]; rfl) _⟩
  | close =>
    cases ran
    have idle : loc i = .idle := allowed
    rw [closeLocked_eq h.client]
    exact ⟨_, h.closes (by rw [idle]; rfl) _⟩

theorem exec_stale {b : β} (allowed : (loc i).allows a) (ran : s.exec a err = some (s', b))
    (h : Ordered s loc stage) (started : a.started = some g) (earlier : g < s.closes) :
    s'.client = s.client := by
  cases a with
  | bindFinish sessionID t done err =>
    cases started
    obtain ⟨_, attempt⟩ := h.ends allowed
    have moved : (s.bindFinish sessionID t done err).1 = s' :=
      congrArg Prod.fst (Option.some.inj ran)
    rw [← moved, h.bindFinish_of_stale attempt earlier]
  | sendFail t =>
    cases started
    cases ran
    obtain ⟨err, ending⟩ := allowed
    obtain ⟨_, attempt⟩ := h.ends ending
    rw [sendFail_stale h.client (attempt.stale earlier).1]
  | lockSend t m =>
    unfold Shared.exec at ran
    dsimp only at ran
    split at ran
    · cases ran
    · cases ran
      rfl
  | send | unlockSend =>
    cases ran
    rfl
  | bindEnter | sendEnter | wait | setEndpoint | close => cases started

theorem exec_blocked (allowed : p.allows a) (blocked : s.exec a err = none) :
    (∃ ch, p = .waiting ch ∧ ch ∉ s.closed) ∨
      ∃ job t m, p = .trying job t ∧ t.sendMu = some m ∧ s.held m = true := by
  cases a with
  | wait ch =>
    unfold Shared.exec at blocked
    dsimp only at blocked
    split at blocked
    · cases blocked
    · next unclosed => exact .inl ⟨ch, allowed, unclosed⟩
  | lockSend t m =>
    obtain ⟨job, mine, sendMu⟩ := allowed
    unfold Shared.exec at blocked
    dsimp only at blocked
    split at blocked
    · next locked => exact .inr ⟨job, t, m, mine, sendMu, locked⟩
    · cases blocked
  | bindEnter | bindFinish | sendEnter | sendFail | send | unlockSend | setEndpoint | close =>
    cases blocked

/-! ## Runs -/

abbrev State := Config ClientAct ThreadId Shared (Except String Unit)

/-- Nobody can move. -/
def Stuck (c : State) : Prop := ∀ i err, machine.stepAt c i err = none

/-- Every call follows the protocol from its phase on. -/
def Conforms (c : State) (loc : ThreadId → Phase) : Prop :=
  ∀ i, protocol.Follows (c.threads i) (loc i) fun _ p => p = .idle

variable {c : State}

theorem reach_ordered {endpoint : String} {calls : ThreadId → Call}
    (run : machine.Reach (start endpoint calls) c) :
    ∃ loc stage, Conforms c loc ∧ Ordered c.shared loc stage := by
  obtain ⟨loc, observed⟩ := run.observed protocol fun _ => Phase.idle
  have first : Ordered (start endpoint calls).shared (fun _ => .idle) .closed :=
    { client := rfl
      named := trivial
      opened := nofun
      channels := fun ch => by simp [start, Stage.done]
      unclosed := nofun
      closedOnce := List.nodup_nil
      begun := List.forall_mem_nil _
      silent := fun _ => List.forall_mem_nil _
      boundOnce := List.nodup_nil
      delivered := nofun
      fits := fun _ => trivial
      alone := nofun
      owned := fun binding => absurd rfl binding
      holders := nofun }
  have followed : protocol.Followed (fun _ p => p = Phase.idle)
      ((start endpoint calls).observe fun _ => Phase.idle) := fun i => program_follows (calls i)
  obtain ⟨conforms, stage, ordered⟩ := followed.invariant observed
    (J := fun x => ∃ stage, Ordered x.1 x.2 stage) ⟨.closed, first⟩
    fun i β a err s s' b loc allowed ran ⟨stage, h⟩ => exec_ordered allowed ran h
  exact ⟨loc, stage, conforms, ordered⟩

/-- A call that cannot move has returned or is held up. -/
theorem stuck_cases {loc : ThreadId → Phase} (conforms : Conforms c loc) (stuck : Stuck c)
    (i : ThreadId) :
    (loc i = .idle ∧ (c.threads i).result ≠ none) ∨
      (∃ ch, loc i = .waiting ch ∧ ch ∉ c.shared.closed) ∨
      ∃ job t m, loc i = .trying job t ∧ t.sendMu = some m ∧ c.shared.held m = true := by
  have mine := conforms i
  have blocked := stuck i none
  unfold Machine.stepAt at blocked
  cases program : c.threads i with
  | ret result =>
    rw [program] at mine
    exact .inl ⟨mine, nofun⟩
  | act a k =>
    rw [program] at mine blocked
    dsimp only at blocked
    split at blocked
    · next disabled => exact .inr (exec_blocked mine.1 disabled)
    · cases blocked
  | loop body first k =>
    rw [program] at blocked
    cases blocked

/-- When nobody can move, every call has returned and every channel is closed. -/
theorem stuck_done {loc : ThreadId → Phase} (conforms : Conforms c loc)
    (ordered : Ordered c.shared loc stage) (stuck : Stuck c) :
    (∀ i, (c.threads i).result ≠ none) ∧ stage.done = none := by
  have free (m : Nat) : c.shared.held m = false := by
    by_contra locked
    obtain ⟨j, holder⟩ := ordered.holders m (Bool.eq_true_of_not_eq_false locked)
    obtain ⟨here, _⟩ | ⟨_, here, _⟩ | ⟨_, _, _, here, _⟩ := stuck_cases conforms stuck j
    all_goals rw [here] at holder; cases holder
  have calm (i : ThreadId) : (loc i = .idle ∧ (c.threads i).result ≠ none) ∨
      ∃ ch, loc i = .waiting ch ∧ ch ∉ c.shared.closed := by
    obtain returned | waits | ⟨_, _, m, _, _, locked⟩ := stuck_cases conforms stuck i
    · exact .inl returned
    · exact .inr waits
    · rw [free m] at locked
      cases locked
  have done : stage.done = none := by
    by_contra binding
    obtain ⟨j, owner⟩ := ordered.owned binding
    obtain ⟨here, _⟩ | ⟨_, here, _⟩ := calm j
    all_goals rw [here] at owner; cases owner
  refine ⟨fun i => ?_, done⟩
  obtain ⟨_, returned⟩ | ⟨ch, here, unclosed⟩ := calm i
  · exact returned
  have allocated := ordered.fits i
  rw [here] at allocated
  obtain closed | binding := (ordered.channels ch).mp allocated
  · exact absurd closed unclosed
  · rw [done] at binding
    cases binding

/-- What every state of the client keeps. -/
structure Sound (c : State) : Prop where
  stream_iff : c.shared.client.stream.isSome ↔
    c.shared.client.boundSessionID ≠ "" ∨ c.shared.client.bindingSessionID ≠ ""
  exclusive : c.shared.client.boundSessionID = "" ∨ c.shared.client.bindingSessionID = ""
  /-- The bind message was sent in the current generation, on the current stream. -/
  bound_sent : c.shared.client.boundSessionID ≠ "" → ∃ m ∈ c.shared.sent,
    m.request = bindRequest c.shared.client.boundSessionID ∧ m.err = none ∧
      c.shared.client.stream = some m.transport.stream ∧ m.transport.started = c.shared.closes
  bind_once : ∀ g, (bindStarts c.shared).count g ≤ 1
  /-- No step of an attempt of an earlier generation changes the client. -/
  stale : ∀ (i : ThreadId) (err : Option String) (c' : State) (β : Type) (a : ClientAct β)
    (k : β → Program (Except String Unit)) (g : Nat), c.threads i = .act a k →
      a.started = some g → g < c.shared.closes → machine.stepAt c i err = some c' →
        c'.shared.client = c.shared.client
  /-- A call waits for channels that were made. -/
  waited : ∀ (i : ThreadId) (ch : Nat) (k : Unit → Program (Except String Unit)),
    c.threads i = .act (.wait ch) k → ch < c.shared.channels
  /-- A channel that is not closed is the one of the binding in progress. -/
  closed_once : ∀ ch < c.shared.channels, c.shared.closed.count ch = 1 ∨
    c.shared.closed.count ch = 0 ∧ c.shared.client.bindingDone = some ch
  /-- When nobody can move, all calls have returned and all channels are closed. -/
  finished : Stuck c → (∀ i, (c.threads i).result ≠ none) ∧
    ∀ ch < c.shared.channels, c.shared.closed.count ch = 1

theorem Ordered.closed_count (h : Ordered s loc stage) (made : ch < s.channels) :
    s.closed.count ch = 1 ∨ s.closed.count ch = 0 ∧ stage.done = some ch := by
  obtain closed | binding := (h.channels ch).mp made
  · exact .inl (List.count_eq_one_of_mem h.closedOnce closed)
  · exact .inr ⟨List.count_eq_zero.mpr (h.unclosed ch binding), binding⟩

/-- The client goes through its generations in order, under every interleaving of calls. -/
theorem generations_in_order {endpoint : String} {calls : ThreadId → Call} {c : State}
    (run : machine.Reach (start endpoint calls) c) : Sound c := by
  obtain ⟨loc, stage, conforms, ordered⟩ := reach_ordered run
  have client := ordered.client
  have named := ordered.named
  constructor
  case stream_iff =>
    rw [client]
    cases stage with
    | closed => simp [Stage.client, Stage.stream, Stage.boundSessionID, Stage.bindingSessionID]
    | binding stream sessionID done => exact ⟨fun _ => .inr named, fun _ => rfl⟩
    | bound stream sessionID => exact ⟨fun _ => .inl named, fun _ => rfl⟩
  case exclusive =>
    rw [client]
    cases stage with
    | closed | binding => exact .inl rfl
    | bound stream sessionID => exact .inr rfl
  case bound_sent =>
    intro bound
    rw [client] at bound ⊢
    cases stage with
    | closed | binding => exact absurd rfl bound
    | bound stream sessionID =>
      obtain ⟨m, listed, request, sent, same, now⟩ := ordered.delivered stream sessionID rfl
      exact ⟨m, listed, request, sent, congrArg some same.symm, now⟩
  case bind_once => exact fun g => List.nodup_iff_count_le_one.mp ordered.boundOnce g
  case stale =>
    intro i err c' β a k g next started earlier stepped
    have mine := conforms i
    rw [next] at mine
    rcases Machine.stepAt_cases stepped with
      ⟨γ, a', k', shared, b, thread, ran, rfl⟩ | ⟨γ, S, body, first, k', thread, _⟩
    · cases next.symm.trans thread
      exact exec_stale mine.1 ran ordered started earlier
    · cases next.symm.trans thread
  case waited =>
    intro i ch k next
    have mine := conforms i
    rw [next] at mine
    have fits := ordered.fits i
    rw [show loc i = .waiting ch from mine.1] at fits
    exact fits
  case closed_once =>
    intro ch made
    rw [client]
    exact ordered.closed_count made
  case finished =>
    intro stuck
    obtain ⟨returned, done⟩ := stuck_done conforms ordered stuck
    refine ⟨returned, fun ch made => ?_⟩
    obtain once | ⟨_, binding⟩ := ordered.closed_count made
    · exact once
    · rw [done] at binding
      cases binding

/-- Two calls bind the session and one sets a new endpoint. -/
def replacing : ThreadId → Call
  | 0 | 1 => .bindSession "s"
  | _ => .setEndpoint "b"

/-- The new endpoint ends the binding of one call while the other waits for it. -/
def replaced : State :=
  machine.play [(0, none, 4), (1, none, 2), (2, none, 1), (0, none, 3)] (start "a" replacing)

theorem generations_in_order_replaced :
    Sound replaced ∧ replaced.shared.closes = 1 ∧ replaced.shared.closed = [0] := by
  have run : machine.Reach (start "a" replacing) replaced := Machine.play_reach _ _
  exact ⟨generations_in_order run, by decide +kernel, by decide +kernel⟩

end Sdsce.Guarantees.ClientGenerations
