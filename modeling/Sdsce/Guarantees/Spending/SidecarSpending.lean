import Sdsce.Source.Consumer
import Sdsce.Theory.Recording

/-!
# What the consumer sidecar signs

On a RAV request the sidecar signs the quoted value plus the cost it is asked for, under the
quoted collection ID. It compares neither with the RAV it holds nor with the price it has agreed
to. What it spends is bounded by that price as long as the requests keep to both.
-/
namespace Sdsce.Guarantees.Spending

open Sdsce.Theory Sdsce.Source Sdsce.Theory.Discipline
open Sdsce.Source.Consumer hiding machine Program run Reply boot History EventKind init

/-! ## Requests -/

/-- The RAV that a request quotes. -/
def quotedRAV (req : RAVRequest) : Option SignedRAV :=
  req.currentRav.bind fun psr => (protoSignedRAVToHorizon psr).toOption

/-- The cost that a request asks for. -/
def askedCost (req : RAVRequest) : Option Int :=
  (req.usage.bind Proto.Usage.cost).map Proto.GRT.toBigInt

/-- The counters of a request. -/
def askedBlocks (req : RAVRequest) : UInt64 := (req.usage.map Proto.Usage.blocksProcessed).getD 0

def askedBytes (req : RAVRequest) : UInt64 := (req.usage.map Proto.Usage.bytesTransferred).getD 0

/-- The RAV extends the quoted one by the cost, for the parties of the session. -/
structure Extends (session : LocalSession) (req : RAVRequest) (quoted : SignedRAV) (cost : Int)
    (rav : SignedRAV) : Prop where
  quotes : quotedRAV req = some quoted
  asks : askedCost req = some cost
  collectionID : rav.message.collectionID = quoted.message.collectionID
  value : rav.message.valueAggregate = quoted.message.valueAggregate + cost
  payer : rav.message.payer = session.payer
  serviceProvider : rav.message.serviceProvider = session.receiver
  dataService : rav.message.dataService = session.dataService
  metadata : rav.message.metadata = []

variable {s : Sidecar}

theorem signRAV_message {rav : RAV} {signed : SignedRAV} (h : s.signRAV rav = .ok signed) :
    signed.message = rav := by
  unfold Sidecar.signRAV at h
  split at h
  · cases h
  split at h
  · cases h
  · cases h
    rfl

theorem signRAVForRequest_extends {session : LocalSession} {req : RAVRequest} {now : Time}
    {signed : SignedRAV} (h : s.signRAVForRequest session (some req) now = .ok signed) :
    ∃ quoted cost, Extends session req quoted cost signed := by
  unfold Sidecar.signRAVForRequest at h
  dsimp only at h
  split at h
  · cases h
  rename_i psr given
  split at h
  · cases h
  rename_i usage asked
  split at h
  · cases h
  rename_i cost priced
  split at h
  · cases h
  rename_i current converted
  have message := signRAV_message h
  refine ⟨current, cost.toBigInt, ?_, ?_, ?_, ?_, ?_, ?_, ?_, ?_⟩
  · rw [quotedRAV, given, Option.bind_some, converted]
    rfl
  · rw [askedCost, asked, Option.bind_some, priced, Option.map_some]
  all_goals rw [message]

/-- The request quotes a RAV of the session's collection that is worth no more than the one the
session holds, and asks for no more than the agreed price of its counters. -/
def Honest (session : LocalSession) (req : RAVRequest) : Bool :=
  match session.currentRAV, quotedRAV req, session.pricingConfig, askedCost req with
  | some held, some quoted, some pricing, some cost =>
    quoted.message.collectionID = held.message.collectionID &&
    quoted.message.valueAggregate ≤ held.message.valueAggregate &&
    cost ≤ (pricing.calculateUsageCost (askedBlocks req) (askedBytes req)).bigInt
  | _, _, _, _ => false

/-! ## Spending -/

/-- The price of usage, in whole numbers. -/
def price (pricing : PricingConfig) (blocks bytes : Nat) : Int :=
  pricing.pricePerBlock.bigInt * blocks + pricing.pricePerByte.bigInt * bytes

/-- The arithmetic of the code wraps at 2^256 and so never exceeds the price. -/
theorem calculateUsageCost_le_price (pricing : PricingConfig) (blocks bytes : UInt64) :
    (pricing.calculateUsageCost blocks bytes).bigInt ≤ price pricing blocks.toNat bytes.toNat := by
  simp only [PricingConfig.calculateUsageCost, GRT.bigInt, GRT.add, GRT.mul, price,
    BitVec.toNat_add, BitVec.toNat_mul, BitVec.toNat_ofNat]
  have small (n : UInt64) : n.toNat % 2 ^ 256 = n.toNat :=
    Nat.mod_eq_of_lt (lt_trans n.toNat_lt (by norm_num))
  rw [small, small]
  exact_mod_cast (Nat.mod_le _ _).trans (Nat.add_le_add (Nat.mod_le _ _) (Nat.mod_le _ _))

theorem price_add (pricing : PricingConfig) (blocks bytes blocks' bytes' : Nat) :
    price pricing (blocks + blocks') (bytes + bytes') =
      price pricing blocks bytes + price pricing blocks' bytes' := by
  simp only [price, Nat.cast_add]
  ring

theorem price_nonneg (pricing : PricingConfig) (blocks bytes : Nat) :
    0 ≤ price pricing blocks bytes := by
  have block := pricing.pricePerBlock.bigInt_nonneg
  have byte := pricing.pricePerByte.bigInt_nonneg
  unfold price
  positivity

/-- The requests that a stream has signed on. -/
def requests (i : StreamId) (h : Consumer.History) : List RAVRequest :=
  (own i h).filterMap fun entry =>
    match entry.kind with
    | .signed _ req _ => some req
    | _ => none

/-- The usage that has been reported to a stream. -/
def reportedBlocks (i : StreamId) (h : Consumer.History) : Nat :=
  ((requests i h).map fun req => (askedBlocks req).toNat).sum

def reportedBytes (i : StreamId) (h : Consumer.History) : Nat :=
  ((requests i h).map fun req => (askedBytes req).toNat).sum

/-- An entry other than a signature on a dishonest request. -/
def signsHonestly : Consumer.EventKind → Bool
  | .signed session req _ => Honest session req
  | _ => true

/-- Every request that the stream has signed on was honest at the time. -/
def AllHonest (i : StreamId) (h : Consumer.History) : Prop :=
  ∀ entry ∈ own i h, signsHonestly entry.kind = true

/-- Provided the requests were honest, the RAV belongs to the collection that the session was
opened with and is worth at most the opening value plus the price of the reported usage. -/
def Affordable (i : StreamId) (h : Consumer.History) (first : LocalSession)
    (firstRAV rav : SignedRAV) : Prop :=
  AllHonest i h → rav.message.collectionID = firstRAV.message.collectionID ∧
    ∀ pricing ∈ first.pricingConfig, rav.message.valueAggregate ≤
      firstRAV.message.valueAggregate + price pricing (reportedBlocks i h) (reportedBytes i h)

/-- What a control loop knows about its session. -/
structure Keeps (i : StreamId) (first : LocalSession) (firstRAV : SignedRAV)
    (session : LocalSession) (h : Consumer.History) : Prop where
  opened : ⟨i, .opened first⟩ ∈ h
  rav : first.currentRAV = some firstRAV
  pricing : session.pricingConfig = first.pricingConfig
  held : ∀ held ∈ session.currentRAV, Affordable i h first firstRAV held

/-- Why an entry may be made. -/
def Justified (i : StreamId) (h : Consumer.History) : Consumer.EventKind → Prop
  | .received _ => True
  | .opened session => session.currentRAV.isSome
  | .signed session req rav => ⟨i, .received req⟩ ∈ h ∧
      (∃ quoted cost, Extends session req quoted cost rav) ∧
      ∃ first firstRAV, Keeps i first firstRAV session h
  | .sent psr => ∃ rav, psr = horizonSignedRAVToProto rav ∧
      (rav.message.collectionID = .zero ∨ ∃ session req, ⟨i, .signed session req rav⟩ ∈ h)

/-! ## How the history carries these facts -/

section History

variable {i : StreamId} {h h' : Consumer.History} {first session : LocalSession}
  {firstRAV rav : SignedRAV}

theorem requests_append (kind : Consumer.EventKind) :
    requests i (h ++ [⟨i, kind⟩]) = requests i h ++
      (match kind with
        | .signed _ req _ => [req]
        | _ => []) := by
  rw [requests, own_append_self, List.filterMap_append]
  cases kind <;> rfl

theorem reportedBlocks_append (kind : Consumer.EventKind) :
    reportedBlocks i (h ++ [⟨i, kind⟩]) = reportedBlocks i h +
      (match kind with
        | .signed _ req _ => (askedBlocks req).toNat
        | _ => 0) := by
  rw [reportedBlocks, requests_append, List.map_append, List.sum_append]
  cases kind <;> simp [reportedBlocks]

theorem reportedBytes_append (kind : Consumer.EventKind) :
    reportedBytes i (h ++ [⟨i, kind⟩]) = reportedBytes i h +
      (match kind with
        | .signed _ req _ => (askedBytes req).toNat
        | _ => 0) := by
  rw [reportedBytes, requests_append, List.map_append, List.sum_append]
  cases kind <;> simp [reportedBytes]

theorem AllHonest.init {kind : Consumer.EventKind} (honest : AllHonest i (h ++ [⟨i, kind⟩])) :
    AllHonest i h := by
  intro entry member
  refine honest entry ?_
  rw [own_append_self]
  exact List.mem_append_left _ member

variable {req : RAVRequest} {quoted : SignedRAV} {cost : Int}

theorem AllHonest.last (honest : AllHonest i (h ++ [⟨i, .signed session req rav⟩])) :
    Honest session req = true := by
  refine honest ⟨i, .signed session req rav⟩ ?_
  rw [own_append_self]
  exact List.mem_append_right _ (List.mem_singleton.mpr rfl)

theorem Affordable.grows (grows : GrowsFor i h h')
    (affordable : Affordable i h first firstRAV rav) : Affordable i h' first firstRAV rav := by
  unfold Affordable AllHonest reportedBlocks reportedBytes requests at *
  rw [grows.same]
  exact affordable

theorem Affordable.append (kind : Consumer.EventKind)
    (affordable : Affordable i h first firstRAV rav) :
    Affordable i (h ++ [⟨i, kind⟩]) first firstRAV rav := by
  intro honest
  obtain ⟨collectionID, bound⟩ := affordable honest.init
  refine ⟨collectionID, fun pricing agreed => (bound pricing agreed).trans ?_⟩
  rw [reportedBlocks_append, reportedBytes_append, price_add, ← add_assoc]
  exact le_add_of_nonneg_right (price_nonneg _ _ _)

theorem Affordable.opening : Affordable i h first rav rav :=
  fun _ => ⟨rfl, fun _ _ => le_add_of_nonneg_right (price_nonneg _ _ _)⟩

/-- An honest request is answered with a RAV that the session can afford. -/
theorem honest_le (honest : Honest session req = true)
    (signs : Extends session req quoted cost rav) :
    ∃ held pricing, session.currentRAV = some held ∧ session.pricingConfig = some pricing ∧
      rav.message.collectionID = held.message.collectionID ∧
      rav.message.valueAggregate ≤ held.message.valueAggregate +
        (pricing.calculateUsageCost (askedBlocks req) (askedBytes req)).bigInt := by
  unfold Honest at honest
  split at honest
  · next held quoted' pricing cost' holds quotes agreed asks =>
      cases signs.quotes.symm.trans quotes
      cases signs.asks.symm.trans asks
      simp only [Bool.and_eq_true, decide_eq_true_eq] at honest
      obtain ⟨⟨collection, value⟩, cheap⟩ := honest
      refine ⟨held, pricing, holds, agreed, signs.collectionID.trans collection, ?_⟩
      rw [signs.value]
      exact add_le_add value cheap
  · cases honest

theorem Keeps.signed (keeps : Keeps i first firstRAV session h)
    (signs : Extends session req quoted cost rav) :
    Affordable i (h ++ [⟨i, .signed session req rav⟩]) first firstRAV rav := by
  intro honest
  obtain ⟨held, pricing, holds, agreed, collection, value⟩ := honest_le honest.last signs
  obtain ⟨sameCollection, bound⟩ := keeps.held held holds honest.init
  refine ⟨collection.trans sameCollection, fun pricing' agreed' => ?_⟩
  cases (keeps.pricing.symm.trans agreed).symm.trans agreed'
  rw [reportedBlocks_append, reportedBytes_append, price_add]
  have before := bound pricing agreed'
  have now := calculateUsageCost_le_price pricing (askedBlocks req) (askedBytes req)
  linarith

theorem Keeps.grows (grows : GrowsFor i h h') (keeps : Keeps i first firstRAV session h) :
    Keeps i first firstRAV session h' :=
  ⟨grows.pre.subset keeps.opened, keeps.rav, keeps.pricing,
    fun held holds => (keeps.held held holds).grows grows⟩

theorem Keeps.append (kind : Consumer.EventKind) (keeps : Keeps i first firstRAV session h) :
    Keeps i first firstRAV session (h ++ [⟨i, kind⟩]) :=
  ⟨List.mem_append_left _ keeps.opened, keeps.rav, keeps.pricing,
    fun held holds => (keeps.held held holds).append kind⟩

end History

/-! ## The programs of the sidecar -/

def receivedEntry : Except ReceiveError Message → Option Consumer.EventKind
  | .ok (.ravRequest req) => some (.received req)
  | _ => none

/-- The entry of each action. -/
def entryOf {β : Type} (a : SidecarAct β) (e : SidecarOracle) : Option Consumer.EventKind :=
  match a with
  | .startSession req => req.initialRav.map .sent
  | .sendRAVSubmission _ submission => submission.signedRav.map .sent
  | .receive => receivedEntry e.message
  | .note kind => some kind
  | _ => none

theorem logSent_history (s : State) (i : StreamId) (rav : Option Proto.SignedRAV) :
    (s.logSent i rav).history =
      s.history ++ ((rav.map Consumer.EventKind.sent).map (Entry.mk i)).toList := by
  cases rav with
  | none => exact (List.append_nil _).symm
  | some rav => rfl

theorem logReceived_history (s : State) (i : StreamId) (message : Except ReceiveError Message) :
    (s.logReceived i message).history =
      s.history ++ ((receivedEntry message).map (Entry.mk i)).toList := by
  rcases message with _ | _ | _ | _ | _
  case ok.ravRequest => rfl
  all_goals exact (List.append_nil _).symm

def recording : Recording Consumer.machine Consumer.EventKind where
  history := State.history
  entry := entryOf
  exec_history := by
    intro i β e s s' a b ran
    change State.exec i a e s = _ at ran
    cases a with
    | startSession req =>
      cases ran
      exact logSent_history s i req.initialRav
    | sendRAVSubmission id submission =>
      cases ran
      exact logSent_history s i submission.signedRav
    | receive =>
      cases ran
      exact logReceived_history s i e.message
    | note kind =>
      cases ran
      rfl
    | createWithID id =>
      simp only [State.exec] at ran
      split at ran
      · cases ran
        exact (List.append_nil _).symm
      · split at ran <;> (cases ran; exact (List.append_nil _).symm)
    | setEndpoint id endpoint =>
      simp only [State.exec] at ran
      split at ran <;> (cases ran; exact (List.append_nil _).symm)
    | _ =>
      cases ran
      exact (List.append_nil _).symm

abbrev sidecar : Discipline Consumer.machine := recording.discipline Justified

/-- A program that needs nothing and promises nothing but justified entries. -/
abbrev Careful (i : StreamId) {α : Type} (p : Consumer.Program α) : Prop :=
  sidecar.Triple i (fun _ => True) p fun _ _ => True

section Programs

variable {i : StreamId}

theorem lasts_true : Recording.Lasts (K := Consumer.EventKind) i fun _ => True := fun _ _ _ h => h

variable {α β : Type} {P : State → Prop} {h : Consumer.History} {session : LocalSession}
  {rav : SignedRAV} {c : Control} {p : Consumer.Program α} {a : SidecarAct β}

theorem Careful.ret (a : α) : Careful i (.ret a) :=
  Triple.ret (Discipline.Stable.const True) fun _ _ h => h

theorem Careful.bind {f : α → Consumer.Program β} (first : Careful i p)
    (next : ∀ a, Careful i (f a)) : Careful i (p.bind f) :=
  Triple.bind first next

theorem silent_triple {P : Consumer.History → Prop} (lasts : Recording.Lasts i P)
    (quiet : ∀ e, entryOf a e = none) :
    sidecar.Triple i (fun s => P s.history) (Consumer.run a) fun _ s => P s.history :=
  Recording.silent lasts quiet

theorem records_triple {kind : Consumer.EventKind} {P Q : Consumer.History → Prop}
    (lasts : Recording.Lasts i P) (lasts' : Recording.Lasts i Q)
    (makes : ∀ e, entryOf a e = some kind) (why : ∀ h, P h → Justified i h kind)
    (next : ∀ h, P h → Q (h ++ [⟨i, kind⟩])) :
    sidecar.Triple i (fun s => P s.history) (Consumer.run a) fun _ s => Q s.history :=
  Recording.records lasts lasts' makes why next

theorem Careful.silent (quiet : ∀ e, entryOf a e = none) : Careful i (Consumer.run a) :=
  silent_triple lasts_true quiet

/-- Whatever is known need not be remembered. -/
theorem Careful.within (careful : Careful i p) : sidecar.Triple i P p fun _ _ => True :=
  careful.conseq (fun _ _ _ => trivial) fun _ _ _ h => h

theorem failed_triple {ε : Type} (err : ε) {Q : α → State → Prop} :
    sidecar.Triple i P (.ret (.error err) : Consumer.Program (Except ε α))
      (fun r s => ∀ a, r = .ok a → Q a s) := by
  refine .ret_of_post fun s _ a same => ?_
  cases same

/-! ### Starting a session -/

/-- What the control loop keeps up. -/
def Controls (i : StreamId) (c : Control) (h : Consumer.History) : Prop :=
  ∃ first firstRAV, Keeps i first firstRAV c.session h ∧
    ∀ rav ∈ c.pendingRAV, Affordable i h first firstRAV rav

theorem Controls.lasts (c : Control) : Recording.Lasts i (Controls i c) := by
  rintro h h' grows ⟨first, firstRAV, keeps, pending⟩
  exact ⟨first, firstRAV, keeps.grows grows, fun rav sent => (pending rav sent).grows grows⟩

theorem openedSession_rav (id : String) (input : BootstrapInput) (receiver : Address)
    (rav : SignedRAV) (pricing : Option PricingConfig) :
    (openedSession id input receiver rav pricing).currentRAV = some rav := by
  cases pricing <;> rfl

theorem controls_opened (holds : session.currentRAV = some rav) :
    Controls i ⟨session, none⟩ (h ++ [⟨i, .opened session⟩]) := by
  refine ⟨session, rav, ⟨List.mem_append_right _ (List.mem_singleton.mpr rfl), holds, rfl, ?_⟩,
    nofun⟩
  intro held same
  cases holds.symm.trans same
  exact Affordable.opening

theorem openSession_triple (input : BootstrapInput) (selection : ProviderSelection)
    (url : String) (signed : SignedRAV) (resp : StartSessionResponse) :
    sidecar.Triple i (fun _ => True) (openSession input selection url signed resp)
      (fun r s => ∀ session, r = .ok session → Controls i ⟨session, none⟩ s.history) := by
  unfold openSession
  split
  · exact failed_triple _
  rename_i id rav pricing _
  refine .bind (Careful.silent fun _ => rfl) fun created => ?_
  cases created with
  | error err => exact failed_triple _
  | ok _ =>
    refine .bind (Careful.silent fun _ => rfl) fun _ => ?_
    have holds := openedSession_rav id input selection.receiver rav pricing
    refine .bind (records_triple (Q := Controls i ⟨_, none⟩) lasts_true
      (Controls.lasts _) (fun _ => rfl) (fun _ _ => ?_) fun _ _ => controls_opened holds)
      fun _ => ?_
    · exact Option.isSome_iff_exists.mpr ⟨rav, holds⟩
    · refine .ret (Controls.lasts _).stable fun s _ here session same => ?_
      cases same
      exact here

theorem resolveProviderSelection_careful (s : Sidecar) (input : BootstrapInput) :
    Careful i (resolveProviderSelection s input) := by
  unfold resolveProviderSelection
  dsimp only
  split
  · split <;> exact Careful.ret _
  split
  · exact Careful.ret _
  refine Careful.bind (Careful.silent fun _ => rfl) fun found => ?_
  cases found with
  | error | ok => exact Careful.ret _

theorem startSession_careful (account : Option EscrowAccount)
    (zero : rav.message.collectionID = .zero) :
    Careful i (Consumer.run (.startSession ⟨account, some (horizonSignedRAVToProto rav)⟩)) :=
  records_triple lasts_true lasts_true (fun _ => rfl)
    (fun _ _ => ⟨rav, rfl, .inl zero⟩) fun _ h => h

theorem bootstrapManagedSession_triple (s : Sidecar) (input : BootstrapInput) :
    sidecar.Triple i (fun _ => True) (bootstrapManagedSession s input)
      (fun r s => ∀ session, r = .ok session → Controls i ⟨session, none⟩ s.history) := by
  refine .bind (resolveProviderSelection_careful s input) fun selected => ?_
  cases selected with
  | error err => exact failed_triple _
  | ok selection =>
    refine .bind (Careful.silent fun _ => rfl) fun now => ?_
    dsimp only
    split
    · exact failed_triple _
    · exact failed_triple _
    rename_i signed made
    split
    · exact failed_triple _
    have zero : signed.message.collectionID = .zero := by rw [signRAV_message made]; rfl
    refine .bind (startSession_careful _ zero) fun answer => ?_
    cases answer with
    | error err => exact failed_triple _
    | ok resp => exact openSession_triple input selection _ signed resp

/-! ### Payment control -/

/-- What is known once a RAV has been signed and before it is sent. -/
def Signed (i : StreamId) (session : LocalSession) (req : RAVRequest) (rav : SignedRAV)
    (h : Consumer.History) : Prop :=
  Controls i ⟨session, some rav⟩ h ∧ ⟨i, .signed session req rav⟩ ∈ h

theorem Signed.lasts (session : LocalSession) (req : RAVRequest) (rav : SignedRAV) :
    Recording.Lasts i (Signed i session req rav) :=
  fun h h' grows here => ⟨Controls.lasts _ h h' grows here.1, grows.pre.subset here.2⟩

theorem Controls.append (kind : Consumer.EventKind) (controls : Controls i c h) :
    Controls i c (h ++ [⟨i, kind⟩]) := by
  obtain ⟨first, firstRAV, keeps, pending⟩ := controls
  exact ⟨first, firstRAV, keeps.append kind, fun rav sent => (pending rav sent).append kind⟩

theorem Controls.sign {req : RAVRequest} {quoted : SignedRAV} {cost : Int}
    (controls : Controls i c h) (signs : Extends c.session req quoted cost rav) :
    Signed i c.session req rav (h ++ [⟨i, .signed c.session req rav⟩]) := by
  obtain ⟨first, firstRAV, keeps, _⟩ := controls
  refine ⟨⟨first, firstRAV, keeps.append _, ?_⟩,
    List.mem_append_right _ (List.mem_singleton.mpr rfl)⟩
  intro rav' same
  cases same
  exact keeps.signed signs

theorem receive_triple (c : Control) :
    sidecar.Triple i (fun s => Controls i c s.history) (Consumer.run .receive)
      (fun r s => Controls i c s.history ∧
        ∀ req, r = .ok (.ravRequest req) → ⟨i, .received req⟩ ∈ s.history) := by
  refine .perform (Controls.lasts c).stable ?_ ?_ ?_
  · exact fun r _ _ _ _ grows here => ⟨Controls.lasts c _ _ grows here.1,
      fun req same => grows.pre.subset (here.2 req same)⟩
  · intro s _ _ e kind made
    obtain ⟨req, rfl⟩ : ∃ req, kind = .received req := by
      change receivedEntry e.message = some kind at made
      unfold receivedEntry at made
      split at made
      · next req _ =>
          cases made
          exact ⟨req, rfl⟩
      · cases made
    trivial
  · intro e s s' r _ here ran
    cases ran
    rcases message : e.message with _ | _ | req | _ | _
    case ok.ravRequest =>
      refine ⟨here.append _, fun req' same => ?_⟩
      cases same
      exact List.mem_append_right _ (List.mem_singleton.mpr rfl)
    all_goals exact ⟨here, fun req same => nomatch same⟩

/-- How a turn of the loop ends. -/
def turnPost (i : StreamId) (turn : Turn) (s : State) : Prop :=
  Sum.elim (fun c s => Controls i c s.history) (fun _ _ => True) turn s

theorem stop_triple (result : ControlResult) :
    sidecar.Triple i P (.ret (.inr result)) (turnPost i) :=
  Triple.ret_of_post fun _ _ => trivial

theorem resolveFailedSend_careful (id err : String) : Careful i (resolveFailedSend id err) := by
  refine Careful.bind (Careful.silent fun _ => rfl) fun status => ?_
  cases status with
  | error | ok => exact Careful.ret _

theorem sendRAVSubmission_triple (id : String) (session : LocalSession) (req : RAVRequest)
    (rav : SignedRAV) :
    sidecar.Triple i (fun s => Signed i session req rav s.history)
      (Consumer.run (.sendRAVSubmission id ⟨some (horizonSignedRAVToProto rav), req.usage⟩))
      (fun _ s => Controls i ⟨session, some rav⟩ s.history) :=
  records_triple (Q := Controls i ⟨session, some rav⟩) (Signed.lasts session req rav)
    (Controls.lasts _) (fun _ => rfl)
    (fun _ here => ⟨rav, rfl, .inr ⟨session, req, here.2⟩⟩) fun _ here => here.1.append _

theorem Controls.addUsage {pending : Option SignedRAV} (blocks bytes requests : UInt64)
    (cost : Option Int) (controls : Controls i ⟨session, pending⟩ h) :
    Controls i ⟨session.addUsage blocks bytes requests cost, pending⟩ h := by
  obtain ⟨first, firstRAV, keeps, sent⟩ := controls
  exact ⟨first, firstRAV, ⟨keeps.opened, keeps.rav, keeps.pricing, keeps.held⟩, sent⟩

theorem answerRequest_triple (s : Sidecar) (c : Control) (req : RAVRequest) :
    sidecar.Triple i
      (fun s => Controls i c s.history ∧ ⟨i, .received req⟩ ∈ s.history)
      (answerRequest s c req) (turnPost i) := by
  have lasts : Recording.Lasts i fun h => Controls i c h ∧ ⟨i, .received req⟩ ∈ h :=
    fun h h' grows here => ⟨Controls.lasts c h h' grows here.1, grows.pre.subset here.2⟩
  refine .bind (silent_triple lasts fun _ => rfl) fun _ => ?_
  refine .bind (silent_triple lasts fun _ => rfl) fun now => ?_
  split
  · exact stop_triple _
  · exact stop_triple _
  rename_i signed made
  obtain ⟨quoted, cost, signs⟩ := signRAVForRequest_extends made
  refine .bind (records_triple (Q := Signed i c.session req signed) lasts
    (Signed.lasts _ _ _) (fun _ => rfl) (fun h here => ?_) fun h here => here.1.sign signs)
    fun _ => ?_
  · obtain ⟨first, firstRAV, keeps, _⟩ := here.1
    exact ⟨here.2, ⟨quoted, cost, signs⟩, first, firstRAV, keeps⟩
  refine .bind (sendRAVSubmission_triple _ c.session req signed)
    fun sent => ?_
  cases sent with
  | error err =>
    exact .bind (resolveFailedSend_careful _ err).within
      fun result => stop_triple _
  | ok _ =>
    refine .ret (Controls.lasts _).stable fun s _ here => ?_
    split
    · exact here
    · exact here.addUsage _ _ _ _

theorem controls_acceptPending (controls : Controls i c h) : Controls i (acceptPending c) h := by
  unfold acceptPending
  split
  · exact controls
  rename_i rav sent
  obtain ⟨first, firstRAV, keeps, pending⟩ := controls
  refine ⟨first, firstRAV, ⟨keeps.opened, keeps.rav, keeps.pricing, ?_⟩, nofun⟩
  intro held same
  cases same
  exact pending rav sent

theorem controlTurn_triple (s : Sidecar) (c : Control) :
    sidecar.Triple i (fun s => Controls i c s.history) (controlTurn s c) (turnPost i) := by
  refine .bind (receive_triple c) fun received => ?_
  match received with
  | .error .canceled => exact stop_triple _
  | .error (.failed err) => exact stop_triple _
  | .ok .empty =>
    exact (Triple.ret (Controls.lasts c).stable fun _ _ here => here).conseq
      (fun _ _ here => here.1) fun _ _ _ here => here
  | .ok (.ravRequest req) =>
    exact (answerRequest_triple s c req).conseq (fun _ _ here => ⟨here.1, here.2 req rfl⟩)
      fun _ _ _ here => here
  | .ok (.needMoreFunds minimum) => exact stop_triple _
  | .ok (.sessionControl action reason) =>
    dsimp only
    split
    · refine .bind ((silent_triple (Controls.lasts c) fun _ => rfl).conseq
        (fun _ _ here => here.1) fun _ _ _ here => here) fun _ => ?_
      exact .ret (Controls.lasts c).stable fun _ _ here =>
        controls_acceptPending here
    · exact stop_triple _

theorem runIngressPaymentControl_triple (s : Sidecar) (session : LocalSession) :
    sidecar.Triple i (fun s => Controls i ⟨session, none⟩ s.history)
      (runIngressPaymentControl s session) (fun _ _ => True) := by
  have lasts := Controls.lasts (i := i) ⟨session, none⟩
  refine .bind (silent_triple lasts fun _ => rfl) fun found => ?_
  cases found with
  | false => exact (Careful.ret _).within
  | true =>
    refine .bind (silent_triple lasts fun _ => rfl) fun bound => ?_
    cases bound with
    | error err => exact (Careful.ret _).within
    | ok _ =>
      -- the invariant of the loop is what `controlTurn_triple` keeps up
      exact .iterate (J := fun c (s : State) => Controls i c s.history)
        (fun c => (Controls.lasts c).stable) (fun _ => Discipline.Stable.const True)
        fun c => controlTurn_triple s c

theorem proxyStream_careful (s : Sidecar) (input : BootstrapInput) :
    Careful i (Consumer.proxyStream s input) := by
  refine Triple.bind (bootstrapManagedSession_triple s input) fun started => ?_
  cases started with
  | error err => exact (Careful.ret _).within
  | ok session =>
    refine .bind ((runIngressPaymentControl_triple s session).conseq
      (fun _ _ here => here session rfl) fun _ _ _ h => h) fun result => ?_
    exact Careful.bind (Careful.silent fun _ => rfl) fun _ =>
      Careful.bind (Careful.silent fun _ => rfl) fun _ => Careful.ret _

theorem init_careful (s : Sidecar) (input : BootstrapInput) :
    Careful i (Consumer.init s input) := by
  refine Triple.bind (bootstrapManagedSession_triple s input) fun started => ?_
  cases started with
  | error | ok => exact (Careful.ret _).within

theorem program_careful (s : Sidecar) (op : Op) : Careful i (op.program s) := by
  cases op with
  | init input => exact init_careful s input
  | proxyStream input => exact proxyStream_careful s input

end Programs

theorem boot_verified (s : Sidecar) (ops : StreamId → Op) :
    sidecar.Verified (fun _ _ _ => True) (Consumer.boot s ops) where
  inv := Along.nil
  threads i := program_careful s (ops i) _ Along.nil trivial

/-- In every run of a sidecar each entry of its history is justified. -/
theorem boot_justified {ops : StreamId → Op} {c : Config SidecarAct StreamId State Consumer.Reply}
    (run : Consumer.machine.Reach (Consumer.boot s ops) c) : Along Justified c.shared.history :=
  ((boot_verified s ops).reach run).inv

/-- Whatever a provider sends, the sidecar signs the quoted value plus the cost asked for, under
the quoted collection ID. While the requests are honest, no RAV exceeds what the session holds by
more than the agreed price of the counters, and nothing that is signed exceeds the value the
session was opened with by more than the agreed price of all reported usage. -/
theorem signed_within_price (s : Sidecar) (ops : StreamId → Op)
    {c : Config SidecarAct StreamId State Consumer.Reply}
    (run : Consumer.machine.Reach (Consumer.boot s ops) c) {before : Consumer.History}
    {i : StreamId} {session : LocalSession} {req : RAVRequest} {rav : SignedRAV}
    (signed : before ++ [⟨i, .signed session req rav⟩] <+: c.shared.history) :
    (∃ quoted cost, Extends session req quoted cost rav) ∧
    (AllHonest i (before ++ [⟨i, .signed session req rav⟩]) →
      ∃ first firstRAV held pricing, ⟨i, .opened first⟩ ∈ before ∧
        first.currentRAV = some firstRAV ∧ first.pricingConfig = some pricing ∧
        session.currentRAV = some held ∧ session.pricingConfig = some pricing ∧
        rav.message.collectionID = held.message.collectionID ∧
        rav.message.valueAggregate ≤ held.message.valueAggregate +
          (pricing.calculateUsageCost (askedBlocks req) (askedBytes req)).bigInt ∧
        rav.message.collectionID = firstRAV.message.collectionID ∧
        rav.message.valueAggregate ≤ firstRAV.message.valueAggregate +
          price pricing (reportedBlocks i (before ++ [⟨i, .signed session req rav⟩]))
            (reportedBytes i (before ++ [⟨i, .signed session req rav⟩]))) := by
  obtain ⟨_, ⟨quoted, cost, signs⟩, first, firstRAV, keeps⟩ :=
    ((boot_justified run).of_grown signed).last
  refine ⟨⟨quoted, cost, signs⟩, fun honest => ?_⟩
  obtain ⟨held, pricing, holds, agreed, collection, value⟩ := honest_le honest.last signs
  have first_agreed : first.pricingConfig = some pricing := keeps.pricing.symm.trans agreed
  obtain ⟨firstCollection, total⟩ := keeps.signed signs honest
  exact ⟨first, firstRAV, held, pricing, keeps.opened, keeps.rav, first_agreed, holds, agreed,
    collection, value, firstCollection, total pricing first_agreed⟩

/-! ## Two providers -/

/-- A sidecar whose key signs everything. -/
def signsAll : Sidecar where
  sign _ := .ok ⟨27 :: List.replicate 64 2, rfl⟩
  oracleEndpoint := ""
  parseEndpoint endpoint := endpoint

/-- Every thread proxies a stream to the same provider. -/
def oneProvider (_ : StreamId) : Op :=
  .proxyStream ⟨List.replicate 20 1, some (List.replicate 20 2), List.replicate 20 3, "provider"⟩

/-- The provider opens session `s` at one unit for a block. -/
def accepts : StartSessionResponse where
  sessionId := "s"
  useRav := none
  accepted := true
  rejectionReason := ""
  pricingConfig := some ⟨⟨1⟩, ⟨0⟩⟩
  dataPlaneEndpoint := "data"

/-- The RAV of `value` that the sidecar of stream 0 has signed for a collection. -/
def signedFor (collectionID : CollectionID) (value : Int) : SignedRAV where
  message := ⟨collectionID, List.replicate 20 1, List.replicate 20 2, List.replicate 20 3, 0,
    value, []⟩
  signature := ⟨27 :: List.replicate 64 2, rfl⟩

/-- A request that quotes a RAV and asks for `cost` on `blocks` blocks. -/
def requestFor (rav : SignedRAV) (blocks : UInt64) (cost : Int) : RAVRequest :=
  ⟨some (horizonSignedRAVToProto rav), some ⟨blocks, 0, 0, some (.fromBigInt cost)⟩⟩

/-- Stream 0 makes `n` steps while the provider says this. -/
def hears (message : Message) (n : Nat) : StreamId × SidecarOracle × Nat :=
  (0, { started := .ok accepts, message := .ok message }, n)

/-- The session of stream 0 after it has paid for `blocks` blocks. -/
def payingSession (blocks : UInt64) : LocalSession where
  id := "s"
  payer := List.replicate 20 1
  receiver := List.replicate 20 2
  dataService := List.replicate 20 3
  currentRAV := some (signedFor .zero blocks.toNat)
  blocksProcessed := blocks
  totalCost := blocks.toNat
  pricingConfig := some ⟨⟨1⟩, ⟨0⟩⟩

/-- Two honest requests with a CONTINUE in between. -/
def paidTwice : Config SidecarAct StreamId State Consumer.Reply :=
  Consumer.machine.play [
    hears (.ravRequest (requestFor (signedFor .zero 0) 2 2)) 13,
    hears (.sessionControl .continue "") 3,
    hears (.ravRequest (requestFor (signedFor .zero 2) 1 1)) 6] (Consumer.boot signsAll oneProvider)

/-- The history up to the second RAV. -/
def twice : Consumer.History :=
  paidTwice.shared.history.take 6 ++ [⟨0, .signed (payingSession 2)
    (requestFor (signedFor .zero 2) 1 1) (signedFor .zero 3)⟩]

theorem signed_within_price_twice : twice <+: paidTwice.shared.history ∧ AllHonest 0 twice ∧
    reportedBlocks 0 twice = 3 ∧
    ∃ first firstRAV held pricing, ⟨0, .opened first⟩ ∈ paidTwice.shared.history.take 6 ∧
      first.currentRAV = some firstRAV ∧ first.pricingConfig = some pricing ∧
      (payingSession 2).currentRAV = some held ∧
      (3 : Int) ≤ held.message.valueAggregate + (pricing.calculateUsageCost 1 0).bigInt ∧
      (3 : Int) ≤ firstRAV.message.valueAggregate +
        price pricing (reportedBlocks 0 twice) (reportedBytes 0 twice) := by
  have signed : twice <+: paidTwice.shared.history := by decide +kernel
  have honest : AllHonest 0 twice := by
    unfold AllHonest
    decide +kernel
  obtain ⟨first, firstRAV, held, pricing, opened, rav, agreed, holds, _, _, value, _, total⟩ :=
    (signed_within_price signsAll oneProvider (Consumer.machine.play_reach _ _) signed).2 honest
  exact ⟨signed, honest, by decide +kernel, first, firstRAV, held, pricing, opened, rav, agreed,
    holds, value, total⟩

/-- The first request quotes a RAV of another collection that is worth five. -/
def overcharged : Config SidecarAct StreamId State Consumer.Reply :=
  Consumer.machine.play [
    hears (.ravRequest (requestFor (signedFor ⟨List.replicate 32 1, rfl⟩ 5) 0 0)) 13]
    (Consumer.boot signsAll oneProvider)

/-- The sidecar signs what it is quoted, although its session holds a RAV of value zero. -/
theorem signed_beyond_price :
    ¬ ∀ (s : Sidecar) (ops : StreamId → Op) (c : Config SidecarAct StreamId State Consumer.Reply)
      (i : StreamId) (session : LocalSession) (req : RAVRequest) (rav held : SignedRAV)
      (pricing : PricingConfig), Consumer.machine.Reach (Consumer.boot s ops) c →
      ⟨i, .signed session req rav⟩ ∈ c.shared.history → session.currentRAV = some held →
      session.pricingConfig = some pricing → rav.message.collectionID = held.message.collectionID ∧
      rav.message.valueAggregate ≤ held.message.valueAggregate +
        (pricing.calculateUsageCost (askedBlocks req) (askedBytes req)).bigInt := by
  intro bounded
  have signed : ⟨0, .signed (payingSession 0)
      (requestFor (signedFor ⟨List.replicate 32 1, rfl⟩ 5) 0 0)
      (signedFor ⟨List.replicate 32 1, rfl⟩ 5)⟩ ∈ overcharged.shared.history := by decide +kernel
  have value := (bounded signsAll oneProvider overcharged 0 _ _ _ _ _
    (Consumer.machine.play_reach _ _) signed rfl rfl).2
  revert value
  decide +kernel

end Sdsce.Guarantees.Spending
