import Sdsce.Guarantees.SessionHistory
import Sdsce.Guarantees.Spending.SidecarSpending
import Sdsce.Guarantees.Statements
import Sdsce.Source.Processes
import Sdsce.Theory.Table

/-!
# The price of a session

`StartSession` quotes the pricing configuration of the gateway, and `Report` charges by the
configuration of the process it runs in. The in-memory repository dies with its process, so both are
the same for all of its sessions. PostgreSQL does not keep the price of a session: a session is
charged as quoted as long as every report on it runs under the configuration that opened it.
-/
namespace Sdsce.Guarantees.SessionPricing

open Sdsce.Theory Sdsce.Source Function
open Sdsce.Guarantees.Spending (price price_add)

/-- The total cost is the price of the usage. -/
def ChargedAt (pricing : PricingConfig) (blocks bytes : UInt64) (totalCost : Int) : Prop :=
  totalCost = price pricing blocks.toNat bytes.toNat

instance (pricing : PricingConfig) (blocks bytes : UInt64) (totalCost : Int) :
    Decidable (ChargedAt pricing blocks bytes totalCost) :=
  inferInstanceAs (Decidable (_ = _))

/-- The cost of the usage and the new totals fit their types. -/
def usageFits (pricing : PricingConfig) (totalBlocks totalBytes blocks bytes : UInt64) : Bool :=
  totalBlocks.toNat + blocks.toNat < 2 ^ 64 && totalBytes.toNat + bytes.toNat < 2 ^ 64 &&
    price pricing blocks.toNat bytes.toNat < 2 ^ 256

variable {pricing : PricingConfig} {blocks bytes : UInt64}

theorem calculateUsageCost_eq_price (fits : price pricing blocks.toNat bytes.toNat < 2 ^ 256) :
    (pricing.calculateUsageCost blocks bytes).bigInt = price pricing blocks.toNat bytes.toNat := by
  have small (n : UInt64) : n.toNat % 2 ^ 256 = n.toNat :=
    Nat.mod_eq_of_lt (lt_trans n.toNat_lt (by norm_num))
  simp only [price, GRT.bigInt] at fits
  have whole : pricing.pricePerBlock.raw.toNat * blocks.toNat +
      pricing.pricePerByte.raw.toNat * bytes.toNat < 2 ^ 256 := by
    exact_mod_cast fits
  simp only [PricingConfig.calculateUsageCost, GRT.bigInt, GRT.add, GRT.mul, price,
    BitVec.toNat_add, BitVec.toNat_mul, BitVec.toNat_ofNat, small, ← Nat.add_mod,
    Nat.mod_eq_of_lt whole, Nat.cast_add, Nat.cast_mul]

theorem ChargedAt.zero (pricing : PricingConfig) : ChargedAt pricing 0 0 0 := by
  simp [ChargedAt, price]

theorem ChargedAt.add {totalBlocks totalBytes : UInt64} {totalCost cost : Int}
    (charged : ChargedAt pricing totalBlocks totalBytes totalCost)
    (priced : cost = (pricing.calculateUsageCost blocks bytes).bigInt)
    (fits : usageFits pricing totalBlocks totalBytes blocks bytes = true) :
    ChargedAt pricing (totalBlocks + blocks) (totalBytes + bytes) (totalCost + cost) := by
  simp only [usageFits, Bool.and_eq_true, decide_eq_true_eq] at fits
  obtain ⟨⟨blocksFit, bytesFit⟩, costFits⟩ := fits
  rw [ChargedAt, UInt64.toNat_add, UInt64.toNat_add, Nat.mod_eq_of_lt blocksFit,
    Nat.mod_eq_of_lt bytesFit, price_add, priced, calculateUsageCost_eq_price costFits]
  exact congrArg (· + _) charged

/-! ## In memory -/

section InMemory

variable {g : Gateway} {pool : Pool} {i : ThreadId} {h : History} {id : String}

/-- No counter and no cost overflows when a swap applies usage. -/
def eventFits (pricing : PricingConfig) : EventKind → Bool
  | .swapped _ session (.applyUsage blocks bytes _ _ _) =>
    usageFits pricing session.blocksProcessed session.bytesTransferred blocks bytes
  | _ => true

def SessionCharged (pricing : PricingConfig) (session : Session) : Prop :=
  ChargedAt pricing session.blocksProcessed session.bytesTransferred session.totalCost

variable {session : Session}

theorem update_charged {u : SessionUpdate} (charged : SessionCharged g.pricingConfig session)
    (allowed : mayUpdate g pool i h id u)
    (fits : eventFits g.pricingConfig (.swapped id session u) = true) :
    SessionCharged g.pricingConfig (u.apply session) := by
  cases u with
  | applyUsage blocks bytes requests cost now => exact charged.add allowed fits
  | runtimeState =>
    simp only [SessionUpdate.apply]
    split
    · exact charged
    · exact charged
  | touch | ravAndBaseline => exact charged

theorem stored_charged (accountable : Accountable (providerPolicy g pool) h)
    (last : lastSession h id = some session)
    (fits : ∀ event ∈ h, eventFits g.pricingConfig event.kind = true) :
    SessionCharged g.pricingConfig session := by
  refine accountable.session (J := fun h session =>
    (∀ event ∈ h, eventFits g.pricingConfig event.kind = true) →
      SessionCharged g.pricingConfig session) ?_ ?_ ?_ last fits
  · rintro h i session _ _ ⟨id, payer, dataService, initialRAV, now, rfl, _⟩ _
    exact ChargedAt.zero _
  · intro h i old u _ charged allowed fits
    have before := charged fun event member => fits event (List.mem_append_left _ member)
    exact update_charged before allowed (fits ⟨i, .swapped id old u⟩ (by simp))
  · intro h i kind session _ charged fits
    exact charged fun event member => fits event (List.mem_append_left _ member)

/-- Nothing is asked of the threads but their replies. -/
def replies : Discipline machine where
  inv _ := True
  rely _ _ _ := True
  may _ _ _ _ := True
  rely_refl _ _ := trivial
  rely_trans _ _ := trivial
  preserves _ _ _ := trivial
  respects _ _ _ _ := trivial

/-- What the reply of `StartSession` quotes. -/
def Quotes (pricing : PricingConfig) (response : Except ConnectError StartSessionResponse) : Prop :=
  ∀ r, response = .ok r → r.accepted = true → r.pricingConfig = some pricing

def replyQuotes (g : Gateway) : Reply → Prop
  | .startSession response => Quotes g.pricingConfig response
  | _ => True

theorem any_triple {α : Type} (p : Program α) :
    replies.Triple i (fun _ => True) p (fun _ _ => True) :=
  .of_permissive (fun _ _ _ => trivial) p

theorem returns {α : Type} {a : α} {Q : α → Prop} (here : Q a) :
    replies.Triple i (fun _ => True) (.ret a) (fun a _ => Q a) :=
  .ret (.const True) fun _ _ _ => here

theorem quotes_error (pricing : PricingConfig) (err : ConnectError) :
    Quotes pricing (.error err) := by
  intro r answered
  cases answered

theorem quotes_rejected (pricing : PricingConfig) (reason : String) :
    Quotes pricing (.ok (Gateway.rejectSession reason)) := by
  intro r answered accepted
  cases answered
  cases accepted

theorem createSession_quotes (req : StartSessionRequest) (payer dataService : Address)
    (initialRAV : Option SignedRAV) :
    replies.Triple i (fun _ => True) (g.createSession req payer dataService initialRAV)
      (fun response _ => Quotes g.pricingConfig response) := by
  refine (any_triple _).bind fun sessionID => (any_triple _).bind fun now =>
    (any_triple _).bind fun created => ?_
  cases created with
  | error err => exact returns (quotes_error _ _)
  | ok _ =>
    dsimp only
    split
    · exact returns (quotes_error _ _)
    · refine returns fun r answered _ => ?_
      cases answered
      rfl

theorem startSession_quotes (req : StartSessionRequest) :
    replies.Triple i (fun _ => True) (g.startSession req)
      (fun response _ => Quotes g.pricingConfig response) := by
  unfold Gateway.startSession
  split
  · exact returns (quotes_error _ _)
  split
  · exact returns (quotes_rejected _ _)
  split
  · exact returns (quotes_error _ _)
  refine (any_triple _).bind fun valid => ?_
  cases valid with
  | error reason => exact returns (quotes_rejected _ _)
  | ok _ => exact createSession_quotes req _ _ _

theorem program_quotes (g : Gateway) (handler : Handler) :
    replies.Triple i (fun _ => True) (handler.program g) (fun reply _ => replyQuotes g reply) := by
  cases handler with
  | startSession req =>
    exact (startSession_quotes req).bind fun response =>
      .ret (.const _) fun _ _ quotes => quotes
  | _ => exact (any_triple _).bind fun _ => returns trivial

theorem boot_quotes {c : Config Act ThreadId World Reply} (run : machine.Reach (boot g pool) c)
    {response : Except ConnectError StartSessionResponse}
    (returned : c.threads i = .ret (.startSession response)) : Quotes g.pricingConfig response := by
  have verified : replies.Verified (fun _ reply _ => replyQuotes g reply) (boot g pool) :=
    ⟨trivial, fun i => program_quotes g (pool i) _ trivial trivial⟩
  exact (verified.reach run).returned returned

end InMemory

/-! ## In PostgreSQL -/

section Postgres

open Sdsce.Source.Psql hiding ThreadId machine Program run Reply start report reportEvent
  createSession
open Sdsce.Guarantees.Statements

variable {gateways : Psql.ThreadId → Gateway} {quoted : String → PricingConfig}

/-- A session is opened and charged under one pricing configuration. -/
def asQuoted (gateways : Psql.ThreadId → Gateway) (quoted : String → PricingConfig)
    (i : Psql.ThreadId) {β : Type} : DbAct β → Bool
  | .createSession row | .createSessionTx row => (gateways i).pricingConfig = quoted row.id
  | .applyUsage id _ _ _ _ => (gateways i).pricingConfig = quoted id
  | _ => true

/-- The write overflows no counter and no cost. -/
def writeFits (quoted : String → PricingConfig) (t : Tables) : Write → Bool
  | .session id _ (.usage blocks bytes _ _) =>
    (t.sessions.lookup id).all fun row =>
      usageFits (quoted id) row.blocksProcessed row.bytesTransferred blocks bytes
  | _ => true

def writesFit (quoted : String → PricingConfig) : Tables → List Write → Bool
  | _, [] => true
  | t, w :: rest => writeFits quoted t w && writesFit quoted (t.write w) rest

/-- Neither the statement nor the commit overflows a counter or a cost. -/
def noOverflow (quoted : String → PricingConfig) (i : Psql.ThreadId) {β : Type} (a : DbAct β)
    (db : Db) : Bool :=
  match β, a with
  | _, .applyUsage id blocks bytes requests cost =>
    writeFits quoted db.tables (.session id 0 (.usage blocks bytes requests cost))
  | _, .commit => writesFit quoted db.tables (db.txs i)
  | _, _ => true

def terms (gateways : Psql.ThreadId → Gateway) (quoted : String → PricingConfig)
    (i : Psql.ThreadId) {β : Type} (a : DbAct β) (db : Db) : Bool :=
  asQuoted gateways quoted i a && noOverflow quoted i a db

def RowCharged (pricing : PricingConfig) (row : SessionRow) : Prop :=
  ChargedAt pricing row.blocksProcessed row.bytesTransferred row.totalCost

def Unused (row : SessionRow) : Prop :=
  row.blocksProcessed = 0 ∧ row.bytesTransferred = 0 ∧ row.totalCost = 0

/-- A write opens an unused session or charges usage at the price of its session. -/
def Priced (quoted : String → PricingConfig) : Write → Prop
  | .create row => Unused row
  | .session id _ (.usage blocks bytes _ cost) =>
    cost = ((quoted id).calculateUsageCost blocks bytes).bigInt
  | _ => True

/-- Every stored session is charged as it was quoted, and so will be what is still to be
committed. -/
structure Ledger (quoted : String → PricingConfig) (db : Db) : Prop where
  rows : ∀ id row, db.tables.sessions.lookup id = some row → RowCharged (quoted id) row
  queued : ∀ i, ∀ w ∈ db.txs i, Priced quoted w

/-- What a call of a process with this pricing may ask of the database. -/
def permitted (pricing : PricingConfig) {β : Type} : DbAct β → Prop
  | .createSession row | .createSessionTx row => Unused row
  | .applyUsage _ blocks bytes _ cost => cost = (pricing.calculateUsageCost blocks bytes).bigInt
  | .updateSession _ _ (.usage ..) => False
  | _ => True

variable {row : SessionRow} {t : Tables} {w : Write} {β : Type} {db : Db} {a : DbAct β}

theorem Unused.charged (unused : Unused row) (pricing : PricingConfig) :
    RowCharged pricing row := by
  obtain ⟨blocks, bytes, cost⟩ := unused
  rw [RowCharged, blocks, bytes, cost]
  exact ChargedAt.zero pricing

theorem write_charged
    (rows : ∀ id row, t.sessions.lookup id = some row → RowCharged (quoted id) row)
    (priced : Priced quoted w) (fits : writeFits quoted t w = true) {id : String}
    (found : (t.write w).sessions.lookup id = some row) : RowCharged (quoted id) row := by
  have insert {id' : String} {row' : SessionRow} (new : RowCharged (quoted id') row')
      (found : (t.sessions.insert id' row').lookup id = some row) : RowCharged (quoted id) row :=
    Table.forall_lookup_insert (P := fun id => RowCharged (quoted id)) new rows id row found
  cases w with
  | create first =>
    simp only [Tables.write] at found
    split at found
    · exact rows id row found
    · exact insert (priced.charged _) found
  | baseline id' updatedAt baseline =>
    simp only [Tables.write] at found
    split at found
    · exact rows id row found
    rename_i old before
    refine insert ?_ found
    exact rows id' old before
  | session id' updatedAt update =>
    simp only [Tables.write] at found
    split at found
    · exact rows id row found
    rename_i old before
    have charged := rows id' old before
    refine insert ?_ found
    cases update with
    | touch | runtimeState => exact charged
    | usage blocks bytes requests cost =>
      simp only [writeFits, before, Option.all_some] at fits
      exact charged.add priced fits
  | rav | record => exact rows id row found

theorem writes_charged {writes : List Write}
    (rows : ∀ id row, t.sessions.lookup id = some row → RowCharged (quoted id) row)
    (priced : ∀ w ∈ writes, Priced quoted w) (fits : writesFit quoted t writes = true) :
    ∀ id row, (writes.foldl Tables.write t).sessions.lookup id = some row →
      RowCharged (quoted id) row := by
  induction writes generalizing t with
  | nil => exact rows
  | cons w rest ih =>
    simp only [writesFit, Bool.and_eq_true] at fits
    exact ih (fun _ _ => write_charged rows (priced w List.mem_cons_self) fits.1)
      (fun w' member => priced w' (List.mem_cons_of_mem w member)) fits.2

theorem makes_priced {i : Psql.ThreadId} (made : Makes a w)
    (may : permitted (gateways i).pricingConfig a) (same : asQuoted gateways quoted i a = true) :
    Priced quoted w := by
  cases w with
  | create row =>
    cases a with
    | createSession | createSessionTx =>
      cases made
      exact may
    | _ => exact made.elim
  | session id updatedAt update =>
    cases a with
    | updateSession statement id' update' =>
      obtain ⟨rfl, rfl⟩ := made
      cases update with
      | touch | runtimeState => trivial
      | usage => exact may.elim
    | applyUsage id' blocks bytes requests cost =>
      obtain ⟨rfl, rfl⟩ := made
      rw [Priced, ← of_decide_eq_true same]
      exact may
    | _ => exact made.elim
  | baseline | rav | record => trivial

theorem makes_fits {i : Psql.ThreadId} (made : Makes a w)
    (may : permitted (gateways i).pricingConfig a) (fits : noOverflow quoted i a db = true) :
    writeFits quoted db.tables w = true := by
  cases w with
  | session id updatedAt update =>
    cases update with
    | touch | runtimeState => rfl
    | usage =>
      cases a with
      | updateSession =>
        obtain ⟨rfl, rfl⟩ := made
        exact may.elim
      | applyUsage =>
        obtain ⟨rfl, same⟩ := made
        cases same
        exact fits
      | _ => exact made.elim
  | create | baseline | rav | record => rfl

theorem statement_ledger {i : Psql.ThreadId} {db' : Db} (statement : Statement i db a db')
    (may : permitted (gateways i).pricingConfig a) (ok : terms gateways quoted i a db = true)
    (ledger : Ledger quoted db) : Ledger quoted db' := by
  simp only [terms, Bool.and_eq_true] at ok
  refine ⟨?_, statement.kept_back (fun w made _ => makes_priced made may ok.1) ledger.queued⟩
  cases statement with
  | silent tables _ _ _ | queued _ _ _ tables _ _ _ => exact tables ▸ ledger.rows
  | started | stopped | rolledBack => exact ledger.rows
  | wrote w made through =>
    exact fun _ _ => write_charged ledger.rows (makes_priced made may ok.1)
      (makes_fits made may ok.2)
  | committed => exact writes_charged ledger.rows (ledger.queued i) ok.2

/-- The calls of processes that keep to the terms of every session. -/
def pricedCalls (gateways : Psql.ThreadId → Gateway) (quoted : String → PricingConfig) :
    Discipline (Psql.machine.restrict (terms gateways quoted)) where
  inv := Ledger quoted
  rely _ _ _ := True
  may i _ a _ := permitted (gateways i).pricingConfig a
  rely_refl _ _ := trivial
  rely_trans _ _ := trivial
  preserves := by
    intro i β db db' e a b ledger may ran
    simp only [Machine.restrict] at ran
    split at ran
    · next ok => exact statement_ledger (exec_statement ran) may ok ledger
    · cases ran
  respects _ _ _ _ := trivial

/-! ### The calls -/

variable {i : Psql.ThreadId} {g : Gateway}

/-- A call that opens no session and charges none. -/
def Neutral {α : Type} (p : Psql.Program α) : Prop := ∀ pricing, p.Only (permitted pricing)

theorem sessionGet_neutral (id : String) : Neutral (Psql.sessionGet id) := by
  intro pricing
  refine .bind (.perform trivial) ?_
  rintro (_ | row)
  · exact .ret _
  refine .bind (.perform trivial) fun found => ?_
  split
  · exact .ret _
  · exact .ret _
  · exact .ret _

theorem collectRows_neutral (filter : SessionFilter) (rows : List SessionRow) :
    Neutral (Psql.collectRows filter rows) := by
  intro pricing
  induction rows with
  | nil => exact .ret _
  | cons row rest ih =>
    unfold Psql.collectRows
    split
    · refine .bind (.perform trivial) fun found => ?_
      split
      · refine ih.bind ?_
        rintro (_ | _)
        · exact .ret _
        · exact .ret _
      · exact .ret _
      refine ih.bind ?_
      rintro (_ | _)
      · exact .ret _
      · exact .ret _
    · exact ih

theorem sessionList_neutral (filter : SessionFilter) : Neutral (Psql.sessionList filter) := by
  intro pricing
  refine .bind (.perform trivial) ?_
  rintro (_ | rows)
  · exact .ret _
  · exact collectRows_neutral filter rows pricing

theorem execSession_neutral {statement id : String} {update : RowUpdate}
    (other : ∀ pricing, permitted pricing (.updateSession statement id update)) :
    Neutral (Psql.execSession statement id update) := by
  intro pricing
  refine .bind (.perform (other pricing)) fun answer => ?_
  split
  · exact .ret _
  · exact .ret _
  · exact .ret _

theorem sessionTouch_neutral (id : String) (lastKeepAlive : Time) :
    Neutral (Psql.sessionTouch id lastKeepAlive) := by
  refine execSession_neutral fun pricing => ?_
  trivial

theorem sessionUpdateRuntimeState_neutral (id : String) (status : SessionStatus)
    (metadata : Metadata) (endedAt : Option Time) (endReason : EndReason) :
    Neutral (Psql.sessionUpdateRuntimeState id status metadata endedAt endReason) := by
  refine execSession_neutral fun pricing => ?_
  trivial

theorem rollbackWith_neutral (err : DbError) : Neutral (Psql.rollbackWith err) :=
  fun _ => .bind (.perform trivial) fun _ => .ret _

theorem collectibleTx_neutral (id : String) (rav : SignedRAV) :
    Neutral (Psql.collectionCreateOrUpdateCollectibleTx id rav) := by
  intro pricing
  refine .bind (.perform trivial) fun now => ?_
  split
  · exact .ret _
  refine .bind (.perform trivial) fun upserted => ?_
  split
  · exact .ret _
  · exact .ret _
  refine .bind (.perform trivial) ?_
  rintro (_ | existing)
  · exact .ret _
  dsimp only
  split
  · exact .ret _
  · split
    · exact .ret _
    · exact .ret _

/-- `Commit`, with a rollback behind one that fails. -/
theorem commit_neutral (context : DbError → DbError) : Neutral
    ((Psql.run .commit).bind fun
      | .error err => Psql.rollbackWith (context err)
      | .ok () => .ret (.ok ()) : Psql.Program (Except DbError Unit)) := by
  intro pricing
  refine .bind (.perform trivial) ?_
  rintro (err | _)
  · exact rollbackWith_neutral _ pricing
  · exact .ret _

theorem sessionUpdateRAVAndBaseline_neutral (id : String) (rav : Option SignedRAV)
    (baseline : Baseline) : Neutral (Psql.sessionUpdateRAVAndBaseline id rav baseline) := by
  intro pricing
  have inTx : (Psql.updateInTx id rav baseline).Only (permitted pricing) := by
    refine .bind (.perform trivial) fun updatedAt => .bind (.perform trivial) fun updated => ?_
    split
    · exact .ret _
    · exact .ret _
    split
    · exact .ret _
    refine .bind (.perform trivial) fun createdAt => .bind (.perform trivial) ?_
    rintro (_ | _)
    · exact .ret _
    refine (collectibleTx_neutral _ _ pricing).bind ?_
    rintro (_ | _)
    · exact .ret _
    · exact .ret _
  refine .bind (.perform trivial) ?_
  rintro (_ | _)
  · exact .ret _
  refine inTx.bind ?_
  rintro (err | _)
  · exact rollbackWith_neutral err pricing
  · exact commit_neutral (fun err => err) pricing

theorem execCollectionTransition_neutral (statement : String) (key : CollectionKey)
    (expectedValue : Int) (mark : CollectionMark) (updatedAt : Time) :
    Neutral (Psql.execCollectionTransition statement key expectedValue mark updatedAt) := by
  intro pricing
  refine .bind (.perform trivial) fun now => .bind (.perform trivial) fun marked => ?_
  split
  · exact .ret _
  · exact .ret _
  refine .bind (.bind (.perform trivial) ?_) fun _ => .ret _
  rintro (_ | current)
  · exact .ret _
  dsimp only
  split
  · exact .ret _
  · exact .ret _

theorem sessionApplyUsage_only {pricing : PricingConfig} (id : String) (usage : UsageEvent)
    {cost : Int} (priced : cost = (pricing.calculateUsageCost usage.sanitizedTotals.1
      usage.sanitizedTotals.2.1).bigInt) :
    (Psql.sessionApplyUsage id usage cost).Only (permitted pricing) := by
  refine .bind (.perform trivial) ?_
  rintro (_ | _)
  · exact .ret _
  refine .bind (.bind (.perform priced) fun applied => ?_) ?_
  · split
    · exact .ret _
    · exact .ret _
    · exact .perform trivial
  · rintro (err | _)
    · exact rollbackWith_neutral err pricing
    · exact commit_neutral _ pricing

theorem report_only (events : List (Option Gateway.MeteringEvent)) :
    (Psql.report g events).Only (permitted g.pricingConfig) := by
  refine .forEach (fun event => ?_) events
  cases event with
  | none => exact .ret _
  | some event =>
    simp only [Psql.reportEvent]
    split
    · exact .ret _
    · have clock : (Psql.run .now).Only (permitted g.pricingConfig) := .perform trivial
      exact clock.bind fun now => (sessionApplyUsage_only _ _ rfl).bind fun _ => .ret _

theorem knows {α : Type} {p : Psql.Program α} (φ : Prop)
    (only : p.Only (permitted (gateways i).pricingConfig)) :
    (pricedCalls gateways quoted).Triple i (fun _ => φ) p (fun _ _ => φ) := by
  intro db ledger known
  have safe := Discipline.Triple.of_only (D := pricedCalls gateways quoted)
    (fun _ _ _ may => may) only db ledger trivial
  exact safe.mono fun _ _ _ _ => known

theorem insert_triple {a : DbAct (Except DbError Unit)}
    (inserts : a = .createSession row ∨ a = .createSessionTx row) (unused : Unused row) :
    (pricedCalls gateways quoted).Triple i (fun _ => True) (Psql.run a)
      (fun _ _ => (gateways i).pricingConfig = quoted row.id) := by
  refine .perform (.const _) (fun _ => .const _) (fun db _ _ => ?_) fun e db db' b _ _ ran => ?_
  · rcases inserts with rfl | rfl
    · exact unused
    · exact unused
  simp only [Machine.restrict] at ran
  split at ran
  · next ok =>
      simp only [terms, Bool.and_eq_true] at ok
      rcases inserts with rfl | rfl
      · exact of_decide_eq_true ok.1
      · exact of_decide_eq_true ok.1
  · cases ran

theorem sessionCreate_triple {session : Session} (unused : Unused (fromSession session)) :
    (pricedCalls gateways quoted).Triple i (fun _ => True) (Psql.sessionCreate session)
      (fun created _ => created = .ok () → (gateways i).pricingConfig = quoted session.id) := by
  unfold Psql.sessionCreate
  split
  · exact (insert_triple (.inl rfl) unused).conseq (fun _ _ h => h) fun _ _ _ same _ => same
  rename_i rav _
  have begins : (Psql.run .beginTx).Only (permitted (gateways i).pricingConfig) := .perform trivial
  refine (knows True begins).bind ?_
  rintro (err | _)
  · exact .ret (.const _) fun _ _ _ created => by cases created
  have inTx : (pricedCalls gateways quoted).Triple i (fun _ => True)
      (Psql.createInTx (fromSession session) rav)
      (fun _ _ => (gateways i).pricingConfig = quoted session.id) := by
    refine (insert_triple (.inr rfl) unused).bind fun inserted => knows _ ?_
    rcases inserted with err | _
    · exact .ret _
    refine .bind (.perform trivial) fun createdAt => .bind (.perform trivial) ?_
    rintro (_ | _)
    · exact .ret _
    refine (collectibleTx_neutral _ _ _).bind ?_
    rintro (_ | _)
    · exact .ret _
    · exact .ret _
  refine (inTx.bind fun result => knows _ ?_).conseq (fun _ _ h => h) fun _ _ _ same _ => same
  rcases result with err | _
  · exact rollbackWith_neutral err _
  · exact commit_neutral (fun err => err) _

theorem consumerSession_unused (sessionID : String) (payer dataService : Address)
    (initialRAV : Option SignedRAV) (now : Time) :
    Unused (fromSession (g.consumerSession sessionID payer dataService initialRAV now)) :=
  ⟨rfl, rfl, rfl⟩

/-- A reply of `StartSession` quotes the terms of the session. -/
def replyOnTerms (quoted : String → PricingConfig) : ProviderReply → Prop
  | .startSession (.ok response) => response.pricingConfig = some (quoted response.sessionId)
  | _ => True

theorem startSession_triple (initialRav : Option Proto.SignedRAV) (sessionID : String)
    (payer dataService : Address) (initialRAV : Option SignedRAV) :
    (pricedCalls gateways quoted).Triple i (fun _ => True)
      (Psql.createSession (gateways i) initialRav sessionID payer dataService initialRAV)
      (fun response _ => replyOnTerms quoted (.startSession response)) := by
  have clock : (Psql.run .now).Only (permitted (gateways i).pricingConfig) := .perform trivial
  refine (knows True clock).bind fun now => ?_
  refine (sessionCreate_triple (consumerSession_unused _ _ _ _ now)).bind fun created => ?_
  cases created with
  | error err => exact .ret (.const _) fun _ _ _ => trivial
  | ok _ =>
    dsimp only
    split
    · exact .ret (.const _) fun _ _ _ => trivial
    · exact .ret (.const _) fun _ _ same => congrArg some (same rfl)

theorem call_triple (call : ProviderCall) :
    (pricedCalls gateways quoted).Triple i (fun _ => True) (call.program (gateways i))
      (fun reply _ => replyOnTerms quoted reply) := by
  have finished {α : Type} {p : Psql.Program α}
      (only : p.Only (permitted (gateways i).pricingConfig)) :
      (pricedCalls gateways quoted).Triple i (fun _ => True) (p.bind fun _ => .ret .done)
        (fun reply _ => replyOnTerms quoted reply) :=
    (knows True only).bind fun _ => .ret (.const _) fun _ _ _ => trivial
  cases call with
  | startSession =>
    exact (startSession_triple _ _ _ _ _).bind fun _ => .ret (.const _) fun _ _ here => here
  | report events => exact finished (report_only events)
  | sessionGet id => exact finished (sessionGet_neutral id _)
  | sessionList filter => exact finished (sessionList_neutral filter _)
  | sessionTouch => exact finished (sessionTouch_neutral _ _ _)
  | sessionUpdateRuntimeState => exact finished (sessionUpdateRuntimeState_neutral _ _ _ _ _ _)
  | sessionUpdateRAVAndBaseline => exact finished (sessionUpdateRAVAndBaseline_neutral _ _ _ _)
  | collectionGet key => exact finished (.perform trivial)
  | collectionMark => exact finished (execCollectionTransition_neutral _ _ _ _ _ _)

theorem provide_verified (calls : Psql.ThreadId → ProviderCall) :
    (pricedCalls gateways quoted).Verified (fun _ reply _ => replyOnTerms quoted reply)
      (provide gateways calls) where
  inv := ⟨fun _ _ found => by simp [provide] at found,
    fun _ _ member => by simp [provide] at member⟩
  threads i := call_triple (calls i) _
    ⟨fun _ _ found => by simp [provide] at found, fun _ _ member => by simp [provide] at member⟩
    trivial

end Postgres

/-! ## Both repositories -/

/-- Without overflow, the total cost of a session that a consumer was quoted prices for is the price
of its usage: always in memory, and in PostgreSQL in every run in which each session is opened and
charged under one pricing configuration. -/
theorem sessions_charged_as_quoted (g : Gateway) (gateways : Psql.ThreadId → Gateway)
    (quoted : String → PricingConfig) :
    (∀ (pool : Pool) (c : Config Act ThreadId World Reply), machine.Reach (boot g pool) c →
      (∀ event ∈ c.shared.history, eventFits g.pricingConfig event.kind = true) →
      ∀ i response, c.threads i = .ret (.startSession (.ok response)) → response.accepted = true →
        ∃ prices, response.pricingConfig = some prices ∧
          ∀ session, c.shared.store.sessions.lookup response.sessionId = some session →
            ChargedAt prices session.blocksProcessed session.bytesTransferred session.totalCost) ∧
    ∀ (calls : Psql.ThreadId → Psql.ProviderCall)
      (c : Config Psql.DbAct Psql.ThreadId Psql.Db Psql.ProviderReply),
      (Psql.machine.restrict (terms gateways quoted)).Reach (Psql.provide gateways calls) c →
      ∀ i response, c.threads i = .ret (.startSession (.ok response)) →
        ∃ prices, response.pricingConfig = some prices ∧
          ∀ row, c.shared.tables.sessions.lookup response.sessionId = some row →
            ChargedAt prices row.blocksProcessed row.bytesTransferred row.totalCost := by
  constructor
  · intro pool c run fits i response returned accepted
    refine ⟨g.pricingConfig, boot_quotes run returned response rfl accepted, ?_⟩
    intro session present
    have last := ((boot_sound run).lastSessions response.sessionId).symm.trans present
    exact stored_charged (boot_accountable run) last fits
  · intro calls c run i response returned
    have verified : (pricedCalls gateways quoted).Verified
        (fun _ reply _ => replyOnTerms quoted reply) c := (provide_verified calls).reach run
    exact ⟨_, verified.returned returned, fun row found => verified.inv.rows _ row found⟩

/-- The first process charges one unit for a block, its successor three. -/
def dearerSuccessor (i : Psql.ThreadId) : Gateway :=
  if i = 0 then Sample.gateway
  else { Sample.gateway with pricingConfig := ⟨⟨3⟩, ⟨0⟩⟩ }

/-- A session is opened, and two blocks are reported for it. -/
def openedThenUsed : Psql.ThreadId → Psql.ProviderCall
  | 0 => .startSession none "s" Sample.payer Sample.dataService none
  | 1 => .report [some ⟨"s", some 0, [some ⟨"blocks", 2⟩]⟩]
  | _ => .sessionGet "s"

/-- The provider is restarted with the higher price between the two. -/
def repriced : Config Psql.DbAct Psql.ThreadId Psql.Db Psql.ProviderReply :=
  Psql.machine.play [(0, {}, 20), (1, {}, 20)] (Psql.provide dearerSuccessor openedThenUsed)

/-- The response that a call of `StartSession` has returned. -/
def opened : Psql.ProviderReply → Option StartSessionResponse
  | .startSession (.ok response) => some response
  | _ => none

/-- Usage and cost of the session `s`. -/
def owed (c : Config Psql.DbAct Psql.ThreadId Psql.Db Psql.ProviderReply) :
    Option (UInt64 × UInt64 × Int) :=
  (c.shared.tables.sessions.lookup "s").map fun row =>
    (row.blocksProcessed, row.bytesTransferred, row.totalCost)

/-- The session was opened at one unit for a block and owes six for two. -/
theorem repriced_overcharged :
    Psql.machine.Reach (Psql.provide dearerSuccessor openedThenUsed) repriced ∧
    ((repriced.threads 0).result.bind opened).map
      (fun response => (response.sessionId, response.pricingConfig)) = some ("s", some ⟨⟨1⟩, ⟨0⟩⟩) ∧
    owed repriced = some (2, 0, 6) ∧ ¬ ChargedAt ⟨⟨1⟩, ⟨0⟩⟩ 2 0 6 :=
  ⟨Machine.play_reach _ _, by decide +kernel, by decide +kernel, by decide +kernel⟩

/-- The usage of one session is reported in memory. -/
def meteredPool : Pool := Sample.pool [Sample.start 1, Sample.report 2]

def metered : Config Act ThreadId World Reply :=
  machine.play [Sample.whole 0, Sample.whole 1] (boot Sample.gateway meteredPool)

def openedInMemory : Reply → Option StartSessionResponse
  | .startSession (.ok response) => some response
  | _ => none

/-- The calls of the restart, all under the first configuration. -/
def keptTerms : Config Psql.DbAct Psql.ThreadId Psql.Db Psql.ProviderReply :=
  let terms := terms (fun _ => Sample.gateway) fun _ => Sample.gateway.pricingConfig
  (Psql.machine.restrict terms).play [(0, {}, 20), (1, {}, 20)]
    (Psql.provide (fun _ => Sample.gateway) openedThenUsed)

theorem sessions_charged_as_quoted_metered :
    (∃ response prices, metered.threads 0 = .ret (.startSession (.ok response)) ∧
      response.pricingConfig = some prices ∧
      ∀ session, metered.shared.store.sessions.lookup response.sessionId = some session →
        ChargedAt prices session.blocksProcessed session.bytesTransferred session.totalCost) ∧
    owed keptTerms = some (2, 0, 2) ∧
    ∃ response prices, keptTerms.threads 0 = .ret (.startSession (.ok response)) ∧
      response.pricingConfig = some prices ∧
      ∀ row, keptTerms.shared.tables.sessions.lookup response.sessionId = some row →
        ChargedAt prices row.blocksProcessed row.bytesTransferred row.totalCost := by
  refine ⟨?_, by decide +kernel, ?_⟩
  · have got : ((metered.threads 0).result.bind openedInMemory).any (·.accepted) = true := by
      decide +kernel
    have fits : ∀ event ∈ metered.shared.history,
        eventFits Sample.gateway.pricingConfig event.kind = true := by
      decide +kernel
    obtain ⟨response, answered, accepted⟩ := Option.any_eq_true _ _ |>.mp got
    obtain ⟨reply, finished, isOpened⟩ := Option.bind_eq_some_iff.mp answered
    have returned : metered.threads 0 = .ret (.startSession (.ok response)) := by
      rw [Prog.result_eq_some finished]
      unfold openedInMemory at isOpened
      split at isOpened
      · cases isOpened
        rfl
      · cases isOpened
    obtain ⟨prices, quoted, charged⟩ := (sessions_charged_as_quoted Sample.gateway
      (fun _ => Sample.gateway) fun _ => Sample.gateway.pricingConfig).1 meteredPool metered
      (Machine.play_reach _ _) fits 0 response returned accepted
    exact ⟨response, prices, returned, quoted, charged⟩
  · have got : ((keptTerms.threads 0).result.bind opened).isSome = true := by decide +kernel
    obtain ⟨response, answered⟩ := Option.isSome_iff_exists.mp got
    obtain ⟨reply, finished, isOpened⟩ := Option.bind_eq_some_iff.mp answered
    have returned : keptTerms.threads 0 = .ret (.startSession (.ok response)) := by
      rw [Prog.result_eq_some finished]
      unfold opened at isOpened
      split at isOpened
      · cases isOpened
        rfl
      · cases isOpened
    obtain ⟨prices, quoted, charged⟩ := (sessions_charged_as_quoted Sample.gateway
      (fun _ => Sample.gateway) fun _ => Sample.gateway.pricingConfig).2 openedThenUsed keptTerms
      (Machine.play_reach _ _) 0 response returned
    exact ⟨response, prices, returned, quoted, charged⟩

end Sdsce.Guarantees.SessionPricing
