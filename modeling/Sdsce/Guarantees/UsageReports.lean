import Mathlib.Algebra.BigOperators.Group.Finset.Basic
import Mathlib.Tactic.Abel
import Sdsce.Guarantees.Footprints
import Sdsce.Guarantees.SessionPricing
import Sdsce.Guarantees.SessionUpdates
import Sdsce.Theory.Protocol
import Sdsce.Theory.Sequential

/-!
# Usage reports

What an event of a report counts for, what any number of concurrent reports add to the counters of
a session, and what a report answers. The metrics of an event are added up in 64 signed bits and
clamped at zero; the totals of a session are added up in 64 unsigned bits.
-/
namespace Sdsce.Guarantees.UsageReports

open Sdsce.Theory Sdsce.Source Sdsce.Source.Gateway Sdsce.Source.InMemory Function

/-! ## Metrics -/

/-- The counters of a usage event. -/
inductive Counter where
  | blocks
  | bytes
  | requests
deriving DecidableEq

namespace Counter

def value (u : UsageEvent) : Counter → Int64
  | blocks => u.blocks
  | bytes => u.bytes
  | requests => u.requests

/-- The clamped total that is recorded. -/
def total (u : UsageEvent) : Counter → UInt64
  | blocks => u.sanitizedTotals.1
  | bytes => u.sanitizedTotals.2.1
  | requests => u.sanitizedTotals.2.2

theorem total_eq (u : UsageEvent) (c : Counter) : c.total u = sanitizeUsageMetric (c.value u) := by
  cases c <;> rfl

/-- The counter that a metric of this name is added to. -/
def named (name : String) : Option Counter :=
  if name ∈ ["blocks_count", "blocks", "block_count", "message_count"] then some blocks
  else if name ∈ ["bytes_count", "bytes", "egress_bytes"] then some bytes
  else if name ∈ ["requests_count", "requests"] then some requests
  else none

end Counter

/-- What a metric adds to a counter. -/
def contribution (c : Counter) : Option Metric → Int64
  | none => 0
  | some m => if Counter.named m.name = some c then m.value else 0

theorem value_addMetric (c : Counter) (ue : UsageEvent) (metric : Option Metric) :
    c.value (addMetric ue metric) = c.value ue + contribution c metric := by
  cases metric with
  | none => exact (Int64.add_zero _).symm
  | some m =>
    unfold addMetric contribution Counter.named
    dsimp only
    split
    · cases c <;> simp [Counter.value]
    split
    · cases c <;> simp [Counter.value]
    · split
      · cases c <;> simp [Counter.value]
      · simp

/-- What metrics add up to, in 64 bits. -/
def counted (c : Counter) (metrics : List (Option Metric)) : Int64 :=
  (metrics.map (contribution c)).sum

theorem value_foldl (c : Counter) (metrics : List (Option Metric)) (ue : UsageEvent) :
    c.value (metrics.foldl addMetric ue) = c.value ue + counted c metrics := by
  induction metrics generalizing ue with
  | nil => exact (Int64.add_zero _).symm
  | cons metric rest ih =>
    rw [List.foldl_cons, ih, value_addMetric, Int64.add_assoc]
    rfl

theorem value_event (c : Counter) (event : MeteringEvent) (now : Time) :
    c.value (protoEventToUsageEvent event now) = counted c event.metrics := by
  refine (value_foldl c _ _).trans ?_
  cases c <;> exact Int64.zero_add _

/-- A further metric adds its value to the counter that it names, wherever it stands. -/
theorem counted_extra (c : Counter) (before after : List (Option Metric)) (metric : Option Metric) :
    counted c (before ++ metric :: after) =
      counted c (before ++ after) + contribution c metric := by
  induction before with
  | nil => exact Int64.add_comm _ _
  | cons first rest ih =>
    change contribution c first + counted c (rest ++ metric :: after) =
      contribution c first + counted c (rest ++ after) + contribution c metric
    rw [ih, Int64.add_assoc]

/-- The metrics that name a counter. -/
def known (metrics : List (Option Metric)) : List (Option Metric) :=
  metrics.filter fun metric => (metric.bind (Counter.named ·.name)).isSome

theorem counted_known (c : Counter) (metrics : List (Option Metric)) :
    counted c (known metrics) = counted c metrics := by
  induction metrics with
  | nil => rfl
  | cons metric rest ih =>
    rw [known, List.filter_cons]
    split
    · exact congrArg (contribution c metric + ·) ih
    next unknown =>
    have nothing : contribution c metric = 0 := by
      cases metric with
      | none => rfl
      | some m => exact if_neg fun same => unknown (Option.isSome_of_eq_some same)
    refine ih.trans ((Int64.zero_add _).symm.trans ?_)
    rw [← nothing]
    rfl

variable {c : Counter} {session : Session}

theorem toNat_sanitizeUsageMetric (v : Int64) :
    (sanitizeUsageMetric v).toNat = v.toInt.toNat := by
  have cast : v.toInt = v.toUInt64.toBitVec.toInt := rfl
  have bound := v.toUInt64.toNat_lt
  unfold sanitizeUsageMetric
  split
  · next clamped =>
      have low : v.toInt ≤ 0 := Int64.le_iff_toInt_le.mp clamped
      rw [Int.toNat_of_nonpos low]
      rfl
  · next positive =>
      have high : ¬v.toInt ≤ 0 := fun low => positive (Int64.le_iff_toInt_le.mpr low)
      rw [cast, BitVec.toInt_eq_toNat_cond, UInt64.toNat_toBitVec] at high ⊢
      split at high
      · next small => rw [if_pos small, Int.toNat_natCast]
      · omega

/-- Adding a non-negative metric lowers a clamped counter just when a positive sum leaves the
range. -/
theorem sanitizeUsageMetric_add_le_iff {v d : Int64} (nonneg : 0 ≤ d) :
    sanitizeUsageMetric v ≤ sanitizeUsageMetric (v + d) ↔
      v ≤ 0 ∨ v.toInt + d.toInt < 2 ^ 63 := by
  have added : 0 ≤ d.toInt := Int64.le_iff_toInt_le.mp nonneg
  have below := v.toInt_lt
  have above := v.le_toInt
  have below' := d.toInt_lt
  have zero : (0 : Int64).toInt = 0 := rfl
  rw [UInt64.le_iff_toNat_le, toNat_sanitizeUsageMetric, toNat_sanitizeUsageMetric,
    Int64.le_iff_toInt_le, zero, Int64.toInt_add]
  by_cases inside : v.toInt + d.toInt < 2 ^ 63
  · rw [Int.bmod_eq_of_le (by omega) (by omega)]
    omega
  have wrapped : (v.toInt + d.toInt).bmod (2 ^ 64) = v.toInt + d.toInt - 2 ^ 64 := by
    rw [← Int.sub_bmod_right, Int.bmod_eq_of_le (by omega) (by omega)]
    rfl
  omega

section Extra

variable (event : MeteringEvent) (now : Time) (before after : List (Option Metric)) {m : Metric}

/-- A further metric with a non-negative value lowers none of the totals, exactly if what the others
contribute to its counter is not positive, or stays in the range with it. -/
theorem extra_metric_keeps_totals_iff (nonneg : 0 ≤ m.value) :
    (∀ c : Counter,
      c.total (protoEventToUsageEvent { event with metrics := before ++ after } now) ≤
        c.total (protoEventToUsageEvent { event with metrics := before ++ some m :: after } now)) ↔
    ∀ c, Counter.named m.name = some c →
      counted c (before ++ after) ≤ 0 ∨
        (counted c (before ++ after)).toInt + m.value.toInt < 2 ^ 63 := by
  refine forall_congr' fun c => ?_
  rw [Counter.total_eq, Counter.total_eq, value_event, value_event, counted_extra]
  by_cases named : Counter.named m.name = some c
  · rw [contribution, if_pos named, sanitizeUsageMetric_add_le_iff nonneg]
    exact ⟨fun fits _ => fits, fun fits => fits named⟩
  · rw [contribution, if_neg named, Int64.add_zero]
    exact ⟨fun _ same => absurd same named, fun _ => UInt64.le_refl _⟩

end Extra

/-- An event of one block, and another block. -/
theorem extra_metric_keeps_totals_iff_sample :
    (0 : Int64) ≤ 1 ∧ ∀ c : Counter,
      c.total (protoEventToUsageEvent ⟨"s", none, [some ⟨"blocks", 1⟩]⟩ 0) ≤
        c.total (protoEventToUsageEvent
          ⟨"s", none, [some ⟨"blocks", 1⟩, some ⟨"message_count", 1⟩]⟩ 0) := by
  refine ⟨by decide, (extra_metric_keeps_totals_iff ⟨"s", none, []⟩ 0 [some ⟨"blocks", 1⟩] []
    (by decide)).mpr ?_⟩
  intro c _
  cases c <;> decide +kernel

/-- The largest count of blocks and one more: the event counts for nothing. -/
theorem extra_metric_erases_usage :
    Counter.blocks.total (protoEventToUsageEvent
      ⟨"s", none, [some ⟨"blocks", 0x7FFFFFFFFFFFFFFF⟩]⟩ 0) = 0x7FFFFFFFFFFFFFFF ∧
    Counter.blocks.total (protoEventToUsageEvent
      ⟨"s", none, [some ⟨"blocks", 0x7FFFFFFFFFFFFFFF⟩, some ⟨"blocks", 1⟩]⟩ 0) = 0 := by
  decide +kernel

/-! ## What an event adds -/

/-- Blocks, bytes, requests and cost. -/
abbrev Tally := UInt64 × UInt64 × UInt64 × Int

/-- What an event adds to its session. -/
def tally (g : Gateway) (event : MeteringEvent) : Tally :=
  let (blocks, bytes, requests) := (protoEventToUsageEvent event 0).sanitizedTotals
  (blocks, bytes, requests, (g.pricingConfig.calculateUsageCost blocks bytes).bigInt)

/-- The events of a batch that count for a session. -/
def eventsFor (id : String) (events : List (Option MeteringEvent)) : List MeteringEvent :=
  events.filterMap fun event => event.filter fun event => event.sdsSessionId = id ∧ id ≠ ""

def owed (g : Gateway) (id : String) (events : List (Option MeteringEvent)) : Tally :=
  ((eventsFor id events).map (tally g)).sum

theorem owed_append (g : Gateway) (id : String) (events events' : List (Option MeteringEvent)) :
    owed g id (events ++ events') = owed g id events + owed g id events' := by
  rw [owed, owed, owed, eventsFor, List.filterMap_append, List.map_append, List.sum_append]
  rfl

theorem sanitizedTotals_congr {event event' : MeteringEvent} (now now' : Time)
    (same : ∀ c, counted c event.metrics = counted c event'.metrics) :
    (protoEventToUsageEvent event now).sanitizedTotals =
      (protoEventToUsageEvent event' now').sanitizedTotals := by
  have value (c : Counter) : c.value (protoEventToUsageEvent event now) =
      c.value (protoEventToUsageEvent event' now') := by
    rw [value_event, value_event, same]
  have blocks := value .blocks
  have bytes := value .bytes
  have requests := value .requests
  simp only [Counter.value] at blocks bytes requests
  rw [UsageEvent.sanitizedTotals, UsageEvent.sanitizedTotals, blocks, bytes, requests]

/-- The event without the metrics that name no counter. -/
def withoutUnknown (event : MeteringEvent) : MeteringEvent :=
  { event with metrics := known event.metrics }

theorem tally_withoutUnknown (g : Gateway) (event : MeteringEvent) :
    tally g (withoutUnknown event) = tally g event := by
  rw [tally, sanitizedTotals_congr 0 0 fun c => counted_known c event.metrics, tally]

/-! ## What a goroutine has left to apply

The protocol of a session's books: a goroutine starts with what its batch owes to the session and
takes off what it swaps in. It loses the books if the session is missing when it looks it up. -/

open SessionUpdates (totals)
open Spending (price price_nonneg)

def settle (id : String) (left : Option Tally) {β : Type} (a : Act β) (b : β) : Option Tally :=
  match β, a, b with
  | _, .store (.sessionsGet id'), found => if id' = id ∧ found = none then none else left
  | _, .store (.sessionsCompareAndSwap id' _ u), swapped =>
    if id' = id ∧ swapped = true then left.map (· - SessionUpdates.SessionUpdate.usage u)
    else left
  | _, _, _ => left

def books (id : String) : Protocol Act (Option Tally) where
  allows _ _ _ := True
  next left _ a b := settle id left a b

/-- A swap of the session adds no usage. -/
def Quiet (id : String) {β : Type} (a : Act β) : Prop :=
  match β, a with
  | _, .store (.sessionsCompareAndSwap id' _ u) =>
    id' = id → SessionUpdates.SessionUpdate.usage u = 0
  | _, _ => True

/-- The books are lost, or this much has been applied. -/
def Applied (t : Tally) (left left' : Option Tally) : Prop :=
  left' = none ∨ left' = left.map (· - t)

section Books

variable {id : String} {left left' : Option Tally}

theorem Applied.zero (left : Option Tally) : Applied 0 left left := by
  refine .inr ?_
  simp only [sub_zero, Option.map_id']

variable {t : Tally} {id' : String} {update : Time → SessionUpdate}

theorem Applied.trans {t' : Tally} {left'' : Option Tally} (first : Applied t left left')
    (second : Applied t' left' left'') : Applied (t + t') left left'' := by
  rcases second with lost | rfl
  · exact .inl lost
  rcases first with rfl | rfl
  · exact .inl rfl
  · refine .inr ?_
    simp only [Option.map_map, Function.comp_def, sub_sub]

theorem settle_quiet {β : Type} {a : Act β} (quiet : Quiet id a) (left : Option Tally) (b : β) :
    settle id left a b = none ∨ settle id left a b = left := by
  unfold settle
  split
  · split
    · exact .inl rfl
    · exact .inr rfl
  · next u =>
      split
      · next own =>
          rw [quiet own.1]
          simp
      · exact .inr rfl
  · exact .inr rfl

/-- Programs that add no usage to the session. -/
theorem quiet_follows {α : Type} {p : Program α} (quiet : p.Only (Quiet id))
    (left : Option Tally) : (books id).Follows p left fun _ => Applied 0 left := by
  refine Protocol.Follows.of_only (J := Applied 0 left) ?_ quiet (.zero left)
  intro left' β a here quiet
  refine ⟨trivial, fun b => ?_⟩
  rcases settle_quiet quiet left' b with lost | same
  · exact .inl lost
  · exact (congrArg (Applied 0 left) same).mpr here

theorem swapSession_quiet
    (still : ∀ now, id' = id → SessionUpdates.SessionUpdate.usage (update now) = 0) :
    (swapSession id' update).Only (Quiet id) :=
  swapSession_only trivial trivial fun _ => still

theorem onMeteredUsage_quiet (g : Gateway) (id' : String) :
    (g.onMeteredUsage id').Only (Quiet id) := by
  have quiet (β : Type) (a : Act β) (evaluating : Evaluating a) : Quiet id a := by
    unfold Quiet
    split
    · next u =>
        cases u with
        | runtimeState => exact fun _ => rfl
        | _ => exact evaluating.elim
    · trivial
  exact .bind (.perform trivial) fun _ => .bind (.perform trivial) fun _ =>
    ((evaluateMeteredUsage_evaluating g id').mono fun {β} => quiet β).bind fun _ =>
      .bind (.perform trivial) fun _ => .ret _

theorem books_get (left : Option Tally) (found : Option Session) :
    (books id).next left (.store (.sessionsGet id)) found =
      if found = none then none else left := by
  simp [books, settle]

theorem books_swap (left : Option Tally) (session : Session) (u : SessionUpdate) (swapped : Bool) :
    (books id).next left (.store (.sessionsCompareAndSwap id session u)) swapped =
      if swapped then left.map (· - SessionUpdates.SessionUpdate.usage u) else left := by
  simp [books, settle]

/-- The loop that swaps usage into the session ends with one swap, or has lost the books. -/
theorem swapSession_follows (adds : ∀ now, SessionUpdates.SessionUpdate.usage (update now) = t)
    (left : Option Tally) :
    (books id).Follows (swapSession id update) left fun _ => Applied t left := by
  refine .retry (· = left) rfl ?_
  rintro _ rfl
  refine ⟨trivial, fun found => ?_⟩
  rw [books_get]
  cases found with
  | none => exact .inl rfl
  | some session =>
    refine ⟨trivial, fun now => ⟨trivial, fun swapped => ?_⟩⟩
    rw [books_swap, adds]
    cases swapped with
    | false => exact rfl
    | true => exact .inr rfl

theorem sessionApplyUsage_follows (usage : UsageEvent) (cost : Int) (left : Option Tally) :
    (books id).Follows (sessionApplyUsage id usage cost) left fun _ =>
      Applied (usage.sanitizedTotals.1, usage.sanitizedTotals.2.1, usage.sanitizedTotals.2.2, cost)
        left := by
  have adds (now : Time) : SessionUpdates.SessionUpdate.usage (.applyUsage usage.sanitizedTotals.1
      usage.sanitizedTotals.2.1 usage.sanitizedTotals.2.2 cost now) =
      (usage.sanitizedTotals.1, usage.sanitizedTotals.2.1, usage.sanitizedTotals.2.2, cost) := rfl
  refine (swapSession_follows adds left).bind fun r left' applied => ?_
  cases r with
  | error err => exact applied
  | ok _ => exact ⟨trivial, fun _ => applied⟩

theorem sessionApplyUsage_quiet (other : id' ≠ id) (usage : UsageEvent) (cost : Int) :
    (sessionApplyUsage id' usage cost).Only (Quiet id) := by
  refine .bind (swapSession_quiet fun _ same => absurd same other) fun r => ?_
  cases r with
  | error err => exact .ret _
  | ok _ => exact .bind (.perform trivial) fun _ => .ret _

theorem owed_singleton (g : Gateway) (event : MeteringEvent) : owed g id [some event] =
    if event.sdsSessionId = id ∧ id ≠ "" then tally g event else 0 := by
  by_cases own : event.sdsSessionId = id ∧ id ≠ ""
  · simp [owed, eventsFor, Option.filter, own]
  · simp [owed, eventsFor, Option.filter, own]

theorem evaluated_follows (g : Gateway) (id' : String) (r : Except RepoError Unit)
    (applied : Applied t left left') :
    (books id).Follows
      (match r with
        | .error err =>
          if err.isNotFound then return ()
          else do
            let _ ← g.onMeteredUsage id'
            return ()
        | .ok () => do
          let _ ← g.onMeteredUsage id'
          return ()) left' fun _ => Applied t left := by
  have evaluated : (books id).Follows
      (do
        let _ ← g.onMeteredUsage id'
        return ()) left' fun _ => Applied t left := by
    refine (quiet_follows (onMeteredUsage_quiet g id') left').bind fun _ left'' kept => ?_
    exact (congrArg (Applied · left left'') (add_zero t)).mp (applied.trans kept)
  cases r with
  | error err =>
    dsimp only
    split
    · exact applied
    · exact evaluated
  | ok _ => exact evaluated

theorem reportEvent_follows (g : Gateway) (event : Option MeteringEvent) (left : Option Tally) :
    (books id).Follows (g.reportEvent event) left fun _ => Applied (owed g id [event]) left := by
  cases event with
  | none => exact .zero left
  | some event =>
    rw [owed_singleton]
    unfold reportEvent
    dsimp only
    split
    · next missing =>
        rw [if_neg fun own => own.2 (own.1 ▸ missing)]
        exact .zero left
    rename_i named
    refine ⟨trivial, fun now => ?_⟩
    by_cases own : event.sdsSessionId = id
    · subst own
      rw [if_pos ⟨rfl, named⟩]
      refine (sessionApplyUsage_follows _ _ left).bind fun r left' applied => ?_
      rw [sanitizedTotals_congr now 0 fun _ => rfl] at applied
      exact evaluated_follows g _ r applied
    · rw [if_neg fun same => own same.1]
      refine (quiet_follows (sessionApplyUsage_quiet own _ _) left).bind
        fun r left' kept => ?_
      exact evaluated_follows g _ r kept

theorem report_follows (g : Gateway) (events : List (Option MeteringEvent))
    (left : Option Tally) :
    (books id).Follows (g.report events) left fun _ => Applied (owed g id events) left := by
  induction events generalizing left with
  | nil => exact .zero left
  | cons event rest ih =>
    rw [← List.singleton_append, owed_append]
    refine (reportEvent_follows g event left).bind fun _ left' applied => ?_
    exact (ih left').mono fun _ _ more => applied.trans more

end Books

/-! ## Concurrent reports -/

/-- Every goroutine reports one of the batches; further ones have nothing to report. -/
def reporting (g : Gateway) (w : World) (batches : List (List (Option MeteringEvent))) :
    Config Act ThreadId World Reply :=
  ⟨w, fun i => (Handler.report (batches.getD i [])).program g⟩

/-- All batches have been reported. -/
def Reported (batches : List (List (Option MeteringEvent))) (c : Config Act ThreadId World Reply) :
    Prop :=
  ∀ i < batches.length, ∃ r, c.threads i = .ret r

/-- The session is there, and its counters and what is left to apply add up to `whole`; goroutines
outside of a finite set have nothing left. -/
def Balanced (id : String) (whole : Tally) (s : World × (ThreadId → Option Tally)) : Prop :=
  ∃ (session : Session) (workers : Finset ThreadId) (left : ThreadId → Tally),
    s.1.store.sessions.lookup id = some session ∧ s.2 = some ∘ left ∧
      (∀ i ∉ workers, left i = 0) ∧ totals session + ∑ i ∈ workers, left i = whole

namespace Balanced

variable {id : String} {whole : Tally} {w w' : World} {loc : ThreadId → Option Tally} {i : ThreadId}

theorem keep (here : Balanced id whole (w, loc)) {mine : Option Tally} (same : mine = loc i)
    (sessions : ∀ session, w.store.sessions.lookup id = some session →
      w'.store.sessions.lookup id = some session) :
    Balanced id whole (w', Function.update loc i mine) := by
  obtain ⟨session, workers, left, present, books, idle, sum⟩ := here
  refine ⟨session, workers, left, sessions session present, ?_, idle, sum⟩
  rw [same, update_eq_self]
  exact books

theorem swap {session : Session} {u : SessionUpdate} (here : Balanced id whole (w, loc))
    (present : w.store.sessions.lookup id = some session)
    (swapped : w'.store.sessions = w.store.sessions.insert id (u.apply session)) :
    Balanced id whole (w', Function.update loc i
      ((loc i).map (· - SessionUpdates.SessionUpdate.usage u))) := by
  obtain ⟨session', workers, left, present', books, idle, sum⟩ := here
  cases present.symm.trans present'
  dsimp only at books
  subst books
  have member : i ∈ insert i workers := Finset.mem_insert_self i workers
  refine ⟨u.apply session, insert i workers, Function.update left i
    (left i - SessionUpdates.SessionUpdate.usage u), ?_, ?_, ?_, ?_⟩
  · rw [swapped]
    exact AList.lookup_insert w.store.sessions
  · exact (comp_update some left i _).symm
  · intro j outside
    rw [Finset.mem_insert, not_or] at outside
    rw [update_of_ne outside.1]
    exact idle j outside.2
  · have grown : ∑ j ∈ workers, left j = ∑ j ∈ insert i workers, left j :=
      (Finset.sum_insert_of_eq_zero_if_notMem (idle i)).symm
    rw [grown, ← Finset.add_sum_erase _ left member] at sum
    rw [SessionUpdates.SessionUpdate.apply_totals, Finset.sum_update_of_mem member,
      Finset.sdiff_singleton_eq_erase, ← sum]
    abel

theorem step {β : Type} {a : Act β} {e : Oracle} {b : β} (here : Balanced id whole (w, loc))
    (ran : machine.exec i a e w = some (w', b)) :
    Balanced id whole (w', Function.update loc i ((books id).next (loc i) a b)) := by
  have plain (still : (books id).next (loc i) a b = loc i)
      (other : SessionUpdates.isSwap a = false) :
      Balanced id whole (w', Function.update loc i ((books id).next (loc i) a b)) := by
    refine here.keep still fun session present => ?_
    cases SessionUpdates.exec_moved ran with
    | quiet sessions => exact sessions id session present
    | swapped id' read u swaps => exact absurd swaps (SessionUpdates.not_swaps other _ _ _)
  cases a with
  | store a =>
    cases a with
    | sessionsGet id' =>
      obtain ⟨session, _, _, present, _⟩ := here
      refine plain ?_ rfl
      cases ran
      refine if_neg ?_
      rintro ⟨rfl, missing⟩
      cases present.symm.trans missing
    | sessionsCompareAndSwap id' session u =>
      simp only [machine, World.exec, Store.exec] at ran
      by_cases lands : w.store.sessions.lookup id' = some session ∧ e.yes = true
      · rw [if_pos lands] at ran
        cases ran
        by_cases same : id' = id
        · subst same
          rw [books_swap]
          exact here.swap lands.1 rfl
        · refine here.keep (if_neg fun own => same own.1) fun session present => ?_
          exact (AList.lookup_insert_ne (Ne.symm same)).trans present
      · rw [if_neg lands] at ran
        cases ran
        refine here.keep (if_neg fun landed => ?_) fun _ present => present
        exact Bool.false_ne_true landed.2
    | _ => exact plain rfl rfl
  | _ => exact plain rfl rfl

end Balanced

theorem sum_owed (g : Gateway) (id : String) (batches : List (List (Option MeteringEvent))) :
    ∑ i ∈ Finset.range batches.length, owed g id (batches.getD i []) =
      owed g id batches.flatten := by
  induction batches with
  | nil => rfl
  | cons batch rest ih =>
    rw [List.length_cons, Finset.sum_range_succ', List.flatten_cons, owed_append, ← ih, add_comm]
    rfl

theorem program_follows (g : Gateway) (id : String) (events : List (Option MeteringEvent)) :
    (books id).Follows ((Handler.report events).program g) (some (owed g id events))
      fun _ left => left = none ∨ left = some 0 := by
  refine (report_follows g events _).bind fun _ left applied => ?_
  rcases applied with lost | rfl
  · exact .inl lost
  · exact .inr (congrArg some (sub_self _))

/-- When all batches have been reported, every event of the session has been added to its
counters. -/
theorem reported_totals {g : Gateway} {w : World} {batches : List (List (Option MeteringEvent))}
    {c : Config Act ThreadId World Reply} {id : String}
    (run : machine.Reach (reporting g w batches) c) (reported : Reported batches c)
    (present : w.store.sessions.lookup id = some session) :
    ∃ session', c.shared.store.sessions.lookup id = some session' ∧
      totals session' = totals session + owed g id batches.flatten := by
  let due (i : ThreadId) : Tally := owed g id (batches.getD i [])
  have idle (i : ThreadId) (outside : i ∉ Finset.range batches.length) :
      batches.getD i [] = [] := by
    rw [Finset.mem_range, not_lt] at outside
    rw [List.getD_eq_getElem?_getD, List.getElem?_eq_none outside]
    rfl
  have returned (i : ThreadId) : ∃ r, c.threads i = .ret r := by
    by_cases inside : i ∈ Finset.range batches.length
    · exact reported i (Finset.mem_range.mp inside)
    · refine ⟨.done, run.returned ?_⟩
      simp only [reporting, idle i inside]
      rfl
  obtain ⟨loc, observed⟩ := run.observed (books id) fun i => some (due i)
  have start : Balanced id (totals session + ∑ i ∈ Finset.range batches.length, due i)
      (w, fun i => some (due i)) := by
    refine ⟨session, Finset.range batches.length, due, present, rfl, fun i outside => ?_, rfl⟩
    simp only [due, idle i outside]
    rfl
  obtain ⟨followed, session', workers, left, present', books, _, sum⟩ :=
    Protocol.Followed.invariant (P := books id) (fun i => program_follows g id _) observed start
      fun i β a e s s' b loc _ ran here => here.step ran
  have settled (i : ThreadId) : left i = 0 := by
    obtain ⟨r, ended⟩ := returned i
    have post := followed i
    rw [ended] at post
    subst books
    rcases post with lost | none
    · cases lost
    · exact Option.some.inj none
  refine ⟨session', present', ?_⟩
  rw [Finset.sum_eq_zero fun i _ => settled i, add_zero, sum_owed] at sum
  exact sum

/-! ## In whole numbers -/

/-- The sum of a total over events. -/
def sumOf (c : Counter) (events : List MeteringEvent) : Nat :=
  (events.map fun event => (c.total (protoEventToUsageEvent event 0)).toNat).sum

/-- Neither the counters of the session nor the cost overflow. -/
structure Fits (pricing : PricingConfig) (session : Session) (events : List MeteringEvent) :
    Prop where
  blocks : session.blocksProcessed.toNat + sumOf .blocks events < 2 ^ 64
  bytes : session.bytesTransferred.toNat + sumOf .bytes events < 2 ^ 64
  requests : session.requests.toNat + sumOf .requests events < 2 ^ 64
  cost : price pricing (sumOf .blocks events) (sumOf .bytes events) < 2 ^ 256

/-- The session has grown by the sums over the events, and by their price. -/
structure Grown (pricing : PricingConfig) (session : Session) (events : List MeteringEvent)
    (session' : Session) : Prop where
  blocks : session'.blocksProcessed.toNat = session.blocksProcessed.toNat + sumOf .blocks events
  bytes : session'.bytesTransferred.toNat = session.bytesTransferred.toNat + sumOf .bytes events
  requests : session'.requests.toNat = session.requests.toNat + sumOf .requests events
  cost : session'.totalCost =
    session.totalCost + price pricing (sumOf .blocks events) (sumOf .bytes events)

theorem toNat_list_sum {l : List UInt64} (fits : (l.map UInt64.toNat).sum < 2 ^ 64) :
    l.sum.toNat = (l.map UInt64.toNat).sum := by
  induction l with
  | nil => rfl
  | cons x rest ih =>
    rw [List.map_cons, List.sum_cons] at fits ⊢
    rw [List.sum_cons, UInt64.toNat_add, ih (by omega), Nat.mod_eq_of_lt fits]

theorem toNat_add_sum {total : UInt64} {events : List MeteringEvent}
    (fits : total.toNat + sumOf c events < 2 ^ 64) :
    (total + (events.map fun event => c.total (protoEventToUsageEvent event 0)).sum).toNat =
      total.toNat + sumOf c events := by
  have same : ((events.map fun event => c.total (protoEventToUsageEvent event 0)).map
      UInt64.toNat).sum = sumOf c events := by
    rw [List.map_map]
    rfl
  rw [UInt64.toNat_add, toNat_list_sum (by omega), same, Nat.mod_eq_of_lt fits]

/-- The costs of the events add up to the price of the sums. -/
theorem sum_cost {pricing : PricingConfig} {events : List MeteringEvent}
    (fits : price pricing (sumOf .blocks events) (sumOf .bytes events) < 2 ^ 256) :
    (events.map fun event => (pricing.calculateUsageCost
      (Counter.blocks.total (protoEventToUsageEvent event 0))
      (Counter.bytes.total (protoEventToUsageEvent event 0))).bigInt).sum =
      price pricing (sumOf .blocks events) (sumOf .bytes events) := by
  induction events with
  | nil => simp [sumOf, price]
  | cons event rest ih =>
    have cons (c : Counter) : sumOf c (event :: rest) =
        (c.total (protoEventToUsageEvent event 0)).toNat + sumOf c rest := rfl
    rw [cons, cons, Spending.price_add] at fits ⊢
    have here := price_nonneg pricing (Counter.blocks.total (protoEventToUsageEvent event 0)).toNat
      (Counter.bytes.total (protoEventToUsageEvent event 0)).toNat
    have later := price_nonneg pricing (sumOf .blocks rest) (sumOf .bytes rest)
    rw [List.map_cons, List.sum_cons, ih (by omega),
      SessionPricing.calculateUsageCost_eq_price (by omega)]

theorem sum_tally (g : Gateway) (events : List MeteringEvent) : (events.map (tally g)).sum =
    ((events.map fun event => Counter.blocks.total (protoEventToUsageEvent event 0)).sum,
      (events.map fun event => Counter.bytes.total (protoEventToUsageEvent event 0)).sum,
      (events.map fun event => Counter.requests.total (protoEventToUsageEvent event 0)).sum,
      (events.map fun event => (g.pricingConfig.calculateUsageCost
        (Counter.blocks.total (protoEventToUsageEvent event 0))
        (Counter.bytes.total (protoEventToUsageEvent event 0))).bigInt).sum) := by
  induction events with
  | nil => rfl
  | cons event rest ih =>
    rw [List.map_cons, List.sum_cons, ih]
    rfl

theorem grown_of_totals {g : Gateway} {session' : Session} {events : List MeteringEvent}
    (fits : Fits g.pricingConfig session events)
    (added : totals session' = totals session + (events.map (tally g)).sum) :
    Grown g.pricingConfig session events session' := by
  rw [sum_tally] at added
  obtain ⟨blocks, rest⟩ := Prod.mk.inj added
  obtain ⟨bytes, rest⟩ := Prod.mk.inj rest
  obtain ⟨requests, cost⟩ := Prod.mk.inj rest
  constructor
  · rw [blocks]
    exact toNat_add_sum fits.blocks
  · rw [bytes]
    exact toNat_add_sum fits.bytes
  · rw [requests]
    exact toNat_add_sum fits.requests
  · rw [cost]
    exact congrArg (session.totalCost + ·) (sum_cost fits.cost)

/-- However the batches are interleaved: when all have been reported, the counters of a session have
grown by the sums over its events, and its cost by the price of the sums. Batches whose events for
the session are the same up to order, and to metrics that name no counter, lead to the same
counters. -/
theorem usage_accounting_additive {g : Gateway} {w : World}
    {batches : List (List (Option MeteringEvent))} {c : Config Act ThreadId World Reply}
    {id : String} {session : Session} (run : machine.Reach (reporting g w batches) c)
    (reported : Reported batches c) (present : w.store.sessions.lookup id = some session)
    (fits : Fits g.pricingConfig session (eventsFor id batches.flatten)) :
    ∃ session', c.shared.store.sessions.lookup id = some session' ∧
      Grown g.pricingConfig session (eventsFor id batches.flatten) session' ∧
      ∀ batches' c', ((eventsFor id batches'.flatten).map withoutUnknown).Perm
          ((eventsFor id batches.flatten).map withoutUnknown) →
        machine.Reach (reporting g w batches') c' → Reported batches' c' →
        ∃ session'', c'.shared.store.sessions.lookup id = some session'' ∧
          totals session'' = totals session' := by
  obtain ⟨session', present', added⟩ := reported_totals run reported present
  refine ⟨session', present', grown_of_totals fits added, ?_⟩
  intro batches' c' perm run' reported'
  obtain ⟨session'', present'', added'⟩ := reported_totals run' reported' present
  refine ⟨session'', present'', ?_⟩
  have same : owed g id batches'.flatten = owed g id batches.flatten := by
    simpa only [owed, List.map_map, Function.comp_def, tally_withoutUnknown] using
      (perm.map (tally g)).sum_eq
  rw [added', added, same]

/-- A session without usage. -/
def idleSession : Session :=
  .new "s" Sample.payer Sample.serviceProvider Sample.dataService Sample.gateway.pricingConfig 0

def idleWorld : World := { store := { sessions := AList.insert "s" idleSession ∅ } }

/-- Two blocks and three for the session, among events that count for nothing. -/
def twoBatches : List (List (Option MeteringEvent)) :=
  [[some ⟨"s", none, [some ⟨"blocks", 2⟩, some ⟨"other", 7⟩]⟩, none, some ⟨"", none, []⟩],
    [some ⟨"x", none, [some ⟨"blocks", 9⟩]⟩, some ⟨"s", none, [some ⟨"block_count", 3⟩]⟩]]

def bothReported : Config Act ThreadId World Reply :=
  machine.play [Sample.steps 0 3, Sample.whole 1, Sample.whole 0]
    (reporting Sample.gateway idleWorld twoBatches)

theorem usage_accounting_additive_sample :
    ∃ session', bothReported.shared.store.sessions.lookup "s" = some session' ∧
      session'.blocksProcessed.toNat = 5 ∧ session'.totalCost = 5 := by
  have run : machine.Reach (reporting Sample.gateway idleWorld twoBatches) bothReported :=
    Machine.play_reach _ _
  have results : ∀ i < 2, (bothReported.threads i).result.isSome = true := by
    decide +kernel
  have reported : Reported twoBatches bothReported := by
    intro i inside
    obtain ⟨r, ended⟩ := Option.isSome_iff_exists.mp (results i inside)
    exact ⟨r, Prog.result_eq_some ended⟩
  have fits : Fits Sample.gateway.pricingConfig idleSession (eventsFor "s" twoBatches.flatten) := by
    constructor <;> decide +kernel
  have stored : idleWorld.store.sessions.lookup "s" = some idleSession := rfl
  obtain ⟨session', present, grown, _⟩ := usage_accounting_additive run reported stored fits
  refine ⟨session', present, grown.blocks.trans ?_, grown.cost.trans ?_⟩
  · decide +kernel
  · decide +kernel

/-! ## The answer -/

/-- The states after each event of a report that runs on its own. -/
inductive Passes (g : Gateway) (i : ThreadId) :
    List (Option MeteringEvent) → World → List World → World → Prop
  | nil {w : World} : Passes g i [] w [] w
  | cons {event : Option MeteringEvent} {rest : List (Option MeteringEvent)} {w mid w' : World}
      {states : List World} (first : machine.Runs i (g.reportEvent event) w () mid)
      (others : Passes g i rest mid states w') : Passes g i (event :: rest) w (mid :: states) w'

variable {g : Gateway} {i : ThreadId} {events : List (Option MeteringEvent)} {w w' : World}

theorem report_passes (ran : machine.Runs i (g.report events) w () w') :
    ∃ states, Passes g i events w states w' := by
  induction events generalizing w with
  | nil =>
    obtain ⟨-, rfl⟩ := ran.ret_inv
    exact ⟨[], .nil⟩
  | cons event rest ih =>
    obtain ⟨_, mid, first, others⟩ := ran.bind_inv
    obtain ⟨states, passes⟩ := ih others
    exact ⟨mid :: states, .cons first passes⟩

theorem Passes.runs {states : List World} (passes : Passes g i events w states w') :
    machine.Runs i (g.report events) w () w' := by
  induction passes with
  | nil => exact .ret
  | cons first _ ih => exact first.bind ih

/-- A report answers that nothing is revoked, whatever it meets on its way. -/
theorem reportResponse_runs_iff {response : ReportResponse} :
    machine.Runs i (g.reportResponse events) w response w' ↔
      response.revoked = false ∧ ∃ states, Passes g i events w states w' := by
  unfold reportResponse
  split
  · next empty =>
      subst empty
      constructor
      · intro ran
        obtain ⟨rfl, rfl⟩ := ran.ret_inv
        exact ⟨rfl, [], .nil⟩
      · rintro ⟨answer, states, passes⟩
        cases passes
        cases response
        cases answer
        exact .ret
  · constructor
    · intro ran
      obtain ⟨_, mid, reported, rest⟩ := ran.bind_inv
      obtain ⟨rfl, rfl⟩ := rest.ret_inv
      exact ⟨rfl, report_passes reported⟩
    · rintro ⟨answer, states, passes⟩
      cases response
      cases answer
      exact passes.runs.bind .ret

/-- The event names a session that is terminated in this state. -/
def NamesTerminated (event : Option MeteringEvent) (w : World) : Prop :=
  ∃ e session, event = some e ∧ w.store.sessions.lookup e.sdsSessionId = some session ∧
    session.status = .terminated

/-- A report never answers that a session is revoked, so it says so for every terminated session
exactly when no event names a session that is terminated after the event. -/
theorem terminated_revoked_iff {states : List World} (passes : Passes g i events w states w') :
    (∀ response w', machine.Runs i (g.reportResponse events) w response w' →
      response.revoked = false) ∧
    ((∀ response, machine.Runs i (g.reportResponse events) w response w' →
      (∃ pair ∈ events.zip states, NamesTerminated pair.1 pair.2) → response.revoked = true) ↔
    ∀ pair ∈ events.zip states, ¬NamesTerminated pair.1 pair.2) := by
  refine ⟨fun response w' ran => (reportResponse_runs_iff.mp ran).1, ?_, ?_⟩
  · intro revokes pair member terminated
    have ran : machine.Runs i (g.reportResponse events) w ⟨false⟩ w' :=
      reportResponse_runs_iff.mpr ⟨rfl, states, passes⟩
    cases revokes _ ran ⟨pair, member, terminated⟩
  · rintro none response - ⟨pair, member, terminated⟩
    exact absurd terminated (none pair member)

/-- One block for the session. -/
def oneBlock : Option MeteringEvent := some ⟨"s", none, [some ⟨"blocks", 1⟩]⟩

/-- The state after the event has been reported against an escrow balance of zero. -/
def afterBlock (g : Gateway) : Option (Unit × World) :=
  machine.runAlone 0 {} 200 (g.reportEvent oneBlock) idleWorld

def statusOf (w : World) : Option SessionStatus := (w.store.sessions.lookup "s").map (·.status)

/-- Without an escrow contract the session stays active. -/
theorem terminated_revoked_iff_active :
    ∃ w', Passes Sample.gateway 0 [oneBlock] idleWorld [w'] w' ∧ statusOf w' = some .active ∧
      ∀ response, machine.Runs 0 (Sample.gateway.reportResponse [oneBlock]) idleWorld response w' →
        (∃ pair ∈ [oneBlock].zip [w'], NamesTerminated pair.1 pair.2) →
          response.revoked = true := by
  have active : (afterBlock Sample.gateway).map (statusOf ·.2) = some (some .active) := by
    decide +kernel
  obtain ⟨⟨_, w'⟩, ended, status⟩ := Option.map_eq_some_iff.mp active
  have passes : Passes Sample.gateway 0 [oneBlock] idleWorld [w'] w' :=
    .cons (Machine.runAlone_runs ended) .nil
  refine ⟨w', passes, status, (terminated_revoked_iff passes).2.mpr fun pair member => ?_⟩
  rw [List.zip_cons_cons, List.zip_nil_right, List.mem_singleton] at member
  subst member
  rintro ⟨e, session, named, present, terminated⟩
  cases named
  have held : statusOf w' = some .terminated :=
    Option.map_eq_some_iff.mpr ⟨session, present, terminated⟩
  cases status.symm.trans held

/-- The block cannot be paid for, its own evaluation terminates the session, and the report answers
that nothing is revoked. -/
theorem terminated_not_revoked :
    ∃ w', machine.Runs 0 ({ Sample.gateway with hasEscrowQuerier := true }.reportResponse
      [oneBlock])
        idleWorld ⟨false⟩ w' ∧
      NamesTerminated oneBlock w' := by
  have ended : (afterBlock { Sample.gateway with hasEscrowQuerier := true }).map (statusOf ·.2) =
      some (some .terminated) := by
    decide +kernel
  obtain ⟨⟨_, w'⟩, ran, status⟩ := Option.map_eq_some_iff.mp ended
  obtain ⟨session, present, terminated⟩ := Option.map_eq_some_iff.mp status
  refine ⟨w', ?_, _, session, rfl, present, terminated⟩
  exact reportResponse_runs_iff.mpr ⟨rfl, [w'], .cons (Machine.runAlone_runs ran) .nil⟩

end Sdsce.Guarantees.UsageReports
