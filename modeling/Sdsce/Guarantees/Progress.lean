import Sdsce.Source.Ingress

/-!
# When the end of a stream is expected

`expectedEOF` looks at the highest block number that any response has named. An undo names its last
valid block and takes nothing back, so the number may belong to a block that the client has
discarded, or has never received.
-/
namespace Sdsce.Guarantees.Progress

open Sdsce.Source.Ingress Sdsce.Source.Ingress.StreamProgress

/-- A response of either version. -/
inductive Response where
  | v2 (response : ResponseV2)
  | v4 (response : ResponseV4)
deriving DecidableEq

/-- The blocks that a response delivers. -/
def delivered : Response → List UInt64
  | .v2 (.blockScopedData clock) => clock.toList
  | .v4 (.blockScopedDatas clocks) => clocks.reduceOption
  | _ => []

/-- The last valid block of an undo. -/
def undoneTo : Response → Option UInt64
  | .v2 (.blockUndoSignal lastValidBlock) | .v4 (.blockUndoSignal lastValidBlock) => lastValidBlock
  | _ => none

/-- `observeV2` and `observeV4`. -/
def observe (p : StreamProgress) : Response → StreamProgress
  | .v2 response => p.observeV2 response
  | .v4 response => p.observeV4 response

def progressOf (responses : List Response) : StreamProgress := responses.foldl observe {}

/-- The client's chain: a block is appended, an undo discards every block above its last valid
one. -/
def extend (chain : List UInt64) (response : Response) : List UInt64 :=
  match undoneTo response with
  | some lastValid => chain.filter (· ≤ lastValid)
  | none => chain ++ delivered response

def chainOf (responses : List Response) : List UInt64 := responses.foldl extend []

/-! ## The highest number -/

/-- The numbers that a response names. -/
def named (response : Response) : List UInt64 := delivered response ++ (undoneTo response).toList

theorem foldl_noteIfSome (p : StreamProgress) (clocks : List (Option UInt64)) :
    clocks.foldl noteIfSome p = clocks.reduceOption.foldl noteBlock p := by
  induction clocks generalizing p with
  | nil => rfl
  | cons clock rest ih =>
    cases clock with
    | none => exact ih p
    | some n => exact ih (p.noteBlock n)

theorem observe_eq (p : StreamProgress) (response : Response) :
    observe p response = (named response).foldl noteBlock p := by
  have noted (n : Option UInt64) : p.noteIfSome n = n.toList.foldl noteBlock p := by
    cases n with
    | none | some => rfl
  cases response with
  | v2 response =>
    cases response with
    | blockScopedData clock =>
      simpa [observe, observeV2, named, delivered, undoneTo] using noted clock
    | blockUndoSignal lastValid => exact noted lastValid
    | other => rfl
  | v4 response =>
    cases response with
    | blockScopedDatas clocks =>
      simpa [observe, observeV4, named, delivered, undoneTo] using foldl_noteIfSome p clocks
    | blockUndoSignal lastValid => exact noted lastValid
    | other => rfl

theorem progressOf_eq (responses : List Response) :
    progressOf responses = (responses.flatMap named).foldl noteBlock {} := by
  rw [List.foldl_flatMap, progressOf]
  exact congrArg (fun f => responses.foldl f {}) (funext fun p => funext (observe_eq p))

/-- What the summary says about the numbers noted so far. -/
structure Summary (numbers : List UInt64) (p : StreamProgress) : Prop where
  saw : p.sawBlock = true ↔ numbers ≠ []
  bound : ∀ n ∈ numbers, n ≤ p.highestBlock
  attained : numbers ≠ [] → p.highestBlock ∈ numbers

variable {numbers : List UInt64} {p : StreamProgress} {n : UInt64}

theorem Summary.noteBlock (here : Summary numbers p) (n : UInt64) :
    Summary (numbers ++ [n]) (p.noteBlock n) := by
  have higher : p.highestBlock ≤ (p.noteBlock n).highestBlock ∨ numbers = [] := by
    by_cases none : numbers = []
    · exact .inr none
    refine .inl ?_
    rw [StreamProgress.noteBlock, here.saw.mpr none]
    dsimp only
    split
    · next later => exact UInt64.le_of_lt (later.resolve_left nofun)
    · exact UInt64.le_refl _
  have reached : n ≤ (p.noteBlock n).highestBlock := by
    unfold StreamProgress.noteBlock
    dsimp only
    split
    · exact UInt64.le_refl _
    · next lower => exact UInt64.not_lt.mp fun above => lower (.inr above)
  refine ⟨⟨fun _ => by simp, fun _ => rfl⟩, fun m member => ?_, fun _ => ?_⟩
  · rcases List.mem_append.mp member with old | new
    · obtain le | none := higher
      · exact UInt64.le_trans (here.bound m old) le
      · exact absurd (none ▸ old) List.not_mem_nil
    · rw [List.mem_singleton.mp new]
      exact reached
  · unfold StreamProgress.noteBlock
    dsimp only
    split
    · simp
    rename_i kept
    have saw : p.sawBlock = true := by
      cases seen : p.sawBlock with
      | true => rfl
      | false => exact absurd (.inl seen) kept
    exact List.mem_append_left _ (here.attained (here.saw.mp saw))

theorem summary_foldl (here : Summary numbers p) (later : List UInt64) :
    Summary (numbers ++ later) (later.foldl noteBlock p) := by
  induction later generalizing numbers p with
  | nil => simpa using here
  | cons n rest ih =>
    have next := ih (here.noteBlock n)
    rwa [List.append_assoc] at next

theorem progressOf_summary (responses : List Response) :
    Summary (responses.flatMap named) (progressOf responses) := by
  have nothing : Summary [] {} := ⟨by simp, nofun, fun some => absurd rfl some⟩
  rw [progressOf_eq]
  exact summary_foldl nothing _

/-- The largest block number; one more is zero. -/
def lastNumber : UInt64 := 18446744073709551615

/-- Some response has named a block at the stop block or right before it, and none the last
number that there is. -/
def Reached (responses : List Response) (stop : UInt64) : Prop :=
  stop ≠ 0 ∧ (∃ n ∈ responses.flatMap named, stop.toNat ≤ n.toNat + 1) ∧
    lastNumber ∉ responses.flatMap named

theorem expectedEOF_iff (responses : List Response) (stop : UInt64) :
    (progressOf responses).expectedEOF stop = true ↔ Reached responses stop := by
  have summary := progressOf_summary responses
  unfold expectedEOF Reached
  split
  · next nothing =>
      refine ⟨nofun, fun ⟨positive, ⟨n, member, _⟩, _⟩ => ?_⟩
      obtain zero | unseen := nothing
      · exact absurd zero positive
      · rw [summary.saw.mpr (List.ne_nil_of_mem member)] at unseen
        cases unseen
  · next some =>
      obtain ⟨positive, seen⟩ := not_or.mp some
      have present : responses.flatMap named ≠ [] := summary.saw.mp (Bool.not_eq_false _ ▸ seen)
      have attained := summary.attained present
      have size := (progressOf responses).highestBlock.toNat_lt
      have nonzero : stop.toNat ≠ 0 := fun zero => positive (UInt64.toNat_inj.mp zero)
      rw [decide_eq_true_iff, UInt64.le_iff_toNat_le, UInt64.toNat_add]
      have one : (1 : UInt64).toNat = 1 := rfl
      constructor
      · intro reached
        refine ⟨positive, ⟨_, attained, by omega⟩, fun last => ?_⟩
        have top := UInt64.le_iff_toNat_le.mp (summary.bound _ last)
        have value : lastNumber.toNat = 18446744073709551615 := rfl
        omega
      · rintro ⟨_, ⟨n, member, reached⟩, notLast⟩
        have bound := UInt64.le_iff_toNat_le.mp (summary.bound n member)
        have different : (progressOf responses).highestBlock.toNat ≠ 18446744073709551615 := by
          intro same
          refine notLast ?_
          have last : (progressOf responses).highestBlock = lastNumber := UInt64.toNat_inj.mp same
          exact last ▸ attained
        omega

/-! ## The chain -/

/-- A block was delivered, and no later undo has gone below it. -/
def Survives (responses : List Response) (n : UInt64) : Prop :=
  ∃ before response after, responses = before ++ response :: after ∧ n ∈ delivered response ∧
    ∀ later ∈ after, ∀ lastValid ∈ undoneTo later, n ≤ lastValid

variable {response : Response}

theorem delivered_of_undo {lastValid : UInt64} (undo : undoneTo response = some lastValid) :
    delivered response = [] := by
  unfold undoneTo at undo
  split at undo
  · rfl
  · rfl
  · cases undo

variable {responses : List Response}

theorem survives_concat :
    Survives (responses ++ [response]) n ↔
      n ∈ delivered response ∨ Survives responses n ∧ ∀ lastValid ∈ undoneTo response,
        n ≤ lastValid := by
  constructor
  · rintro ⟨before, first, after, split, member, kept⟩
    rcases List.eq_nil_or_concat after with rfl | ⟨others, last, rfl⟩
    · obtain ⟨rfl, same⟩ := List.append_inj' split rfl
      cases same
      exact .inl member
    rw [List.concat_eq_append] at split kept
    rw [← List.cons_append, ← List.append_assoc] at split
    obtain ⟨rfl, same⟩ := List.append_inj' split rfl
    cases same
    refine .inr ⟨⟨before, first, others, rfl, member, fun later held => ?_⟩, ?_⟩
    · exact kept later (List.mem_append_left _ held)
    · exact kept response (List.mem_append_right _ List.mem_cons_self)
  · rintro (member | ⟨⟨before, first, after, rfl, member, kept⟩, last⟩)
    · exact ⟨responses, response, [], rfl, member, nofun⟩
    refine ⟨before, first, after ++ [response], by simp, member, fun later held => ?_⟩
    rcases List.mem_append.mp held with old | new
    · exact kept later old
    · rw [List.mem_singleton.mp new]
      exact last

theorem mem_chainOf : n ∈ chainOf responses ↔ Survives responses n := by
  induction responses using List.reverseRecOn with
  | nil =>
    refine ⟨nofun, fun ⟨before, first, after, split, _⟩ => ?_⟩
    simp at split
  | append_singleton responses response ih =>
    rw [survives_concat, ← ih, chainOf, List.foldl_append, List.foldl_cons, List.foldl_nil]
    change n ∈ extend (chainOf responses) response ↔ _
    unfold extend
    split
    · next lastValid undo =>
        rw [List.mem_filter, delivered_of_undo undo, undo]
        simp
    · next none =>
        rw [List.mem_append, none]
        simp [or_comm]

theorem Survives.named (here : Survives responses n) : n ∈ responses.flatMap named := by
  obtain ⟨before, response, after, rfl, member, _⟩ := here
  refine List.mem_flatMap.mpr ⟨response, by simp, ?_⟩
  exact List.mem_append_left _ member

/-! ## Expected ends -/

/-- The end of the stream is expected only if the client's chain has come up to the stop block. -/
def RespectsUndo (responses : List Response) (stop : UInt64) : Prop :=
  (progressOf responses).expectedEOF stop = true → ∃ n ∈ chainOf responses, stop.toNat ≤ n.toNat + 1

theorem survives_highest {responses : List Response} (some : responses.flatMap named ≠ [])
    (last : lastNumber ∉ responses.flatMap named)
    (respects : ∀ stop, Reached responses stop →
      ∃ n, Survives responses n ∧ stop.toNat ≤ n.toNat + 1) :
    Survives responses (progressOf responses).highestBlock := by
  have summary := progressOf_summary responses
  have attained := summary.attained some
  have size := (progressOf responses).highestBlock.toNat_lt
  have different : (progressOf responses).highestBlock.toNat ≠ 18446744073709551615 := by
    intro same
    have top : (progressOf responses).highestBlock = lastNumber := UInt64.toNat_inj.mp same
    exact last (top ▸ attained)
  -- the stop block right above the highest number decides
  have above : ((progressOf responses).highestBlock + 1).toNat =
      (progressOf responses).highestBlock.toNat + 1 := by
    rw [UInt64.toNat_add]
    exact Nat.mod_eq_of_lt (by have one : (1 : UInt64).toNat = 1 := rfl; omega)
  have positive : (progressOf responses).highestBlock + 1 ≠ 0 := by
    intro zero
    rw [zero] at above
    cases above
  obtain ⟨n, survives, reached⟩ := respects _ ⟨positive, ⟨_, attained, above.le⟩, last⟩
  have bound := UInt64.le_iff_toNat_le.mp (summary.bound n survives.named)
  have same : n = (progressOf responses).highestBlock := UInt64.toNat_inj.mp (by omega)
  exact same ▸ survives

/-- For every sequence of responses: with a given stop block, the expectation respects undo signals
unless a number has come up to it of which no block survives; with every stop block, it does so just
when no number was named, or the last number there is, or none above a block that survives. -/
theorem expectedEOF_respects_undo_iff (responses : List Response) :
    (∀ stop, RespectsUndo responses stop ↔
      (Reached responses stop → ∃ n, Survives responses n ∧ stop.toNat ≤ n.toNat + 1)) ∧
    ((∀ stop, RespectsUndo responses stop) ↔
      responses.flatMap named = [] ∨ lastNumber ∈ responses.flatMap named ∨
        ∃ n, Survives responses n ∧ ∀ m ∈ responses.flatMap named, m ≤ n) := by
  have pointwise (stop : UInt64) : RespectsUndo responses stop ↔
      (Reached responses stop → ∃ n, Survives responses n ∧ stop.toNat ≤ n.toNat + 1) := by
    unfold RespectsUndo
    rw [expectedEOF_iff]
    simp only [mem_chainOf]
  refine ⟨pointwise, ?_⟩
  constructor
  · intro respects
    by_cases nothing : responses.flatMap named = []
    · exact .inl nothing
    by_cases last : lastNumber ∈ responses.flatMap named
    · exact .inr (.inl last)
    have highest := survives_highest nothing last fun stop => (pointwise stop).mp (respects stop)
    exact .inr (.inr ⟨_, highest, (progressOf_summary responses).bound⟩)
  · rintro condition stop
    refine (pointwise stop).mpr fun ⟨_, ⟨n, member, reached⟩, notLast⟩ => ?_
    obtain nothing | last | ⟨top, survives, bound⟩ := condition
    · exact absurd (nothing ▸ member) List.not_mem_nil
    · exact absurd last notLast
    · have below := UInt64.le_iff_toNat_le.mp (bound n member)
      exact ⟨top, survives, by omega⟩

/-- Blocks up to 10 with an undo to 5, and an undo alone. In both cases a stream that stops at
block 11 is expected to end. -/
theorem expectedEOF_after_undo :
    (progressOf [.v2 (.blockScopedData (some 10)),
      .v2 (.blockUndoSignal (some 5))]).expectedEOF 11 = true ∧
    chainOf [.v2 (.blockScopedData (some 10)), .v2 (.blockUndoSignal (some 5))] = [] ∧
    (progressOf [.v4 (.blockUndoSignal (some 10))]).expectedEOF 11 = true ∧
    chainOf [.v4 (.blockUndoSignal (some 10))] = [] := by
  decide +kernel

end Sdsce.Guarantees.Progress
