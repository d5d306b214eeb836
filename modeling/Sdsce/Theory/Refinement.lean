import Sdsce.Theory.Progress

/-!
# Sequential specifications

An object is specified by what each call does to an abstract state and answers. A program
implements a call when, run alone from any state that stands for an abstract one, it returns the
answer and leaves a state that stands for the next. Sequences of calls then follow the runs of
the specification.
-/
namespace Sdsce.Theory

/-- What a call does to the abstract state and what it answers. -/
structure Spec (α T κ : Type) where
  step : α → T → T × κ

namespace Spec

variable {α T κ : Type} (S : Spec α T κ)

/-- The state after a sequence of calls, and all their answers. -/
def run : List α → T → T × List κ
  | [], t => (t, [])
  | a :: rest, t => ((run rest (S.step a t).1).1, (S.step a t).2 :: (run rest (S.step a t).1).2)

/-- Every call of the sequence meets `cond` together with the state it finds. -/
def Meets (cond : α → T → Prop) : List α → T → Prop
  | [], _ => True
  | a :: rest, t => cond a t ∧ Meets cond rest (S.step a t).1

instance Meets.decidable (cond : α → T → Prop) [∀ a t, Decidable (cond a t)] :
    (calls : List α) → (t : T) → Decidable (S.Meets cond calls t)
  | [], _ => isTrue trivial
  | a :: rest, t =>
    have := Meets.decidable cond rest (S.step a t).1
    inferInstanceAs (Decidable (cond a t ∧ S.Meets cond rest (S.step a t).1))

variable {S}

theorem meets_true (calls : List α) (t : T) : S.Meets (fun _ _ => True) calls t := by
  induction calls generalizing t with
  | nil => trivial
  | cons a rest ih => exact ⟨trivial, ih _⟩

/-- Where a call keeps an assertion exactly when it meets the condition, the assertion holds all
along a sequence exactly when each of its calls meets it. -/
theorem meets_iff {cond : α → T → Prop} {J : T → Prop}
    (step : ∀ a t, J t → (J (S.step a t).1 ↔ cond a t)) {calls : List α} {t : T} (start : J t) :
    (∀ first, first <+: calls → J (S.run first t).1) ↔ S.Meets cond calls t := by
  induction calls generalizing t with
  | nil =>
    refine ⟨fun _ => trivial, fun _ first begins => ?_⟩
    rw [List.prefix_nil.mp begins]
    exact start
  | cons a rest ih =>
    constructor
    · intro along
      have next : J (S.step a t).1 := along [a] ⟨rest, rfl⟩
      refine ⟨(step a t start).mp next, (ih next).mp fun first begins => ?_⟩
      exact along (a :: first) (List.cons_prefix_cons.mpr ⟨rfl, begins⟩)
    · rintro ⟨met, others⟩ first begins
      have next : J (S.step a t).1 := (step a t start).mpr met
      rcases List.prefix_cons_iff.mp begins with rfl | ⟨more, rfl, within⟩
      · exact start
      · exact (ih next).mpr others more within

end Spec

namespace Machine

variable {Act : Type → Type} {ι ε σ α β T κ : Type}

/-- The program of the call `a` does what the specification says, from every state that stands
for an abstract one. -/
def Implements (M : Machine Act ι ε σ) (i : ι) (fair : ε → Prop) (S : Spec α T κ)
    (stands : σ → T → Prop) (answer : β → κ) (program : α → Prog Act β) (a : α) : Prop :=
  ∀ s t, stands s t → M.Finishes i fair
    (fun b s' => answer b = (S.step a t).2 ∧ stands s' (S.step a t).1) (program a) s

variable {M : Machine Act ι ε σ} {i : ι} {S : Spec α T κ} {stands : σ → T → Prop} {answer : β → κ}
  {program : α → Prog Act β} {s : σ} {fair : α → ε → Prop} {calls : List α}

/-- A sequence of implemented calls follows the run of the specification. -/
theorem Implements.run {fair : ε → Prop} (calls : List α)
    (each : ∀ a ∈ calls, M.Implements i fair S stands answer program a) {t : T}
    (here : stands s t) :
    M.Finishes i fair
      (fun bs s' => bs.map answer = (S.run calls t).2 ∧ stands s' (S.run calls t).1)
      (.mapEach program calls) s := by
  induction calls generalizing s t with
  | nil => exact .ret ⟨rfl, here⟩
  | cons a rest ih =>
    refine (each a List.mem_cons_self s t here).bind fun b s₁ first => ?_
    refine (ih (fun a' member => each a' (List.mem_cons_of_mem a member)) first.2).bind ?_
    intro bs s₂ others
    refine .ret ⟨?_, others.2⟩
    rw [List.map_cons, first.1, others.1]
    rfl

/-- The calls run to their ends one after the other, each under its own circumstances, and then
`Q` holds of all answers. -/
def Serves (M : Machine Act ι ε σ) (i : ι) (fair : α → ε → Prop) (program : α → Prog Act β) :
    (List β → σ → Prop) → List α → σ → Prop
  | Q, [], s => Q [] s
  | Q, a :: rest, s => M.Finishes i (fair a)
      (fun b s' => M.Serves i fair program (fun bs => Q (b :: bs)) rest s') (program a) s

theorem Serves.mono {Q Q' : List β → σ → Prop} (h : M.Serves i fair program Q calls s)
    (weaker : ∀ bs s', Q bs s' → Q' bs s') : M.Serves i fair program Q' calls s := by
  induction calls generalizing s Q Q' with
  | nil => exact weaker [] s h
  | cons a rest ih =>
    exact Finishes.mono h fun b s' more => ih more fun bs => weaker (b :: bs)

/-- Calls that meet a condition, each of which the programs implement then, follow the run of the
specification. -/
theorem Serves.of_steps {cond : α → T → Prop}
    (each : ∀ a s t, cond a t → stands s t → M.Finishes i (fair a)
      (fun b s' => answer b = (S.step a t).2 ∧ stands s' (S.step a t).1) (program a) s) {t : T}
    (meets : S.Meets cond calls t) (here : stands s t) :
    M.Serves i fair program
      (fun bs s' => bs.map answer = (S.run calls t).2 ∧ stands s' (S.run calls t).1) calls s := by
  induction calls generalizing s t with
  | nil => exact ⟨rfl, here⟩
  | cons a rest ih =>
    refine (each a s t meets.1 here).mono fun b s' first => ?_
    refine (ih meets.2 first.2).mono fun bs s'' others => ⟨?_, others.2⟩
    rw [List.map_cons, first.1, others.1]
    rfl

end Machine

end Sdsce.Theory
