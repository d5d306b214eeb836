import Sdsce.Theory.RelyGuarantee

/-!
# What a thread learns for good

An assertion that no permitted action falsifies can be carried across any verified program.
A task is a program verified between such assertions; sequencing tasks accumulates what each
of them has learned, so that nothing has to be framed by hand.
-/
namespace Sdsce.Theory

variable {Act : Type → Type} {ι ε σ : Type} {M : Machine Act ι ε σ}

namespace Discipline

/-- A persistent assertion of thread `i`. -/
structure Knowledge (D : Discipline M) (i : ι) where
  holds : σ → Prop
  persistent : D.Persistent i holds

namespace Knowledge

variable {D : Discipline M} {i : ι}

/-- A fact that does not speak about the state. -/
def pure (D : Discipline M) (i : ι) (φ : Prop) : D.Knowledge i where
  holds _ := φ
  persistent := ⟨Stable.const φ, fun _ _ _ h => h⟩

def and (A B : D.Knowledge i) : D.Knowledge i where
  holds s := A.holds s ∧ B.holds s
  persistent := ⟨A.persistent.stable.and B.persistent.stable, fun inv may ran both =>
    ⟨A.persistent.own inv may ran both.1, B.persistent.own inv may ran both.2⟩⟩

/-- Nothing is known. -/
def none (D : Discipline M) (i : ι) : D.Knowledge i := .pure D i True

end Knowledge

variable {D : Discipline M} {i : ι} {α β S : Type}

/-- A program verified between persistent assertions. -/
def Task (A : D.Knowledge i) (p : Prog Act α) (Q : α → D.Knowledge i) : Prop :=
  D.Triple i A.holds p (fun a => (Q a).holds)

namespace Task

variable {A A' B : D.Knowledge i} {p : Prog Act α}

variable {Q Q' : α → D.Knowledge i}

theorem ret {a : α} (done : ∀ s, D.inv s → A.holds s → (Q a).holds s) : D.Task A (.ret a) Q :=
  Triple.ret A.persistent.stable done

/-- What the first program learns is added to what was known. -/
theorem bind {f : α → Prog Act β} {R : α → D.Knowledge i} {Q : β → D.Knowledge i}
    (first : D.Task A p R) (next : ∀ a, D.Task (A.and (R a)) (f a) Q) : D.Task A (p.bind f) Q :=
  fun s inv here => ((first s inv here).frame A.persistent inv here).bind inv fun a s₁ inv₁ post =>
    next a s₁ inv₁ ⟨post.2, post.1⟩

theorem perform {a : Act α} (may : ∀ s, D.inv s → A.holds s → D.may i a s)
    (effect : ∀ e s s' b, D.inv s → A.holds s → M.exec i a e s = some (s', b) → (Q b).holds s') :
    D.Task A (.perform a) Q :=
  Triple.perform A.persistent.stable (fun b => (Q b).persistent.stable) may effect

theorem conseq (h : D.Task A p Q) (stronger : ∀ s, D.inv s → A'.holds s → A.holds s)
    (weaker : ∀ a s, D.inv s → (Q a).holds s → (Q' a).holds s) : D.Task A' p Q' :=
  Triple.conseq h stronger weaker

/-- A task needs no more than it asks for. -/
theorem pre (h : D.Task A p Q) (stronger : ∀ s, D.inv s → A'.holds s → A.holds s) : D.Task A' p Q :=
  h.conseq stronger fun _ _ _ post => post

theorem post (h : D.Task A p Q) (weaker : ∀ a s, D.inv s → (Q a).holds s → (Q' a).holds s) :
    D.Task A p Q' :=
  h.conseq (fun _ _ here => here) weaker

/-- A task run only for its effects. -/
theorem forget (h : D.Task A p Q) : D.Task A p (fun _ => .none D i) := h.post fun _ _ _ _ => trivial

theorem assume {φ : Prop} (known : ∀ s, D.inv s → A.holds s → φ) (h : φ → D.Task A p Q) :
    D.Task A p Q :=
  fun s inv here => h (known s inv here) s inv here

/-- A task that is verified for every value of what it knows to exist. -/
theorem exists_pre {X : Type} {B : X → D.Knowledge i}
    (known : ∀ s, D.inv s → A.holds s → ∃ x, (B x).holds s) (h : ∀ x, D.Task (B x) p Q) :
    D.Task A p Q :=
  fun s inv here => by
    obtain ⟨x, there⟩ := known s inv here
    exact h x s inv there

theorem iterate {body : S → Prog Act (S ⊕ β)} {start : S} {Inv : S → D.Knowledge i}
    {Done : β → D.Knowledge i}
    (step : ∀ x, D.Task (Inv x) (body x) (fun r => Sum.elim Inv Done r)) :
    D.Task (Inv start) (.iterate body start) Done := by
  refine Triple.iterate (J := fun x => (Inv x).holds) (fun x => (Inv x).persistent.stable)
    (fun b => (Done b).persistent.stable) fun x => Triple.conseq (step x) (fun _ _ here => here) ?_
  rintro (y | b) s _ here
  · exact here
  · exact here

theorem retry {body : Prog Act (Option α)} (step : D.Task A body (fun r => r.elim A Q)) :
    D.Task A (.retry body) Q := by
  refine Triple.retry A.persistent.stable (fun a => (Q a).persistent.stable)
    (Triple.conseq step (fun _ _ here => here) ?_)
  rintro (_ | a) s _ here
  · exact here
  · exact here

theorem forEach {f : α → Prog Act Unit} {xs : List α}
    (step : ∀ x ∈ xs, D.Task A (f x) (fun _ => .none D i)) :
    D.Task A (.forEach f xs) (fun _ => .none D i) := by
  induction xs with
  | nil => exact ret fun _ _ _ => trivial
  | cons x rest ih =>
    refine bind (step x List.mem_cons_self) fun _ => ?_
    exact (ih fun y member => step y (List.mem_cons_of_mem x member)).pre fun _ _ here => here.1

end Task

end Discipline
end Sdsce.Theory
