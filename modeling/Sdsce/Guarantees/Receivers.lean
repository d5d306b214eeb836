import Sdsce.Source.Receiver

/-!
# The receive goroutine after its handler

When the handler of a stream returns, nobody takes requests out of the channel any more. The
goroutine that fills it hands over one more result, the error of `stream.Receive`. It ends if the
channel has room for that error, and waits for ever if a message that nobody has taken is in its
way.
-/
namespace Sdsce.Guarantees.Receivers

open Sdsce.Theory Sdsce.Source Sdsce.Source.Gateway Sdsce.Source.Receiver Function

/-- How far the goroutine is in its loop. -/
inductive Phase where
  | receiving
  | sending (result : StreamInput)
  | ended
deriving DecidableEq

def phaseBefore {β : Type} : ReceiveAct β → Phase
  | .send result => .sending result
  | _ => .receiving

/-- Where a program stands that is the rest of the goroutine. -/
def phaseOf : Routine Unit → Phase
  | .ret _ => .ended
  | .act (.stream a) _ => phaseBefore a
  | .act (.handler _) _ | .loop _ _ _ => .receiving

/-- The rests of the goroutine. -/
inductive At : Routine Unit → Prop
  | loop : At receivePaymentSessionRequests
  | turn : At (.unroll (fun _ => receiveTurn) () .ret)
  | send (result : StreamInput) (k : Unit → Routine Unit)
      (next : k () = if isError result then .ret () else receivePaymentSessionRequests) :
      At (.act (.stream (.send result)) k)
  | ended : At (.ret ())

/-- Every message has been taken, and what the goroutine is about to hand over, if it is about to,
is an error. -/
def drained (p : Routine Unit) (r : Requests) : Bool :=
  match phaseOf p with
  | .ended => true
  | .receiving => r.buffer.isEmpty
  | .sending result => r.buffer.isEmpty && isError result

variable {c c' : Config GoroutineAct Goroutine State Unit} {i : ThreadId} {e : Oracle}

/-- The goroutine has not ended and never moves again, whatever happens. -/
def BlockedForever (c : Config GoroutineAct Goroutine State Unit) (i : ThreadId) : Prop :=
  (c.threads (.receiver i)).result = none ∧
    ∀ c', goroutines.Reach c c' → ∀ e, goroutines.stepAt c' (.receiver i) e = none

/-! ## Steps -/

/-- The configuration after a step of the goroutine. -/
def moved (c : Config GoroutineAct Goroutine State Unit) (i : ThreadId) (r : Requests)
    (p : Routine Unit) : Config GoroutineAct Goroutine State Unit :=
  ⟨{ c.shared with requests := Function.update c.shared.requests i r },
    Function.update c.threads (.receiver i) p⟩

theorem stepAt_loop (here : c.threads (.receiver i) = receivePaymentSessionRequests) :
    goroutines.stepAt c (.receiver i) e =
      some ⟨c.shared, Function.update c.threads (.receiver i)
        (.unroll (fun _ => receiveTurn) () .ret)⟩ := by
  simp only [Machine.stepAt, here, receivePaymentSessionRequests, Prog.iterate]

theorem stepAt_stream {β : Type} {a : ReceiveAct β} {k : β → Routine Unit}
    (here : c.threads (.receiver i) = .act (.stream a) k) :
    goroutines.stepAt c (.receiver i) e =
      ((c.shared.requests i).execStream a).map fun (r, b) => moved c i r (k b) := by
  simp only [Machine.stepAt, here, goroutines, State.exec, Goroutine.call]
  cases (c.shared.requests i).execStream a <;> rfl

theorem turn_eq : ∃ k : StreamInput → Unit → Routine Unit,
    (.unroll (fun _ => receiveTurn) () .ret : Routine Unit) =
      .act (.stream .receive) (fun result => .act (.stream (.send result)) (k result)) ∧
    ∀ result, k result () = if isError result then .ret () else receivePaymentSessionRequests := by
  refine ⟨_, rfl, fun result => ?_⟩
  cases isError result <;> rfl

/-- What is left of the goroutine after a step, and what it has done to its channel. -/
theorem At.step (here : At (c.threads (.receiver i)))
    (stepped : goroutines.stepAt c (.receiver i) e = some c') :
    At (c'.threads (.receiver i)) ∧
      ((c.shared.requests i).returned = true → (c'.shared.requests i).returned = true ∧
        drained (c'.threads (.receiver i)) (c'.shared.requests i) =
          drained (c.threads (.receiver i)) (c.shared.requests i)) := by
  generalize thread : c.threads (.receiver i) = p at here
  cases here with
  | loop =>
    rw [stepAt_loop thread] at stepped
    cases stepped
    simp only [update_self]
    exact ⟨.turn, fun returned => ⟨returned, rfl⟩⟩
  | turn =>
    obtain ⟨k, spelled, next⟩ := turn_eq
    rw [spelled] at thread
    rw [stepAt_stream thread] at stepped
    obtain ⟨⟨r, result⟩, received, rfl⟩ := Option.map_eq_some_iff.mp stepped
    simp only [moved, update_self]
    refine ⟨.send result _ (next result), fun returned => ?_⟩
    simp only [Requests.execStream, returned, if_true, Option.some.injEq, Prod.mk.injEq]
      at received
    obtain ⟨rfl, rfl⟩ := received
    rw [spelled]
    refine ⟨returned, ?_⟩
    simp [drained, phaseOf, phaseBefore, isError]
  | send result k next =>
    rw [stepAt_stream thread] at stepped
    obtain ⟨⟨r, _⟩, sent, rfl⟩ := Option.map_eq_some_iff.mp stepped
    simp only [Requests.execStream] at sent
    split at sent
    · next room =>
        cases sent
        have empty : (c.shared.requests i).buffer = [] :=
          List.length_eq_zero_iff.mp (Nat.lt_one_iff.mp room)
        simp only [moved, update_self]
        rw [next]
        cases error : isError result with
        | true =>
          refine ⟨.ended, fun returned => ⟨returned, ?_⟩⟩
          simp [drained, phaseOf, phaseBefore, empty, error]
        | false =>
          refine ⟨.loop, fun returned => ⟨returned, ?_⟩⟩
          simp [drained, phaseOf, phaseBefore, error, receivePaymentSessionRequests, Prog.iterate]
    · cases sent
  | ended =>
    simp only [Machine.stepAt, thread] at stepped
    cases stepped

/-- A handler that has returned has said so. -/
inductive Calling : Routine Unit → Requests → Prop
  | running (p : Routine Reply) (r : Requests) :
      Calling (p.bind fun _ => stream .handlerReturns) r
  | returned {r : Requests} (returned : r.returned = true) : Calling (.ret ()) r

theorem Calling.step (here : Calling (c.threads (.handler i)) (c.shared.requests i))
    (stepped : goroutines.stepAt c (.handler i) e = some c') :
    Calling (c'.threads (.handler i)) (c'.shared.requests i) := by
  generalize thread : c.threads (.handler i) = p at here
  generalize requests : c.shared.requests i = r at here
  cases here with
  | running p _ =>
    cases p with
    | ret reply =>
      simp only [Prog.ret_bind, stream, Prog.perform] at thread
      simp only [Machine.stepAt, thread, goroutines, State.exec, Goroutine.call,
        Requests.execStream] at stepped
      cases stepped
      simp only [update_self]
      exact .returned rfl
    | act a k =>
      rw [Prog.act_bind] at thread
      simp only [Machine.stepAt, thread] at stepped
      split at stepped
      · cases stepped
      · cases stepped
        simp only [update_self]
        exact .running _ _
    | loop body first k =>
      change _ = Prog.loop body first _ at thread
      simp only [Machine.stepAt, thread] at stepped
      cases stepped
      simp only [update_self]
      rw [← Prog.unroll_bind]
      exact .running _ _
  | returned _ =>
    simp only [Machine.stepAt, thread] at stepped
    cases stepped

theorem Calling.returned_of_ret {r : Requests} (here : Calling (.ret ()) r) :
    r.returned = true := by
  generalize thread : (.ret () : Routine Unit) = p at here
  cases here with
  | running p _ => cases p <;> cases thread
  | returned returned => exact returned

theorem stepAt_other {j : Goroutine} (stepped : goroutines.stepAt c j e = some c')
    (different : j.call ≠ i) : c'.shared.requests i = c.shared.requests i := by
  rcases Machine.stepAt_cases stepped with
    ⟨β, a, k, shared, b, _, ran, rfl⟩ | ⟨β, S, body, first, k, _, rfl⟩
  · cases a with
    | handler | stream =>
      simp only [goroutines, State.exec] at ran
      split at ran
      · cases ran
        exact update_of_ne different.symm ..
      · cases ran
  · rfl

theorem stepAt_threads {j k : Goroutine} (stepped : goroutines.stepAt c j e = some c')
    (different : j ≠ k) : c'.threads k = c.threads k := by
  rcases Machine.stepAt_cases stepped with
    ⟨β, a, k, shared, b, _, ran, rfl⟩ | ⟨β, S, body, first, k, _, rfl⟩
  · exact update_of_ne different.symm ..
  · exact update_of_ne different.symm ..

theorem handler_stays (stepped : goroutines.stepAt c (.receiver i) e = some c') :
    c'.threads (.handler i) = c.threads (.handler i) :=
  stepAt_threads stepped nofun

/-! ## Runs -/

/-- Every call has a handler and a receive goroutine as far as they have come. -/
structure Paired (c : Config GoroutineAct Goroutine State Unit) : Prop where
  receiver : ∀ i, At (c.threads (.receiver i))
  handler : ∀ i, Calling (c.threads (.handler i)) (c.shared.requests i)

theorem Paired.step (here : Paired c) {j : Goroutine}
    (stepped : goroutines.stepAt c j e = some c') : Paired c' := by
  refine ⟨fun i => ?_, fun i => ?_⟩
  · by_cases own : j = .receiver i
    · subst own
      exact ((here.receiver i).step stepped).1
    · rw [stepAt_threads stepped own]
      exact here.receiver i
  by_cases own : j = .handler i
  · subst own
    exact (here.handler i).step stepped
  rw [stepAt_threads stepped own]
  by_cases mine : j.call = i
  · obtain rfl : j = .receiver i := by
      cases j with
      | handler k => exact absurd (congrArg Goroutine.handler mine) own
      | receiver k => exact congrArg Goroutine.receiver mine
    have kept := ((here.receiver i).step stepped).2
    generalize thread : c.threads (.handler i) = p
    have calling := here.handler i
    rw [thread] at calling
    cases calling with
    | running p _ => exact .running p _
    | returned returned => exact .returned (kept returned).1
  · rw [stepAt_other stepped mine]
    exact here.handler i

theorem Paired.reach (here : Paired c) (run : goroutines.Reach c c') : Paired c' := by
  induction run with
  | refl => exact here
  | tail _ last ih =>
    obtain ⟨j, e, stepped⟩ := last
    exact ih.step stepped

theorem start_paired (g : Gateway) (pool : Pool) : Paired (start g pool) := by
  refine ⟨fun i => ?_, fun i => .running _ _⟩
  change At (receiverOf (pool i))
  cases pool i with
  | paymentSession inputs => exact .loop
  | _ => exact .ended

/-- A step after the handler has returned is one of the receive goroutine, or does not concern the
call. -/
theorem stepAt_returned {j : Goroutine} (done : c.threads (.handler i) = .ret ())
    (stepped : goroutines.stepAt c j e = some c') : j = .receiver i ∨
      c'.threads (.receiver i) = c.threads (.receiver i) ∧
        c'.shared.requests i = c.shared.requests i := by
  by_cases own : j = .receiver i
  · exact .inl own
  refine .inr ⟨stepAt_threads stepped own, stepAt_other stepped ?_⟩
  rintro mine
  cases j with
  | handler k =>
    obtain rfl : k = i := mine
    simp only [Machine.stepAt, done] at stepped
    cases stepped
  | receiver k => exact own (congrArg Goroutine.receiver mine)

/-- Once the handler has returned it is decided whether the goroutine can end. -/
theorem drained_reach (here : Paired c) (done : c.threads (.handler i) = .ret ())
    (run : goroutines.Reach c c') :
    drained (c'.threads (.receiver i)) (c'.shared.requests i) =
      drained (c.threads (.receiver i)) (c.shared.requests i) := by
  induction run with
  | refl => rfl
  | @tail mid next before last ih =>
    obtain ⟨j, e, stepped⟩ := last
    have paired := here.reach before
    have returned : mid.threads (.handler i) = .ret () := Machine.Reach.returned before done
    rcases stepAt_returned returned stepped with rfl | ⟨thread, requests⟩
    · have flag := paired.handler i
      rw [returned] at flag
      exact (((paired.receiver i).step stepped).2 flag.returned_of_ret).2.trans ih
    · rw [thread, requests, ih]

/-- With nobody to take what is in the channel, a send waits for ever. -/
theorem blocked_of_sending {result : StreamInput} {k : Unit → Routine Unit}
    (done : c.threads (.handler i) = .ret ())
    (sending : c.threads (.receiver i) = .act (.stream (.send result)) k)
    (full : (c.shared.requests i).buffer ≠ []) : BlockedForever c i := by
  have waits {c : Config GoroutineAct Goroutine State Unit} (e : Oracle)
      (sending : c.threads (.receiver i) = .act (.stream (.send result)) k)
      (full : (c.shared.requests i).buffer ≠ []) :
      goroutines.stepAt c (.receiver i) e = none := by
    have taken : ¬(c.shared.requests i).buffer.length < requestsCapacity := fun room =>
      full (List.length_eq_zero_iff.mp (Nat.lt_one_iff.mp room))
    rw [stepAt_stream sending, Requests.execStream, if_neg taken]
    rfl
  refine ⟨by rw [sending]; rfl, fun c' run => ?_⟩
  have stays : c'.threads (.receiver i) = c.threads (.receiver i) ∧
      c'.shared.requests i = c.shared.requests i := by
    induction run with
    | refl => exact ⟨rfl, rfl⟩
    | @tail mid next before last ih =>
      obtain ⟨j, e, stepped⟩ := last
      have returned : mid.threads (.handler i) = .ret () := Machine.Reach.returned before done
      rcases stepAt_returned returned stepped with rfl | ⟨thread, requests⟩
      · rw [waits e (ih.1.trans sending) (by rw [ih.2]; exact full)] at stepped
        cases stepped
      · exact ⟨thread.trans ih.1, requests.trans ih.2⟩
  exact fun e => waits e (stays.1.trans sending) (by rw [stays.2]; exact full)

section

variable (here : Paired c) (done : c.threads (.handler i) = .ret ())

include here done

/-- A goroutine that has to receive once more ends up waiting to send the error. -/
theorem blocked_of_turn
    (turn : c.threads (.receiver i) = .unroll (fun _ => receiveTurn) () .ret)
    (full : (c.shared.requests i).buffer ≠ []) :
    ∃ c', goroutines.Reach c c' ∧ BlockedForever c' i := by
  obtain ⟨k, spelled, _⟩ := turn_eq
  rw [spelled] at turn
  have flag := here.handler i
  rw [done] at flag
  have stepped : goroutines.stepAt c (.receiver i) {} = some (moved c i (c.shared.requests i)
      (.act (.stream (.send .failed)) (k .failed))) := by
    rw [stepAt_stream turn, Requests.execStream, if_pos flag.returned_of_ret]
    rfl
  have returned := (handler_stays stepped).trans done
  refine ⟨_, .single ⟨_, _, stepped⟩, blocked_of_sending returned (update_self ..) ?_⟩
  simpa only [moved, update_self] using full

theorem blocked_of_loop
    (loop : c.threads (.receiver i) = receivePaymentSessionRequests)
    (full : (c.shared.requests i).buffer ≠ []) :
    ∃ c', goroutines.Reach c c' ∧ BlockedForever c' i := by
  have stepped := stepAt_loop (e := {}) loop
  obtain ⟨c', run, blocked⟩ := blocked_of_turn (here.step stepped)
    ((handler_stays stepped).trans done) (update_self ..) full
  exact ⟨c', .head ⟨_, _, stepped⟩ run, blocked⟩

/-- What is in the way of the error is in its way for ever. -/
theorem blocked_of_undrained
    (undrained : drained (c.threads (.receiver i)) (c.shared.requests i) = false) :
    ∃ c', goroutines.Reach c c' ∧ BlockedForever c' i := by
  have position := here.receiver i
  generalize thread : c.threads (.receiver i) = p at position undrained
  cases position with
  | loop => exact blocked_of_loop here done thread (List.isEmpty_eq_false_iff.mp undrained)
  | turn => exact blocked_of_turn here done thread (List.isEmpty_eq_false_iff.mp undrained)
  | send result k next =>
    by_cases empty : (c.shared.requests i).buffer = []
    · have message : isError result = false := by
        simpa [drained, phaseOf, phaseBefore, empty] using undrained
      have stepped : goroutines.stepAt c (.receiver i) {} = some (moved c i
          { c.shared.requests i with buffer := [result] } (k ())) := by
        rw [stepAt_stream thread]
        simp [Requests.execStream, empty, requestsCapacity]
      rw [next, message] at stepped
      obtain ⟨c', run, blocked⟩ := blocked_of_loop (here.step stepped)
        ((handler_stays stepped).trans done) (update_self ..)
        (by simp [moved])
      exact ⟨c', .head ⟨_, _, stepped⟩ run, blocked⟩
    · exact ⟨c, .refl, blocked_of_sending done thread empty⟩
  | ended => cases undrained

/-- A goroutine whose way is free can move, or has ended. -/
theorem moves_of_drained
    (free : drained (c.threads (.receiver i)) (c.shared.requests i) = true) :
    ¬BlockedForever c i := by
  rintro ⟨running, blocked⟩
  have stuck := blocked c .refl {}
  have position := here.receiver i
  have flag := here.handler i
  rw [done] at flag
  generalize thread : c.threads (.receiver i) = p at position free running
  cases position with
  | loop =>
    rw [stepAt_loop thread] at stuck
    cases stuck
  | turn =>
    obtain ⟨k, spelled, _⟩ := turn_eq
    rw [spelled] at thread
    rw [stepAt_stream thread, Requests.execStream, if_pos flag.returned_of_ret] at stuck
    cases stuck
  | send result k next =>
    have empty : (c.shared.requests i).buffer = [] := by
      simp [drained, phaseOf, phaseBefore] at free
      exact free.1
    rw [stepAt_stream thread, Requests.execStream, empty] at stuck
    cases stuck
  | ended => cases running

end

/-- In every state of every run in which the handler of a stream has returned: from there on its
receive goroutine is never blocked for ever exactly if every message that it has received was taken
by then, or it has ended. -/
theorem receiver_released_iff {g : Gateway} {pool : Pool}
    (run : goroutines.Reach (start g pool) c) {i : ThreadId}
    (returned : (c.threads (.handler i)).result = some ()) :
    (∀ c', goroutines.Reach c c' → ¬BlockedForever c' i) ↔
      drained (c.threads (.receiver i)) (c.shared.requests i) = true := by
  have paired := (start_paired g pool).reach run
  have done := Prog.result_eq_some returned
  constructor
  · intro released
    by_contra undrained
    obtain ⟨c', later, blocked⟩ := blocked_of_undrained paired done (by simpa using undrained)
    exact released c' later blocked
  · intro free c' later
    refine moves_of_drained (paired.reach later) (later.returned done) ?_
    rw [drained_reach paired done later, free]

/-- A stream whose first message has no session ID, after `extra` is sent as well. -/
def stopped (extra : List StreamInput) : Config GoroutineAct Goroutine State Unit :=
  goroutines.play [(.receiver 0, {}, 20), (.handler 0, { choice := .request }, 20)]
    (start Sample.gateway (Sample.pool [.paymentSession (.request ⟨"", none⟩ :: extra)]))

theorem receiver_released_iff_stopped :
    ((stopped []).threads (.handler 0)).result = some () ∧
      ∀ c', goroutines.Reach (stopped []) c' → ¬BlockedForever c' 0 := by
  have returned : ((stopped []).threads (.handler 0)).result = some () := by decide +kernel
  refine ⟨returned, (receiver_released_iff (Machine.play_reach _ _) returned).mpr ?_⟩
  decide +kernel

/-- The peer sends a second message before the first is answered: nobody takes it, and the goroutine
never ends. -/
theorem receiver_left_behind : ∃ c,
    goroutines.Reach (start Sample.gateway (Sample.pool
      [.paymentSession [.request ⟨"", none⟩, .request ⟨"", none⟩]])) c ∧
    (c.threads (.handler 0)).result = some () ∧ BlockedForever c 0 := by
  have run := Machine.play_reach (M := goroutines)
    [(.receiver 0, {}, 20), (.handler 0, { choice := .request }, 20)]
    (start Sample.gateway
      (Sample.pool [.paymentSession [.request ⟨"", none⟩, .request ⟨"", none⟩]]))
  have returned : ((stopped [.request ⟨"", none⟩]).threads (.handler 0)).result = some () := by
    decide +kernel
  obtain ⟨c', later, blocked⟩ := blocked_of_undrained ((start_paired _ _).reach run)
    (Prog.result_eq_some returned) (by decide +kernel)
  refine ⟨c', run.trans later, ?_, blocked⟩
  rw [later.returned (Prog.result_eq_some returned)]
  rfl

end Sdsce.Guarantees.Receivers
