import ScreenQuery.Bridge.Basic
import ScreenQuery.Snapshot

/-!
# Plans

* A `Plan` is what one task does with a session: it requests snapshots, passes inputs to the device,
  drops the cached snapshot and sleeps, and decides by the replies how to go on.
* A plan holds no time of its own. The reply to a request tells how long it took, and a sleep how
  much later than asked it ended; that is all a task can know of the clock.
* A plan is finite along every path, so whoever follows it needs no bound.

A plan is what a method of `DeviceSession`, or a program that calls some, does from one suspension
to the next. Out of scope: calls that are given up by their caller before they have returned.
-/

namespace ScreenQuery

/-- What a task does with a session. -/
inductive Plan (α : Type) where
  | done (value : α)
  /-- Requests a snapshot; the reply comes with the time that it took. -/
  | snapshot (force : Bool) (next : Except BridgeError Snapshot → (taken : Nat) → Plan α)
  /-- Passes an input to the device. -/
  | act (action : Action) (next : Except BridgeError Unit → Plan α)
  /-- Drops the cached snapshot. -/
  | invalidate (next : Plan α)
  /-- Sleeps; the reply is how much longer it took. -/
  | sleep (duration : Nat) (next : (late : Nat) → Plan α)

namespace Plan

variable {α β : Type}

/-- One plan after another. -/
def bind (plan : Plan α) (rest : α → Plan β) : Plan β :=
  match plan with
  | done value => rest value
  | snapshot force next => snapshot force fun reply taken => (next reply taken).bind rest
  | act action next => act action fun reply => (next reply).bind rest
  | invalidate next => invalidate (next.bind rest)
  | sleep duration next => sleep duration fun late => (next late).bind rest

instance : Monad Plan where
  pure := done
  bind := bind

@[simp] theorem pure_eq_done (value : α) : (pure value : Plan α) = done value := rfl

@[simp] theorem bind_eq_bind (plan : Plan α) (rest : α → Plan β) :
    plan >>= rest = plan.bind rest := rfl

@[simp] theorem done_bind (value : α) (rest : α → Plan β) : (done value).bind rest = rest value :=
  rfl

@[simp] theorem bind_done (plan : Plan α) : plan.bind done = plan := by
  induction plan with
  | done value => rfl
  | snapshot force next ih => simp only [bind, ih]
  | act action next ih => simp only [bind, ih]
  | invalidate next ih => simp only [bind, ih]
  | sleep duration next ih => simp only [bind, ih]

theorem bind_assoc {γ : Type} (plan : Plan α) (f : α → Plan β) (g : β → Plan γ) :
    (plan.bind f).bind g = plan.bind fun value => (f value).bind g := by
  induction plan with
  | done value => rfl
  | snapshot force next ih => simp only [bind, ih]
  | act action next ih => simp only [bind, ih]
  | invalidate next ih => simp only [bind, ih]
  | sleep duration next ih => simp only [bind, ih]

end Plan

end ScreenQuery
