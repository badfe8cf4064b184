import ScreenQuery.Cache
import ScreenQuery.Plan

/-!
# One task alone

* A `Session` is the cache, the device and the clock that the plans of one device share.
* `Plan.run` follows a plan that has the session to itself. The clock moves by the calls of the
  device and by sleeps, which end on time.

This is a `DeviceSession` with one caller.
-/

namespace ScreenQuery

/-- The state that the plans of one device share. -/
structure Session (σ : Type) where
  now : Nat
  cache : Cache
  device : σ

namespace Session

variable {σ : Type}

/-- A session that has not done anything. -/
def start (freshness : Nat) (device : σ) : Session σ := ⟨0, .empty freshness, device⟩

/-- Serves a snapshot. -/
def request (bridge : Bridge σ) (force : Bool) (session : Session σ) :
    Except BridgeError Snapshot × Session σ :=
  let served := session.cache.get bridge force session.now session.device
  (served.result, ⟨session.now + served.latency, served.cache, served.device⟩)

/-- Passes an input to the device. -/
def act (bridge : Bridge σ) (action : Action) (session : Session σ) :
    Except BridgeError Unit × Session σ :=
  let answer := bridge.act action session.now session.device
  (answer.result, { session with now := session.now + answer.latency, device := answer.state })

end Session

namespace Plan

variable {σ α : Type}

/-- Follows a plan. -/
def run (bridge : Bridge σ) : Plan α → Session σ → α × Session σ
  | done value, session => (value, session)
  | snapshot force next, session =>
    let (reply, after) := session.request bridge force
    (next reply (after.now - session.now)).run bridge after
  | act action next, session =>
    let (reply, after) := session.act bridge action
    (next reply).run bridge after
  | invalidate next, session =>
    next.run bridge { session with cache := session.cache.invalidate }
  | sleep duration next, session =>
    (next 0).run bridge { session with now := session.now + duration }

theorem run_bind {β : Type} (bridge : Bridge σ) (plan : Plan α) (rest : α → Plan β)
    (session : Session σ) : (plan.bind rest).run bridge session =
      (rest (plan.run bridge session).1).run bridge (plan.run bridge session).2 := by
  induction plan generalizing session with
  | done value => rfl
  | snapshot force next ih => exact ih _ _ _
  | act action next ih => exact ih _ _
  | invalidate next ih => exact ih _
  | sleep duration next ih => exact ih _ _

end Plan

end ScreenQuery
