import ScreenQuery.Proofs.Log
import ScreenQuery.Session.System

/-!
# Histories of a system

* `Phase.Step` is the list of what a worker can do, one rule for each kind of step. `step?_iff` says
  that these are the steps that `Phase.step?` takes. Every step is an `Event` for an onlooker, who
  sees which requests, captures and inputs begin and end, and with what.
* A `History` is the events of a run so far, oldest first, each with the worker whose step it was.
  The schedule is free: any worker that can take a step may be the next, and the clock may move on
  at any time.
* An event is later than another when its place in the history is; many events may share one time of
  the clock.
-/

namespace ScreenQuery.Session

/-- What an onlooker sees of a step. -/
inductive Event
  | began
  | asked (force : Bool)
  /-- The cache answers a request. -/
  | served (s : Snapshot)
  /-- The cache has nothing to answer a request with. -/
  | missed
  | captureBegan
  /-- A capture ends, and the request that it was made for is answered. -/
  | captured (result : Except BridgeError Text) (reply : Except BridgeError Snapshot)
  | inputAsked (action : Action)
  | inputBegan (action : Action)
  | inputEnded (result : Except BridgeError Unit)
  | dropAsked
  | dropped
  | slept (duration : Nat)
  | woke
  | returned

/-- The answer to a request, if the event gives one. -/
def Event.reply? : Event → Option (Except BridgeError Snapshot)
  | .served s => some (.ok s)
  | .captured _ reply => some reply
  | _ => none

variable {σ ν α : Type} {bridge : Bridge σ}

namespace Phase

/-- The steps of worker `i`, from a phase to the next with what the workers share after it. -/
inductive Step (bridge : Bridge σ) (job : Job ν α) (i : Nat) (shared : Shared σ ν) :
    Phase α → Event → Phase α → Shared σ ν → Prop
  | begin : Step bridge job i shared waiting .began (ready (job.plan shared.board)) shared
  | finish (value : α) :
      Step bridge job i shared (ready (.done value)) .returned (finished value shared.now)
        { shared with board := job.note value shared.board }
  | ask (force : Bool) (next : Except BridgeError Snapshot → Nat → Plan α) :
      Step bridge job i shared (ready (.snapshot force next)) (.asked force)
        (awaitingCache force shared.now next) (shared.askCache i)
  | serve {force : Bool} {since : Nat} {next : Except BridgeError Snapshot → Nat → Plan α}
      {s : Snapshot} (hHolds : shared.holdsCache i = true)
      (hFresh : shared.session.cache.fresh? force shared.now = some s) :
      Step bridge job i shared (awaitingCache force since next) (.served s)
        (ready (next (.ok s) (shared.now - since))) shared.leaveCache
  | miss {force : Bool} {since : Nat} {next : Except BridgeError Snapshot → Nat → Plan α}
      (hHolds : shared.holdsCache i = true)
      (hFresh : shared.session.cache.fresh? force shared.now = none) :
      Step bridge job i shared (awaitingCache force since next) .missed
        (awaitingDevice since next) (shared.askDevice i)
  | beginCapture {since : Nat} {next : Except BridgeError Snapshot → Nat → Plan α}
      {answer : Answer σ Text} (hHolds : shared.holdsDevice i = true)
      (hAnswer : bridge.capture shared.now shared.session.device = answer) :
      Step bridge job i shared (awaitingDevice since next) .captureBegan
        (capturing (shared.now + answer.latency) answer.result since next)
        (shared.setDevice answer.state)
  | endCapture {due since : Nat} {result : Except BridgeError Text}
      {next : Except BridgeError Snapshot → Nat → Plan α} {reply : Except BridgeError Snapshot}
      {cache : Cache} (hDue : due ≤ shared.now)
      (hAccept : shared.session.cache.accept result shared.now = (reply, cache)) :
      Step bridge job i shared (capturing due result since next) (.captured result reply)
        (ready (next reply (shared.now - since)))
        (shared.setCache cache).leaveDevice.leaveCache
  | askInput (action : Action) (next : Except BridgeError Unit → Plan α) :
      Step bridge job i shared (ready (.act action next)) (.inputAsked action)
        (awaitingTurn action next) (shared.askDevice i)
  | beginInput {action : Action} {next : Except BridgeError Unit → Plan α}
      {answer : Answer σ Unit} (hHolds : shared.holdsDevice i = true)
      (hAnswer : bridge.act action shared.now shared.session.device = answer) :
      Step bridge job i shared (awaitingTurn action next) (.inputBegan action)
        (acting (shared.now + answer.latency) answer.result next) (shared.setDevice answer.state)
  | endInput {due : Nat} {result : Except BridgeError Unit}
      {next : Except BridgeError Unit → Plan α} (hDue : due ≤ shared.now) :
      Step bridge job i shared (acting due result next) (.inputEnded result)
        (ready (next result)) shared.leaveDevice
  | askDrop (next : Plan α) :
      Step bridge job i shared (ready (.invalidate next)) .dropAsked (clearing next)
        (shared.askCache i)
  | drop {next : Plan α} (hHolds : shared.holdsCache i = true) :
      Step bridge job i shared (clearing next) .dropped (ready next)
        (shared.setCache shared.session.cache.invalidate).leaveCache
  | sleep (duration : Nat) (next : Nat → Plan α) :
      Step bridge job i shared (ready (.sleep duration next)) (.slept duration)
        (sleeping (shared.now + duration) next) shared
  | wake {due : Nat} {next : Nat → Plan α} (hDue : due ≤ shared.now) :
      Step bridge job i shared (sleeping due next) .woke (ready (next (shared.now - due))) shared

variable {job : Job ν α} {i : Nat} {shared shared' : Shared σ ν} {phase phase' : Phase α}

theorem Step.step?_eq {event : Event} (h : Step bridge job i shared phase event phase' shared') :
    phase.step? bridge job i shared = some (phase', shared') := by
  cases h with
  | begin => rfl
  | finish value => rfl
  | ask force next => rfl
  | serve hHolds hFresh => simp only [step?, hHolds, hFresh, if_true]
  | miss hHolds hFresh => simp only [step?, hHolds, hFresh, if_true]
  | beginCapture hHolds hAnswer => simp only [step?, hHolds, hAnswer, if_true]
  | endCapture hDue hAccept => simp only [step?, hDue, hAccept, if_true]
  | askInput action next => rfl
  | beginInput hHolds hAnswer => simp only [step?, hHolds, hAnswer, if_true]
  | endInput hDue => simp only [step?, hDue, if_true]
  | askDrop next => rfl
  | drop hHolds => simp only [step?, hHolds, if_true]
  | sleep duration next => rfl
  | wake hDue => simp only [step?, hDue, if_true]

theorem exists_step_of_step? (h : phase.step? bridge job i shared = some (phase', shared')) :
    ∃ event, Step bridge job i shared phase event phase' shared' := by
  cases phase with
  | waiting =>
    cases h
    exact ⟨_, .begin⟩
  | ready plan =>
    cases plan with
    | done value =>
      cases h
      exact ⟨_, .finish value⟩
    | snapshot force next =>
      cases h
      exact ⟨_, .ask force next⟩
    | act action next =>
      cases h
      exact ⟨_, .askInput action next⟩
    | invalidate next =>
      cases h
      exact ⟨_, .askDrop next⟩
    | sleep duration next =>
      cases h
      exact ⟨_, .sleep duration next⟩
  | awaitingCache force since next =>
    simp only [step?] at h
    split at h
    · rename_i hHolds
      split at h
      · rename_i s hFresh
        cases h
        exact ⟨_, .serve hHolds hFresh⟩
      · rename_i hFresh
        cases h
        exact ⟨_, .miss hHolds hFresh⟩
    · cases h
  | awaitingDevice since next =>
    simp only [step?] at h
    split at h
    · rename_i hHolds
      cases h
      exact ⟨_, .beginCapture hHolds rfl⟩
    · cases h
  | capturing due result since next =>
    simp only [step?] at h
    split at h
    · rename_i hDue
      cases h
      exact ⟨_, .endCapture hDue rfl⟩
    · cases h
  | awaitingTurn action next =>
    simp only [step?] at h
    split at h
    · rename_i hHolds
      cases h
      exact ⟨_, .beginInput hHolds rfl⟩
    · cases h
  | acting due result next =>
    simp only [step?] at h
    split at h
    · rename_i hDue
      cases h
      exact ⟨_, .endInput hDue⟩
    · cases h
  | clearing next =>
    simp only [step?] at h
    split at h
    · rename_i hHolds
      cases h
      exact ⟨_, .drop hHolds⟩
    · cases h
  | sleeping due next =>
    simp only [step?] at h
    split at h
    · rename_i hDue
      cases h
      exact ⟨_, .wake hDue⟩
    · cases h
  | finished value time => cases h

/-- **The rules are the steps that a worker takes.** -/
theorem step?_iff : phase.step? bridge job i shared = some (phase', shared') ↔
    ∃ event, Step bridge job i shared phase event phase' shared' :=
  ⟨exists_step_of_step?, fun ⟨_, h⟩ => h.step?_eq⟩

end Phase

/-! ## Runs -/

/-- A step of worker `i` in a system. -/
inductive System.Step (bridge : Bridge σ) (system : System σ ν α) (i : Nat) (event : Event) :
    System σ ν α → Prop
  | mk {worker : Worker ν α} {phase : Phase α} {shared : Shared σ ν}
      (hGet : system.workers[i]? = some worker)
      (h : Phase.Step bridge worker.job i system.shared worker.phase event phase shared) :
      System.Step bridge system i event
        ⟨shared, system.workers.set i { worker with phase := phase }⟩

/-- The events of a run, oldest first, and the system at its end. -/
inductive History (bridge : Bridge σ) (origin : System σ ν α) :
    List (Nat × Event) → System σ ν α → Prop
  | start : History bridge origin [] origin
  | step {events : List (Nat × Event)} {system after : System σ ν α} {i : Nat} {event : Event}
      (h : History bridge origin events system) (hStep : System.Step bridge system i event after) :
      History bridge origin (events ++ [(i, event)]) after
  | wait {events : List (Nat × Event)} {system : System σ ν α}
      (h : History bridge origin events system) (time : Nat) :
      History bridge origin events (system.wait time)

theorem System.step?_iff {system after : System σ ν α} {i : Nat} :
    system.step? bridge i = some after ↔ ∃ event, System.Step bridge system i event after := by
  unfold System.step?
  constructor
  · intro h
    split at h
    · cases h
    · rename_i worker hGet
      obtain ⟨⟨phase, shared⟩, hStep, rfl⟩ := Option.map_eq_some_iff.mp h
      obtain ⟨event, hStep⟩ := Phase.step?_iff.mp hStep
      exact ⟨event, .mk hGet hStep⟩
  · rintro ⟨event, hGet, hStep⟩
    rw [hGet]
    simp only [hStep.step?_eq, Option.map_some]

/-- After a step, a worker is the one that took it or as it was. -/
theorem getElem?_set_cases {workers : List (Worker ν α)} {i j : Nat} {worker after : Worker ν α}
    (h : (workers.set i after)[j]? = some worker) :
    (j = i ∧ worker = after) ∨ (j ≠ i ∧ workers[j]? = some worker) := by
  by_cases hji : j = i
  · subst hji
    have hlt : j < (workers.set j after).length := (List.getElem?_eq_some_iff.mp h).1
    rw [List.length_set] at hlt
    rw [List.getElem?_set_self hlt] at h
    exact Or.inl ⟨rfl, (Option.some.inj h).symm⟩
  · rw [List.getElem?_set_ne (Ne.symm hji)] at h
    exact Or.inr ⟨hji, h⟩

end ScreenQuery.Session
