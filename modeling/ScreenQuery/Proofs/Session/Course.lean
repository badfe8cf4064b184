import ScreenQuery.Proofs.Session.Locks
import ScreenQuery.Proofs.Session.Performance
import ScreenQuery.Proofs.Session.Usage

/-!
# The course of an operation among others

What one worker does for an operation, step by step, does not depend on when the others take theirs.

* `ownSteps` are the steps of one worker among the events of a run. Along an operation they are a
  `Phase.Course`: steps that lead from one phase to the next, whatever the workers share at each of
  them (`Performs.course`). How the course of a plan begins is read off the plan, with one lemma for
  each way a plan can go on.
* A plan without inputs has a course without inputs (`Phase.Course.quiet`).
* A `Moment` is one step in a run, with the systems right before and right after it. `Called` is the
  moment at which an input reaches the bridge, which decides its result then and there. The result
  that a worker gets later is that of its call (`Performs.called`).
* An operation that has been begun can always be completed (`Performs.exists_done`).
-/

namespace ScreenQuery.Session

variable {σ ν α β : Type} {bridge : Bridge σ}

/-! ## The steps of one worker -/

/-- The steps of worker `i`, in their order. -/
def ownSteps (i : Nat) (events : List (Nat × Event)) : List Event :=
  (events.filter fun e => e.1 == i).map Prod.snd

section

variable {i j : Nat} {event : Event}

@[simp] theorem ownSteps_append (i : Nat) (earlier later : List (Nat × Event)) :
    ownSteps i (earlier ++ later) = ownSteps i earlier ++ ownSteps i later := by
  simp only [ownSteps, List.filter_append, List.map_append]

@[simp] theorem ownSteps_own : ownSteps i [(i, event)] = [event] := by
  simp [ownSteps]

theorem ownSteps_other (hne : j ≠ i) : ownSteps i [(j, event)] = [] := by
  simp [ownSteps, hne]

theorem mem_ownSteps {events : List (Nat × Event)} :
    event ∈ ownSteps i events ↔ (i, event) ∈ events := by
  simp [ownSteps]

end

/-- The event belongs to an input. -/
def Event.isInput : Event → Bool
  | .inputAsked _ | .inputBegan _ | .inputEnded _ => true
  | _ => false

namespace Phase

/-- In the midst of its plan, worker `i` goes from one phase to another by these steps. What the
workers share may be anything at each step. -/
inductive Course (bridge : Bridge σ) (job : Job ν β) (i : Nat) :
    Phase β → List Event → Phase β → Prop
  | refl (phase : Phase β) : Course bridge job i phase [] phase
  | step {phase next last : Phase β} {event : Event} {events : List Event}
      {shared shared' : Shared σ ν} (hBusy : phase.Busy)
      (hStep : Step bridge job i shared phase event next shared')
      (h : Course bridge job i next events last) : Course bridge job i phase (event :: events) last

/-- All that is left of the plan is without inputs. -/
def Quiet : Phase β → Prop
  | waiting | finished _ _ => True
  | ready plan => plan.Quiet
  | awaitingCache _ _ next | awaitingDevice _ next | capturing _ _ _ next =>
    ∀ reply taken, (next reply taken).Quiet
  | awaitingTurn _ _ | acting _ _ _ => False
  | clearing next => next.Quiet
  | sleeping _ next => ∀ late, (next late).Quiet

theorem Step.quiet {job : Job ν β} {i : Nat} {shared shared' : Shared σ ν}
    {phase phase' : Phase β} {event : Event} (hBusy : phase.Busy)
    (h : Step bridge job i shared phase event phase' shared') (hQuiet : phase.Quiet) :
    event.isInput = false ∧ phase'.Quiet := by
  cases h with
  | begin | finish => exact hBusy.elim
  | ask | miss | beginCapture | askDrop | drop | sleep => exact ⟨rfl, hQuiet⟩
  | serve | endCapture => exact ⟨rfl, hQuiet _ _⟩
  | wake => exact ⟨rfl, hQuiet _⟩
  | askInput | beginInput | endInput => exact hQuiet.elim

namespace Course

variable {job : Job ν β} {i : Nat} {phase last : Phase β} {events : List Event}

theorem snoc {next : Phase β} {event : Event} {shared shared' : Shared σ ν}
    (h : Course bridge job i phase events last) (hBusy : last.Busy)
    (hStep : Step bridge job i shared last event next shared') :
    Course bridge job i phase (events ++ [event]) next := by
  induction h with
  | refl phase => exact .step hBusy hStep (.refl next)
  | step hFirstBusy hFirst _ ih => exact .step hFirstBusy hFirst (ih hBusy hStep)

/-- **Without inputs in the plan there are none in its course.** -/
theorem quiet (h : Course bridge job i phase events last) (hQuiet : phase.Quiet) :
    ∀ event ∈ events, event.isInput = false := by
  induction h with
  | refl phase => exact fun event hEvent => nomatch hEvent
  | step hBusy hStep _ ih =>
    obtain ⟨hFirst, hRest⟩ := hStep.quiet hBusy hQuiet
    exact List.forall_mem_cons.mpr ⟨hFirst, ih hRest⟩

/-! ### How a course begins -/

theorem of_done {value : β} (h : Course bridge job i (ready (.done value)) events last) :
    events = [] ∧ last = ready (.done value) := by
  cases h with
  | refl => exact ⟨rfl, rfl⟩
  | step hBusy _ _ => exact hBusy.elim

/-- An input is asked for, begun and ended, in this order, before the plan goes on. -/
theorem of_act {action : Action} {next : Except BridgeError Unit → Plan β}
    (h : Course bridge job i (ready (.act action next)) events last) :
    (events <+: [.inputAsked action, .inputBegan action] ∧ last.Busy) ∨
      ∃ result rest, events = [.inputAsked action, .inputBegan action, .inputEnded result] ++ rest ∧
        Course bridge job i (ready (next result)) rest last := by
  cases h with
  | refl => exact Or.inl ⟨List.nil_prefix, trivial⟩
  | step _ hStep h =>
    cases hStep
    cases h with
    | refl => exact Or.inl ⟨⟨[_], rfl⟩, trivial⟩
    | step _ hStep h =>
      cases hStep
      cases h with
      | refl => exact Or.inl ⟨⟨[], rfl⟩, trivial⟩
      | step _ hStep h =>
        cases hStep
        exact Or.inr ⟨_, _, rfl, h⟩

/-- Dropping the snapshot is asked for and done before the plan goes on. -/
theorem of_invalidate {next : Plan β}
    (h : Course bridge job i (ready (.invalidate next)) events last) :
    (events <+: [.dropAsked] ∧ last.Busy) ∨
      ∃ rest, events = [.dropAsked, .dropped] ++ rest ∧
        Course bridge job i (ready next) rest last := by
  cases h with
  | refl => exact Or.inl ⟨List.nil_prefix, trivial⟩
  | step _ hStep h =>
    cases hStep
    cases h with
    | refl => exact Or.inl ⟨⟨[], rfl⟩, trivial⟩
    | step _ hStep h =>
      cases hStep
      exact Or.inr ⟨_, rfl, h⟩

end Course

end Phase

section

variable {origin system : System σ ν α} {i : Nat} {plan : Plan β} {rest : β → Plan α}
  {events : List (Nat × Event)} {phase : Phase β}

/-- **The own steps of an operation are a course of it**, whatever the others do meanwhile. -/
theorem Performs.course (h : Performs bridge origin i plan rest events system phase) :
    Phase.Course bridge (.only plan : Job ν β) i (.ready plan) (ownSteps i events) phase := by
  induction h with
  | begin => exact .refl _
  | own _ _ hBusy hStep ih =>
    rw [ownSteps_append, ownSteps_own]
    exact ih.snoc hBusy hStep
  | other _ hne _ ih =>
    rw [ownSteps_append, ownSteps_other hne, List.append_nil]
    exact ih
  | wait _ _ ih => exact ih

end

/-! ## Moments of a run -/

/-- In the run, worker `i` takes the step that the event shows from the one system to the other. -/
def Moment (bridge : Bridge σ) (origin : System σ ν α) (events : List (Nat × Event))
    (system : System σ ν α) (i : Nat) (event : Event) (before after : System σ ν α) : Prop :=
  ∃ past future, events = past ++ (i, event) :: future ∧ History bridge origin past before ∧
    System.Step bridge before i event after ∧ History bridge after future system

/-- Worker `i` has called the bridge with the action, and this is the result that the bridge
answered with. -/
def Called (bridge : Bridge σ) (origin : System σ ν α) (events : List (Nat × Event))
    (system : System σ ν α) (i : Nat) (action : Action) (result : Except BridgeError Unit) : Prop :=
  ∃ before after latency, Moment bridge origin events system i (.inputBegan action) before after ∧
    bridge.act action before.shared.now before.shared.session.device =
      ⟨latency, result, after.shared.session.device⟩

section

variable {origin system last : System σ ν α} {i j : Nat} {events : List (Nat × Event)}
  {event other : Event} {before after : System σ ν α} {action : Action}
  {result : Except BridgeError Unit}

theorem Moment.step (h : Moment bridge origin events system i event before after)
    (hStep : System.Step bridge system j other last) :
    Moment bridge origin (events ++ [(j, other)]) last i event before after := by
  obtain ⟨past, future, rfl, hPast, hMoment, hFuture⟩ := h
  refine ⟨past, future ++ [(j, other)], ?_, hPast, hMoment, hFuture.step hStep⟩
  rw [List.append_assoc, List.cons_append]

theorem Moment.wait (h : Moment bridge origin events system i event before after) (time : Nat) :
    Moment bridge origin events (system.wait time) i event before after := by
  obtain ⟨past, future, hEvents, hPast, hMoment, hFuture⟩ := h
  exact ⟨past, future, hEvents, hPast, hMoment, hFuture.wait time⟩

/-- A step that a run ends with is a moment of it. -/
theorem History.moment (h : History bridge origin events system)
    (hStep : System.Step bridge system i event last) :
    Moment bridge origin (events ++ [(i, event)]) last i event system last :=
  ⟨events, [], rfl, h, hStep, .start⟩

/-- Every event of a run has its moment. -/
theorem History.exists_moment (h : History bridge origin events system)
    (hEvent : (i, event) ∈ events) :
    ∃ before after, Moment bridge origin events system i event before after := by
  induction h with
  | start => cases hEvent
  | step h hStep ih =>
    rcases List.mem_append.mp hEvent with hEvent | hEvent
    · obtain ⟨before, after, hMoment⟩ := ih hEvent
      exact ⟨before, after, hMoment.step hStep⟩
    · obtain ⟨rfl, rfl⟩ := Prod.mk.inj (List.mem_singleton.mp hEvent)
      exact ⟨_, _, h.moment hStep⟩
  | wait _ time ih =>
    obtain ⟨before, after, hMoment⟩ := ih hEvent
    exact ⟨before, after, hMoment.wait time⟩

/-- What the cache keeps right after an event. -/
theorem Moment.current_eq (h : Moment bridge origin events system i event before after) :
    after.shared.session.cache.current = event.cached before.shared.session.cache.current := by
  obtain ⟨-, -, -, -, ⟨-, hPhase⟩, -⟩ := h
  exact hPhase.current_eq

theorem Called.mem (h : Called bridge origin events system i action result) :
    (i, .inputBegan action) ∈ events := by
  obtain ⟨-, -, -, ⟨past, future, rfl, -⟩, -⟩ := h
  exact List.mem_append_right _ List.mem_cons_self

theorem Called.step (h : Called bridge origin events system i action result)
    (hStep : System.Step bridge system j other last) :
    Called bridge origin (events ++ [(j, other)]) last i action result := by
  obtain ⟨before, after, latency, hMoment, hAnswer⟩ := h
  exact ⟨before, after, latency, hMoment.step hStep, hAnswer⟩

theorem Called.wait (h : Called bridge origin events system i action result) (time : Nat) :
    Called bridge origin events (system.wait time) i action result := by
  obtain ⟨before, after, latency, hMoment, hAnswer⟩ := h
  exact ⟨before, after, latency, hMoment.wait time, hAnswer⟩

end

section

variable {origin system : System σ ν α} {i : Nat} {plan : Plan β} {rest : β → Plan α}
  {events : List (Nat × Event)} {phase : Phase β}

/-- While an input is in flight, and when it has ended, its result is that of a call. -/
theorem Performs.called_of (h : Performs bridge origin i plan rest events system phase) :
    (∀ due result next, phase = .acting due result next →
      ∃ action, Called bridge origin events system i action result) ∧
    ∀ result, .inputEnded result ∈ ownSteps i events →
      ∃ action, Called bridge origin events system i action result := by
  induction h with
  | begin => exact ⟨nofun, nofun⟩
  | own h hGet hBusy hStep ih =>
    have hSystem := h.systemStep hGet hBusy hStep
    constructor
    · intro due result next hPhase
      subst hPhase
      cases hStep with
      | beginInput hHolds hAnswer => exact ⟨_, _, _, _, h.history.moment hSystem, hAnswer⟩
    · intro result hEvent
      rw [ownSteps_append, ownSteps_own] at hEvent
      rcases List.mem_append.mp hEvent with hEvent | hEvent
      · exact (ih.2 result hEvent).imp fun _ hCalled => hCalled.step hSystem
      · cases List.mem_singleton.mp hEvent
        cases hStep
        exact (ih.1 _ _ _ rfl).imp fun _ hCalled => hCalled.step hSystem
  | other _ hne hStep ih =>
    rw [ownSteps_append, ownSteps_other hne, List.append_nil]
    exact ⟨fun due result next hPhase =>
        (ih.1 due result next hPhase).imp fun _ hCalled => hCalled.step hStep,
      fun result hEvent => (ih.2 result hEvent).imp fun _ hCalled => hCalled.step hStep⟩
  | wait _ time ih =>
    exact ⟨fun due result next hPhase =>
        (ih.1 due result next hPhase).imp fun _ hCalled => hCalled.wait time,
      fun result hEvent => (ih.2 result hEvent).imp fun _ hCalled => hCalled.wait time⟩

/-- **The result of an input is what the bridge answered when it was called.** -/
theorem Performs.called (h : Performs bridge origin i plan rest events system phase)
    {result : Except BridgeError Unit} (hEvent : .inputEnded result ∈ ownSteps i events) :
    ∃ action, Called bridge origin events system i action result :=
  h.called_of.2 result hEvent

/-! ## Coming to the end -/

theorem Phase.isFinished_bind (phase : Phase β) (rest : β → Plan α) :
    (phase.bind rest).isFinished = false := by
  cases phase <;> rfl

/-- One run after another. -/
theorem History.trans {middle : System σ ν α} {later : List (Nat × Event)}
    (h : History bridge origin events middle) (hLater : History bridge middle later system) :
    History bridge origin (events ++ later) system := by
  induction hLater with
  | start =>
    rw [List.append_nil]
    exact h
  | step _ hStep ih =>
    rw [← List.append_assoc]
    exact ih.step hStep
  | wait _ time ih => exact ih.wait time

/-- **Whatever has happened so far, an operation that has been begun can be completed.** -/
theorem Performs.exists_done {session : Session σ} {board : ν} {jobs : List (Job ν α)}
    {before : List (Nat × Event)}
    (hBefore : History bridge (.start session board jobs) before origin)
    (h : Performs bridge origin i plan rest events system phase) :
    ∃ more after value,
      Performs bridge origin i plan rest (events ++ more) after (.ready (.done value)) := by
  -- by how far the workers have come
  generalize hWorkers : system.workers = workers
  induction workers using (System.wellFounded_advances (σ := σ)).induction
    generalizing events system phase with
  | _ workers ih =>
    subst hWorkers
    rcases h.busy_or_done with hBusy | ⟨value, rfl⟩
    · obtain ⟨worker, hGet, hPhase⟩ := h.worker
      have hGoing : worker.phase.isFinished = false := by
        rw [hPhase]
        exact Phase.isFinished_bind phase rest
      obtain ⟨time, j, event, after, hStep, hFurther⟩ :=
        (hBefore.trans h.history).exists_further hGet hGoing
      obtain ⟨phase', hNext⟩ := (h.wait time).step hBusy hStep
      obtain ⟨more, last, value, hDone⟩ := ih _ hFurther hNext rfl
      exact ⟨(j, event) :: more, last, value, by rw [List.append_cons]; exact hDone⟩
    · exact ⟨[], system, value, by rw [List.append_nil]; exact h⟩

end

end ScreenQuery.Session
