import ScreenQuery.Proofs.Session.History

/-!
# Performing an operation among others

* A worker may perform an operation as a part of its plan, while others use the session, too.
  `Performs` follows such an operation: its own steps, those of the other workers, and the clock. It
  keeps the phase that the worker would have if the operation were all it has to do; its true phase
  goes on with the rest of the plan (`Phase.bind`).
* Nothing else can happen to an operation that has been begun: a run either is in the midst of it or
  has completed it before it went on (`History.performs`). An operation that is one plan after
  another is performed as the one and then the other (`Performs.of_bind`).
* `Plan.Gives` says what a plan comes to if every snapshot that it gets is of some kind, whatever
  else is replied. One step of the operation keeps it (`Phase.Step.gives`), so it holds of the value
  of every performance (`Performs.gives`).
-/

namespace ScreenQuery

/-! ## What a plan comes to -/

/-- If the plan only gets snapshots that are `seen`, its value is as wanted. -/
def Plan.Gives {α : Type} (seen : Snapshot → Prop) (wanted : α → Prop) : Plan α → Prop
  | .done value => wanted value
  | .snapshot _ next => ∀ reply taken, (∀ s, reply = .ok s → seen s) →
    (next reply taken).Gives seen wanted
  | .act _ next => ∀ reply, (next reply).Gives seen wanted
  | .invalidate next => next.Gives seen wanted
  | .sleep _ next => ∀ late, (next late).Gives seen wanted

theorem Plan.Gives.bind {α β : Type} {seen : Snapshot → Prop} {wanted : β → Prop}
    {wanted' : α → Prop} {plan : Plan β} {rest : β → Plan α} (h : plan.Gives seen wanted)
    (hRest : ∀ value, wanted value → (rest value).Gives seen wanted') :
    (plan.bind rest).Gives seen wanted' := by
  induction plan with
  | done value => exact hRest value h
  | snapshot force next ih => exact fun reply taken hSeen => ih reply taken (h reply taken hSeen)
  | act action next ih => exact fun reply => ih reply (h reply)
  | invalidate next ih => exact ih h
  | sleep duration next ih => exact fun late => ih late (h late)

namespace Session

variable {σ ν α β γ : Type} {bridge : Bridge σ}

/-! ## A phase and the rest of the plan -/

namespace Phase

/-- The same phase when the plan is followed by more. -/
def bind (rest : β → Plan α) : Phase β → Phase α
  | waiting => waiting
  | ready plan => ready (plan.bind rest)
  | awaitingCache force since next =>
    awaitingCache force since fun reply taken => (next reply taken).bind rest
  | awaitingDevice since next =>
    awaitingDevice since fun reply taken => (next reply taken).bind rest
  | capturing due result since next =>
    capturing due result since fun reply taken => (next reply taken).bind rest
  | awaitingTurn action next => awaitingTurn action fun reply => (next reply).bind rest
  | acting due result next => acting due result fun reply => (next reply).bind rest
  | clearing next => clearing (next.bind rest)
  | sleeping due next => sleeping due fun late => (next late).bind rest
  | finished value _ => ready (rest value)

theorem bind_bind (phase : Phase γ) (more : γ → Plan β) (rest : β → Plan α) :
    (phase.bind more).bind rest = phase.bind fun value => (more value).bind rest := by
  cases phase <;> simp only [bind, Plan.bind_assoc]

/-- The worker is in the midst of its plan. -/
def Busy : Phase β → Prop
  | waiting | ready (.done _) | finished _ _ => False
  | _ => True

theorem Busy.bind {phase : Phase β} (h : phase.Busy) (rest : β → Plan α) :
    (phase.bind rest).Busy := by
  cases phase with
  | ready plan =>
    cases plan with
    | done value => exact h.elim
    | snapshot | act | invalidate | sleep => trivial
  | waiting | finished => exact h.elim
  | awaitingCache | awaitingDevice | capturing | awaitingTurn | acting | clearing | sleeping =>
    trivial

/-- The value of the plan is as wanted if it only gets snapshots that are `seen`. -/
def Gives (seen : Snapshot → Prop) (wanted : β → Prop) : Phase β → Prop
  | waiting => True
  | ready plan => plan.Gives seen wanted
  | awaitingCache _ _ next | awaitingDevice _ next | capturing _ _ _ next =>
    ∀ reply taken, (∀ s, reply = .ok s → seen s) → (next reply taken).Gives seen wanted
  | awaitingTurn _ next | acting _ _ next => ∀ reply, (next reply).Gives seen wanted
  | clearing next => next.Gives seen wanted
  | sleeping _ next => ∀ late, (next late).Gives seen wanted
  | finished value _ => wanted value

namespace Step

variable {job : Job ν α} {job' : Job ν β} {i : Nat} {shared shared' : Shared σ ν}
  {phase phase' : Phase β} {event : Event}

/-- In the midst of a plan, its steps do not depend on the job that it belongs to. -/
theorem ofJob (job' : Job ν β) {job : Job ν β} (hBusy : phase.Busy)
    (h : Step bridge job i shared phase event phase' shared') :
    Step bridge job' i shared phase event phase' shared' := by
  cases h with
  | begin | finish => exact hBusy.elim
  | ask force next => exact .ask force next
  | serve hHolds hFresh => exact .serve hHolds hFresh
  | miss hHolds hFresh => exact .miss hHolds hFresh
  | beginCapture hHolds hAnswer => exact .beginCapture hHolds hAnswer
  | endCapture hDue hAccept => exact .endCapture hDue hAccept
  | askInput action next => exact .askInput action next
  | beginInput hHolds hAnswer => exact .beginInput hHolds hAnswer
  | endInput hDue => exact .endInput hDue
  | askDrop next => exact .askDrop next
  | drop hHolds => exact .drop hHolds
  | sleep duration next => exact .sleep duration next
  | wake hDue => exact .wake hDue

/-- In the midst of a plan, its steps are those of the longer plan. -/
theorem bind (rest : β → Plan α) (hBusy : phase.Busy)
    (h : Step bridge job' i shared phase event phase' shared') :
    Step bridge job i shared (phase.bind rest) event (phase'.bind rest) shared' := by
  cases h with
  | begin | finish => exact hBusy.elim
  | ask force next => exact .ask force _
  | serve hHolds hFresh => exact .serve hHolds hFresh
  | miss hHolds hFresh => exact .miss hHolds hFresh
  | beginCapture hHolds hAnswer => exact .beginCapture hHolds hAnswer
  | endCapture hDue hAccept => exact .endCapture hDue hAccept
  | askInput action next => exact .askInput action _
  | beginInput hHolds hAnswer => exact .beginInput hHolds hAnswer
  | endInput hDue => exact .endInput hDue
  | askDrop next => exact .askDrop _
  | drop hHolds => exact .drop hHolds
  | sleep duration next => exact .sleep duration _
  | wake hDue => exact .wake hDue

/-- In the midst of a plan, the longer plan has no other steps. -/
theorem of_bind {rest : β → Plan α} {longer : Phase α} (hBusy : phase.Busy)
    (h : Step bridge job i shared (phase.bind rest) event longer shared') :
    ∃ phase', longer = phase'.bind rest ∧ Step bridge job' i shared phase event phase' shared' := by
  cases phase with
  | waiting => exact hBusy.elim
  | finished value time => exact hBusy.elim
  | ready plan =>
    cases plan with
    | done value => exact hBusy.elim
    | snapshot force next =>
      cases h
      exact ⟨_, rfl, .ask force next⟩
    | act action next =>
      cases h
      exact ⟨_, rfl, .askInput action next⟩
    | invalidate next =>
      cases h
      exact ⟨_, rfl, .askDrop next⟩
    | sleep duration next =>
      cases h
      exact ⟨_, rfl, .sleep duration next⟩
  | awaitingCache force since next =>
    cases h with
    | serve hHolds hFresh => exact ⟨ready (next _ _), rfl, .serve hHolds hFresh⟩
    | miss hHolds hFresh => exact ⟨awaitingDevice since next, rfl, .miss hHolds hFresh⟩
  | awaitingDevice since next =>
    cases h with
    | beginCapture hHolds hAnswer =>
      exact ⟨capturing _ _ since next, rfl, .beginCapture hHolds hAnswer⟩
  | capturing due result since next =>
    cases h with
    | endCapture hDue hAccept => exact ⟨ready (next _ _), rfl, .endCapture hDue hAccept⟩
  | awaitingTurn action next =>
    cases h with
    | beginInput hHolds hAnswer => exact ⟨acting _ _ next, rfl, .beginInput hHolds hAnswer⟩
  | acting due result next =>
    cases h with
    | endInput hDue => exact ⟨ready (next _), rfl, .endInput hDue⟩
  | clearing next =>
    cases h with
    | drop hHolds => exact ⟨ready next, rfl, .drop hHolds⟩
  | sleeping due next =>
    cases h with
    | wake hDue => exact ⟨ready (next _), rfl, .wake hDue⟩

/-- From the midst of a plan, a step leads on in it or to its value. -/
theorem busy_or_done (hBusy : phase.Busy)
    (h : Step bridge job' i shared phase event phase' shared') :
    phase'.Busy ∨ ∃ value, phase' = ready (.done value) := by
  have hReady : ∀ plan : Plan β, (ready plan).Busy ∨ ∃ value, ready plan = ready (.done value) := by
    intro plan
    cases plan with
    | done value => exact Or.inr ⟨value, rfl⟩
    | snapshot | act | invalidate | sleep => exact Or.inl trivial
  cases h with
  | begin | finish => exact hBusy.elim
  | ask | miss | beginCapture | askInput | beginInput | askDrop | sleep => exact Or.inl trivial
  | serve | endCapture | endInput | drop | wake => exact hReady _

/-- **A step keeps what a plan comes to.** -/
theorem gives {seen : Snapshot → Prop} {wanted : β → Prop} (hBusy : phase.Busy)
    (h : Step bridge job' i shared phase event phase' shared') (hGives : phase.Gives seen wanted)
    (hSeen : ∀ s, event.reply? = some (.ok s) → seen s) : phase'.Gives seen wanted := by
  cases h with
  | begin | finish => exact hBusy.elim
  | ask | miss | beginCapture | askInput | beginInput | askDrop | drop | sleep => exact hGives
  | serve =>
    refine hGives _ _ fun s hReply => hSeen s ?_
    rw [← hReply]
    rfl
  | endCapture =>
    refine hGives _ _ fun s hReply => hSeen s ?_
    rw [← hReply]
    rfl
  | endInput | wake => exact hGives _

end Step

end Phase

/-! ## Performances -/

/-- The operation as the only thing to do. -/
def Job.only (plan : Plan β) : Job ν β := ⟨fun _ => plan, fun _ board => board⟩

/-- Worker `i` performs an operation and has more to do after it. The events are those of all
workers since it was about to begin, and the phase is how far the operation has come. -/
inductive Performs (bridge : Bridge σ) (origin : System σ ν α) (i : Nat) (plan : Plan β)
    (rest : β → Plan α) : List (Nat × Event) → System σ ν α → Phase β → Prop
  | begin {worker : Worker ν α} (hGet : origin.workers[i]? = some worker)
      (hPlan : worker.phase = .ready (plan.bind rest)) :
      Performs bridge origin i plan rest [] origin (.ready plan)
  | own {events : List (Nat × Event)} {system : System σ ν α} {phase phase' : Phase β}
      {worker : Worker ν α} {event : Event} {shared : Shared σ ν}
      (h : Performs bridge origin i plan rest events system phase)
      (hGet : system.workers[i]? = some worker) (hBusy : phase.Busy)
      (hStep : Phase.Step bridge (.only plan) i system.shared phase event phase' shared) :
      Performs bridge origin i plan rest (events ++ [(i, event)])
        ⟨shared, system.workers.set i { worker with phase := phase'.bind rest }⟩ phase'
  | other {events : List (Nat × Event)} {system after : System σ ν α} {phase : Phase β} {j : Nat}
      {event : Event} (h : Performs bridge origin i plan rest events system phase) (hne : j ≠ i)
      (hStep : System.Step bridge system j event after) :
      Performs bridge origin i plan rest (events ++ [(j, event)]) after phase
  | wait {events : List (Nat × Event)} {system : System σ ν α} {phase : Phase β}
      (h : Performs bridge origin i plan rest events system phase) (time : Nat) :
      Performs bridge origin i plan rest events (system.wait time) phase

section Performances

variable {origin system : System σ ν α} {i : Nat} {plan : Plan β} {rest : β → Plan α}
  {events : List (Nat × Event)} {phase : Phase β}

/-- The worker is as far as the operation has come. -/
theorem Performs.worker (h : Performs bridge origin i plan rest events system phase) :
    ∃ worker, system.workers[i]? = some worker ∧ worker.phase = phase.bind rest := by
  induction h with
  | begin hGet hPlan => exact ⟨_, hGet, hPlan⟩
  | own _ hGet _ _ _ =>
    have hlt := (List.getElem?_eq_some_iff.mp hGet).1
    exact ⟨_, List.getElem?_set_self hlt, rfl⟩
  | other _ hne hStep ih =>
    obtain ⟨worker, hGet, hPhase⟩ := ih
    obtain ⟨-, -⟩ := hStep
    exact ⟨worker, by rw [List.getElem?_set_ne hne]; exact hGet, hPhase⟩
  | wait _ _ ih => exact ih

/-- A step of the operation is a step of the system. -/
theorem Performs.systemStep (h : Performs bridge origin i plan rest events system phase)
    {worker : Worker ν α} (hGet : system.workers[i]? = some worker) (hBusy : phase.Busy)
    {phase' : Phase β} {event : Event} {shared : Shared σ ν}
    (hStep : Phase.Step bridge (.only plan) i system.shared phase event phase' shared) :
    System.Step bridge system i event
      ⟨shared, system.workers.set i { worker with phase := phase'.bind rest }⟩ := by
  obtain ⟨own, hOwn, hPhase⟩ := h.worker
  obtain rfl := Option.some.inj (hOwn.symm.trans hGet)
  refine .mk hGet ?_
  rw [hPhase]
  exact hStep.bind rest hBusy

/-- A performance is a part of a run. -/
theorem Performs.history (h : Performs bridge origin i plan rest events system phase) :
    History bridge origin events system := by
  induction h with
  | begin => exact .start
  | own h hGet hBusy hStep ih => exact ih.step (h.systemStep hGet hBusy hStep)
  | other _ _ hStep ih => exact ih.step hStep
  | wait _ time ih => exact ih.wait time

theorem Performs.busy_or_done (h : Performs bridge origin i plan rest events system phase) :
    phase.Busy ∨ ∃ value, phase = .ready (.done value) := by
  induction h with
  | begin =>
    cases plan with
    | done value => exact Or.inr ⟨value, rfl⟩
    | snapshot | act | invalidate | sleep => exact Or.inl trivial
  | own _ _ hBusy hStep _ => exact hStep.busy_or_done hBusy
  | other _ _ _ ih => exact ih
  | wait _ _ ih => exact ih

/-- In the midst of an operation, a step of any worker leads on in it. -/
theorem Performs.step (h : Performs bridge origin i plan rest events system phase)
    (hBusy : phase.Busy) {after : System σ ν α} {j : Nat} {event : Event}
    (hStep : System.Step bridge system j event after) :
    ∃ phase', Performs bridge origin i plan rest (events ++ [(j, event)]) after phase' := by
  by_cases hji : j = i
  · subst hji
    obtain ⟨own, hOwn, hPhase⟩ := h.worker
    obtain ⟨hMine, hStep⟩ := hStep
    obtain rfl := Option.some.inj (hOwn.symm.trans hMine)
    rw [hPhase] at hStep
    obtain ⟨phase', rfl, hStep⟩ := hStep.of_bind hBusy
    exact ⟨phase', h.own hOwn hBusy hStep⟩
  · exact ⟨phase, h.other hji hStep⟩

/-- **A run in which an operation has been begun is in the midst of it, or has completed it.** -/
theorem History.performs {worker : Worker ν α} (h : History bridge origin events system)
    (hGet : origin.workers[i]? = some worker) (hPlan : worker.phase = .ready (plan.bind rest)) :
    (∃ phase, Performs bridge origin i plan rest events system phase) ∨
      ∃ during later middle value, events = during ++ later ∧
        Performs bridge origin i plan rest during middle (.ready (.done value)) ∧
        History bridge middle later system := by
  induction h with
  | start => exact Or.inl ⟨_, .begin hGet hPlan⟩
  | @step events system after j event _ hStep ih =>
    rcases ih with ⟨phase, hPerforms⟩ | ⟨during, later, middle, value, rfl, hPerforms, hLater⟩
    · rcases hPerforms.busy_or_done with hBusy | ⟨value, rfl⟩
      · exact Or.inl (hPerforms.step hBusy hStep)
      · exact Or.inr ⟨events, [(j, event)], system, value, rfl, hPerforms,
          History.start.step hStep⟩
    · exact Or.inr ⟨during, later ++ [(j, event)], middle, value, by rw [List.append_assoc],
        hPerforms, hLater.step hStep⟩
  | wait _ time ih =>
    rcases ih with ⟨phase, hPerforms⟩ | ⟨during, later, middle, value, hEvents, hPerforms, hLater⟩
    · exact Or.inl ⟨phase, hPerforms.wait time⟩
    · exact Or.inr ⟨during, later, middle, value, hEvents, hPerforms, hLater.wait time⟩

/-- Worker `i` performs the first part of an operation, or has completed it and performs the
second, from where the first has left the system. -/
inductive Performs.Parts (bridge : Bridge σ) (origin : System σ ν α) (i : Nat) (plan : Plan β)
    (more : β → Plan γ) (rest : γ → Plan α) :
    List (Nat × Event) → System σ ν α → Phase γ → Prop
  | first {events : List (Nat × Event)} {system : System σ ν α} {phase : Phase β}
      (hBusy : phase.Busy)
      (h : Performs bridge origin i plan (fun value => (more value).bind rest) events system
        phase) : Parts bridge origin i plan more rest events system (phase.bind more)
  | second {during later : List (Nat × Event)} {middle system : System σ ν α} {value : β}
      {phase : Phase γ}
      (hFirst : Performs bridge origin i plan (fun value => (more value).bind rest) during middle
        (.ready (.done value)))
      (hSecond : Performs bridge middle i (more value) rest later system phase) :
      Parts bridge origin i plan more rest (during ++ later) system phase

/-- The first part of an operation is in its midst, or the second begins. -/
theorem Performs.parts {more : β → Plan γ} {rest : γ → Plan α}
    (h : Performs bridge origin i plan (fun value => (more value).bind rest) events system phase) :
    Parts bridge origin i plan more rest events system (phase.bind more) := by
  rcases h.busy_or_done with hBusy | ⟨value, rfl⟩
  · exact .first hBusy h
  · obtain ⟨worker, hGet, hPhase⟩ := h.worker
    have hSecond : Performs bridge system i (more value) rest [] system (.ready (more value)) :=
      .begin hGet hPhase
    have hParts := Parts.second h hSecond
    rw [List.append_nil] at hParts
    exact hParts

/-- **One plan after another is performed as the one and then the other.** -/
theorem Performs.of_bind {more : β → Plan γ} {rest : γ → Plan α} {phase : Phase γ}
    (h : Performs bridge origin i (plan.bind more) rest events system phase) :
    Parts bridge origin i plan more rest events system phase := by
  induction h with
  | begin hGet hPlan =>
    rw [Plan.bind_assoc] at hPlan
    exact (Performs.begin hGet hPlan).parts
  | own _ hGet hBusy hStep ih =>
    cases ih with
    | first hFirstBusy hFirst =>
      obtain ⟨phase', rfl, hFirstStep⟩ := hStep.of_bind hFirstBusy
      rw [Phase.bind_bind]
      exact (hFirst.own hGet hFirstBusy hFirstStep).parts
    | second hFirst hSecond =>
      rw [List.append_assoc]
      exact .second hFirst (hSecond.own hGet hBusy (hStep.ofJob _ hBusy))
  | other _ hne hStep ih =>
    cases ih with
    | first hFirstBusy hFirst => exact .first hFirstBusy (hFirst.other hne hStep)
    | second hFirst hSecond =>
      rw [List.append_assoc]
      exact .second hFirst (hSecond.other hne hStep)
  | wait _ time ih =>
    cases ih with
    | first hFirstBusy hFirst => exact .first hFirstBusy (hFirst.wait time)
    | second hFirst hSecond => exact .second hFirst (hSecond.wait time)

/-- A request of worker `i` has been answered with the snapshot. -/
def HandedOut (events : List (Nat × Event)) (i : Nat) (s : Snapshot) : Prop :=
  ∃ event, (i, event) ∈ events ∧ event.reply? = some (.ok s)

theorem HandedOut.snoc {s : Snapshot} (h : HandedOut events i s) (last : Nat × Event) :
    HandedOut (events ++ [last]) i s := by
  obtain ⟨event, hEvent, hReply⟩ := h
  exact ⟨event, List.mem_append_left _ hEvent, hReply⟩

/-- A performance keeps what its plan comes to. -/
theorem Performs.gives_phase {seen : Snapshot → Prop} {wanted : β → Prop}
    (h : Performs bridge origin i plan rest events system phase) (hGives : plan.Gives seen wanted)
    (hSeen : ∀ s, HandedOut events i s → seen s) : phase.Gives seen wanted := by
  induction h with
  | begin => exact hGives
  | own _ _ hBusy hStep ih =>
    have hBefore := ih fun s hHanded => hSeen s (hHanded.snoc _)
    refine hStep.gives hBusy hBefore fun s hReply => hSeen s ?_
    exact ⟨_, List.mem_append_right _ List.mem_cons_self, hReply⟩
  | other _ _ _ ih => exact ih fun s hHanded => hSeen s (hHanded.snoc _)
  | wait _ _ ih => exact ih hSeen

/-- **The value of an operation is what its plan comes to with the snapshots that it was given.** -/
theorem Performs.gives {wanted : β → Prop} {value : β}
    (h : Performs bridge origin i plan rest events system (.ready (.done value)))
    (hGives : plan.Gives (HandedOut events i) wanted) : wanted value :=
  h.gives_phase hGives fun _ hHanded => hHanded

end Performances

end Session

end ScreenQuery
