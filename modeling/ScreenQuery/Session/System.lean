import ScreenQuery.Session.Run

/-!
# Many tasks at once

* A `System` is a session with several workers, each of which follows a plan. They share two locks:
  one on the cache and one on the device. A lock is the queue of the workers that want it, in the
  order in which they asked; the first of them holds it.
* A request holds the cache for its whole length, and the device while it captures. An input holds
  only the device, and dropping the snapshot only the cache.
* `step?` is the next step of one worker, if it can take one. Whatever the schedule and the times at
  which calls and sleeps end, a run of the system is a sequence of such steps and moments at which
  the clock moves on.
* `drive` is the schedule of one thread that looks after the workers in turn: each goes on until it
  has to wait, and the clock moves to the next due time when all of them wait. Every such run comes
  to its end, because every step takes its worker further along its plan.

The lock on the cache is that of `DeviceSession`, and the lock on the device that of `SerialBridge`.
Out of scope: calls that are given up by their caller before they have returned.
-/

namespace ScreenQuery.Session

/-- What a worker is to do. Its plan may look at a board that the workers share, and its result may
be noted there. -/
structure Job (ν α : Type) where
  plan : ν → Plan α
  note : α → ν → ν

/-- How far a worker has come. -/
inductive Phase (α : Type) where
  | waiting
  | ready (plan : Plan α)
  /-- Wants the cache, to request a snapshot. -/
  | awaitingCache (force : Bool) (since : Nat)
      (next : Except BridgeError Snapshot → Nat → Plan α)
  /-- Holds the cache and wants the device, to capture. -/
  | awaitingDevice (since : Nat) (next : Except BridgeError Snapshot → Nat → Plan α)
  /-- Holds the cache and the device. -/
  | capturing (due : Nat) (result : Except BridgeError Text) (since : Nat)
      (next : Except BridgeError Snapshot → Nat → Plan α)
  /-- Wants the device, for an input. -/
  | awaitingTurn (action : Action) (next : Except BridgeError Unit → Plan α)
  /-- Holds the device. -/
  | acting (due : Nat) (result : Except BridgeError Unit)
      (next : Except BridgeError Unit → Plan α)
  /-- Wants the cache, to drop its snapshot. -/
  | clearing (next : Plan α)
  | sleeping (due : Nat) (next : Nat → Plan α)
  | finished (value : α) (time : Nat)

/-- What the workers share: the session, the board, and the queues for the cache and the device. -/
structure Shared (σ ν : Type) where
  session : Session σ
  board : ν
  cacheQueue : List Nat
  deviceQueue : List Nat

namespace Shared

variable {σ ν : Type}

/-- The clock. -/
def now (shared : Shared σ ν) : Nat := shared.session.now

/-- A worker asks for the cache. -/
def askCache (shared : Shared σ ν) (i : Nat) : Shared σ ν :=
  { shared with cacheQueue := shared.cacheQueue ++ [i] }

/-- A worker asks for the device. -/
def askDevice (shared : Shared σ ν) (i : Nat) : Shared σ ν :=
  { shared with deviceQueue := shared.deviceQueue ++ [i] }

/-- The holder of the cache gives it back. -/
def leaveCache (shared : Shared σ ν) : Shared σ ν :=
  { shared with cacheQueue := shared.cacheQueue.tail }

/-- The holder of the device gives it back. -/
def leaveDevice (shared : Shared σ ν) : Shared σ ν :=
  { shared with deviceQueue := shared.deviceQueue.tail }

/-- True when a worker holds the cache. -/
def holdsCache (shared : Shared σ ν) (i : Nat) : Bool := shared.cacheQueue.head? == some i

/-- True when a worker holds the device. -/
def holdsDevice (shared : Shared σ ν) (i : Nat) : Bool := shared.deviceQueue.head? == some i

/-- The same with another cache. -/
def setCache (shared : Shared σ ν) (cache : Cache) : Shared σ ν :=
  { shared with session := { shared.session with cache := cache } }

/-- The same with another state of the device. -/
def setDevice (shared : Shared σ ν) (device : σ) : Shared σ ν :=
  { shared with session := { shared.session with device := device } }

/-- The same at a later time. -/
def wait (shared : Shared σ ν) (time : Nat) : Shared σ ν :=
  { shared with session := { shared.session with now := max shared.session.now time } }

end Shared

namespace Phase

variable {σ ν α : Type}

/-- The first step of a plan. -/
def issue (job : Job ν α) (i : Nat) (plan : Plan α) (shared : Shared σ ν) :
    Phase α × Shared σ ν :=
  match plan with
  | .done value => (finished value shared.now, { shared with board := job.note value shared.board })
  | .snapshot force next => (awaitingCache force shared.now next, shared.askCache i)
  | .act action next => (awaitingTurn action next, shared.askDevice i)
  | .invalidate next => (clearing next, shared.askCache i)
  | .sleep duration next => (sleeping (shared.now + duration) next, shared)

/-- The next step of worker `i`, if it can take one. -/
def step? (bridge : Bridge σ) (job : Job ν α) (i : Nat) (phase : Phase α)
    (shared : Shared σ ν) : Option (Phase α × Shared σ ν) :=
  match phase with
  | waiting => some (ready (job.plan shared.board), shared)
  | ready plan => some (issue job i plan shared)
  | awaitingCache force since next =>
    if shared.holdsCache i then
      match shared.session.cache.fresh? force shared.now with
      | some s => some (ready (next (.ok s) (shared.now - since)), shared.leaveCache)
      | none => some (awaitingDevice since next, shared.askDevice i)
    else none
  | awaitingDevice since next =>
    if shared.holdsDevice i then
      let answer := bridge.capture shared.now shared.session.device
      some (capturing (shared.now + answer.latency) answer.result since next,
        shared.setDevice answer.state)
    else none
  | capturing due result since next =>
    if due ≤ shared.now then
      let (reply, cache) := shared.session.cache.accept result shared.now
      some (ready (next reply (shared.now - since)),
        (shared.setCache cache).leaveDevice.leaveCache)
    else none
  | awaitingTurn action next =>
    if shared.holdsDevice i then
      let answer := bridge.act action shared.now shared.session.device
      some (acting (shared.now + answer.latency) answer.result next,
        shared.setDevice answer.state)
    else none
  | acting due result next =>
    if due ≤ shared.now then some (ready (next result), shared.leaveDevice) else none
  | clearing next =>
    if shared.holdsCache i then
      some (ready next, (shared.setCache shared.session.cache.invalidate).leaveCache)
    else none
  | sleeping due next =>
    if due ≤ shared.now then some (ready (next (shared.now - due)), shared) else none
  | finished _ _ => none

/-- When a call or a sleep is due to end. -/
def due? : Phase α → Option Nat
  | capturing due _ _ _ => some due
  | acting due _ _ => some due
  | sleeping due _ => some due
  | _ => none

/-! ## Every worker comes to its end -/

/-- A phase that one step leads to. -/
def Reaches (σ ν : Type) (after before : Phase α) : Prop :=
  ∃ (bridge : Bridge σ) (job : Job ν α) (i : Nat) (shared shared' : Shared σ ν),
    before.step? bridge job i shared = some (after, shared')

theorem acc_finished (value : α) (time : Nat) : Acc (Reaches σ ν) (finished value time) := by
  refine ⟨_, fun after h => ?_⟩
  obtain ⟨bridge, job, i, shared, shared', h⟩ := h
  cases h

section

variable {next : Except BridgeError Snapshot → Nat → Plan α}
  (h : ∀ reply taken, Acc (Reaches σ ν) (ready (next reply taken)))

include h

theorem acc_capturing (due : Nat) (result : Except BridgeError Text) (since : Nat) :
    Acc (Reaches σ ν) (capturing due result since next) := by
  refine ⟨_, fun after hStep => ?_⟩
  obtain ⟨bridge, job, i, shared, shared', hStep⟩ := hStep
  simp only [step?] at hStep
  split at hStep
  · cases hStep; exact h _ _
  · cases hStep

theorem acc_awaitingDevice (since : Nat) : Acc (Reaches σ ν) (awaitingDevice since next) := by
  refine ⟨_, fun after hStep => ?_⟩
  obtain ⟨bridge, job, i, shared, shared', hStep⟩ := hStep
  simp only [step?] at hStep
  split at hStep
  · cases hStep; exact acc_capturing h _ _ _
  · cases hStep

theorem acc_awaitingCache (force : Bool) (since : Nat) :
    Acc (Reaches σ ν) (awaitingCache force since next) := by
  refine ⟨_, fun after hStep => ?_⟩
  obtain ⟨bridge, job, i, shared, shared', hStep⟩ := hStep
  simp only [step?] at hStep
  split at hStep
  · split at hStep
    · cases hStep; exact h _ _
    · cases hStep; exact acc_awaitingDevice h _
  · cases hStep

end

section

variable {next : Except BridgeError Unit → Plan α}
  (h : ∀ reply, Acc (Reaches σ ν) (ready (next reply)))

include h

theorem acc_acting (due : Nat) (result : Except BridgeError Unit) :
    Acc (Reaches σ ν) (acting due result next) := by
  refine ⟨_, fun after hStep => ?_⟩
  obtain ⟨bridge, job, i, shared, shared', hStep⟩ := hStep
  simp only [step?] at hStep
  split at hStep
  · cases hStep; exact h _
  · cases hStep

theorem acc_awaitingTurn (action : Action) :
    Acc (Reaches σ ν) (awaitingTurn action next) := by
  refine ⟨_, fun after hStep => ?_⟩
  obtain ⟨bridge, job, i, shared, shared', hStep⟩ := hStep
  simp only [step?] at hStep
  split at hStep
  · cases hStep; exact acc_acting h _ _
  · cases hStep

end

theorem acc_clearing {next : Plan α} (h : Acc (Reaches σ ν) (ready next)) :
    Acc (Reaches σ ν) (clearing next) := by
  refine ⟨_, fun after hStep => ?_⟩
  obtain ⟨bridge, job, i, shared, shared', hStep⟩ := hStep
  simp only [step?] at hStep
  split at hStep
  · cases hStep; exact h
  · cases hStep

theorem acc_sleeping {next : Nat → Plan α} (h : ∀ late, Acc (Reaches σ ν) (ready (next late)))
    (due : Nat) : Acc (Reaches σ ν) (sleeping due next) := by
  refine ⟨_, fun after hStep => ?_⟩
  obtain ⟨bridge, job, i, shared, shared', hStep⟩ := hStep
  simp only [step?] at hStep
  split at hStep
  · cases hStep; exact h _
  · cases hStep

theorem acc_ready (plan : Plan α) : Acc (Reaches σ ν) (ready plan) := by
  induction plan with
  | done value =>
    refine ⟨_, fun after hStep => ?_⟩
    obtain ⟨bridge, job, i, shared, shared', hStep⟩ := hStep
    cases hStep; exact acc_finished _ _
  | snapshot force next ih =>
    refine ⟨_, fun after hStep => ?_⟩
    obtain ⟨bridge, job, i, shared, shared', hStep⟩ := hStep
    cases hStep; exact acc_awaitingCache ih _ _
  | act action next ih =>
    refine ⟨_, fun after hStep => ?_⟩
    obtain ⟨bridge, job, i, shared, shared', hStep⟩ := hStep
    cases hStep; exact acc_awaitingTurn ih _
  | invalidate next ih =>
    refine ⟨_, fun after hStep => ?_⟩
    obtain ⟨bridge, job, i, shared, shared', hStep⟩ := hStep
    cases hStep; exact acc_clearing ih
  | sleep duration next ih =>
    refine ⟨_, fun after hStep => ?_⟩
    obtain ⟨bridge, job, i, shared, shared', hStep⟩ := hStep
    cases hStep; exact acc_sleeping ih _

theorem acc_waiting : Acc (Reaches (α := α) σ ν) waiting := by
  refine ⟨_, fun after hStep => ?_⟩
  obtain ⟨bridge, job, i, shared, shared', hStep⟩ := hStep
  cases hStep; exact acc_ready _

/-- A worker takes finitely many steps. -/
theorem wellFounded_reaches : WellFounded (Reaches (α := α) σ ν) := by
  refine ⟨fun phase => ?_⟩
  cases phase with
  | waiting => exact acc_waiting
  | ready plan => exact acc_ready plan
  | awaitingCache force since next => exact acc_awaitingCache (fun _ _ => acc_ready _) _ _
  | awaitingDevice since next => exact acc_awaitingDevice (fun _ _ => acc_ready _) _
  | capturing due result since next => exact acc_capturing (fun _ _ => acc_ready _) _ _ _
  | awaitingTurn action next => exact acc_awaitingTurn (fun _ => acc_ready _) _
  | acting due result next => exact acc_acting (fun _ => acc_ready _) _ _
  | clearing next => exact acc_clearing (acc_ready _)
  | sleeping due next => exact acc_sleeping (fun _ => acc_ready _) _
  | finished value time => exact acc_finished _ _

end Phase

/-! ## Systems -/

/-- A job and how far it has come. -/
structure Worker (ν α : Type) where
  job : Job ν α
  phase : Phase α

/-- Workers that share a session. -/
structure System (σ ν α : Type) where
  shared : Shared σ ν
  workers : List (Worker ν α)

namespace System

variable {σ ν α : Type}

/-- The system before any step. -/
def start (session : Session σ) (board : ν) (jobs : List (Job ν α)) : System σ ν α :=
  ⟨⟨session, board, [], []⟩, jobs.map fun job => ⟨job, .waiting⟩⟩

/-- The system after a step of worker `i`, if it can take one. -/
def step? (bridge : Bridge σ) (system : System σ ν α) (i : Nat) : Option (System σ ν α) :=
  match system.workers[i]? with
  | none => none
  | some worker =>
    (worker.phase.step? bridge worker.job i system.shared).map fun (phase, shared) =>
      ⟨shared, system.workers.set i { worker with phase := phase }⟩

/-- The system at a later time. -/
def wait (system : System σ ν α) (time : Nat) : System σ ν α :=
  { system with shared := system.shared.wait time }

/-- The earliest time at which a call or a sleep is due to end. -/
def nextDue? (system : System σ ν α) : Option Nat :=
  (system.workers.filterMap fun worker => worker.phase.due?).min?

/-- The first worker at or after `i` that can take a step, and the system after it; `count` workers
are looked at. -/
def firstStepFrom? (bridge : Bridge σ) (system : System σ ν α) (i : Nat) :
    (count : Nat) → Option (Nat × System σ ν α)
  | 0 => none
  | count + 1 =>
    match system.step? bridge i with
    | some after => some (i, after)
    | none => firstStepFrom? bridge system (i + 1) count

/-- The first worker that can take a step, and the system after it. -/
def firstStep? (bridge : Bridge σ) (system : System σ ν α) : Option (Nat × System σ ν α) :=
  system.firstStepFrom? bridge 0 system.workers.length

/-- The system at the time when the next call or sleep ends, after the first step that it makes
possible. -/
def wake? (bridge : Bridge σ) (system : System σ ν α) : Option (Nat × System σ ν α) := do
  (system.wait (← system.nextDue?)).firstStep? bridge

/-! ## Every run comes to its end -/

/-- Lists of workers of which one has come further. -/
inductive Advances (σ : Type) : (after before : List (Worker ν α)) → Prop
  | here {after before : Worker ν α} (h : Phase.Reaches σ ν after.phase before.phase)
      (rest : List (Worker ν α)) : Advances σ (after :: rest) (before :: rest)
  | there (first : Worker ν α) {after before : List (Worker ν α)} (h : Advances σ after before) :
      Advances σ (first :: after) (first :: before)

theorem acc_cons {phase : Phase α} (hPhase : Acc (Phase.Reaches σ ν) phase) :
    ∀ {rest : List (Worker ν α)}, Acc (Advances σ) rest →
      ∀ worker : Worker ν α, worker.phase = phase → Acc (Advances σ) (worker :: rest) := by
  induction hPhase with
  | intro phase _ ihPhase =>
    intro rest hRest
    induction hRest with
    | intro rest hAcc ihRest =>
      intro worker hWorker
      refine ⟨_, fun after hAfter => ?_⟩
      cases hAfter with
      | here h rest =>
        subst hWorker
        exact ihPhase _ h (Acc.intro _ hAcc) _ rfl
      | there first h => exact ihRest _ h worker hWorker

theorem wellFounded_advances : WellFounded (Advances (ν := ν) (α := α) σ) := by
  refine ⟨fun workers => ?_⟩
  induction workers with
  | nil => exact ⟨_, fun _ h => nomatch h⟩
  | cons worker rest ih => exact acc_cons (Phase.wellFounded_reaches.apply _) ih worker rfl

/-- The workers of a system, in the order of how far they have come. -/
structure Workload (σ ν α : Type) where
  workers : List (Worker ν α)

instance : WellFoundedRelation (Workload σ ν α) where
  rel := InvImage (Advances σ) Workload.workers
  wf := InvImage.wf _ wellFounded_advances

/-- The workload of a system. -/
def workload (system : System σ ν α) : Workload σ ν α := ⟨system.workers⟩

theorem advances_set {workers : List (Worker ν α)} {i : Nat} {before after : Worker ν α}
    (hGet : workers[i]? = some before) (h : Phase.Reaches σ ν after.phase before.phase) :
    Advances σ (workers.set i after) workers := by
  induction workers generalizing i with
  | nil => simp at hGet
  | cons first rest ih =>
    cases i with
    | zero =>
      simp only [List.getElem?_cons_zero, Option.some.injEq] at hGet
      subst hGet
      exact .here h rest
    | succ i =>
      simp only [List.getElem?_cons_succ] at hGet
      exact .there first (ih hGet)

theorem advances_of_step? {bridge : Bridge σ} {system after : System σ ν α} {i : Nat}
    (h : system.step? bridge i = some after) : Advances σ after.workers system.workers := by
  unfold step? at h
  split at h
  · cases h
  · rename_i worker hGet
    obtain ⟨⟨phase, shared⟩, hStep, rfl⟩ := Option.map_eq_some_iff.1 h
    exact advances_set hGet ⟨bridge, worker.job, i, system.shared, shared, hStep⟩

theorem advances_of_firstStepFrom? {bridge : Bridge σ} {system after : System σ ν α}
    {i j count : Nat} (h : system.firstStepFrom? bridge i count = some (j, after)) :
    Advances σ after.workers system.workers := by
  induction count generalizing i with
  | zero => cases h
  | succ count ih =>
    unfold firstStepFrom? at h
    split at h
    · rename_i hStep
      cases h
      exact advances_of_step? hStep
    · exact ih h

theorem advances_of_wake? {bridge : Bridge σ} {system after : System σ ν α} {i : Nat}
    (h : system.wake? bridge = some (i, after)) : Advances σ after.workers system.workers := by
  unfold wake? at h
  obtain ⟨time, -, h⟩ := Option.bind_eq_some_iff.1 h
  have hAdvances : Advances σ after.workers (system.wait time).workers :=
    advances_of_firstStepFrom? h
  exact hAdvances

/-- Looks after the workers in turn from `cursor` on. `moved` tells whether one has taken a step
since the turn began; if so, another turn follows. -/
def drive (bridge : Bridge σ) (system : System σ ν α) (cursor : Nat) (moved : Bool) :
    System σ ν α :=
  if _hCursor : cursor < system.workers.length then
    match hStep : system.step? bridge cursor with
    | some after =>
      have : Advances σ after.workers system.workers := advances_of_step? hStep
      drive bridge after cursor true
    | none => drive bridge system (cursor + 1) moved
  else if _hMoved : moved = true then drive bridge system 0 false
  else
    match hWake : system.wake? bridge with
    | some (i, after) =>
      have : Advances σ after.workers system.workers := advances_of_wake? hWake
      drive bridge after i true
    | none => system
termination_by (system.workload, moved.toNat, system.workers.length - cursor)
decreasing_by
  · exact Prod.Lex.left _ _ this
  · exact Prod.Lex.right _ (Prod.Lex.right _ (by omega))
  · subst _hMoved
    exact Prod.Lex.right _ (Prod.Lex.left _ _ (by decide))
  · exact Prod.Lex.left _ _ this

/-- The results of the workers that have finished, with their times. -/
def results (system : System σ ν α) : List (Option (α × Nat)) :=
  system.workers.map fun worker => match worker.phase with
    | .finished value time => some (value, time)
    | _ => none

end System

/-- Follows the plans of several jobs at once: their results, and the board and the session after
all of them. -/
def runAll {σ ν α : Type} (bridge : Bridge σ) (session : Session σ) (board : ν)
    (jobs : List (Job ν α)) : List (Option (α × Nat)) × ν × Session σ :=
  let system := (System.start session board jobs).drive bridge 0 false
  (system.results, system.shared.board, system.shared.session)

end ScreenQuery.Session
