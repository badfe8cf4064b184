import ScreenQuery.Proofs.Session.Currency
import Mathlib.Data.List.Nodup

/-!
# One call at a time, and no standstill

The workers of a session share a lock on the cache and one on the device. A request for a snapshot
may hold both at once, and asks for the device while it holds the cache.

* `Orderly` is what makes a queue a lock: it holds exactly the workers that want the lock, each
  once, and who is past asking for it stands first. `Turn` is what one step of a worker does to a
  queue, and `Orderly.turn` says that it keeps the order, for either lock.
* `Locked` puts the two locks together, and `History.locked` carries it along a run. So calls of the
  bridge never overlap, and the cache is never held twice.
* No lock is ever waited for in a circle: the first worker in the queue for the device can always go
  on (`Phase.goesOn_of_holdsDevice`), and with it the first one in the queue for the cache, which
  waits for nothing but the device. Hence some worker can take a step as long as one has not come to
  its end, at once or when the clock has moved on to the time at which a call or a sleep is due to
  end.

About `SerialBridge` and the lock on the cache of `DeviceSession`.
-/

namespace ScreenQuery.Session

variable {σ ν α : Type} {bridge : Bridge σ}

/-! ## Queues -/

/-- The queue of a lock: `wants` tells who wants the lock or holds it, and `keeps` who has got it.
-/
structure Orderly (queue : List Nat) (wants keeps : Nat → Prop) : Prop where
  nodup : queue.Nodup
  mem_iff : ∀ i, i ∈ queue ↔ wants i
  head_of_keeps : ∀ i, keeps i → queue.head? = some i

/-- What a step of worker `i` does to the queue of a lock, by whether the worker wants the lock
before and after the step and keeps it after the step. -/
inductive Turn (i : Nat) (queue : List Nat) :
    (wants wants' keeps' : Bool) → (queue' : List Nat) → Prop
  | stay {wants keeps' : Bool} (h : keeps' = true → queue.head? = some i) :
      Turn i queue wants wants keeps' queue
  | ask : Turn i queue false true false (queue ++ [i])
  | leave (h : queue.head? = some i) : Turn i queue true false false queue.tail

namespace Orderly

variable {queue queue' : List Nat} {wants keeps wants' keeps' : Nat → Prop} {i : Nat}

theorem empty : Orderly [] (fun _ => False) (fun _ => False) :=
  ⟨List.nodup_nil, fun _ => by simp, fun _ h => h.elim⟩

/-- **A step keeps the order of a queue**, when it is the step of one worker only. -/
theorem turn (h : Orderly queue wants keeps) {before after held : Bool}
    (hTurn : Turn i queue before after held queue')
    (hBefore : wants i ↔ before = true) (hAfter : wants' i ↔ after = true)
    (hHeld : keeps' i ↔ held = true)
    (hWants : ∀ j, j ≠ i → (wants' j ↔ wants j)) (hKeeps : ∀ j, j ≠ i → keeps' j → keeps j) :
    Orderly queue' wants' keeps' := by
  cases hTurn with
  | stay hHead =>
    refine ⟨h.nodup, fun j => ?_, fun j hj => ?_⟩
    · by_cases hji : j = i
      · rw [hji, h.mem_iff, hBefore, hAfter]
      · rw [h.mem_iff, hWants j hji]
    · by_cases hji : j = i
      · rw [hji] at hj ⊢
        exact hHead (hHeld.mp hj)
      · exact h.head_of_keeps j (hKeeps j hji hj)
  | ask =>
    have hNot : i ∉ queue := fun hMem => Bool.false_ne_true (hBefore.mp ((h.mem_iff i).mp hMem))
    refine ⟨?_, fun j => ?_, fun j hj => ?_⟩
    · exact List.nodup_append.mpr ⟨h.nodup, List.nodup_singleton i, fun a ha b hb hab =>
        hNot (List.mem_singleton.mp hb ▸ hab ▸ ha)⟩
    · rw [List.mem_append, List.mem_singleton]
      by_cases hji : j = i
      · rw [hji, hAfter]
        exact ⟨fun _ => rfl, fun _ => Or.inr rfl⟩
      · rw [h.mem_iff, hWants j hji]
        exact ⟨fun hj => hj.resolve_right hji, Or.inl⟩
    · by_cases hji : j = i
      · rw [hji, hHeld] at hj
        cases hj
      · rw [List.head?_append, h.head_of_keeps j (hKeeps j hji hj)]
        rfl
  | leave hHead =>
    obtain ⟨rest, rfl⟩ := List.head?_eq_some_iff.mp hHead
    obtain ⟨hNot, hRest⟩ := List.nodup_cons.mp h.nodup
    refine ⟨hRest, fun j => ?_, fun j hj => ?_⟩
    · by_cases hji : j = i
      · rw [hji, hAfter]
        exact ⟨fun hMem => absurd hMem hNot, fun hFalse => absurd hFalse Bool.false_ne_true⟩
      · rw [hWants j hji, ← h.mem_iff j, List.mem_cons]
        exact ⟨Or.inr, fun hj => hj.resolve_left hji⟩
    · by_cases hji : j = i
      · rw [hji, hHeld] at hj
        cases hj
      · exact absurd (Option.some.inj (h.head_of_keeps j (hKeeps j hji hj))) (Ne.symm hji)

/-- Who keeps the lock is alone with it. -/
theorem unique (h : Orderly queue wants keeps) {j : Nat} (hi : keeps i) (hj : keeps j) : i = j := by
  have hHead := h.head_of_keeps i hi
  rw [h.head_of_keeps j hj] at hHead
  exact (Option.some.inj hHead).symm

/-- A lock that someone wants has a first one in its queue. -/
theorem exists_head (h : Orderly queue wants keeps) (hi : wants i) :
    ∃ j, queue.head? = some j ∧ wants j := by
  cases queue with
  | nil => exact absurd ((h.mem_iff i).mpr hi) List.not_mem_nil
  | cons j rest => exact ⟨j, rfl, (h.mem_iff j).mp List.mem_cons_self⟩

end Orderly

/-! ## Phases and locks -/

namespace Phase

/-- From asking for the cache to giving it back. -/
def wantsCache : Phase α → Bool
  | .awaitingCache _ _ _ | .awaitingDevice _ _ | .capturing _ _ _ _ | .clearing _ => true
  | _ => false

/-- From asking for the device to giving it back. -/
def wantsDevice : Phase α → Bool
  | .awaitingDevice _ _ | .capturing _ _ _ _ | .awaitingTurn _ _ | .acting _ _ _ => true
  | _ => false

/-- While a call of the bridge is in flight. -/
def isCalling : Phase α → Bool
  | .capturing _ _ _ _ | .acting _ _ _ => true
  | _ => false

/-- The worker has come to its end. -/
def isFinished : Phase α → Bool
  | .finished _ _ => true
  | _ => false

namespace Step

variable {job : Job ν α} {i : Nat} {shared shared' : Shared σ ν} {phase phase' : Phase α}
  {event : Event} (h : Step bridge job i shared phase event phase' shared')

include h

/-- What a step does to the queue for the cache. -/
theorem cacheTurn (hHolds : phase.keepsCache = true → shared.cacheQueue.head? = some i) :
    Turn i shared.cacheQueue phase.wantsCache phase'.wantsCache phase'.keepsCache
      shared'.cacheQueue := by
  cases h with
  | begin | finish | askInput | beginInput | endInput | sleep | wake => exact .stay nofun
  | ask | askDrop => exact .ask
  | serve hCache _ | drop hCache => exact .leave (Shared.holdsCache_iff.mp hCache)
  | miss hCache _ => exact .stay fun _ => Shared.holdsCache_iff.mp hCache
  | beginCapture _ _ => exact .stay fun _ => hHolds rfl
  | endCapture _ _ => exact .leave (hHolds rfl)

/-- What a step does to the queue for the device. -/
theorem deviceTurn (hHolds : phase.isCalling = true → shared.deviceQueue.head? = some i) :
    Turn i shared.deviceQueue phase.wantsDevice phase'.wantsDevice phase'.isCalling
      shared'.deviceQueue := by
  cases h with
  | begin | finish | ask | serve | askDrop | drop | sleep | wake => exact .stay nofun
  | miss | askInput => exact .ask
  | beginCapture hDevice _ | beginInput hDevice _ => exact .stay fun _ => beq_iff_eq.mp hDevice
  | endCapture _ _ => exact .leave (hHolds rfl)
  | endInput _ => exact .leave (hHolds rfl)

end Step

/-! ## Who can go on -/

/-- The worker can take a step, at once or at a later time. -/
def GoesOn (bridge : Bridge σ) (job : Job ν α) (i : Nat) (shared : Shared σ ν) (phase : Phase α) :
    Prop :=
  ∃ time, (phase.step? bridge job i (shared.wait time)).isSome = true

variable {job : Job ν α} {i : Nat} {shared : Shared σ ν} {phase : Phase α}

theorem goesOn_of_due {due : Nat} (h : phase.due? = some due) :
    GoesOn bridge job i shared phase := by
  have hDue : due ≤ (shared.wait due).now := Nat.le_max_right _ _
  refine ⟨due, ?_⟩
  cases phase <;> cases h <;> simp only [step?, hDue, if_true, Option.isSome_some]

/-- Who is first in the queue for the device has it, or is about to get it. -/
theorem goesOn_of_holdsDevice (hWants : phase.wantsDevice = true)
    (hHolds : shared.holdsDevice i = true) : GoesOn bridge job i shared phase := by
  have hHolds' : (shared.wait 0).holdsDevice i = true := hHolds
  cases phase with
  | capturing | acting => exact goesOn_of_due rfl
  | awaitingDevice | awaitingTurn =>
    exact ⟨0, by simp only [step?, hHolds', if_true, Option.isSome_some]⟩
  | waiting | ready | awaitingCache | clearing | sleeping | finished => cases hWants

/-- Who is first in the queue for the cache waits for nothing but the device. -/
theorem goesOn_of_holdsCache (hWants : phase.wantsCache = true)
    (hHolds : shared.holdsCache i = true) :
    GoesOn bridge job i shared phase ∨ phase.wantsDevice = true := by
  have hHolds' : (shared.wait 0).holdsCache i = true := hHolds
  cases phase with
  | awaitingDevice | capturing => exact Or.inr rfl
  | awaitingCache force since next =>
    refine Or.inl ⟨0, ?_⟩
    simp only [step?, hHolds', if_true]
    split <;> rfl
  | clearing => exact Or.inl ⟨0, by simp only [step?, hHolds', if_true, Option.isSome_some]⟩
  | waiting | ready | awaitingTurn | acting | sleeping | finished => cases hWants

/-- Who waits for no lock and is not at its end can go on. -/
theorem goesOn_of_not_wants (hCache : phase.wantsCache = false)
    (hDevice : phase.wantsDevice = false) (hEnd : phase.isFinished = false) :
    GoesOn bridge job i shared phase := by
  cases phase with
  | waiting => exact ⟨0, rfl⟩
  | ready plan => exact ⟨0, rfl⟩
  | sleeping => exact goesOn_of_due rfl
  | awaitingCache | awaitingDevice | capturing | clearing => cases hCache
  | awaitingTurn | acting => cases hDevice
  | finished => cases hEnd

end Phase

/-! ## Both locks along a run -/

/-- Worker `i` is there, and its phase has a property. -/
def InPhase (system : System σ ν α) (p : Phase α → Bool) (i : Nat) : Prop :=
  ∃ worker, system.workers[i]? = some worker ∧ p worker.phase = true

/-- The queues of a system are in order. -/
structure Locked (system : System σ ν α) : Prop where
  cache : Orderly system.shared.cacheQueue (InPhase system Phase.wantsCache)
    (InPhase system Phase.keepsCache)
  device : Orderly system.shared.deviceQueue (InPhase system Phase.wantsDevice)
    (InPhase system Phase.isCalling)

namespace InPhase

variable {system : System σ ν α} {p : Phase α → Bool} {i j : Nat} {worker after : Worker ν α}

theorem iff_of_get (hGet : system.workers[i]? = some worker) :
    InPhase system p i ↔ p worker.phase = true := by
  constructor
  · rintro ⟨other, hOther, h⟩
    rw [hGet] at hOther
    exact Option.some.inj hOther ▸ h
  · exact fun h => ⟨worker, hGet, h⟩

theorem set_iff {shared : Shared σ ν} (hGet : system.workers[i]? = some worker) :
    InPhase ⟨shared, system.workers.set i after⟩ p i ↔ p after.phase = true :=
  iff_of_get (List.getElem?_set_self (List.getElem?_eq_some_iff.mp hGet).1)

theorem set_of_ne_iff {shared : Shared σ ν} (hne : j ≠ i) :
    InPhase ⟨shared, system.workers.set i after⟩ p j ↔ InPhase system p j := by
  unfold InPhase
  rw [List.getElem?_set_ne (Ne.symm hne)]

end InPhase

namespace Locked

variable {system after : System σ ν α} {i : Nat} {event : Event}

theorem start (session : Session σ) (board : ν) (jobs : List (Job ν α)) :
    Locked (System.start session board jobs) := by
  have hNone : ∀ {p : Phase α → Bool}, p .waiting = false →
      InPhase (System.start session board jobs) p = fun _ => False := by
    intro p hp
    funext i
    refine eq_false ?_
    rintro ⟨worker, hGet, h⟩
    obtain ⟨job, -, rfl⟩ := List.mem_map.mp (List.mem_of_getElem? hGet)
    rw [hp] at h
    cases h
  constructor
  · rw [hNone rfl, hNone rfl]
    exact Orderly.empty
  · rw [hNone rfl, hNone rfl]
    exact Orderly.empty

/-- **A step keeps both locks in order.** -/
theorem step (h : Locked system) (hStep : System.Step bridge system i event after) :
    Locked after := by
  obtain ⟨hGet, hPhase⟩ := hStep
  constructor
  · exact h.cache.turn
      (hPhase.cacheTurn fun hKeeps => h.cache.head_of_keeps i ⟨_, hGet, hKeeps⟩)
      (InPhase.iff_of_get hGet) (InPhase.set_iff hGet) (InPhase.set_iff hGet)
      (fun j hne => InPhase.set_of_ne_iff hne) (fun j hne => (InPhase.set_of_ne_iff hne).mp)
  · exact h.device.turn
      (hPhase.deviceTurn fun hCalling => h.device.head_of_keeps i ⟨_, hGet, hCalling⟩)
      (InPhase.iff_of_get hGet) (InPhase.set_iff hGet) (InPhase.set_iff hGet)
      (fun j hne => InPhase.set_of_ne_iff hne) (fun j hne => (InPhase.set_of_ne_iff hne).mp)

theorem wait (h : Locked system) (time : Nat) : Locked (system.wait time) := ⟨h.cache, h.device⟩

/-- Some worker can go on while one has not come to its end. -/
theorem exists_goesOn (bridge : Bridge σ) (h : Locked system) {worker : Worker ν α}
    (hGet : system.workers[i]? = some worker) (hEnd : worker.phase.isFinished = false) :
    ∃ (j : Nat) (other : Worker ν α), system.workers[j]? = some other ∧
      other.phase.GoesOn bridge other.job j system.shared := by
  have hDevice : ∀ {k : Nat}, InPhase system Phase.wantsDevice k → ∃ (j : Nat) (other : Worker ν α),
      system.workers[j]? = some other ∧ other.phase.GoesOn bridge other.job j system.shared := by
    intro k hk
    obtain ⟨j, hHead, other, hOther, hWants⟩ := h.device.exists_head hk
    exact ⟨j, other, hOther, Phase.goesOn_of_holdsDevice hWants (beq_iff_eq.mpr hHead)⟩
  by_cases hWantsDevice : worker.phase.wantsDevice = true
  · exact hDevice ⟨worker, hGet, hWantsDevice⟩
  · by_cases hWantsCache : worker.phase.wantsCache = true
    · obtain ⟨j, hHead, other, hOther, hWants⟩ := h.cache.exists_head ⟨worker, hGet, hWantsCache⟩
      rcases Phase.goesOn_of_holdsCache hWants (Shared.holdsCache_iff.mpr hHead) with hOn | hWants'
      · exact ⟨j, other, hOther, hOn⟩
      · exact hDevice ⟨other, hOther, hWants'⟩
    · exact ⟨i, worker, hGet, Phase.goesOn_of_not_wants (by simpa using hWantsCache)
        (by simpa using hWantsDevice) hEnd⟩

/-- Some worker can take a step, now or later, while one has not come to its end. -/
theorem exists_step (bridge : Bridge σ) (h : Locked system)
    (hEnd : InPhase system (fun phase => !phase.isFinished) i) :
    ∃ time j event after, System.Step bridge (system.wait time) j event after := by
  obtain ⟨worker, hGet, hNot⟩ := hEnd
  obtain ⟨j, other, hOther, time, hSome⟩ :=
    h.exists_goesOn bridge hGet (by simpa using hNot)
  obtain ⟨⟨phase, shared⟩, hPhase⟩ := Option.isSome_iff_exists.mp hSome
  obtain ⟨event, hStep⟩ := Phase.step?_iff.mp hPhase
  have hOther' : (system.wait time).workers[j]? = some other := hOther
  exact ⟨time, j, event, _, .mk hOther' hStep⟩

end Locked

theorem History.locked {session : Session σ} {board : ν} {jobs : List (Job ν α)}
    {events : List (Nat × Event)} {system : System σ ν α}
    (h : History bridge (.start session board jobs) events system) : Locked system := by
  induction h with
  | start => exact Locked.start session board jobs
  | step _ hStep ih => exact ih.step hStep
  | wait _ time ih => exact ih.wait time

/-- While a worker has not come to its end, some step leads the workers further. -/
theorem History.exists_further {session : Session σ} {board : ν} {jobs : List (Job ν α)}
    {events : List (Nat × Event)} {system : System σ ν α}
    (h : History bridge (.start session board jobs) events system) {i : Nat}
    {worker : Worker ν α} (hGet : system.workers[i]? = some worker)
    (hGoing : worker.phase.isFinished = false) :
    ∃ time j event after, System.Step bridge (system.wait time) j event after ∧
      System.Advances σ after.workers system.workers := by
  obtain ⟨time, j, event, after, hStep⟩ :=
    h.locked.exists_step bridge ⟨worker, hGet, by simp [hGoing]⟩
  have hFurther : System.Advances σ after.workers (system.wait time).workers :=
    System.advances_of_step? (System.step?_iff.mpr ⟨event, hStep⟩)
  exact ⟨time, j, event, after, hStep, hFurther⟩

/-- **Whatever has happened so far, all workers can still come to their end.** -/
theorem History.exists_finished {session : Session σ} {board : ν} {jobs : List (Job ν α)}
    {events : List (Nat × Event)} {system : System σ ν α}
    (h : History bridge (.start session board jobs) events system) :
    ∃ more after, History bridge (.start session board jobs) (events ++ more) after ∧
      ∀ worker ∈ after.workers, worker.phase.isFinished = true := by
  -- by how far the workers have come
  generalize hWorkers : system.workers = workers
  induction workers using (System.wellFounded_advances (σ := σ)).induction
    generalizing events system with
  | _ workers ih =>
    subst hWorkers
    by_cases hEnd : ∀ worker ∈ system.workers, worker.phase.isFinished = true
    · exact ⟨[], system, by rw [List.append_nil]; exact h, hEnd⟩
    · simp only [not_forall] at hEnd
      obtain ⟨worker, hMem, hNot⟩ := hEnd
      obtain ⟨i, hGet⟩ := List.mem_iff_getElem?.mp hMem
      obtain ⟨time, j, event, after, hStep, hFurther⟩ :=
        h.exists_further hGet (Bool.eq_false_iff.mpr hNot)
      obtain ⟨more, last, hHistory, hLast⟩ := ih _ hFurther ((h.wait time).step hStep) rfl
      exact ⟨(j, event) :: more, last, by rw [List.append_cons]; exact hHistory, hLast⟩

/-- **Calls of the bridge never overlap, the cache is never held twice, and the session never stands
still.** Any number of workers follow any plans on one session, under any schedule, with a bridge
that takes as long as it likes and may fail. At every moment at most one of them has a call of the
bridge in flight, and at most one has taken the cache and not given it back. While one has not come
to its end, some worker can take a step: at once, or when the time has come at which a call in
flight or a sleep is due to end. -/
theorem serialized_and_deadlockFree {session : Session σ} {board : ν} {jobs : List (Job ν α)}
    {events : List (Nat × Event)} {system : System σ ν α}
    (h : History bridge (.start session board jobs) events system) :
    (∀ i j, InPhase system Phase.isCalling i → InPhase system Phase.isCalling j → i = j) ∧
    (∀ i j, InPhase system Phase.keepsCache i → InPhase system Phase.keepsCache j → i = j) ∧
    ∀ i, InPhase system (fun phase => !phase.isFinished) i →
      ∃ time j event after, System.Step bridge (system.wait time) j event after :=
  ⟨fun _ _ => h.locked.device.unique, fun _ _ => h.locked.cache.unique,
    fun _ hEnd => h.locked.exists_step bridge hEnd⟩

/-- While one worker captures the screen, the other waits for its turn to tap it; the session goes
on. -/
theorem serialized_lookAndTap :
    ∃ events system,
      History (.still "<a/>") (.start (.start 1000 ()) () lookAndTap) events system ∧
      InPhase system Phase.isCalling 0 ∧ InPhase system Phase.wantsDevice 1 ∧
      (∀ i, InPhase system Phase.isCalling i → i = 0) ∧
      ∃ time j event after, System.Step (.still "<a/>") (system.wait time) j event after := by
  have h := (History.start : History (.still "<a/>") (.start (.start 1000 ()) () lookAndTap) [] _)
  replace h := h.step (.mk rfl .begin : System.Step _ _ 0 _ _)
  replace h := h.step (.mk rfl (.ask _ _) : System.Step _ _ 0 _ _)
  replace h := h.step (.mk rfl (.miss rfl rfl) : System.Step _ _ 0 _ _)
  replace h := h.step (.mk rfl (.beginCapture rfl rfl) : System.Step _ _ 0 _ _)
  replace h := h.step (.mk rfl .begin : System.Step _ _ 1 _ _)
  replace h := h.step (.mk rfl (.askInput _ _) : System.Step _ _ 1 _ _)
  obtain ⟨hCalls, -, hStep⟩ := serialized_and_deadlockFree h
  refine ⟨_, _, h, ⟨_, rfl, rfl⟩, ⟨_, rfl, rfl⟩, fun i hi => hCalls i 0 hi ⟨_, rfl, rfl⟩, ?_⟩
  exact hStep 0 ⟨_, rfl, rfl⟩

end ScreenQuery.Session
