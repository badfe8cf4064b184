import ScreenQuery.Proofs.Session.History
import ScreenQuery.Proofs.Session.Usage

/-!
# No reply is older than the last input

A request that comes after an input gets a snapshot of a capture that began after the input, however
the workers of a session are scheduled.

* A capture keeps the cache from before it begins until its snapshot is stored, and dropping the
  snapshot takes the cache, too. So whoever captures when the snapshot is dropped, has not begun or
  is over: `Traced.underway` says that the captures under way began after every drop so far.
* Hence the snapshot in the cache is one of a capture that began after every drop before it, and
  with it every reply (`Traced.cached`, `Traced.answered`).
* An input that has ended is followed by a drop of the same worker before the worker does anything
  else (`Settled.paid`), because the plans of a session's users are tidy.
* Snapshots are numbered, so the capture that one came from is the only one (`Capture.unique`).

About `snapshot`, `invalidate` and `after_action` of `DeviceSession`, with `SnapshotCache` below
them.
-/

namespace ScreenQuery.Session

variable {σ ν α : Type} {bridge : Bridge σ}

/-- Worker `i` captured the screen from event `c` to event `d`, and `s` is what the dump shows. -/
structure Capture (events : List (Nat × Event)) (i c d : Nat) (s : Snapshot) : Prop where
  lt : c < d
  began : events[c]? = some (i, .captureBegan)
  ended : ∃ dump, events[d]? = some (i, .captured (.ok dump) (.ok s)) ∧
    ∃ number, s = Dump.parse number dump
  /-- The worker does nothing else in between. -/
  alone : ∀ {k : Nat} {event : Event}, events[k]? = some (i, event) → k ≤ c ∨ d ≤ k

/-- Worker `i` has begun to capture the screen at event `c`, which is the last of its events. -/
structure Underway (events : List (Nat × Event)) (i c : Nat) : Prop where
  began : events[c]? = some (i, .captureBegan)
  last : ∀ {k : Nat} {event : Event}, events[k]? = some (i, event) → k ≤ c

/-- The snapshot has not been dropped since event `c`. -/
def DropsBefore (events : List (Nat × Event)) (c : Nat) : Prop :=
  ∀ r i, events[r]? = some (i, .dropped) → r < c

/-- By event `z`, the snapshot has been captured anew since each drop before `z`. -/
def CapturedSince (events : List (Nat × Event)) (z : Nat) (s : Snapshot) : Prop :=
  ∀ r j, r < z → events[r]? = some (j, .dropped) →
    ∃ i c d, Capture events i c d s ∧ r < c ∧ d ≤ z

section Extension

variable {events : List (Nat × Event)} {last : Nat × Event} {i c d z : Nat} {s : Snapshot}

theorem Capture.snoc (h : Capture events i c d s) : Capture (events ++ [last]) i c d s := by
  obtain ⟨dump, hEnded, hParsed⟩ := h.ended
  refine ⟨h.lt, getElem?_snoc h.began, ⟨dump, getElem?_snoc hEnded, hParsed⟩, fun hk => ?_⟩
  rcases getElem?_snoc_cases hk with ⟨rfl, -⟩ | ⟨-, hk⟩
  · exact Or.inr (Nat.le_of_lt (List.getElem?_eq_some_iff.mp hEnded).1)
  · exact h.alone hk

theorem Underway.snoc (h : Underway events i c) (hLast : last.1 ≠ i) :
    Underway (events ++ [last]) i c := by
  refine ⟨getElem?_snoc h.began, fun hk => ?_⟩
  rcases getElem?_snoc_cases hk with ⟨-, rfl⟩ | ⟨-, hk⟩
  · exact absurd rfl hLast
  · exact h.last hk

/-- A capture begins now. -/
theorem underway_snoc : Underway (events ++ [(i, .captureBegan)]) i events.length := by
  refine ⟨List.getElem?_concat_length, fun hk => ?_⟩
  rcases getElem?_snoc_cases hk with ⟨rfl, -⟩ | ⟨hlt, -⟩
  · exact Nat.le_refl _
  · exact Nat.le_of_lt hlt

/-- A capture that is under way ends now. -/
theorem Underway.capture {dump : Text} {number : Nat} (h : Underway events i c)
    (hParsed : s = Dump.parse number dump) :
    Capture (events ++ [(i, .captured (.ok dump) (.ok s))]) i c events.length s := by
  refine ⟨(List.getElem?_eq_some_iff.mp h.began).1, getElem?_snoc h.began,
    ⟨dump, List.getElem?_concat_length, number, hParsed⟩, fun hk => ?_⟩
  rcases getElem?_snoc_cases hk with ⟨rfl, -⟩ | ⟨-, hk⟩
  · exact Or.inr (Nat.le_refl _)
  · exact Or.inl (h.last hk)

theorem DropsBefore.snoc (h : DropsBefore events c) (hLast : last.2 ≠ .dropped) :
    DropsBefore (events ++ [last]) c := by
  intro r j hr
  rcases getElem?_snoc_cases hr with ⟨-, rfl⟩ | ⟨-, hr⟩
  · exact absurd rfl hLast
  · exact h r j hr

theorem dropsBefore_length : DropsBefore events events.length :=
  fun _ _ hr => (List.getElem?_eq_some_iff.mp hr).1

theorem CapturedSince.snoc (h : CapturedSince events z s) (hz : z ≤ events.length) :
    CapturedSince (events ++ [last]) z s := by
  intro r j hlt hr
  rcases getElem?_snoc_cases hr with ⟨rfl, -⟩ | ⟨-, hr⟩
  · exact absurd hlt (Nat.not_lt_of_le hz)
  · obtain ⟨i, c, d, hCapture, hc, hd⟩ := h r j hlt hr
    exact ⟨i, c, d, hCapture.snoc, hc, hd⟩

/-- One more event that is no drop changes nothing. -/
theorem CapturedSince.succ (h : CapturedSince events z s)
    (hz : ∀ j, events[z]? ≠ some (j, .dropped)) : CapturedSince events (z + 1) s := by
  intro r j hlt hr
  rcases Nat.lt_succ_iff_lt_or_eq.mp hlt with hlt | rfl
  · obtain ⟨i, c, d, hCapture, hc, hd⟩ := h r j hlt hr
    exact ⟨i, c, d, hCapture, hc, Nat.le_succ_of_le hd⟩
  · exact absurd hr (hz j)

theorem Capture.capturedSince (h : Capture events i c d s) (hDrops : DropsBefore events c)
    (hd : d ≤ z) : CapturedSince events z s :=
  fun r j _ hr => ⟨i, c, d, h, hDrops r j hr, hd⟩

end Extension

/-! ## Who holds the cache -/

/-- From taking the cache for a capture to giving it back. -/
def Phase.keepsCache : Phase α → Bool
  | .awaitingDevice _ _ | .capturing _ _ _ _ => true
  | _ => false

/-- While a capture goes on. -/
def Phase.isCapturing : Phase α → Bool
  | .capturing _ _ _ _ => true
  | _ => false

theorem Phase.keepsCache_of_isCapturing {phase : Phase α} (h : phase.isCapturing = true) :
    phase.keepsCache = true := by
  cases phase <;> first | rfl | cases h

theorem Shared.holdsCache_iff {shared : Shared σ ν} {i : Nat} :
    shared.holdsCache i = true ↔ shared.cacheQueue.head? = some i := by
  unfold Shared.holdsCache
  exact beq_iff_eq

theorem Shared.holdsCache_askCache {shared : Shared σ ν} {i j : Nat}
    (h : shared.holdsCache j = true) : (shared.askCache i).holdsCache j = true := by
  rw [holdsCache_iff] at h ⊢
  show (shared.cacheQueue ++ [i]).head? = some j
  rw [List.head?_append, h]
  rfl

theorem Shared.eq_of_holdsCache {shared : Shared σ ν} {i j : Nat}
    (hi : shared.holdsCache i = true) (hj : shared.holdsCache j = true) : i = j := by
  rw [holdsCache_iff] at hi hj
  rw [hi] at hj
  exact Option.some.inj hj

namespace Phase.Step

variable {job : Job ν α} {i : Nat} {shared shared' : Shared σ ν} {phase phase' : Phase α}
  {event : Event} (h : Step bridge job i shared phase event phase' shared')

include h

/-- Who keeps the cache after a step, holds it. -/
theorem holdsCache_of_keepsCache (hHolds : phase.keepsCache = true → shared.holdsCache i = true)
    (hKeeps : phase'.keepsCache = true) : shared'.holdsCache i = true := by
  cases h with
  | miss hCache _ => exact hCache
  | beginCapture _ _ => exact hHolds rfl
  | begin | finish | ask | serve | endCapture | askInput | beginInput | endInput | askDrop | drop
  | sleep | wake => cases hKeeps

/-- A step of one worker does not take the cache from another. -/
theorem holdsCache_of_ne (hHolds : phase.keepsCache = true → shared.holdsCache i = true) {j : Nat}
    (hne : j ≠ i) (hj : shared.holdsCache j = true) : shared'.holdsCache j = true := by
  cases h with
  | ask | askDrop => exact Shared.holdsCache_askCache hj
  | serve hCache _ | drop hCache => exact absurd (Shared.eq_of_holdsCache hj hCache) hne
  | endCapture _ _ => exact absurd (Shared.eq_of_holdsCache hj (hHolds rfl)) hne
  | begin | finish | miss | beginCapture | askInput | beginInput | endInput | sleep | wake =>
    exact hj

theorem isCapturing_iff : phase'.isCapturing = true ↔ event = .captureBegan := by
  cases h <;> simp [isCapturing]

theorem isCapturing_of_captured {result : Except BridgeError Text}
    {reply : Except BridgeError Snapshot} (hEvent : event = .captured result reply) :
    phase.isCapturing = true := by
  cases h <;> first | rfl | cases hEvent

/-- Who drops the snapshot holds the cache without keeping it for a capture. -/
theorem holdsCache_of_dropped (hEvent : event = .dropped) : shared.holdsCache i = true := by
  cases h <;> first | assumption | cases hEvent

theorem current_of_served {s : Snapshot} (hEvent : event = .served s) :
    shared.session.cache.current = some s := by
  cases h <;> cases hEvent
  rename_i hFresh
  unfold Cache.fresh? at hFresh
  split at hFresh
  · exact hFresh
  · cases hFresh

end Phase.Step

/-! ## What the cache keeps -/

/-- What the cache keeps after an event, given what it kept before. -/
def Event.cached (before : Option Snapshot) : Event → Option Snapshot
  | .dropped => none
  | .captured _ (.ok s) => some s
  | _ => before

namespace Phase.Step

variable {job : Job ν α} {i : Nat} {shared shared' : Shared σ ν} {phase phase' : Phase α}
  {event : Event} (h : Step bridge job i shared phase event phase' shared')

include h

theorem current_eq :
    shared'.session.cache.current = event.cached shared.session.cache.current := by
  cases h with
  | @endCapture due since result next reply cache _ hAccept =>
    cases result <;> cases hAccept <;> rfl
  | _ => rfl

/-- The reply to a request that was captured for is what the dump shows, under the next number. -/
theorem reply_of_captured {result : Except BridgeError Text} {s : Snapshot}
    (hEvent : event = .captured result (.ok s)) :
    ∃ dump, result = .ok dump ∧ s = Dump.parse shared.session.cache.nextId dump ∧
      shared'.session.cache.nextId = shared.session.cache.nextId + 1 := by
  cases h <;> cases hEvent
  rename_i hAccept
  cases result with
  | ok dump =>
    cases hAccept
    exact ⟨dump, rfl, rfl, rfl⟩
  | error error => cases hAccept

theorem nextId_le : shared.session.cache.nextId ≤ shared'.session.cache.nextId := by
  cases h with
  | @endCapture due since result next reply cache _ hAccept =>
    cases result <;> cases hAccept
    · exact Nat.le_refl _
    · exact Nat.le_succ _
  | _ => exact Nat.le_refl _

end Phase.Step

/-- What a history tells of the captures of a system. -/
structure Traced (events : List (Nat × Event)) (system : System σ ν α) : Prop where
  holds : ∀ {i : Nat} {worker : Worker ν α}, system.workers[i]? = some worker →
    worker.phase.keepsCache = true → system.shared.holdsCache i = true
  underway : ∀ {i : Nat} {worker : Worker ν α}, system.workers[i]? = some worker →
    worker.phase.isCapturing = true → ∃ c, Underway events i c ∧ DropsBefore events c
  cached : ∀ {s : Snapshot}, system.shared.session.cache.current = some s →
    CapturedSince events events.length s
  answered : ∀ {z i : Nat} {event : Event} {s : Snapshot}, events[z]? = some (i, event) →
    event.reply? = some (.ok s) → CapturedSince events z s

namespace Traced

variable {events : List (Nat × Event)} {system after : System σ ν α} {i : Nat} {event : Event}

theorem start (session : Session σ) (board : ν) (jobs : List (Job ν α)) :
    Traced [] (System.start session board jobs) where
  holds := fun hGet hKeeps => by
    obtain ⟨job, -, rfl⟩ := List.mem_map.mp (List.mem_of_getElem? hGet)
    cases hKeeps
  underway := fun hGet hCapturing => by
    obtain ⟨job, -, rfl⟩ := List.mem_map.mp (List.mem_of_getElem? hGet)
    cases hCapturing
  cached := fun _ _ _ hlt _ => absurd hlt (Nat.not_lt_zero _)
  answered := fun h _ => by simp at h

theorem wait (h : Traced events system) (time : Nat) : Traced events (system.wait time) :=
  ⟨h.holds, h.underway, h.cached, h.answered⟩

/-- The reply of one more event is of a capture that began after every drop. -/
theorem capturedSince_snoc (h : Traced events system)
    (hStep : System.Step bridge system i event after) {s : Snapshot}
    (hReply : event.reply? = some (.ok s)) :
    CapturedSince (events ++ [(i, event)]) events.length s := by
  obtain ⟨hGet, hPhase⟩ := hStep
  cases event with
  | served s' =>
    obtain rfl : s' = s := by simpa [Event.reply?] using hReply
    exact (h.cached (hPhase.current_of_served rfl)).snoc (Nat.le_refl _)
  | captured result reply =>
    obtain rfl : reply = .ok s := by simpa [Event.reply?] using hReply
    obtain ⟨dump, rfl, hParsed, -⟩ := hPhase.reply_of_captured rfl
    obtain ⟨c, hUnderway, hDrops⟩ := h.underway hGet (hPhase.isCapturing_of_captured rfl)
    exact (hUnderway.capture hParsed).capturedSince (hDrops.snoc (by simp)) (Nat.le_refl _)
  | _ => cases hReply

/-- **A step keeps the trace of the captures.** -/
theorem step (h : Traced events system) (hStep : System.Step bridge system i event after) :
    Traced (events ++ [(i, event)]) after := by
  have hSnoc := fun {s} => h.capturedSince_snoc hStep (s := s)
  obtain ⟨hGet, hPhase⟩ := hStep
  rename_i worker phase shared
  have hSelf := h.holds hGet
  constructor
  case holds =>
    intro j other hOther hKeeps
    rcases getElem?_set_cases hOther with ⟨rfl, rfl⟩ | ⟨hne, hOther⟩
    · exact hPhase.holdsCache_of_keepsCache hSelf hKeeps
    · exact hPhase.holdsCache_of_ne hSelf hne (h.holds hOther hKeeps)
  case underway =>
    intro j other hOther hCapturing
    rcases getElem?_set_cases hOther with ⟨rfl, rfl⟩ | ⟨hne, hOther⟩
    · rw [hPhase.isCapturing_iff.mp hCapturing]
      exact ⟨events.length, underway_snoc, dropsBefore_length.snoc (by simp)⟩
    · -- whoever drops the snapshot holds the cache, and another worker does
      have hNoDrop : event ≠ .dropped := fun hEvent => hne (Shared.eq_of_holdsCache
        (h.holds hOther (Phase.keepsCache_of_isCapturing hCapturing))
        (hPhase.holdsCache_of_dropped hEvent))
      obtain ⟨c, hUnderway, hDrops⟩ := h.underway hOther hCapturing
      exact ⟨c, hUnderway.snoc (Ne.symm hne), hDrops.snoc hNoDrop⟩
  case cached =>
    intro s hCurrent
    rw [List.length_append, List.length_singleton]
    refine CapturedSince.succ ?_ fun j hj => ?_
    · replace hCurrent : event.cached system.shared.session.cache.current = some s := by
        rw [← hPhase.current_eq]
        exact hCurrent
      cases event with
      | dropped => cases hCurrent
      | captured result reply =>
        cases reply with
        | ok s' =>
          obtain rfl : s' = s := Option.some.inj hCurrent
          exact hSnoc rfl
        | error error => exact (h.cached hCurrent).snoc (Nat.le_refl _)
      | _ => exact (h.cached hCurrent).snoc (Nat.le_refl _)
    · rw [List.getElem?_concat_length] at hj
      obtain ⟨-, rfl⟩ := Prod.mk.inj (Option.some.inj hj)
      rw [hPhase.current_eq] at hCurrent
      cases hCurrent
  case answered =>
    intro z j other s hz hReply
    rcases getElem?_snoc_cases hz with ⟨rfl, hEq⟩ | ⟨hlt, hz⟩
    · obtain ⟨-, rfl⟩ := Prod.mk.inj hEq
      exact hSnoc hReply
    · exact (h.answered hz hReply).snoc (Nat.le_of_lt hlt)

end Traced

theorem History.traced {session : Session σ} {board : ν} {jobs : List (Job ν α)}
    {events : List (Nat × Event)} {system : System σ ν α}
    (h : History bridge (.start session board jobs) events system) : Traced events system := by
  induction h with
  | start => exact Traced.start session board jobs
  | step _ hStep ih => exact ih.step hStep
  | wait _ time ih => exact ih.wait time

/-! ## Snapshots have numbers of their own -/

/-- Captured snapshots are numbered in the order of their captures. -/
structure Numbered (events : List (Nat × Event)) (system : System σ ν α) : Prop where
  lt_nextId : ∀ {d i : Nat} {result : Except BridgeError Text} {s : Snapshot},
    events[d]? = some (i, .captured result (.ok s)) → s.id < system.shared.session.cache.nextId
  inj : ∀ {d d' i i' : Nat} {result result' : Except BridgeError Text} {s : Snapshot},
    events[d]? = some (i, .captured result (.ok s)) →
    events[d']? = some (i', .captured result' (.ok s)) → d = d'

theorem Numbered.step {events : List (Nat × Event)} {system after : System σ ν α} {i : Nat}
    {event : Event} (h : Numbered events system)
    (hStep : System.Step bridge system i event after) :
    Numbered (events ++ [(i, event)]) after := by
  obtain ⟨-, hPhase⟩ := hStep
  rename_i worker phase shared
  -- the snapshot of the last event has the next number
  have hLast : ∀ {j : Nat} {result : Except BridgeError Text} {s : Snapshot},
      (j, Event.captured result (.ok s)) = (i, event) →
        s.id = system.shared.session.cache.nextId ∧
          shared.session.cache.nextId = system.shared.session.cache.nextId + 1 := by
    intro j result s hEq
    obtain ⟨-, rfl⟩ := Prod.mk.inj hEq
    obtain ⟨dump, -, rfl, hNext⟩ := hPhase.reply_of_captured rfl
    exact ⟨Dump.id_parse _ _, hNext⟩
  constructor
  case lt_nextId =>
    intro d j result s hd
    rcases getElem?_snoc_cases hd with ⟨-, hEq⟩ | ⟨-, hd⟩
    · obtain ⟨hId, hNext⟩ := hLast hEq
      show s.id < shared.session.cache.nextId
      rw [hId, hNext]
      exact Nat.lt_succ_self _
    · exact Nat.lt_of_lt_of_le (h.lt_nextId hd) hPhase.nextId_le
  case inj =>
    intro d d' j j' result result' s hd hd'
    rcases getElem?_snoc_cases hd with ⟨rfl, hEq⟩ | ⟨-, hd⟩ <;>
      rcases getElem?_snoc_cases hd' with ⟨rfl, hEq'⟩ | ⟨-, hd'⟩
    · rfl
    · exact absurd (hLast hEq).1 (Nat.ne_of_lt (h.lt_nextId hd'))
    · exact absurd (hLast hEq').1 (Nat.ne_of_lt (h.lt_nextId hd))
    · exact h.inj hd hd'

theorem History.numbered {session : Session σ} {board : ν} {jobs : List (Job ν α)}
    {events : List (Nat × Event)} {system : System σ ν α}
    (h : History bridge (.start session board jobs) events system) : Numbered events system := by
  induction h with
  | start => exact ⟨fun hd => by simp at hd, fun hd => by simp at hd⟩
  | step _ hStep ih => exact ih.step hStep
  | wait _ time ih => exact ⟨ih.lt_nextId, ih.inj⟩

/-- A snapshot comes from one capture only. -/
theorem Capture.unique {events : List (Nat × Event)} {system : System σ ν α}
    (hNumbered : Numbered events system) {i c d i' c' d' : Nat} {s : Snapshot}
    (h : Capture events i c d s) (h' : Capture events i' c' d' s) : c = c' := by
  obtain ⟨dump, hEnded, -⟩ := h.ended
  obtain ⟨dump', hEnded', -⟩ := h'.ended
  obtain rfl : d = d' := hNumbered.inj hEnded hEnded'
  obtain rfl : i = i' := by
    rw [hEnded] at hEnded'
    exact (Prod.mk.inj (Option.some.inj hEnded')).1
  have hle : c' ≤ c := (h.alone h'.began).resolve_right (Nat.not_le_of_lt h'.lt)
  have hle' : c ≤ c' := (h'.alone h.began).resolve_right (Nat.not_le_of_lt h.lt)
  exact Nat.le_antisymm hle' hle

/-! ## After an input the snapshot is dropped -/

/-- The plan of the rest is tidy, whatever the replies will be. -/
def Phase.Tidy : Phase α → Prop
  | .waiting => True
  | .ready plan => plan.Tidy
  | .awaitingCache _ _ next | .awaitingDevice _ next | .capturing _ _ _ next =>
    ∀ reply taken, (next reply taken).Tidy
  | .awaitingTurn _ next | .acting _ _ next => ∀ reply, (next reply).Drops ∧ (next reply).Tidy
  | .clearing next => next.Tidy
  | .sleeping _ next => ∀ late, (next late).Tidy
  | .finished _ _ => True

/-- The worker is about to drop the snapshot. -/
def Phase.Owes : Phase α → Prop
  | .ready plan => plan.Drops
  | .clearing _ => True
  | _ => False

/-- The event belongs to dropping the snapshot. -/
def Event.isDrop : Event → Bool
  | .dropAsked | .dropped => true
  | _ => false

namespace Phase.Step

variable {job : Job ν α} {i : Nat} {shared shared' : Shared σ ν} {phase phase' : Phase α}
  {event : Event} (h : Step bridge job i shared phase event phase' shared')

include h

theorem tidy (hJob : ∀ board, (job.plan board).Tidy) (hTidy : phase.Tidy) : phase'.Tidy := by
  cases h with
  | begin => exact hJob _
  | finish => trivial
  | ask | miss | beginCapture | askInput | beginInput | askDrop | drop | sleep => exact hTidy
  | serve | endCapture => exact hTidy _ _
  | endInput => exact (hTidy _).2
  | wake => exact hTidy _

theorem owes_of_inputEnded (hTidy : phase.Tidy) {result : Except BridgeError Unit}
    (hEvent : event = .inputEnded result) : phase'.Owes := by
  cases h <;> cases hEvent
  exact (hTidy _).1

/-- A worker that is about to drop the snapshot does so before anything else. -/
theorem dropped_or_owes (hOwes : phase.Owes) : event = .dropped ∨ (event.isDrop = true ∧
    phase'.Owes) := by
  cases h with
  | askDrop => exact Or.inr ⟨rfl, trivial⟩
  | drop => exact Or.inl rfl
  | begin | finish | ask | serve | miss | beginCapture | endCapture | askInput | beginInput
  | endInput | sleep | wake => exact hOwes.elim

end Phase.Step

/-- What a history tells of the inputs of a system. -/
structure Settled (events : List (Nat × Event)) (system : System σ ν α) : Prop where
  tidy : ∀ {i : Nat} {worker : Worker ν α}, system.workers[i]? = some worker →
    (∀ board, (worker.job.plan board).Tidy) ∧ worker.phase.Tidy
  owed : ∀ {i a : Nat} {worker : Worker ν α} {result : Except BridgeError Unit},
    system.workers[i]? = some worker → events[a]? = some (i, .inputEnded result) →
    worker.phase.Owes ∨ ∃ r, a < r ∧ events[r]? = some (i, .dropped)
  /-- Once the worker has gone on, the snapshot has been dropped. -/
  paid : ∀ {i a f : Nat} {result : Except BridgeError Unit} {event : Event},
    events[a]? = some (i, .inputEnded result) → events[f]? = some (i, event) → a < f →
    event.isDrop = false → ∃ r, a < r ∧ r < f ∧ events[r]? = some (i, .dropped)

theorem Settled.step {events : List (Nat × Event)} {system after : System σ ν α} {i : Nat}
    {event : Event} (h : Settled events system)
    (hStep : System.Step bridge system i event after) :
    Settled (events ++ [(i, event)]) after := by
  obtain ⟨hGet, hPhase⟩ := hStep
  obtain ⟨hJob, hTidy⟩ := h.tidy hGet
  constructor
  case tidy =>
    intro j other hOther
    rcases getElem?_set_cases hOther with ⟨rfl, rfl⟩ | ⟨-, hOther⟩
    · exact ⟨hJob, hPhase.tidy hJob hTidy⟩
    · exact h.tidy hOther
  case owed =>
    intro j a other result hOther ha
    rcases getElem?_set_cases hOther with ⟨rfl, rfl⟩ | ⟨hne, hOther⟩
    · rcases getElem?_snoc_cases ha with ⟨-, hEq⟩ | ⟨hlt, ha⟩
      · exact Or.inl (hPhase.owes_of_inputEnded hTidy (Prod.mk.inj hEq).2.symm)
      · rcases h.owed hGet ha with hOwes | ⟨r, hr, hDropped⟩
        · rcases hPhase.dropped_or_owes hOwes with rfl | ⟨-, hOwes⟩
          · exact Or.inr ⟨events.length, hlt, List.getElem?_concat_length⟩
          · exact Or.inl hOwes
        · exact Or.inr ⟨r, hr, getElem?_snoc hDropped⟩
    · rcases getElem?_snoc_cases ha with ⟨-, hEq⟩ | ⟨-, ha⟩
      · exact absurd (Prod.mk.inj hEq).1 hne
      · rcases h.owed hOther ha with hOwes | ⟨r, hr, hDropped⟩
        · exact Or.inl hOwes
        · exact Or.inr ⟨r, hr, getElem?_snoc hDropped⟩
  case paid =>
    intro j a f result other ha hf hlt hOther
    rcases getElem?_snoc_cases hf with ⟨rfl, hEq⟩ | ⟨hfLt, hf⟩
    · obtain ⟨rfl, rfl⟩ := Prod.mk.inj hEq
      rcases getElem?_snoc_cases ha with ⟨rfl, -⟩ | ⟨-, ha⟩
      · exact absurd hlt (Nat.lt_irrefl _)
      · rcases h.owed hGet ha with hOwes | ⟨r, hr, hDropped⟩
        · rcases hPhase.dropped_or_owes hOwes with rfl | ⟨hDrop, -⟩
          · cases hOther
          · rw [hDrop] at hOther
            cases hOther
        · exact ⟨r, hr, (List.getElem?_eq_some_iff.mp hDropped).1, getElem?_snoc hDropped⟩
    · rcases getElem?_snoc_cases ha with ⟨rfl, -⟩ | ⟨-, ha⟩
      · exact absurd (Nat.lt_trans hlt hfLt) (Nat.lt_irrefl _)
      · obtain ⟨r, hr, hrf, hDropped⟩ := h.paid ha hf hlt hOther
        exact ⟨r, hr, hrf, getElem?_snoc hDropped⟩

/-- Once the operation of an input is over, the snapshot has been dropped. -/
theorem Settled.dropped_before {events : List (Nat × Event)} {system : System σ ν α}
    (h : Settled events system) {i a f z : Nat} {result : Except BridgeError Unit} {past : Event}
    (hEnded : events[a]? = some (i, .inputEnded result)) (hPast : events[f]? = some (i, past))
    (haf : a < f) (hGone : past ≠ .dropAsked) (hfz : f < z) :
    ∃ r, a < r ∧ r < z ∧ events[r]? = some (i, .dropped) := by
  by_cases hDropped : past = .dropped
  · exact ⟨f, haf, hfz, hDropped ▸ hPast⟩
  · have hOther : past.isDrop = false := by
      cases past with
      | dropAsked => exact absurd rfl hGone
      | dropped => exact absurd rfl hDropped
      | _ => rfl
    obtain ⟨r, har, hrf, hr⟩ := h.paid hEnded hPast haf hOther
    exact ⟨r, har, Nat.lt_trans hrf hfz, hr⟩

theorem History.settled {session : Session σ} {board : ν} {jobs : List (Job ν α)}
    (hJobs : ∀ job ∈ jobs, ∀ board, (job.plan board).Tidy) {events : List (Nat × Event)}
    {system : System σ ν α} (h : History bridge (.start session board jobs) events system) :
    Settled events system := by
  induction h with
  | start =>
    refine ⟨fun hGet => ?_, fun _ ha => by simp at ha, fun ha => by simp at ha⟩
    obtain ⟨job, hJob, rfl⟩ := List.mem_map.mp (List.mem_of_getElem? hGet)
    exact ⟨hJobs job hJob, trivial⟩
  | step _ hStep ih => exact ih.step hStep
  | wait _ time ih => exact ⟨ih.tidy, ih.owed, ih.paid⟩

/-- **A reply after an input is of a capture that began after the input.** Workers that use a
session run under any schedule, with a bridge that may be slow and may fail. The input of worker `i`
ended with event `a`, and with event `f` the worker has dropped the snapshot or has gone on, so the
operation of the input is over. Whoever is answered later, for a request that was made before or
after, gets what a capture shows that began after the input had ended. -/
theorem capture_began_after_input {session : Session σ} {board : ν} {jobs : List (Job ν α)}
    (hJobs : ∀ job ∈ jobs, ∀ board, Uses (job.plan board)) {events : List (Nat × Event)}
    {system : System σ ν α} (hHistory : History bridge (.start session board jobs) events system)
    {i a f : Nat} {result : Except BridgeError Unit} {past : Event}
    (hEnded : events[a]? = some (i, .inputEnded result)) (hPast : events[f]? = some (i, past))
    (haf : a < f) (hGone : past ≠ .dropAsked)
    {j z : Nat} {event : Event} {s : Snapshot} (hfz : f < z)
    (hAnswer : events[z]? = some (j, event)) (hReply : event.reply? = some (.ok s)) :
    (∃ k c d, Capture events k c d s ∧ d ≤ z) ∧ ∀ k c d, Capture events k c d s → a < c := by
  have hTidy : ∀ job ∈ jobs, ∀ board, (job.plan board).Tidy :=
    fun job hJob board => (hJobs job hJob board).tidy
  obtain ⟨r, har, hrz, hDropped⟩ :=
    (hHistory.settled hTidy).dropped_before hEnded hPast haf hGone hfz
  obtain ⟨k, c, d, hCapture, hrc, hdz⟩ := hHistory.traced.answered hAnswer hReply r i hrz hDropped
  refine ⟨⟨k, c, d, hCapture, hdz⟩, fun k' c' d' hCapture' => ?_⟩
  rw [← hCapture.unique hHistory.numbered hCapture']
  exact Nat.lt_trans har hrc

/-- One worker captures the screen; the other taps it and then looks at it. -/
def lookAndTap : List (Job Unit (Except Failure Snapshot)) :=
  [⟨fun _ => (snapshot true).bind .done, fun _ board => board⟩,
    ⟨fun _ => (tapPoint ⟨0, 0⟩).bind fun _ => (snapshot false).bind .done, fun _ board => board⟩]

theorem uses_lookAndTap : ∀ job ∈ lookAndTap, ∀ board, Uses (job.plan board) := by
  intro job hJob board
  simp only [lookAndTap, List.mem_cons, List.not_mem_nil, or_false] at hJob
  rcases hJob with rfl | rfl
  · exact .call (.snapshot true) .done
  · exact .call (.tapPoint _) fun _ => .call (.snapshot false) .done

/-- The first worker captures the screen while the second asks for its turn to tap it. What the
second looks at then is another capture. -/
theorem capture_began_after_tap :
    ∃ events, (∃ system,
      History (.still "<a/>") (.start (.start 1000 ()) () lookAndTap) events system) ∧
      events[8]? = some (1, .inputEnded (.ok ())) ∧
      events[14]? = some (1, .captured (.ok "<a/>") (.ok (Dump.parse 2 "<a/>"))) ∧
      (∃ k c d, Capture events k c d (Dump.parse 2 "<a/>") ∧ d ≤ 14) ∧
      ∀ k c d, Capture events k c d (Dump.parse 2 "<a/>") → 8 < c := by
  have h := (History.start : History (.still "<a/>") (.start (.start 1000 ()) () lookAndTap) [] _)
  replace h := h.step (.mk rfl .begin : System.Step _ _ 0 _ _)
  replace h := h.step (.mk rfl (.ask _ _) : System.Step _ _ 0 _ _)
  replace h := h.step (.mk rfl (.miss rfl rfl) : System.Step _ _ 0 _ _)
  replace h := h.step (.mk rfl (.beginCapture rfl rfl) : System.Step _ _ 0 _ _)
  replace h := h.step (.mk rfl .begin : System.Step _ _ 1 _ _)
  replace h := h.step (.mk rfl (.askInput _ _) : System.Step _ _ 1 _ _)
  replace h := h.step (.mk rfl (.endCapture (Nat.le_refl _) rfl) : System.Step _ _ 0 _ _)
  replace h := h.step (.mk rfl (.beginInput rfl rfl) : System.Step _ _ 1 _ _)
  replace h := h.step (.mk rfl (.endInput (Nat.le_refl _)) : System.Step _ _ 1 _ _)
  replace h := h.step (.mk rfl (.askDrop _) : System.Step _ _ 1 _ _)
  replace h := h.step (.mk rfl (.drop rfl) : System.Step _ _ 1 _ _)
  replace h := h.step (.mk rfl (.ask _ _) : System.Step _ _ 1 _ _)
  replace h := h.step (.mk rfl (.miss rfl rfl) : System.Step _ _ 1 _ _)
  replace h := h.step (.mk rfl (.beginCapture rfl rfl) : System.Step _ _ 1 _ _)
  replace h := h.step (.mk rfl (.endCapture (Nat.le_refl _) rfl) : System.Step _ _ 1 _ _)
  exact ⟨_, ⟨_, h⟩, rfl, rfl, capture_began_after_input uses_lookAndTap h (a := 8) rfl (f := 10)
    rfl (by decide) nofun (z := 14) (by decide) rfl rfl⟩

end ScreenQuery.Session
