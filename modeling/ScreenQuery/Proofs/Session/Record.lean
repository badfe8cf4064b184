import ScreenQuery.Proofs.Log
import ScreenQuery.Proofs.Wait.Polling

/-!
# The captures of a session, on record

* A recorded bridge does what the bridge does and notes its captures as `Shot`s; `Plan.run_recorded`
  says that it changes nothing else.
* `Requested` lists what a request can lead to: it is served from the cache, or a capture is made
  that succeeds or fails.
* `Kept` says how the cache and the record belong together: the cache holds what the latest capture
  that succeeded shows. Every plan keeps this up (`Kept.follow`).
-/

namespace ScreenQuery

/-- A capture: when it began and ended, and its result. -/
structure Shot where
  began : Nat
  ended : Nat
  dump : Except BridgeError Text

/-- The capture has given a dump. -/
def Shot.Succeeded (shot : Shot) : Prop := ∃ dump, shot.dump = .ok dump

/-- The hash of the screen that a capture shows, if its dump can be read. -/
def Shot.hash? (shot : Shot) : Option UInt64 :=
  match shot.dump with
  | .ok dump =>
    let s := Dump.parse 0 dump
    if s.isDegraded then none else some s.contentHash
  | .error _ => none

/-- A snapshot shows the dump of a capture. -/
def Snapshot.IsOf (s : Snapshot) (shot : Shot) : Prop :=
  ∃ dump, shot.dump = .ok dump ∧ s = Dump.parse s.id dump

theorem isOf_parse (began ended id : Nat) (dump : Text) :
    (Dump.parse id dump).IsOf ⟨began, ended, .ok dump⟩ :=
  ⟨dump, rfl, by rw [Dump.id_parse]⟩

theorem Snapshot.IsOf.hash?_eq {s : Snapshot} {shot : Shot} (h : s.IsOf shot) :
    shot.hash? = if s.isDegraded then none else some s.contentHash := by
  obtain ⟨dump, hDump, hParsed⟩ := h
  rw [hParsed, Dump.parse_eq s.id 0]
  simp only [Shot.hash?, hDump]
  rfl

theorem Snapshot.IsOf.hash?_of_degraded {s : Snapshot} {shot : Shot} (h : s.IsOf shot)
    (hDegraded : s.isDegraded = true) : shot.hash? = none := by
  rw [h.hash?_eq, if_pos hDegraded]

theorem Snapshot.IsOf.hash?_of_readable {s : Snapshot} {shot : Shot} (h : s.IsOf shot)
    (hRead : s.isDegraded = false) : shot.hash? = some s.contentHash := by
  rw [h.hash?_eq, if_neg (by rw [hRead]; exact Bool.false_ne_true)]

theorem Shot.succeeded_ok (began ended : Nat) (dump : Text) :
    Shot.Succeeded ⟨began, ended, .ok dump⟩ :=
  ⟨dump, rfl⟩

theorem Shot.not_succeeded_error (began ended : Nat) (error : BridgeError) :
    ¬ Shot.Succeeded ⟨began, ended, .error error⟩ :=
  fun ⟨_, hDump⟩ => nomatch hDump

theorem Shot.succeeded_of_hash? {shot : Shot} {hash : UInt64} (h : shot.hash? = some hash) :
    shot.Succeeded := by
  unfold Shot.hash? at h
  split at h
  · rename_i dump hDump
    exact ⟨dump, hDump⟩
  · cases h

variable {σ α : Type}

/-- A bridge that notes its captures, the latest last. -/
def Bridge.recorded (bridge : Bridge σ) : Bridge (σ × List Shot) where
  capture := fun now state =>
    let answer := bridge.capture now state.1
    let shot : Shot := ⟨now, now + answer.latency, answer.result⟩
    ⟨answer.latency, answer.result, (answer.state, state.2 ++ [shot])⟩
  act := fun action now state =>
    let answer := bridge.act action now state.1
    ⟨answer.latency, answer.result, (answer.state, state.2)⟩

/-- The session without the record. -/
def Session.unrecorded (session : Session (σ × List Shot)) : Session σ :=
  { session with device := session.device.1 }

theorem Session.request_recorded (bridge : Bridge σ) (force : Bool)
    (session : Session (σ × List Shot)) :
    session.unrecorded.request bridge force =
      ((session.request bridge.recorded force).1,
        (session.request bridge.recorded force).2.unrecorded) := by
  unfold Session.request Cache.get Session.unrecorded Bridge.recorded
  dsimp only
  split <;> rfl

/-- **Keeping a record changes nothing.** -/
theorem Plan.run_recorded (bridge : Bridge σ) (plan : Plan α) (session : Session (σ × List Shot)) :
    plan.run bridge session.unrecorded =
      ((plan.run bridge.recorded session).1,
        (plan.run bridge.recorded session).2.unrecorded) := by
  induction plan generalizing session with
  | done value => rfl
  | snapshot force next ih =>
    unfold run
    rw [Session.request_recorded]
    exact ih _ _ _
  | act action next ih =>
    unfold run
    exact ih (session.act bridge.recorded action).1 (session.act bridge.recorded action).2
  | invalidate next ih =>
    unfold run
    exact ih { session with cache := session.cache.invalidate }
  | sleep duration next ih =>
    unfold run
    exact ih 0 { session with now := session.now + duration }

/-- The session with nothing on record yet. -/
def Session.recording (session : Session σ) : Session (σ × List Shot) :=
  { session with device := (session.device, []) }

/-- The captures that a plan makes. -/
def Plan.shots (bridge : Bridge σ) (plan : Plan α) (session : Session σ) : List Shot :=
  (plan.run bridge.recorded session.recording).2.device.2

theorem Plan.run_recording (bridge : Bridge σ) (plan : Plan α) (session : Session σ) :
    plan.run bridge session =
      ((plan.run bridge.recorded session.recording).1,
        (plan.run bridge.recorded session.recording).2.unrecorded) :=
  Plan.run_recorded bridge plan session.recording

/-- What holds of every capture of a bridge holds of those that a plan makes. -/
theorem Plan.forall_mem_shots (bridge : Bridge σ) {p : Shot → Prop}
    (h : ∀ now device, let answer := bridge.capture now device
      p ⟨now, now + answer.latency, answer.result⟩)
    (plan : Plan α) (session : Session σ) : ∀ shot ∈ plan.shots bridge session, p shot := by
  suffices hRun : ∀ session : Session (σ × List Shot), (∀ shot ∈ session.device.2, p shot) →
      ∀ shot ∈ (plan.run bridge.recorded session).2.device.2, p shot from
    hRun session.recording nofun
  induction plan with
  | done value => exact fun _ hLog => hLog
  | snapshot force next ih =>
    intro session hLog
    refine ih _ _ _ ?_
    simp only [Cache.get]
    split
    · exact hLog
    · intro shot hShot
      rcases List.mem_append.mp hShot with hShot | hLast
      · exact hLog shot hShot
      · rw [List.mem_singleton.mp hLast]
        exact h _ _
  | act action next ih => exact fun session hLog => ih _ _ hLog
  | invalidate next ih => exact fun session hLog => ih _ hLog
  | sleep duration next ih => exact fun session hLog => ih 0 _ hLog

/-! ## Requests -/

/-- What a request leads to: how long it takes, its reply, and the cache and the record after. -/
inductive Requested (cache : Cache) (log : List Shot) (now : Nat) :
    Nat → Except BridgeError Snapshot → Cache → List Shot → Prop
  | served {entry : Entry} (hEntry : cache.entry = some entry)
      (hFresh : now - entry.captured ≤ cache.freshness) :
      Requested cache log now 0 (.ok entry.snapshot) cache log
  | captured (taken : Nat) (dump : Text) :
      Requested cache log now taken (.ok (Dump.parse cache.nextId dump))
        (cache.receive dump (now + taken)).2 (log ++ [⟨now, now + taken, .ok dump⟩])
  | failed (taken : Nat) (error : BridgeError) :
      Requested cache log now taken (.error error) cache
        (log ++ [⟨now, now + taken, .error error⟩])

section Requested

variable {bridge : Bridge σ} {force : Bool} {now taken freshness : Nat} {cache after : Cache}
  {log longer : List Shot} {reply : Except BridgeError Snapshot}

theorem Cache.fresh?_eq_some {s : Snapshot} (h : cache.fresh? force now = some s) :
    ∃ captured, cache.entry = some ⟨s, captured⟩ ∧ now - captured ≤ cache.freshness := by
  unfold fresh? isFresh current at h
  cases hEntry : cache.entry with
  | none => simp [hEntry] at h
  | some entry =>
    simp only [hEntry, Option.any_some, Bool.and_eq_true, decide_eq_true_eq, Option.map_some,
      Option.ite_none_right_eq_some] at h
    obtain ⟨⟨-, hFresh⟩, hSome⟩ := h
    obtain rfl := Option.some.inj hSome
    exact ⟨entry.captured, rfl, hFresh⟩

theorem Cache.fresh?_eq_none_iff :
    cache.fresh? force now = none ↔ force = true ∨ cache.entry = none ∨
      ∃ entry, cache.entry = some entry ∧ cache.freshness < now - entry.captured := by
  unfold fresh? isFresh current
  cases force <;> cases cache.entry <;> simp [Nat.lt_sub_iff_add_lt]

/-- What the cache does with a request: it serves what it holds, or the bridge captures the
screen. -/
inductive Cache.Got (cache : Cache) (force : Bool) (now : Nat) (device : σ) (log : List Shot) :
    Cache.Served (σ × List Shot) → Prop
  | served {entry : Entry} (hForce : force = false) (hEntry : cache.entry = some entry)
      (hFresh : now - entry.captured ≤ cache.freshness) :
      Got cache force now device log ⟨0, .ok entry.snapshot, cache, (device, log)⟩
  | captured (hMiss : cache.fresh? force now = none) (taken : Nat) (dump : Text) (after : σ) :
      Got cache force now device log ⟨taken, .ok (Dump.parse cache.nextId dump),
        (cache.receive dump (now + taken)).2, (after, log ++ [⟨now, now + taken, .ok dump⟩])⟩
  | failed (hMiss : cache.fresh? force now = none) (taken : Nat) (error : BridgeError)
      (after : σ) :
      Got cache force now device log ⟨taken, .error error, cache,
        (after, log ++ [⟨now, now + taken, .error error⟩])⟩

theorem Cache.got (bridge : Bridge σ) (cache : Cache) (force : Bool) (now : Nat) (device : σ)
    (log : List Shot) :
    cache.Got force now device log (cache.get bridge.recorded force now (device, log)) := by
  unfold get
  cases hFresh : cache.fresh? force now with
  | some s =>
    obtain ⟨captured, hEntry, hAge⟩ := fresh?_eq_some hFresh
    cases force with
    | true => cases hFresh
    | false => exact .served rfl hEntry hAge
  | none =>
    simp only [Bridge.recorded]
    cases (bridge.capture now device).result with
    | ok dump => exact .captured hFresh _ dump _
    | error error => exact .failed hFresh _ error _

theorem requested_of_serve {state next : Cache × σ × List Shot}
    (h : (Plan.sessionHost bridge.recorded).serve force now state = ⟨taken, reply, next⟩) :
    Requested state.1 state.2.2 now taken reply next.1 next.2.2 := by
  obtain ⟨cache, device, log⟩ := state
  have hGot := Cache.got bridge cache force now device log
  simp only [Plan.sessionHost] at h
  generalize cache.get bridge.recorded force now (device, log) = served at h hGot
  cases hGot with
  | served _ hEntry hFresh =>
    cases h
    exact .served hEntry hFresh
  | captured _ taken dump =>
    cases h
    exact .captured taken dump
  | failed _ taken error =>
    cases h
    exact .failed taken error

/-- The captures of a record ended one after another, none later than `now`. -/
structure Timely (log : List Shot) (now : Nat) : Prop where
  sorted : log.Pairwise fun earlier later => earlier.ended ≤ later.ended
  ended_le : ∀ shot ∈ log, shot.ended ≤ now

theorem Timely.wait {later : Nat} (h : Timely log now) (hLater : now ≤ later) :
    Timely log later :=
  { h with ended_le := fun shot hShot => Nat.le_trans (h.ended_le shot hShot) hLater }

theorem Timely.snoc (h : Timely log now) {shot : Shot} (hShot : now ≤ shot.ended) :
    Timely (log ++ [shot]) shot.ended := by
  constructor
  · refine List.pairwise_append.mpr ⟨h.sorted, List.pairwise_singleton _ _, ?_⟩
    intro earlier hEarlier last hLast
    rw [List.mem_singleton.mp hLast]
    exact (h.wait hShot).ended_le earlier hEarlier
  · intro other hOther
    rcases List.mem_append.mp hOther with hOther | hLast
    · exact (h.wait hShot).ended_le other hOther
    · exact Nat.le_of_eq (congrArg Shot.ended (List.mem_singleton.mp hLast))

theorem Timely.ended_le_ended (h : Timely log now) {k j : Nat} {earlier later : Shot}
    (hkj : k ≤ j) (hEarlier : log[k]? = some earlier) (hLater : log[j]? = some later) :
    earlier.ended ≤ later.ended := by
  obtain ⟨hk, rfl⟩ := List.getElem?_eq_some_iff.mp hEarlier
  obtain ⟨hj, rfl⟩ := List.getElem?_eq_some_iff.mp hLater
  rcases Nat.lt_or_eq_of_le hkj with hlt | rfl
  · exact List.pairwise_iff_getElem.mp h.sorted k j hk hj hlt
  · exact Nat.le_refl _

/-- How the cache and the record belong together. -/
structure Kept (freshness : Nat) (cache : Cache) (log : List Shot) (now : Nat) : Prop where
  freshness_eq : cache.freshness = freshness
  /-- The cache holds what the latest capture that succeeded shows. -/
  entry : ∀ entry, cache.entry = some entry → ∃ m shot, Latest Shot.Succeeded log m shot ∧
    entry.snapshot.IsOf shot ∧ entry.captured = shot.ended ∧ entry.snapshot.id < cache.nextId
  timely : Timely log now

namespace Kept

theorem start (freshness : Nat) : Kept freshness (.empty freshness) [] 0 :=
  ⟨rfl, nofun, .nil, nofun⟩

theorem wait {later : Nat} (h : Kept freshness cache log now) (hLater : now ≤ later) :
    Kept freshness cache log later :=
  ⟨h.freshness_eq, h.entry, h.timely.wait hLater⟩

theorem invalidate (h : Kept freshness cache log now) : Kept freshness cache.invalidate log now :=
  ⟨h.freshness_eq, nofun, h.timely⟩

/-- **A request keeps the cache and the record together.** -/
theorem requested (h : Kept freshness cache log now)
    (hRequested : Requested cache log now taken reply after longer) :
    Kept freshness after longer (now + taken) := by
  cases hRequested with
  | served => exact h
  | captured taken dump =>
    refine ⟨h.freshness_eq, fun entry hEntry => ?_, h.timely.snoc (Nat.le_add_right _ _)⟩
    cases hEntry
    refine ⟨log.length, _, .self (Shot.succeeded_ok _ _ dump), isOf_parse _ _ _ _, rfl, ?_⟩
    rw [Dump.id_parse]
    exact Nat.lt_succ_self _
  | failed taken error =>
    refine ⟨h.freshness_eq, fun entry hEntry => ?_, h.timely.snoc (Nat.le_add_right _ _)⟩
    obtain ⟨m, shot, hLatest, hRest⟩ := h.entry entry hEntry
    exact ⟨m, shot, hLatest.snoc (Shot.not_succeeded_error _ _ error), hRest⟩

/-- **Every plan keeps the cache and the record together.** -/
theorem follow {α : Type} (state : Cache × σ × List Shot)
    (h : Kept freshness state.1 state.2.2 now) (plan : Plan α) :
    let followed := plan.follow (Plan.sessionHost bridge.recorded) now state
    Kept freshness followed.state.1 followed.state.2.2 followed.finish := by
  induction plan generalizing state now with
  | done value => exact h
  | snapshot force next ih =>
    have hRequested := requested_of_serve
      (rfl : (Plan.sessionHost bridge.recorded).serve force now state = ⟨_, _, _⟩)
    exact ih _ _ _ (h.requested hRequested)
  | act action next ih => exact ih _ _ (h.wait (Nat.le_add_right _ _))
  | invalidate next ih => exact ih _ h.invalidate
  | sleep duration next ih => exact ih 0 _ (h.wait (Nat.le_add_right _ _))

theorem run {α : Type} {session : Session (σ × List Shot)}
    (h : Kept freshness session.cache session.device.2 session.now) (plan : Plan α) :
    let after := (plan.run bridge.recorded session).2
    Kept freshness after.cache after.device.2 after.now := by
  rw [Plan.run_eq_follow]
  exact Kept.follow (session.cache, session.device) h plan

end Kept

/-- A snapshot that is handed out is the one in the cache, and not too old. -/
theorem Requested.entry_of_ok {s : Snapshot}
    (h : Requested cache log now taken (.ok s) after longer) :
    ∃ captured, after.entry = some ⟨s, captured⟩ ∧
      now + taken ≤ captured + cache.freshness := by
  cases h with
  | served hEntry hFresh => exact ⟨_, hEntry, Nat.sub_le_iff_le_add'.mp hFresh⟩
  | captured taken dump => exact ⟨now + taken, rfl, Nat.le_add_right _ _⟩

end Requested

end ScreenQuery
