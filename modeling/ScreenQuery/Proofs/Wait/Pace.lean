import ScreenQuery.Proofs.Wait.Latency

/-!
# How often a wait captures the screen

* `Paced` says when the requests of a wait are forced: when, and only when, one refresh has passed
  since the last forced request began, or since the start. Every wait is paced, whatever serves it
  (`Polled.paced`), as each request keeps the time of the last forced one on record.
* A request that is not forced makes a capture only when the cache has nothing to serve. Once a
  capture of the wait has succeeded, that does not happen again before the patience runs out, if the
  cache keeps its snapshot so long.
* `allowance` bounds the captures that are still to come: one for such a miss, and one for each
  refresh that fits between the last one and the end of the patience. Each request takes its
  captures out of it (`length_add_allowance_le`), so the whole wait makes no more than it had at the
  start.

About `poll_until` on `SnapshotCache`.
-/

namespace ScreenQuery

namespace Wait

/-- When the last forced request of some began, or the start if none was forced. -/
def lastForcedBegan (start : Nat) (calls : List Call) : Nat :=
  ((calls.filter Call.force).getLast?.map Call.began).getD start

/-- Requests are forced one refresh after the last forced one, or after the start, and not before
that. -/
structure Paced (refresh start : Nat) (calls : List Call) : Prop where
  apart : (calls.filter Call.force).Pairwise fun earlier later =>
    earlier.began + refresh ≤ later.began
  first_le : ∀ call ∈ calls.filter Call.force, start + refresh ≤ call.began
  forced_iff : ∀ (before after : List Call) (call : Call), calls = before ++ call :: after →
    (call.force = true ↔ lastForcedBegan start before + refresh ≤ call.began)

section Paced

variable {refresh start : Nat} {call : Call} {calls : List Call}

theorem lastForcedBegan_cons (start : Nat) (call : Call) (calls : List Call) :
    lastForcedBegan start (call :: calls) =
      lastForcedBegan (if call.force then call.began else start) calls := by
  unfold lastForcedBegan
  rw [List.filter_cons]
  split
  · rw [List.getLast?_cons]
    cases (calls.filter Call.force).getLast? <;> rfl
  · rfl

theorem Paced.nil : Paced refresh start [] :=
  ⟨.nil, nofun, fun before after call h => by simp at h⟩

/-- One more request in front, which later ones count from if it is forced. -/
theorem Paced.cons (hForce : call.force = true ↔ start + refresh ≤ call.began)
    (h : Paced refresh (if call.force then call.began else start) calls) :
    Paced refresh start (call :: calls) := by
  have hSplit : ∀ (before after : List Call) (other : Call),
      call :: calls = before ++ other :: after →
      (other.force = true ↔ lastForcedBegan start before + refresh ≤ other.began) := by
    intro before after other hEq
    cases before with
    | nil =>
      obtain ⟨rfl, -⟩ := List.cons.inj hEq
      exact hForce
    | cons _ before =>
      obtain ⟨rfl, hRest⟩ := List.cons.inj hEq
      rw [lastForcedBegan_cons]
      exact h.forced_iff before after other hRest
  by_cases hCall : call.force = true
  · rw [if_pos hCall] at h
    refine ⟨?_, ?_, hSplit⟩
    all_goals rw [List.filter_cons_of_pos hCall]
    · exact List.pairwise_cons.mpr ⟨h.first_le, h.apart⟩
    · have hBegan := hForce.mp hCall
      refine List.forall_mem_cons.mpr ⟨hBegan, fun later hLater => ?_⟩
      have hLate := h.first_le later hLater
      omega
  · rw [if_neg hCall] at h
    refine ⟨?_, ?_, hSplit⟩
    all_goals rw [List.filter_cons_of_neg hCall]
    · exact h.apart
    · exact h.first_le

end Paced

variable {τ σ β : Type} {what : Text} {patience : Patience} {check : Check σ β}
  {start elapsed finish : Nat} {progress : Progress σ} {calls : List Call}
  {outcome : Except Failure β × σ}

/-! ## The pace of any wait -/

theorem forces_eq_true_iff (hLast : progress.lastForced ≤ elapsed) :
    progress.forces patience elapsed = true ↔
      start + progress.lastForced + patience.refresh ≤ start + elapsed := by
  unfold Progress.forces
  rw [decide_eq_true_iff]
  omega

theorem probed_lastForced (progress : Progress σ) (patience : Patience) (elapsed : Nat) :
    (progress.probed patience elapsed).lastForced =
      if progress.forces patience elapsed then elapsed else progress.lastForced := by
  unfold Progress.probed
  split <;> rfl

theorem probed_lastForced_le (hLast : progress.lastForced ≤ elapsed) :
    (progress.probed patience elapsed).lastForced ≤ elapsed := by
  rw [probed_lastForced]
  split
  · exact Nat.le_refl _
  · exact hLast

/-- Every wait is paced. -/
theorem Polled.paced {host : Host τ} {state last : τ}
    (h : Polled host what patience check start progress elapsed state calls outcome finish last)
    (hLast : progress.lastForced ≤ elapsed) :
    Paced patience.refresh (start + progress.lastForced) calls := by
  induction h with
  | accept | giveUp => exact .cons (forces_eq_true_iff hLast) .nil
  | @again progress after elapsed taken finish state next last reply calls outcome _ hExamine _ _
      ih =>
    refine .cons (forces_eq_true_iff hLast) ?_
    have hAfter := lastForced_of_examine hExamine
    have hNext : after.lastForced ≤ elapsed := hAfter ▸ probed_lastForced_le hLast
    dsimp only
    rw [← apply_ite (start + ·), ← probed_lastForced, ← hAfter]
    exact ih (by omega)

/-! ## The captures of a wait -/

section Captures

variable {υ : Type} {bridge : Bridge υ} {state next last : Cache × υ × List Shot} {taken : Nat}
  {reply : Except BridgeError Snapshot}

/-- True when the snapshot in the cache was captured since the start. -/
def holdsSince (start : Nat) (cache : Cache) : Bool :=
  cache.entry.any fun entry => start ≤ entry.captured

/-- How many captures a wait may still make, if the last one was forced at `lastForced`. -/
def allowance (start : Nat) (patience : Patience) (cache : Cache) (lastForced : Nat) : Nat :=
  (if holdsSince start cache then 0 else 1) +
    (patience.timeout - lastForced) / patience.refresh

/-- A forced request leaves a refresh less for others. -/
theorem refreshes_left {lastForced : Nat} (hRefresh : 0 < patience.refresh)
    (hElapsed : elapsed ≤ patience.timeout) (hDue : patience.refresh ≤ elapsed - lastForced) :
    (patience.timeout - elapsed) / patience.refresh + 1 ≤
      (patience.timeout - lastForced) / patience.refresh := by
  rw [← Nat.add_div_right _ hRefresh]
  exact Nat.div_le_div_right (by omega)

/-- A snapshot captured since the start is served until the patience runs out. -/
theorem fresh?_ne_none {cache : Cache} (hElapsed : elapsed ≤ patience.timeout)
    (hFreshness : patience.timeout ≤ cache.freshness) (hHolds : holdsSince start cache = true) :
    cache.fresh? false (start + elapsed) ≠ none := by
  intro hNone
  unfold holdsSince at hHolds
  rcases Cache.fresh?_eq_none_iff.mp hNone with hForce | hEmpty | ⟨entry, hEntry, hStale⟩
  · cases hForce
  · rw [hEmpty] at hHolds
    cases hHolds
  · rw [hEntry, Option.any_some, decide_eq_true_iff] at hHolds
    omega

/-- **A request takes its captures out of the allowance.** -/
theorem length_add_allowance_le (hRefresh : 0 < patience.refresh)
    (hElapsed : elapsed ≤ patience.timeout) (hFreshness : patience.timeout ≤ state.1.freshness)
    (hServe : (Plan.sessionHost bridge.recorded).serve (progress.forces patience elapsed)
      (start + elapsed) state = ⟨taken, reply, next⟩)
    (hSucceeded : ∀ shot ∈ next.2.2, shot.Succeeded) :
    next.1.freshness = state.1.freshness ∧
      next.2.2.length +
          allowance start patience next.1 (progress.probed patience elapsed).lastForced ≤
        state.2.2.length + allowance start patience state.1 progress.lastForced := by
  obtain ⟨cache, device, log⟩ := state
  have hGot :=
    Cache.got bridge cache (progress.forces patience elapsed) (start + elapsed) device log
  simp only [Plan.sessionHost] at hServe
  generalize cache.get bridge.recorded (progress.forces patience elapsed) (start + elapsed)
    (device, log) = served at hServe hGot
  cases hGot with
  | served hForces =>
    cases hServe
    rw [probed_lastForced, hForces]
    exact ⟨rfl, Nat.le_refl _⟩
  | captured hMiss taken dump =>
    cases hServe
    refine ⟨rfl, ?_⟩
    have hHolds : holdsSince start (cache.receive dump (start + elapsed + taken)).2 = true :=
      decide_eq_true (Nat.le_add_right_of_le (Nat.le_add_right start elapsed))
    dsimp only at hFreshness ⊢
    rw [List.length_append, List.length_singleton, allowance, if_pos hHolds, probed_lastForced]
    cases hForces : progress.forces patience elapsed with
    | true =>
      have hLeft := refreshes_left hRefresh hElapsed (of_decide_eq_true hForces)
      rw [if_pos rfl]
      unfold allowance
      omega
    | false =>
      rw [hForces] at hMiss
      have hHeld : holdsSince start cache = false :=
        Bool.eq_false_iff.mpr fun hHolds => fresh?_ne_none hElapsed hFreshness hHolds hMiss
      rw [if_neg Bool.false_ne_true, allowance, hHeld, if_neg Bool.false_ne_true]
      omega
  | failed _ taken error =>
    cases hServe
    exact absurd (hSucceeded _ (List.mem_append_right _ (List.mem_singleton_self _)))
      (Shot.not_succeeded_error _ _ error)

/-- A wait makes no more captures than it is allowed. -/
theorem Polled.captures_le (h : Polled (Plan.sessionHost bridge.recorded) what patience check start
      progress elapsed state calls outcome finish last)
    (hRefresh : 0 < patience.refresh) (hElapsed : elapsed ≤ patience.timeout)
    (hFreshness : patience.timeout ≤ state.1.freshness)
    (hSucceeded : ∀ shot ∈ last.2.2, shot.Succeeded) :
    last.2.2.length ≤
      state.2.2.length + allowance start patience state.1 progress.lastForced := by
  induction h with
  | accept hServe | giveUp hServe =>
    exact Nat.le_trans (Nat.le_add_right _ _)
      (length_add_allowance_le hRefresh hElapsed hFreshness hServe hSucceeded).2
  | again hServe hExamine hTime hRest ih =>
    have hSub := hRest.log_prefix.subset
    obtain ⟨hSame, hRound⟩ := length_add_allowance_le hRefresh hElapsed hFreshness hServe
      fun shot hShot => hSucceeded shot (hSub hShot)
    have hLater := ih (add_pauseAt_le hTime) (hSame ▸ hFreshness) hSucceeded
    rw [lastForced_of_examine hExamine] at hLater
    exact Nat.le_trans hLater hRound

end Captures

/-- **A wait asks for few captures, however short its pauses are.** Whatever serves it, its requests
are forced at the pace of its refreshes. If all captures succeed and the cache serves them as long
as the patience lasts, there are no more of them than one and the refreshes that fit into the
patience. -/
theorem paced_and_few_captures (what : Text) (patience : Patience) (check : Check σ β)
    (memory : σ) :
    (∀ {τ : Type} (host : Host τ) (start : Nat) (state : τ),
      Paced patience.refresh start
        ((pollUntil what patience check memory).follow host start state).calls) ∧
    ∀ {υ : Type} (bridge : Bridge υ) (session : Session υ),
      0 < patience.refresh → patience.timeout ≤ session.cache.freshness →
      (∀ shot ∈ (pollUntil what patience check memory).shots bridge session, shot.Succeeded) →
      ((pollUntil what patience check memory).shots bridge session).length ≤
        1 + patience.timeout / patience.refresh := by
  constructor
  · intro τ host start state
    obtain ⟨calls, outcome, finish, last, hFollow, hPolled⟩ :=
      polled_follow host what patience check start (.start memory) 0 state
    rw [Nat.add_zero] at hFollow
    rw [pollUntil, hFollow]
    exact hPolled.paced (Nat.le_refl 0)
  · intro υ bridge session hRefresh hFreshness hSucceeded
    obtain ⟨calls, outcome, finish, last, hRun, hPolled⟩ :=
      polled_run bridge.recorded what patience check memory session.recording
    have hShots : (pollUntil what patience check memory).shots bridge session = last.2.2 := by
      rw [Plan.shots, hRun]
    rw [hShots] at hSucceeded ⊢
    have hCaptures := hPolled.captures_le hRefresh (Nat.zero_le _) hFreshness hSucceeded
    refine Nat.le_trans hCaptures ?_
    show 0 + allowance session.now patience session.cache 0 ≤ _
    rw [Nat.zero_add, allowance, Nat.sub_zero]
    refine Nat.add_le_add_right ?_ _
    split
    · exact Nat.zero_le 1
    · exact Nat.le_refl 1

/-- A wait of 20 that asks again as soon as it can, and refreshes every 4, captures a still screen
no more than 6 times. -/
theorem few_captures_of_still :
    let bridge := Bridge.still "<a/>"
    let shots := (pollUntil "banner" ⟨20, 0, 4⟩ seesBanner ()).shots bridge (.start 1000 ())
    0 < 4 ∧ 20 ≤ 1000 ∧ (∀ shot ∈ shots, shot.Succeeded) ∧ shots.length ≤ 1 + 20 / 4 := by
  have hSucceeded : ∀ shot ∈ (pollUntil "banner" ⟨20, 0, 4⟩ seesBanner ()).shots
      (Bridge.still "<a/>") (.start 1000 ()), shot.Succeeded :=
    Plan.forall_mem_shots _ (fun _ _ => Shot.succeeded_ok _ _ _) _ _
  refine ⟨by decide, by decide, hSucceeded, ?_⟩
  exact (paced_and_few_captures "banner" ⟨20, 0, 4⟩ seesBanner ()).2 (Bridge.still "<a/>")
    (.start 1000 ()) (by decide) (by decide) hSucceeded

end Wait

end ScreenQuery
