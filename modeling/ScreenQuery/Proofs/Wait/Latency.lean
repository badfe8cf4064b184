import ScreenQuery.Proofs.Session.Record
import ScreenQuery.Proofs.Wait.Contract

/-!
# How soon a wait notices its screen

* A probe may be served from the cache, however old that is, so a wait may overlook a new screen.
  It cannot do so for long: whatever the cache holds, it forces a capture once the time between
  refreshes has passed since the last one that it forced.
* `Overlooking` bounds how long a wait may go on without noticing its screen. A round keeps this up
  or ends the wait (`Overlooking.round`), as long as captures take no time and can be read. Hence
  the bound on the end of the wait, `ok_of_accepts_since`.

About `poll_until` on `SnapshotCache`.
-/

namespace ScreenQuery

/-- The capture has taken no time and given a dump that can be read. -/
structure Shot.Prompt (shot : Shot) : Prop where
  ended_eq : shot.ended = shot.began
  readable : ∃ dump, shot.dump = .ok dump ∧ (Dump.parse 0 dump).isDegraded = false

theorem Snapshot.IsOf.isDegraded_eq {s : Snapshot} {shot : Shot} (h : s.IsOf shot)
    (hPrompt : shot.Prompt) : s.isDegraded = false := by
  obtain ⟨dump, hDump, hParsed⟩ := h
  obtain ⟨other, hOther, hRead⟩ := hPrompt.readable
  cases hDump.symm.trans hOther
  rw [hParsed, Dump.parse_eq s.id 0]
  exact hRead

namespace Wait

variable {σ β τ : Type}

/-- The check accepts what a capture shows, at the end of the capture and whatever it remembers. -/
def Accepts (check : Check σ β) (start : Nat) (shot : Shot) : Prop :=
  ∀ memory s, s.IsOf shot → (check memory (shot.ended - start) s).1.isSome = true

variable {bridge : Bridge τ} {what : Text} {patience : Patience} {check : Check σ β}
  {start since elapsed taken : Nat} {progress after : Progress σ}
  {state next : Cache × τ × List Shot} {reply : Except BridgeError Snapshot} {found : Option β}

/-! ## One round -/

/-- A request is served from the cache, unless it is forced, or it makes a capture. -/
theorem serve_cases {now : Nat} {force : Bool}
    (h : (Plan.sessionHost bridge.recorded).serve force now state = ⟨taken, reply, next⟩) :
    (force = false ∧ taken = 0 ∧ next = state) ∨
      ∃ shot, next.2.2 = state.2.2 ++ [shot] ∧ shot.began = now ∧ shot.ended = now + taken ∧
        ∀ dump, shot.dump = .ok dump → ∃ s, reply = .ok s ∧ s.IsOf shot := by
  obtain ⟨cache, device, log⟩ := state
  have hGot := Cache.got bridge cache force now device log
  simp only [Plan.sessionHost] at h
  generalize cache.get bridge.recorded force now (device, log) = served at h hGot
  cases hGot with
  | served hForce =>
    cases h
    exact .inl ⟨hForce, rfl, rfl⟩
  | captured _ taken dump =>
    cases h
    refine .inr ⟨_, rfl, rfl, rfl, fun other hOther => ?_⟩
    cases hOther
    exact ⟨_, rfl, isOf_parse _ _ _ _⟩
  | failed _ taken error =>
    cases h
    exact .inr ⟨_, rfl, rfl, rfl, fun other hOther => by cases hOther⟩

/-- Each request adds its captures to the record. -/
theorem log_prefix_of_serve {now : Nat} {force : Bool}
    (h : (Plan.sessionHost bridge.recorded).serve force now state = ⟨taken, reply, next⟩) :
    state.2.2 <+: next.2.2 := by
  rcases serve_cases h with ⟨-, -, rfl⟩ | ⟨shot, hLog, -⟩
  · exact List.prefix_refl _
  · rw [hLog]
    exact List.prefix_append _ _

theorem lastForced_of_examine (h : examine check progress elapsed reply = (found, after)) :
    after.lastForced = progress.lastForced := by
  cases examined_of_eq h <;> rfl

/-- The check is shown a screen that could be read. -/
theorem found_of_examine {s : Snapshot} (hRead : s.isDegraded = false)
    (h : examine check progress elapsed (.ok s) = (found, after)) :
    (check progress.memory elapsed s).1 = found := by
  rw [examine_of_readable hRead] at h
  exact congrArg Prod.fst h

/-- A wait for a screen that is there since some time, and that the wait has not noticed yet: the
last capture that it forced was no later than that, and it has come no further than to the probe
that notices the screen. -/
structure Overlooking (since : Nat) (patience : Patience) (progress : Progress σ) (elapsed : Nat) :
    Prop where
  lastForced_le : progress.lastForced ≤ since
  elapsed_lt : elapsed < max since (progress.lastForced + patience.refresh) + patience.pause

namespace Overlooking

theorem lt_bound (h : Overlooking since patience progress elapsed) :
    elapsed < since + patience.refresh + patience.pause := by
  have hForced := h.lastForced_le
  have hElapsed := h.elapsed_lt
  omega

/-- **A round of a wait.** It takes no time, and if the wait does not end with it, the bound holds
at the next probe. -/
theorem round (h : Overlooking since patience progress elapsed)
    (hServe : (Plan.sessionHost bridge.recorded).serve (progress.forces patience elapsed)
      (start + elapsed) state = ⟨taken, reply, next⟩)
    (hExamine : examine check (progress.probed patience elapsed) (elapsed + taken) reply =
      (found, after))
    (hPrompt : ∀ shot ∈ next.2.2, shot.Prompt)
    (hAccepts : ∀ shot ∈ next.2.2, start + since ≤ shot.began → Accepts check start shot) :
    taken = 0 ∧ (found = none →
      Overlooking since patience after (elapsed + pauseAt patience elapsed)) := by
  have hLast := lastForced_of_examine hExamine
  have hPause : pauseAt patience elapsed ≤ patience.pause := Nat.min_le_left _ _
  rcases serve_cases hServe with ⟨hForces, rfl, -⟩ | ⟨shot, hLog, hBegan, hEnded, hReply⟩
  · -- the last refresh is not long ago
    have hRecent : elapsed < progress.lastForced + patience.refresh := by
      simp only [Progress.forces, decide_eq_false_iff_not] at hForces
      omega
    have hSame : after.lastForced = progress.lastForced := by
      rw [hLast, Progress.probed, hForces]
      rfl
    refine ⟨rfl, fun _ => ⟨hSame ▸ h.lastForced_le, ?_⟩⟩
    omega
  · have hShot : shot ∈ next.2.2 := by simp [hLog]
    have hTaken : taken = 0 := by
      have hInstant := (hPrompt shot hShot).ended_eq
      omega
    subst hTaken
    refine ⟨rfl, fun hNone => ?_⟩
    obtain ⟨dump, hDump, -⟩ := (hPrompt shot hShot).readable
    obtain ⟨s, rfl, hIsOf⟩ := hReply dump hDump
    have hFound := found_of_examine (hIsOf.isDegraded_eq (hPrompt shot hShot)) hExamine
    rw [probed_memory] at hFound
    have hEarly : elapsed < since := by
      refine Nat.lt_of_not_le fun hSince => ?_
      have hAccepted := hAccepts shot hShot (by omega) progress.memory s hIsOf
      rw [hEnded, Nat.add_assoc, Nat.add_sub_cancel_left, hFound, hNone] at hAccepted
      cases hAccepted
    have hForced : after.lastForced ≤ since := by
      rw [hLast]
      unfold Progress.probed
      split
      · exact Nat.le_of_lt hEarly
      · exact h.lastForced_le
    exact ⟨hForced, by omega⟩

end Overlooking

/-! ## A whole wait -/

namespace Polled

variable {calls : List Call} {outcome : Except Failure β × σ} {finish : Nat}
  {last : Cache × τ × List Shot}
  (h : Polled (Plan.sessionHost bridge.recorded) what patience check start progress elapsed state
    calls outcome finish last)

include h

theorem log_prefix : state.2.2 <+: last.2.2 := by
  induction h with
  | accept hServe | giveUp hServe => exact log_prefix_of_serve hServe
  | again hServe _ _ _ ih => exact (log_prefix_of_serve hServe).trans ih

/-- A wait that has not noticed its screen yet does so in time. -/
theorem ok_of_overlooking (hPrompt : ∀ shot ∈ last.2.2, shot.Prompt)
    (hAccepts : ∀ shot ∈ last.2.2, start + since ≤ shot.began → Accepts check start shot)
    (hTime : since + patience.refresh + patience.pause ≤ patience.timeout)
    (hOverlooking : Overlooking since patience progress elapsed) :
    ∃ value, outcome.1 = .ok value ∧ finish < since + patience.refresh + patience.pause := by
  induction h with
  | accept hServe hExamine =>
    obtain ⟨rfl, -⟩ := hOverlooking.round hServe hExamine hPrompt hAccepts
    exact ⟨_, rfl, hOverlooking.lt_bound⟩
  | giveUp hServe hExamine hLate =>
    obtain ⟨rfl, -⟩ := hOverlooking.round hServe hExamine hPrompt hAccepts
    have hBound := hOverlooking.lt_bound
    omega
  | again hServe hExamine _ hRest ih =>
    have hSub := hRest.log_prefix.subset
    obtain ⟨rfl, hNext⟩ := hOverlooking.round hServe hExamine
      (fun shot hShot => hPrompt shot (hSub hShot)) (fun shot hShot => hAccepts shot (hSub hShot))
    exact ih hPrompt hAccepts (hNext rfl)

end Polled

/-- **A wait notices its screen in time.** Let all captures of a wait be prompt, and let the check
accept those that begin at some time since the start or later. Then the wait succeeds, at the latest
one refresh and one pause after that time, if its patience lasts so long; whatever the cache holds
at the start and however long it may be served. -/
theorem ok_of_accepts_since (bridge : Bridge τ) (what : Text) (patience : Patience)
    (check : Check σ β) (memory : σ) (session : Session τ) (since : Nat)
    (hPrompt : ∀ shot ∈ (pollUntil what patience check memory).shots bridge session, shot.Prompt)
    (hAccepts : ∀ shot ∈ (pollUntil what patience check memory).shots bridge session,
      session.now + since ≤ shot.began → Accepts check session.now shot)
    (hTime : since + patience.refresh + patience.pause ≤ patience.timeout) :
    let ended := (pollUntil what patience check memory).run bridge session
    ∃ value, ended.1.1 = .ok value ∧
      ended.2.now < session.now + (since + patience.refresh + patience.pause) := by
  obtain ⟨calls, outcome, finish, last, hRun, hPolled⟩ :=
    polled_run bridge.recorded what patience check memory session.recording
  have hShots : (pollUntil what patience check memory).shots bridge session = last.2.2 := by
    rw [Plan.shots, hRun]
  rw [hShots] at hPrompt hAccepts
  rw [Plan.run_recording, hRun]
  have hStart : Overlooking since patience (Progress.start memory) 0 :=
    ⟨Nat.zero_le _, Nat.add_pos_right _ (pause_pos patience)⟩
  obtain ⟨value, hOk, hFinish⟩ := hPolled.ok_of_overlooking hPrompt hAccepts hTime hStart
  exact ⟨value, hOk, Nat.add_lt_add_left hFinish _⟩

/-- The dumps of a device that shows a banner from 5 on. -/
def bannerDump (now : Nat) : Text := if now < 5 then "<a/>" else "<a text=\"hello\"/>"

/-- A device that shows a banner from 5 on, and answers at once. -/
def bannerBridge : Bridge Unit :=
  ⟨fun now _ => ⟨0, .ok (bannerDump now), ()⟩, fun _ _ _ => ⟨0, .ok (), ()⟩⟩

/-- Accepts a screen with the banner. -/
def seesBanner : Check Unit Unit := fun _ _ s =>
  (if s.nodes.any fun node => node.text == "hello" then some () else none, ())

/-- A session whose cache may serve the screen without the banner for long. -/
def beforeBanner : Session Unit :=
  ⟨0, { Cache.empty 1000 with entry := some ⟨Dump.parse 0 (bannerDump 0), 0⟩ }, ()⟩

theorem prompt_of_bannerDump (now : Nat) : Shot.Prompt ⟨now, now, .ok (bannerDump now)⟩ := by
  refine ⟨rfl, _, rfl, ?_⟩
  unfold bannerDump
  split <;> decide +kernel

theorem accepts_bannerDump {now : Nat} (h : 5 ≤ now) :
    Accepts seesBanner 0 ⟨now, now, .ok (bannerDump now)⟩ := by
  rintro memory s ⟨dump, hDump, hParsed⟩
  cases hDump
  have hShown : (Dump.parse 0 "<a text=\"hello\"/>").nodes.any (·.text == "hello") = true := by
    decide +kernel
  rw [hParsed, Dump.parse_eq s.id 0, bannerDump, if_neg (Nat.not_lt_of_ge h)]
  simp only [seesBanner, hShown, if_true, Option.isSome_some]

/-- With a pause of 3 and a refresh every 4, the banner is noticed before 12. -/
theorem ok_of_seesBanner :
    let ended := (pollUntil "banner" ⟨20, 3, 4⟩ seesBanner ()).run bannerBridge beforeBanner
    ∃ value, ended.1.1 = .ok value ∧ ended.2.now < 0 + (5 + 4 + 3) := by
  have hShots : ∀ shot ∈ (pollUntil "banner" ⟨20, 3, 4⟩ seesBanner ()).shots bannerBridge
      beforeBanner, shot.Prompt ∧ (5 ≤ shot.began → Accepts seesBanner 0 shot) :=
    Plan.forall_mem_shots bannerBridge
      (fun now _ => ⟨prompt_of_bannerDump now, accepts_bannerDump⟩) _ beforeBanner
  exact ok_of_accepts_since bannerBridge "banner" ⟨20, 3, 4⟩ seesBanner () beforeBanner 5
    (fun shot hShot => (hShots shot hShot).1)
    (fun shot hShot hSince => (hShots shot hShot).2 (Nat.zero_add 5 ▸ hSince)) (by decide)

end Wait

end ScreenQuery
