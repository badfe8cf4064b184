import ScreenQuery.Session.Run
import ScreenQuery.Wait

/-!
# Waits, call by call

* A `Host` serves a plan. It is free in what it answers and in how long a call takes; it is only
  bound to end sleeps on time. `Plan.follow` lists the requests that a plan makes of it.
* A session is such a host: `Plan.run_eq_follow`.
* `Polled` says how a wait goes on: each request is answered, and then the wait accepts the screen,
  gives up, or pauses and asks again. `polled_follow` says that every wait goes on like this, and so
  to its end; what holds of all waits is proved by induction on `Polled`.
* `Examined` lists what a reply can lead to, so that nothing else has to look into `examine`.

About the loop of `poll_until`, on any `SnapshotSource`.
-/

namespace ScreenQuery

/-- Whatever serves a plan. Its answers may depend on the time and on all it was asked before. -/
structure Host (τ : Type) where
  serve : (force : Bool) → (now : Nat) → τ → Answer τ Snapshot
  act : Action → (now : Nat) → τ → Answer τ Unit
  drop : τ → τ

/-- A request for a snapshot, and its reply. -/
structure Call where
  force : Bool
  began : Nat
  ended : Nat
  reply : Except BridgeError Snapshot

/-- What a plan led to: its requests in order, its value, when it was over, and the host after. -/
structure Followed (τ α : Type) where
  calls : List Call
  value : α
  finish : Nat
  state : τ

namespace Plan

variable {τ σ α : Type}

/-- Follows a plan. The clock moves by the calls of the host and by sleeps. -/
def follow (host : Host τ) : Plan α → (now : Nat) → τ → Followed τ α
  | done value, now, state => ⟨[], value, now, state⟩
  | snapshot force next, now, state =>
    let answer := host.serve force now state
    let ended := now + answer.latency
    let rest := (next answer.result answer.latency).follow host ended answer.state
    { rest with calls := ⟨force, now, ended, answer.result⟩ :: rest.calls }
  | act action next, now, state =>
    let answer := host.act action now state
    (next answer.result).follow host (now + answer.latency) answer.state
  | invalidate next, now, state => next.follow host now (host.drop state)
  | sleep duration next, now, state => (next 0).follow host (now + duration) state

/-- A plan is followed alike when something is made of its value. -/
theorem follow_bind_done {β : Type} (host : Host τ) (plan : Plan α) (f : α → β) (now : Nat)
    (state : τ) :
    (plan.bind fun value => .done (f value)).follow host now state =
      let followed := plan.follow host now state
      ⟨followed.calls, f followed.value, followed.finish, followed.state⟩ := by
  induction plan generalizing now state with
  | done value => rfl
  | snapshot force next ih => simp only [bind, follow, ih]
  | act action next ih => simp only [bind, follow, ih]
  | invalidate next ih => simp only [bind, follow, ih]
  | sleep duration next ih => simp only [bind, follow, ih]

/-- A cache before a device serves plans. -/
def sessionHost (bridge : Bridge σ) : Host (Cache × σ) where
  serve := fun force now state =>
    let served := state.1.get bridge force now state.2
    ⟨served.latency, served.result, (served.cache, served.device)⟩
  act := fun action now state =>
    let answer := bridge.act action now state.2
    ⟨answer.latency, answer.result, (state.1, answer.state)⟩
  drop := fun state => (state.1.invalidate, state.2)

/-- **A session runs a plan as it follows it.** -/
theorem run_eq_follow (bridge : Bridge σ) (plan : Plan α) (session : Session σ) :
    plan.run bridge session =
      let followed := plan.follow (sessionHost bridge) session.now (session.cache, session.device)
      (followed.value, ⟨followed.finish, followed.state.1, followed.state.2⟩) := by
  induction plan generalizing session with
  | done value => rfl
  | snapshot force next ih =>
    unfold run
    simp only [Session.request, ih, Nat.add_sub_cancel_left]
    rfl
  | act action next ih =>
    unfold run
    simp only [Session.act, ih]
    rfl
  | invalidate next ih =>
    unfold run
    rw [ih]
    rfl
  | sleep duration next ih =>
    unfold run
    rw [ih]
    rfl

end Plan

namespace Wait

variable {τ σ β : Type}

@[simp] theorem probed_memory (progress : Progress σ) (patience : Patience) (elapsed : Nat) :
    (progress.probed patience elapsed).memory = progress.memory := by
  unfold Progress.probed
  split <;> rfl

@[simp] theorem probed_cause (progress : Progress σ) (patience : Patience) (elapsed : Nat) :
    (progress.probed patience elapsed).cause = progress.cause := by
  unfold Progress.probed
  split <;> rfl

/-! ## Replies -/

/-- What a reply leads to. A failure and a screen that could not be read are remembered as the
cause; the check is shown any other screen. -/
inductive Examined (check : Check σ β) (progress : Progress σ) (elapsed : Nat) :
    Except BridgeError Snapshot → Option β → Progress σ → Prop
  | failed (error : BridgeError) : Examined check progress elapsed (.error error) none
      { progress with cause := some error.message }
  | unread {s : Snapshot} {reason : Text} (hReason : s.diagnostic = some reason) :
    Examined check progress elapsed (.ok s) none
      { progress with cause := some (unreadable reason) }
  | shown {s : Snapshot} {found : Option β} {memory : σ} (hRead : s.isDegraded = false)
      (hCheck : check progress.memory elapsed s = (found, memory)) :
    Examined check progress elapsed (.ok s) found { progress with memory := memory }

section Replies

variable {check : Check σ β} {progress after : Progress σ} {elapsed : Nat}
  {reply : Except BridgeError Snapshot} {found : Option β} {s : Snapshot}

theorem examine_of_readable (hRead : s.isDegraded = false) :
    examine check progress elapsed (.ok s) = ((check progress.memory elapsed s).1,
      { progress with memory := (check progress.memory elapsed s).2 }) := by
  simp only [examine, Snapshot.isDegraded_eq_false_iff.mp hRead]

theorem examine_of_unreadable {reason : Text} (hReason : s.diagnostic = some reason) :
    examine check progress elapsed (.ok s) =
      (none, { progress with cause := some (unreadable reason) }) := by
  simp only [examine, hReason]

theorem examined_of_eq (h : examine check progress elapsed reply = (found, after)) :
    Examined check progress elapsed reply found after := by
  cases reply with
  | error error =>
    cases h
    exact .failed error
  | ok s =>
    cases hDiagnostic : s.diagnostic with
    | some reason =>
      rw [examine_of_unreadable hDiagnostic] at h
      cases h
      exact .unread hDiagnostic
    | none =>
      have hRead := Snapshot.isDegraded_eq_false_iff.mpr hDiagnostic
      rw [examine_of_readable hRead] at h
      cases h
      exact .shown hRead rfl

end Replies

/-! ## Requests -/

section Run

variable {υ : Type} {bridge : Bridge υ} {what : Text} {patience : Patience} {check : Check σ β}
  {progress after : Progress σ} {elapsed : Nat} {session next : Session υ}
  {reply : Except BridgeError Snapshot} {value : β} (taken : Nat)
  (hRequest : session.request bridge (progress.forces patience elapsed) = (reply, next))
  (hTaken : next.now - session.now = taken)

include hRequest hTaken

/-- The check accepts the reply to a request. -/
theorem run_pollFrom_accept
    (hExamine : examine check (progress.probed patience elapsed) (elapsed + taken) reply =
      (some value, after)) :
    (pollFrom what patience check progress elapsed).run bridge session =
      ((.ok value, after.memory), next) := by
  rw [pollFrom]
  simp only [Plan.run, hRequest, hTaken, hExamine]

/-- The check does not accept the reply to a request, and there is time for another. -/
theorem run_pollFrom_again
    (hExamine : examine check (progress.probed patience elapsed) (elapsed + taken) reply =
      (none, after)) (hTime : elapsed + taken < patience.timeout) :
    (pollFrom what patience check progress elapsed).run bridge session =
      (pollFrom what patience check after
        (elapsed + taken + pauseAt patience (elapsed + taken))).run bridge
        { next with now := next.now + pauseAt patience (elapsed + taken) } := by
  rw [pollFrom]
  simp only [Plan.run, hRequest, hTaken, hExamine, hTime, dite_true, Nat.add_zero]

end Run

/-- How a wait goes on from `elapsed` on: the progress and the host before, the requests, the
outcome of the wait, and how much has elapsed and what the host is after. -/
inductive Polled (host : Host τ) (what : Text) (patience : Patience) (check : Check σ β)
    (start : Nat) :
    Progress σ → Nat → τ → List Call → Except Failure β × σ → Nat → τ → Prop
  | accept {progress after : Progress σ} {elapsed taken : Nat} {state next : τ}
      {reply : Except BridgeError Snapshot} {value : β}
      (hServe : host.serve (progress.forces patience elapsed) (start + elapsed) state =
        ⟨taken, reply, next⟩)
      (hExamine : examine check (progress.probed patience elapsed) (elapsed + taken) reply =
        (some value, after)) :
      Polled host what patience check start progress elapsed state
        [⟨progress.forces patience elapsed, start + elapsed, start + (elapsed + taken), reply⟩]
        (.ok value, after.memory) (elapsed + taken) next
  | giveUp {progress after : Progress σ} {elapsed taken : Nat} {state next : τ}
      {reply : Except BridgeError Snapshot}
      (hServe : host.serve (progress.forces patience elapsed) (start + elapsed) state =
        ⟨taken, reply, next⟩)
      (hExamine : examine check (progress.probed patience elapsed) (elapsed + taken) reply =
        (none, after))
      (hTime : patience.timeout ≤ elapsed + taken) :
      Polled host what patience check start progress elapsed state
        [⟨progress.forces patience elapsed, start + elapsed, start + (elapsed + taken), reply⟩]
        (.error (expired what (elapsed + taken) after.cause), after.memory) (elapsed + taken) next
  | again {progress after : Progress σ} {elapsed taken finish : Nat} {state next last : τ}
      {reply : Except BridgeError Snapshot} {calls : List Call} {outcome : Except Failure β × σ}
      (hServe : host.serve (progress.forces patience elapsed) (start + elapsed) state =
        ⟨taken, reply, next⟩)
      (hExamine : examine check (progress.probed patience elapsed) (elapsed + taken) reply =
        (none, after))
      (hTime : elapsed + taken < patience.timeout)
      (h : Polled host what patience check start after
        (elapsed + taken + pauseAt patience (elapsed + taken)) next calls outcome finish last) :
      Polled host what patience check start progress elapsed state
        (⟨progress.forces patience elapsed, start + elapsed, start + (elapsed + taken), reply⟩ ::
          calls)
        outcome finish last

/-- **A wait goes on until it accepts a screen or gives up.** -/
theorem polled_follow (host : Host τ) (what : Text) (patience : Patience) (check : Check σ β)
    (start : Nat) (progress : Progress σ) (elapsed : Nat) (state : τ) :
    ∃ calls outcome finish last,
      (pollFrom what patience check progress elapsed).follow host (start + elapsed) state =
        ⟨calls, outcome, start + finish, last⟩ ∧
      Polled host what patience check start progress elapsed state calls outcome finish last := by
  fun_induction pollFrom what patience check progress elapsed generalizing state with
  | case1 progress elapsed ih =>
    cases hServe : host.serve (progress.forces patience elapsed) (start + elapsed) state with
    | mk taken reply next =>
      simp only [Plan.follow, hServe, Nat.add_assoc start elapsed taken]
      cases hExamine : examine check (progress.probed patience elapsed) (elapsed + taken) reply with
      | mk found after =>
        cases found with
        | some value =>
          exact ⟨_, _, _, _, rfl, .accept hServe hExamine⟩
        | none =>
          by_cases hTime : elapsed + taken < patience.timeout
          · obtain ⟨calls, outcome, finish, last, hFollow, hPolled⟩ := ih taken after hTime 0 next
            rw [Nat.add_zero] at hFollow hPolled
            simp only [hTime, dite_true, Plan.follow, Nat.add_zero,
              Nat.add_assoc start (elapsed + taken), hFollow]
            exact ⟨_, _, _, _, rfl, .again hServe hExamine hTime hPolled⟩
          · simp only [hTime, dite_false, Plan.follow]
            exact ⟨_, _, _, _, rfl, .giveUp hServe hExamine (Nat.le_of_not_lt hTime)⟩

/-- A wait on a session. -/
theorem polled_run {υ : Type} (bridge : Bridge υ) (what : Text) (patience : Patience)
    (check : Check σ β) (memory : σ) (session : Session υ) :
    ∃ calls outcome finish last,
      (pollUntil what patience check memory).run bridge session =
        (outcome, ⟨session.now + finish, last.1, last.2⟩) ∧
      Polled (Plan.sessionHost bridge) what patience check session.now (.start memory) 0
        (session.cache, session.device) calls outcome finish last := by
  obtain ⟨calls, outcome, finish, last, hFollow, hPolled⟩ :=
    polled_follow (Plan.sessionHost bridge) what patience check session.now (.start memory) 0
      (session.cache, session.device)
  refine ⟨calls, outcome, finish, last, ?_, hPolled⟩
  rw [Nat.add_zero] at hFollow
  rw [pollUntil, Plan.run_eq_follow, hFollow]

end Wait

end ScreenQuery
