import ScreenQuery.Proofs.Wait.Polling

/-!
# The contract of waits

* A wait shows its check every screen that could be read, once and in order, and no other
  (`looks`). It ends with the first screen that the check accepts.
* Without such a screen it fails, but not before its patience has run out; the failure names what
  went wrong last (`troubles`).
* It asks for nothing after its patience has run out, and it pauses between its requests, so there
  are not many of them.

About `poll_until`, with `timeout` and `timeout_with_cause` of `ApiError`.
-/

namespace ScreenQuery

open Wait

/-- The screen that a call showed, if it could be read, and when. -/
def Call.look? (start : Nat) (call : Call) : Option (Nat × Snapshot) :=
  match call.reply with
  | .ok s => if s.isDegraded then none else some (call.ended - start, s)
  | .error _ => none

/-- What went wrong with a call, in words, if anything: the screen could not be read, or the call
failed. -/
def Call.trouble? (call : Call) : Option Text :=
  match call.reply with
  | .ok s => s.diagnostic.map fun reason => "unparseable dump: " ++ reason
  | .error (.io command source) => some ("failed to run '" ++ command ++ "': " ++ source)
  | .error (.commandFailed command status errors) =>
    some ("'" ++ command ++ "' exited with status " ++ Text.ofInt status ++ ": " ++ errors)
  | .error (.unavailable reason) => some ("device unavailable: " ++ reason)
  | .error (.unsupported what) => some (what ++ " is not supported by this bridge")

theorem Call.trouble?_of_ok (force : Bool) (began ended : Nat) (s : Snapshot) :
    Call.trouble? ⟨force, began, ended, .ok s⟩ = s.diagnostic.map unreadable :=
  rfl

theorem Call.trouble?_of_error (force : Bool) (began ended : Nat) (error : BridgeError) :
    Call.trouble? ⟨force, began, ended, .error error⟩ = some error.message := by
  cases error <;> rfl

namespace Wait

variable {τ σ β : Type} {host : Host τ} {what : Text} {patience : Patience} {check : Check σ β}
  {start elapsed finish : Nat} {progress : Progress σ} {state last : τ} {calls : List Call}
  {outcome : Except Failure β × σ}

/-- The screens that could be read, with their times from the start of the wait. -/
def looks (start : Nat) (calls : List Call) : List (Nat × Snapshot) :=
  calls.filterMap (Call.look? start)

/-- What went wrong, in order. -/
def troubles (calls : List Call) : List Text := calls.filterMap Call.trouble?

/-- What a check remembers of some screens that it was shown. -/
def remembered (check : Check σ β) (memory : σ) (seen : List (Nat × Snapshot)) : σ :=
  seen.foldl (fun memory look => (check memory look.1 look.2).2) memory

/-- What a check finds on the first screen that it accepts. -/
def firstAccepted (check : Check σ β) (memory : σ) : List (Nat × Snapshot) → Option β
  | [] => none
  | look :: rest =>
    (check memory look.1 look.2).1.or (firstAccepted check (check memory look.1 look.2).2 rest)

theorem looks_cons (call : Call) :
    looks start (call :: calls) = looks start [call] ++ looks start calls :=
  List.filterMap_append (l := [call])

theorem troubles_cons (call : Call) :
    troubles (call :: calls) = troubles [call] ++ troubles calls :=
  List.filterMap_append (l := [call])

theorem remembered_append (memory : σ) (seen more : List (Nat × Snapshot)) :
    remembered check memory (seen ++ more) =
      remembered check (remembered check memory seen) more :=
  List.foldl_append

theorem firstAccepted_append (memory : σ) (seen more : List (Nat × Snapshot)) :
    firstAccepted check memory (seen ++ more) = (firstAccepted check memory seen).or
      (firstAccepted check (remembered check memory seen) more) := by
  induction seen generalizing memory with
  | nil => rfl
  | cons look rest ih =>
    simp only [List.cons_append, firstAccepted, ih, Option.or_assoc]
    rfl

/-! ## One request -/

section Examine

variable {asked began : Nat} {force : Bool} {reply : Except BridgeError Snapshot}
  {found : Option β} {after : Progress σ}
  (h : examine check (progress.probed patience asked) elapsed reply = (found, after))

include h

/-- The check is shown the screen of a request, if it could be read. -/
theorem looks_of_examine :
    firstAccepted check progress.memory (looks start [⟨force, began, start + elapsed, reply⟩]) =
        found ∧
      remembered check progress.memory (looks start [⟨force, began, start + elapsed, reply⟩]) =
        after.memory := by
  unfold looks Call.look?
  cases examined_of_eq h with
  | failed error => exact ⟨rfl, (probed_memory progress patience asked).symm⟩
  | unread hReason => simp [Snapshot.isDegraded, hReason, firstAccepted, remembered]
  | shown hRead hCheck =>
    rw [probed_memory] at hCheck
    simp [hRead, hCheck, firstAccepted, remembered]

theorem cause_of_examine :
    (troubles [⟨force, began, start + elapsed, reply⟩]).getLast?.or progress.cause =
      after.cause := by
  unfold troubles
  cases examined_of_eq h with
  | failed error => simp [Call.trouble?_of_error]
  | unread hReason => simp [Call.trouble?_of_ok, hReason]
  | shown hRead _ =>
    simp [Call.trouble?_of_ok, Snapshot.isDegraded_eq_false_iff.mp hRead]

end Examine

/-! ## All requests -/

theorem add_pauseAt_le {elapsed : Nat} (hTime : elapsed < patience.timeout) :
    elapsed + pauseAt patience elapsed ≤ patience.timeout := by
  unfold pauseAt
  omega

theorem pause_pos (patience : Patience) : 0 < patience.pause :=
  Nat.lt_of_lt_of_le Nat.one_pos (Nat.le_max_right _ _)

/-- How many pauses it takes to fill some time. -/
def pausesIn (patience : Patience) (time : Nat) : Nat :=
  (time + patience.pause - 1) / patience.pause

/-- Each pause but the last takes its full length. -/
theorem pausesIn_lt {elapsed now : Nat} (hNow : elapsed ≤ now) (hTime : now < patience.timeout) :
    pausesIn patience (patience.timeout - (now + pauseAt patience now)) <
      pausesIn patience (patience.timeout - elapsed) := by
  have hPause := pause_pos patience
  unfold pausesIn pauseAt
  rcases Nat.le_total patience.pause (patience.timeout - now) with hFull | hClipped
  · rw [Nat.min_eq_left hFull, ← Nat.succ_le_iff, Nat.succ_eq_add_one, ← Nat.add_div_right _ hPause]
    exact Nat.div_le_div_right (by omega)
  · -- the last pause ends when the patience runs out
    rw [Nat.min_eq_right hClipped, Nat.add_sub_cancel' (Nat.le_of_lt hTime), Nat.sub_self,
      Nat.zero_add, Nat.div_eq_of_lt (Nat.sub_lt hPause Nat.one_pos)]
    exact Nat.div_pos (by omega) hPause

namespace Polled

variable
  (h : Polled host what patience check start progress elapsed state calls outcome finish last)

include h

/-- A wait returns what its check finds first. -/
theorem firstAccepted_eq :
    firstAccepted check progress.memory (looks start calls) = outcome.1.toOption := by
  induction h with
  | accept _ hExamine => exact (looks_of_examine hExamine).1
  | giveUp _ hExamine _ => exact (looks_of_examine hExamine).1
  | again _ hExamine _ _ ih =>
    rw [looks_cons, firstAccepted_append, (looks_of_examine hExamine).1,
      (looks_of_examine hExamine).2, ih]
    rfl

theorem remembered_eq :
    remembered check progress.memory (looks start calls) = outcome.2 := by
  induction h with
  | accept _ hExamine => exact (looks_of_examine hExamine).2
  | giveUp _ hExamine _ => exact (looks_of_examine hExamine).2
  | again _ hExamine _ _ ih =>
    rw [looks_cons, remembered_append, (looks_of_examine hExamine).2, ih]

theorem calls_ne_nil : calls ≠ [] := by
  cases h <;> exact List.cons_ne_nil _ _

/-- A wait does not go on after its check has accepted a screen. -/
theorem firstAccepted_dropLast :
    firstAccepted check progress.memory (looks start calls.dropLast) = none := by
  induction h with
  | accept | giveUp => rfl
  | again _ hExamine _ hRest ih =>
    rw [List.dropLast_cons_of_ne_nil hRest.calls_ne_nil, looks_cons, firstAccepted_append,
      (looks_of_examine hExamine).1, (looks_of_examine hExamine).2, ih]
    rfl

/-- A wait fails once its patience has run out, and tells what went wrong last. -/
theorem failure_eq {failure : Failure} (hFailure : outcome.1 = .error failure) :
    patience.timeout ≤ finish ∧
      failure = expired what finish ((troubles calls).getLast?.or progress.cause) := by
  induction h with
  | accept => cases hFailure
  | giveUp _ hExamine hTime =>
    cases hFailure
    rw [cause_of_examine hExamine]
    exact ⟨hTime, rfl⟩
  | again _ hExamine _ _ ih =>
    obtain ⟨hTime, hEq⟩ := ih hFailure
    rw [troubles_cons, List.getLast?_append, Option.or_assoc, cause_of_examine hExamine]
    exact ⟨hTime, hEq⟩

/-- Nothing is asked for after the patience has run out. -/
theorem began_le (hStart : elapsed ≤ patience.timeout) :
    ∀ call ∈ calls, call.began ≤ start + patience.timeout := by
  induction h with
  | accept | giveUp =>
    intro call hCall
    rw [List.mem_singleton] at hCall
    subst hCall
    exact Nat.add_le_add_left hStart start
  | again _ _ hTime _ ih =>
    intro call hCall
    rcases List.mem_cons.mp hCall with rfl | hCall
    · exact Nat.add_le_add_left hStart start
    · exact ih (add_pauseAt_le hTime) call hCall

/-- When calls take no time, a wait fails at the moment at which its patience runs out. -/
theorem finish_eq (hStart : elapsed ≤ patience.timeout)
    (hInstant : ∀ call ∈ calls, call.ended = call.began) {failure : Failure}
    (hFailure : outcome.1 = .error failure) : finish = patience.timeout := by
  induction h with
  | accept => cases hFailure
  | giveUp _ _ hTime =>
    have hEnded := hInstant _ (List.mem_singleton_self _)
    simp only at hEnded
    omega
  | again _ _ hTime _ ih =>
    exact ih (add_pauseAt_le hTime) (fun call hCall => hInstant call (List.mem_cons_of_mem _ hCall))
      hFailure

theorem length_le (hStart : elapsed ≤ patience.timeout) :
    calls.length ≤ pausesIn patience (patience.timeout - elapsed) + 1 := by
  induction h with
  | accept | giveUp => exact Nat.le_add_left _ _
  | again _ _ hTime _ ih =>
    have hRest := ih (add_pauseAt_le hTime)
    have hPauses := pausesIn_lt (Nat.le_add_right _ _) hTime
    rw [List.length_cons]
    omega

/-- A wait is over with the first screen that its check accepts whatever it remembers. -/
theorem ok_of_accepted {s : Snapshot} {value : β} (hRead : s.isDegraded = false)
    (hFound : ∀ memory elapsed, (check memory elapsed s).1 = some value) :
    ∀ call ∈ calls, call.reply = .ok s → outcome.1 = .ok value ∧ call.ended = start + finish := by
  have hExamined : ∀ {progress after : Progress σ} {elapsed : Nat} {found : Option β},
      examine check progress elapsed (.ok s) = (found, after) → found = some value := by
    intro progress after elapsed found hExamine
    rw [examine_of_readable hRead] at hExamine
    rw [← (Prod.mk.inj hExamine).1]
    exact hFound _ _
  induction h with
  | accept _ hExamine =>
    intro call hCall hReply
    obtain rfl := List.mem_singleton.mp hCall
    obtain rfl := hReply
    obtain rfl := Option.some.inj (hExamined hExamine)
    exact ⟨rfl, rfl⟩
  | giveUp _ hExamine _ =>
    intro call hCall hReply
    obtain rfl := List.mem_singleton.mp hCall
    obtain rfl := hReply
    cases hExamined hExamine
  | again _ hExamine _ _ ih =>
    intro call hCall hReply
    rcases List.mem_cons.mp hCall with rfl | hCall
    · obtain rfl := hReply
      cases hExamined hExamine
    · exact ih call hCall hReply

end Polled

/-- A wait whose check remembers nothing returns what the check finds on a screen, as soon as a
request is answered with that screen. -/
theorem ok_of_found (host : Host τ) (what : Text) (patience : Patience)
    {find : Snapshot → Option β} {s : Snapshot} {value : β} (hRead : s.isDegraded = false)
    (hFound : find s = some value) (start : Nat) (state : τ) :
    let followed := (untilSome what patience find).follow host start state
    ∀ call ∈ followed.calls, call.reply = .ok s →
      followed.value = .ok value ∧ call.ended = followed.finish := by
  obtain ⟨calls, outcome, finish, last, hFollow, h⟩ := polled_follow host what patience
    (fun _ _ s => (find s, ())) start (.start ()) 0 state
  rw [Nat.add_zero] at hFollow
  unfold untilSome pollUntil
  rw [Plan.follow_bind_done, hFollow]
  exact h.ok_of_accepted hRead fun _ _ => hFound

/-- What a wait that fails tells to try. -/
def hint : Text :=
  "The condition never held. Try increasing --timeout or check that " ++
    "the selector matches the screen you expect"

/-- What a wait makes of the replies to its requests. -/
structure Contract (what : Text) (patience : Patience) (check : Check σ β) (memory : σ)
    (start : Nat) (followed : Followed τ (Except Failure β × σ)) : Prop where
  /-- The wait returns what the check finds on the first screen that it accepts. -/
  ok_iff : ∀ value, followed.value.1 = .ok value ↔
    firstAccepted check memory (looks start followed.calls) = some value
  /-- The check is shown every screen that could be read, once and in order, and nothing else. -/
  memory_eq : followed.value.2 = remembered check memory (looks start followed.calls)
  /-- Only the last request can bring a screen that is accepted. -/
  accepted_last : firstAccepted check memory (looks start followed.calls.dropLast) = none
  /-- The wait fails once its patience has run out. -/
  timeout_le : ∀ failure, followed.value.1 = .error failure →
    start + patience.timeout ≤ followed.finish
  timeout_eq : ∀ failure, followed.value.1 = .error failure →
    (∀ call ∈ followed.calls, call.ended = call.began) →
    followed.finish = start + patience.timeout
  /-- The failure tells what was waited for and for how long, and no cause if nothing went wrong. -/
  failure_eq : ∀ failure, followed.value.1 = .error failure → troubles followed.calls = [] →
    failure = ⟨.timeout,
      "Timeout waiting for " ++ what ++ " after " ++ Text.ofNat (followed.finish - start) ++ "ms",
      some hint⟩
  /-- Its cause is what went wrong last. -/
  failure_eq_cause : ∀ failure, followed.value.1 = .error failure →
    ∀ cause, (troubles followed.calls).getLast? = some cause →
    failure = ⟨.timeout,
      "Timeout waiting for " ++ what ++ " after " ++ Text.ofNat (followed.finish - start) ++ "ms" ++
        " (last capture error: " ++ cause ++ ")",
      some hint⟩
  began_le : ∀ call ∈ followed.calls, call.began ≤ start + patience.timeout
  length_le : followed.calls.length ≤ pausesIn patience patience.timeout + 1

/-- **Every wait keeps its contract**, whatever it is served and however long that takes. -/
theorem contract_pollUntil (host : Host τ) (what : Text) (patience : Patience) (check : Check σ β)
    (memory : σ) (start : Nat) (state : τ) :
    Contract what patience check memory start
      ((pollUntil what patience check memory).follow host start state) := by
  obtain ⟨calls, outcome, finish, last, hFollow, h⟩ :=
    polled_follow host what patience check start (.start memory) 0 state
  rw [Nat.add_zero] at hFollow
  unfold pollUntil
  rw [hFollow]
  constructor
  case ok_iff =>
    intro value
    show outcome.1 = .ok value ↔ firstAccepted check memory (looks start calls) = some value
    have hFound : firstAccepted check memory (looks start calls) = outcome.1.toOption :=
      h.firstAccepted_eq
    rw [hFound]
    cases outcome.1 with
    | ok found => exact ⟨fun hEq => congrArg Except.toOption hEq, fun hEq => by cases hEq; rfl⟩
    | error failure => exact ⟨nofun, nofun⟩
  case memory_eq => exact h.remembered_eq.symm
  case accepted_last => exact h.firstAccepted_dropLast
  case timeout_le =>
    intro failure hFailure
    exact Nat.add_le_add_left (h.failure_eq hFailure).1 start
  case timeout_eq =>
    intro failure hFailure hInstant
    rw [h.finish_eq (Nat.zero_le _) hInstant hFailure]
  case failure_eq =>
    intro failure hFailure hNone
    rw [(h.failure_eq hFailure).2, hNone, Nat.add_sub_cancel_left]
    rfl
  case failure_eq_cause =>
    intro failure hFailure cause hCause
    rw [(h.failure_eq hFailure).2, hCause, Nat.add_sub_cancel_left]
    rfl
  case began_le => exact h.began_le (Nat.zero_le _)
  case length_le => exact h.length_le (Nat.zero_le _)

end Wait

end ScreenQuery
