import ScreenQuery.Proofs.Session.Course
import ScreenQuery.Proofs.Session.Waits

/-!
# Inputs reach the device once or not at all

Workers use one session, and one of them performs an input while the others go on in any way.

* `IsInput` lists the inputs of a session with the one action that each passes on. The places of an
  element are those of the node that its handle was made of.
* `OneInput` is what such an operation does: it has no other steps than `inputSteps`, and when it
  returns it has made all of them, so the bridge was called once; it reports how the bridge answered
  that call; and with its last step nothing is cached any more.
* `WaitsAndTaps` is how far a worker may have come that waits for an element and taps it. A wait has
  no inputs among its steps, so there are none when it fails.

About the inputs of `DeviceSession` from `tap` to `press_key`, with `after_action`.
-/

namespace ScreenQuery.Session

variable {σ ν α β : Type} {bridge : Bridge σ}

/-! ## One input -/

/-- All steps of an input: it is passed on, and then the cached snapshot is dropped. -/
def inputSteps (action : Action) (result : Except BridgeError Unit) : List Event :=
  [.inputAsked action, .inputBegan action, .inputEnded result, .dropAsked, .dropped]

/-- An operation that has called the bridge comes to its value if the call succeeded, and otherwise
reports that the device failed. -/
structure Reports (name : Text) (value : β) (result : Except BridgeError Unit)
    (outcome : Except Failure β) : Prop where
  ok : result = .ok () → outcome = .ok value
  failed : ∀ error, result = .error error → ∃ failure, outcome = .error failure ∧
    failure.code = .deviceError ∧ failure.message = name ++ " failed: " ++ error.message

/-- An input that worker `i` has passed on, with the result of the call. -/
structure Dispatched (bridge : Bridge σ) (origin : System σ ν α) (i : Nat) (action : Action)
    (result : Except BridgeError Unit) (events : List (Nat × Event)) (system : System σ ν α) :
    Prop where
  steps : ownSteps i events = inputSteps action result
  called : Called bridge origin events system i action result
  emptied : ∃ before after, Moment bridge origin events system i .dropped before after ∧
    after.shared.session.cache.current = none

/-- How far an operation may have come that passes one input on. -/
structure OneInput (bridge : Bridge σ) (origin : System σ ν α) (i : Nat) (name : Text)
    (action : Action) (value : β) (events : List (Nat × Event)) (system : System σ ν α)
    (phase : Phase (Except Failure β)) : Prop where
  started : ∃ result, ownSteps i events <+: inputSteps action result
  returned : ∀ outcome, phase = .ready (.done outcome) → ∃ result,
    Dispatched bridge origin i action result events system ∧ Reports name value result outcome

section

variable {i : Nat} {name : Text} {action : Action} {value : β}
  {report : Except BridgeError Unit → Except Failure β}

theorem reports_mapError (name : Text) (value : β) (result : Except BridgeError Unit) :
    Reports name value result ((result.mapError (inputFailed name)).map fun _ => value) := by
  constructor
  · rintro rfl
    rfl
  · rintro error rfl
    exact ⟨inputFailed name error, rfl, rfl, rfl⟩

/-- The course of an input that is followed by dropping the snapshot. -/
theorem Phase.Course.of_input {job : Job ν (Except Failure β)} {events : List Event}
    {last : Phase (Except Failure β)}
    (h : Course bridge job i
      (.ready (.act action fun result => .invalidate (.done (report result)))) events last) :
    (∃ result, events <+: inputSteps action result) ∧ ∀ outcome, last = .ready (.done outcome) →
      ∃ result, events = inputSteps action result ∧ outcome = report result := by
  rcases h.of_act with ⟨hBegun, hBusy⟩ | ⟨result, rest, rfl, hEnded⟩
  · refine ⟨⟨.ok (), hBegun.trans ⟨_, rfl⟩⟩, ?_⟩
    rintro outcome rfl
    exact hBusy.elim
  · rcases hEnded.of_invalidate with ⟨hBegun, hBusy⟩ | ⟨rest, rfl, hDropped⟩
    · refine ⟨⟨result, ?_⟩, ?_⟩
      · exact (List.prefix_append_right_inj _).mpr (hBegun.trans ⟨[.dropped], rfl⟩)
      · rintro outcome rfl
        exact hBusy.elim
    · obtain ⟨rfl, rfl⟩ := hDropped.of_done
      refine ⟨⟨result, List.prefix_rfl⟩, fun outcome hLast => ⟨result, rfl, ?_⟩⟩
      cases hLast
      rfl

variable {origin system : System σ ν α} {rest : Except Failure β → Plan α}
  {events : List (Nat × Event)} {phase : Phase (Except Failure β)}

/-- **An operation that passes one input on and drops the snapshot does just that.** -/
theorem Performs.oneInput
    (h : Performs bridge origin i
      (.act action fun result => .invalidate (.done (report result))) rest events system phase)
    (hReport : ∀ result, Reports name value result (report result)) :
    OneInput bridge origin i name action value events system phase := by
  obtain ⟨hStarted, hReturned⟩ := h.course.of_input
  refine ⟨hStarted, fun outcome hPhase => ?_⟩
  obtain ⟨result, hSteps, rfl⟩ := hReturned outcome hPhase
  -- the call whose result has ended is the only one
  have hEnded : .inputEnded result ∈ ownSteps i events := by simp [hSteps, inputSteps]
  obtain ⟨other, hCalled⟩ := h.called hEnded
  have hOnly : other = action := by simpa [hSteps, inputSteps] using mem_ownSteps.mpr hCalled.mem
  subst hOnly
  have hDropped : (i, Event.dropped) ∈ events := mem_ownSteps.mp (by simp [hSteps, inputSteps])
  obtain ⟨before, after, hMoment⟩ := h.history.exists_moment hDropped
  exact ⟨result, ⟨hSteps, hCalled, before, after, hMoment, hMoment.current_eq⟩, hReport result⟩

end

/-! ## The inputs of a session -/

/-- The inputs of a session: what they are called in a failure, and what they pass on. A duration
that takes more than 64 bits is passed on as the longest that does not. -/
inductive IsInput : Operation Unit → Text → Action → Prop
  | tap {s : Snapshot} {id : NodeId} {selector : Option Selector} {handle : Handle} {node : Node}
      (hHandle : Handle.of? s id selector = some handle) (hNode : s.get? id = some node) :
      IsInput (tap handle) "tap" (.tap node.bounds.center)
  | tapPoint (spot : Point) : IsInput (tapPoint spot) "tap" (.tap spot)
  | longPress {s : Snapshot} {id : NodeId} {selector : Option Selector} {handle : Handle}
      {node : Node} (hHandle : Handle.of? s id selector = some handle)
      (hNode : s.get? id = some node) (duration : Nat) :
      IsInput (longPress handle duration) "long press"
        (.swipe node.bounds.center node.bounds.center (min duration 18446744073709551615))
  | swipe (start finish : Point) (duration : Nat) :
      IsInput (swipe start finish duration) "swipe"
        (.swipe start finish (min duration 18446744073709551615))
  | drag {s s' : Snapshot} {id id' : NodeId} {selector selector' : Option Selector}
      {handle handle' : Handle} {node node' : Node}
      (hHandle : Handle.of? s id selector = some handle) (hNode : s.get? id = some node)
      (hHandle' : Handle.of? s' id' selector' = some handle') (hNode' : s'.get? id' = some node')
      (duration : Nat) :
      IsInput (drag handle handle' duration) "swipe"
        (.swipe node.bounds.center node'.bounds.center (min duration 18446744073709551615))
  | typeText {words : Text} (hWords : words ≠ []) : IsInput (typeText words) "type" (.typing words)
  | pressKey (code : UInt32) : IsInput (pressKey code) "key" (.key code)

/-- A handle keeps the centre of the node that it was made of. -/
theorem center_of_of? {s : Snapshot} {id : NodeId} {selector : Option Selector} {handle : Handle}
    {node : Node} (hHandle : Handle.of? s id selector = some handle)
    (hNode : s.get? id = some node) : handle.center = node.bounds.center := by
  rw [Handle.of?_eq_some hNode] at hHandle
  cases hHandle
  rfl

theorem IsInput.eq_dispatch {operation : Operation Unit} {name : Text} {action : Action}
    (h : IsInput operation name action) : operation = dispatch name action := by
  cases h with
  | tap hHandle hNode => rw [Session.tap, center_of_of? hHandle hNode, Session.tapPoint]
  | tapPoint spot => rfl
  | longPress hHandle hNode duration =>
    rw [Session.longPress, center_of_of? hHandle hNode]
    rfl
  | swipe start finish duration => rfl
  | drag hHandle hNode hHandle' hNode' duration =>
    rw [Session.drag, center_of_of? hHandle hNode, center_of_of? hHandle' hNode', Session.swipe]
    rfl
  | typeText hWords => rw [Session.typeText, if_neg (by simpa using hWords)]
  | pressKey code => rfl

/-! ## Waiting for an element and tapping it -/

/-- The element of the handle is the first one that a selector picks and that is shown, it covers
some area, and its centre lies within its bounds. -/
structure IsTarget (selector : Selector) (handle : Handle) : Prop where
  first : handle.snapshot.FirstShown selector handle.id
  width_pos : 0 < handle.bounds.width
  height_pos : 0 < handle.bounds.height
  covers : handle.bounds.Covers handle.center

/-- How far a worker may have come that waits for an element and taps it. -/
inductive WaitsAndTaps (bridge : Bridge σ) (origin : System σ ν α) (i : Nat) (selector : Selector)
    (patience : Patience) : List (Nat × Event) → System σ ν α → Phase (Except Failure Handle) → Prop
  /-- It still waits. -/
  | waiting {during : List (Nat × Event)} {system : System σ ν α}
      {phase : Phase (Except Failure Handle)} (hBusy : phase.Busy)
      (hQuiet : ∀ event ∈ ownSteps i during, event.isInput = false) :
      WaitsAndTaps bridge origin i selector patience during system phase
  /-- The wait has failed, and so has the operation. -/
  | failed {during later : List (Nat × Event)} {middle system : System σ ν α}
      {rest : Except Failure Handle → Plan α} {failure : Failure}
      (hWait : Performs bridge origin i (waitFor selector patience) rest during middle
        (.ready (.done (.error failure))))
      (hQuiet : ∀ event ∈ ownSteps i during, event.isInput = false)
      (hNothing : ownSteps i later = []) :
      WaitsAndTaps bridge origin i selector patience (during ++ later) system
        (.ready (.done (.error failure)))
  /-- The wait has found an element on a screen that it was given, and the element is tapped. -/
  | tapping {during later : List (Nat × Event)} {middle system : System σ ν α}
      {rest : Except Failure Handle → Plan α} {phase : Phase (Except Failure Handle)}
      {handle : Handle}
      (hWait : Performs bridge origin i (waitFor selector patience) rest during middle
        (.ready (.done (.ok handle))))
      (hQuiet : ∀ event ∈ ownSteps i during, event.isInput = false)
      (hSeen : HandedOut during i handle.snapshot) (hTarget : IsTarget selector handle)
      (hTap : OneInput bridge middle i "tap" (.tap handle.center) handle later system phase) :
      WaitsAndTaps bridge origin i selector patience (during ++ later) system phase

/-- Who has succeeded in waiting for an element and tapping it has tapped that element once. -/
theorem WaitsAndTaps.of_ok {origin system : System σ ν α} {i : Nat} {selector : Selector}
    {patience : Patience} {events : List (Nat × Event)} {handle : Handle}
    (h : WaitsAndTaps bridge origin i selector patience events system
      (.ready (.done (.ok handle)))) :
    IsTarget selector handle ∧ ∃ earlier later, events = earlier ++ later ∧
      (∀ event ∈ ownSteps i earlier, event.isInput = false) ∧
      ownSteps i later = inputSteps (.tap handle.center) (.ok ()) := by
  cases h with
  | waiting hBusy _ => exact hBusy.elim
  | @tapping earlier later _ _ _ _ _ _ hQuiet _ hTarget hTap =>
    obtain ⟨result, hDispatched, hReports⟩ := hTap.returned _ rfl
    cases result with
    | ok =>
      cases hReports.ok rfl
      exact ⟨hTarget, earlier, later, rfl, hQuiet, hDispatched.steps⟩
    | error error =>
      obtain ⟨failure, hFailure, -⟩ := hReports.failed error rfl
      cases hFailure

section

variable {freshness : Nat} {device : σ} {board : ν} {jobs : List (Job ν α)}
  {before : List (Nat × Event)} {origin system : System σ ν α} {i : Nat} {selector : Selector}
  {patience : Patience} {events : List (Nat × Event)}

/-- What a wait has found, it has found on a screen that it was given. -/
theorem Performs.target
    (hBefore : History bridge (.start (.start freshness device) board jobs) before origin)
    {rest : Except Failure Handle → Plan α} {handle : Handle}
    (h : Performs bridge origin i (waitFor selector patience) rest events system
      (.ready (.done (.ok handle)))) :
    HandedOut events i handle.snapshot ∧ IsTarget selector handle := by
  obtain ⟨s, hHanded, -, hFound⟩ := h.gives (Wait.gives_untilSome _) handle rfl
  have hParsed := hBefore.parsed rfl h.history hHanded
  obtain ⟨rfl, hFirst⟩ := firstShown_eq_some hParsed hFound
  obtain ⟨-, -, -, -, hShows⟩ := id hFirst
  obtain ⟨node, hNode, hShown⟩ := id hShows
  obtain rfl : handle.node = node := Option.some.inj (handle.get?_id.symm.trans hNode)
  exact ⟨hHanded, hFirst, hShown.width_pos, hShown.height_pos,
    Handle.covers_center hParsed hShows⟩

/-- **A worker that waits for an element taps what it has found, and nothing else.** -/
theorem Performs.waitsAndTaps
    (hBefore : History bridge (.start (.start freshness device) board jobs) before origin)
    {rest : Except Failure Handle → Plan α} {phase : Phase (Except Failure Handle)}
    (h : Performs bridge origin i (tapSelector selector patience) rest events system phase) :
    WaitsAndTaps bridge origin i selector patience events system phase := by
  unfold tapSelector at h
  cases h.of_bind with
  | first hBusy hFirst =>
    exact .waiting (hBusy.bind _) (hFirst.course.quiet (quiet_waitFor selector patience))
  | @second during later middle system found phase hWait hSecond =>
    have hQuiet := hWait.course.quiet (quiet_waitFor selector patience)
    cases found with
    | error failure =>
      obtain ⟨hNothing, rfl⟩ := hSecond.course.of_done
      exact .failed hWait hQuiet hNothing
    | ok handle =>
      have hTap : OneInput bridge middle i "tap" (.tap handle.center) handle later system phase :=
        Performs.oneInput hSecond fun result => reports_mapError "tap" handle result
      obtain ⟨hSeen, hTarget⟩ := hWait.target hBefore
      exact .tapping hWait hQuiet hSeen hTarget hTap

/-- **Inputs reach the device exactly once or not at all.** Workers use a new session in any way,
with any bridge and under any schedule, and then worker `i` performs an operation while the others
go on.

* An input passes on one action, with the places that its handles have kept. At no moment has it
  made other steps than those of that one input, and it can always be completed. When it returns,
  the bridge has been called once with the action; the operation has succeeded just when that call
  did, and reports a failure of the device otherwise; and nothing was cached when it had dropped the
  snapshot, its last step.
* Typing nothing is refused without any step, and a session alone stays as it is.
* Who waits for an element and taps it has made no input while it waits, and none when the wait
  fails. Otherwise it makes one tap, within the bounds of the first shown element that the selector
  picks. -/
theorem inputs_once_or_not_at_all
    (hBefore : History bridge (.start (.start freshness device) board jobs) before origin)
    (i : Nat) :
    (∀ operation name action rest during system phase, IsInput operation name action →
      Performs bridge origin i operation rest during system phase →
      OneInput bridge origin i name action () during system phase ∧
        ∃ more after outcome, Performs bridge origin i operation rest (during ++ more) after
          (.ready (.done outcome))) ∧
    (∀ rest during system phase, Performs bridge origin i (typeText []) rest during system phase →
      ownSteps i during = [] ∧
        phase = .ready (.done (.error (.invalidInput "Text to type must not be empty")))) ∧
    (∀ session, (typeText []).run bridge session =
      (.error (.invalidInput "Text to type must not be empty"), session)) ∧
    ∀ selector patience rest during system phase,
      Performs bridge origin i (tapSelector selector patience) rest during system phase →
      WaitsAndTaps bridge origin i selector patience during system phase ∧
        ∃ more after outcome, Performs bridge origin i (tapSelector selector patience) rest
          (during ++ more) after (.ready (.done outcome)) := by
  refine ⟨?_, ?_, fun session => rfl, ?_⟩
  · intro operation name action rest during system phase hInput h
    obtain rfl := hInput.eq_dispatch
    refine ⟨Performs.oneInput h fun result => ?_, h.exists_done hBefore⟩
    have hReports := reports_mapError name () result
    cases result <;> exact hReports
  · intro rest during system phase h
    exact h.course.of_done
  · intro selector patience rest during system phase h
    exact ⟨h.waitsAndTaps hBefore, h.exists_done hBefore⟩

end

/-- One worker waits for an element and taps it; the other asks for one at once. -/
def tapAndRequire : List (Job Unit (Except Failure Handle)) :=
  [⟨fun _ => (tapSelector anything Timing.default.patience).bind .done, fun _ board => board⟩,
    ⟨fun _ => require anything, fun _ board => board⟩]

/-- The system when the first worker is about to wait. -/
def aboutToTap : System Unit Unit (Except Failure Handle) where
  shared := ⟨.start 1000 (), (), [], []⟩
  workers := [⟨⟨fun _ => (tapSelector anything Timing.default.patience).bind .done,
        fun _ board => board⟩, .ready ((tapSelector anything Timing.default.patience).bind .done)⟩,
    ⟨⟨fun _ => require anything, fun _ board => board⟩, .waiting⟩]

theorem history_aboutToTap : History (.still squareDump)
    (.start (.start 1000 ()) () tapAndRequire) [(0, .began)] aboutToTap := by
  have h :=
    (History.start : History (.still squareDump) (.start (.start 1000 ()) () tapAndRequire) [] _)
  replace h := h.step (.mk rfl .begin : System.Step _ _ 0 _ _)
  exact h

/-- The second worker is served the screen that the first has captured for its wait, before the
first can drop it. The first has tapped once. -/
theorem tapped_once_beside : ∃ during system handle,
    Performs (.still squareDump) aboutToTap 0 (tapSelector anything Timing.default.patience) .done
        during system (.ready (.done (.ok handle))) ∧
      IsTarget anything handle ∧ ∃ earlier later, during = earlier ++ later ∧
        (∀ event ∈ ownSteps 0 earlier, event.isInput = false) ∧
        ownSteps 0 later = inputSteps (.tap handle.center) (.ok ()) := by
  have hSome : (firstShown anything (Dump.parse 1 squareDump)).isSome = true := by decide +kernel
  obtain ⟨handle, hHandle⟩ := Option.isSome_iff_exists.mp hSome
  obtain ⟨next, hPlan, hNext⟩ :=
    Wait.exists_untilSome_eq anything.toText Timing.default.patience (firstShown anything)
  have hFound := hNext (Dump.parse 1 squareDump) handle 0 (by decide +kernel) hHandle
  obtain ⟨more, hMore, hTap⟩ : ∃ more, tapSelector anything Timing.default.patience =
      waitForAnything.bind more ∧ more (.ok handle) =
        (tap handle).bind fun result => .done (result.map fun _ => handle) := ⟨_, rfl, rfl⟩
  have hAsks : tapSelector anything Timing.default.patience =
      .snapshot false fun reply taken => (next reply taken).bind more :=
    hMore.trans (congrArg (Plan.bind · more) hPlan)
  have h : Performs (.still squareDump) aboutToTap 0
      (tapSelector anything Timing.default.patience) .done [] aboutToTap
      (.ready (.snapshot false fun reply taken => (next reply taken).bind more)) := by
    rw [← hAsks]
    exact .begin rfl rfl
  replace h := h.own rfl trivial (.ask _ _)
  replace h := h.other (j := 1) (by decide) (.mk rfl .begin)
  replace h := h.other (j := 1) (by decide) (.mk rfl (.ask _ _))
  replace h := h.own rfl trivial (.miss rfl rfl)
  replace h := h.own rfl trivial (.beginCapture rfl rfl)
  have hTaps : Performs (.still squareDump) aboutToTap 0
      (tapSelector anything Timing.default.patience) .done _ _
      (.ready ((next (.ok (Dump.parse 1 squareDump)) 0).bind more)) :=
    h.own rfl trivial (.endCapture (Nat.le_refl _) rfl)
  rw [hFound, Plan.done_bind, hTap] at hTaps
  replace hTaps := hTaps.own rfl trivial (.askInput _ _)
  replace hTaps := hTaps.own rfl trivial (.beginInput rfl rfl)
  replace hTaps := hTaps.own rfl trivial (.endInput (Nat.le_refl _))
  replace hTaps := hTaps.own rfl trivial (.askDrop _)
  replace hTaps := hTaps.other (j := 1) (by decide) (.mk rfl (.serve rfl rfl))
  have hDone := hTaps.own rfl trivial (.drop rfl)
  obtain ⟨-, -, -, hAll⟩ := inputs_once_or_not_at_all history_aboutToTap 0
  exact ⟨_, _, handle, hDone, (hAll _ _ _ _ _ _ hDone).1.of_ok⟩

end ScreenQuery.Session
