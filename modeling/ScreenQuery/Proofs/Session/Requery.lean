import ScreenQuery.Proofs.Session.Waits

/-!
# Looking an element up again

A wait for an element takes the first *shown* one that its selector picks. A look-up takes the first
one of all, shown or not.

* What a selector picks depends on the elements of a screen alone (`Query.evaluate_congr`).
* A plan that asks for one snapshot and no more has one reply to go by (`Performs.answered`).
* So on a screen with the same elements a look-up after a wait finds an element, and it is the one
  of the wait just when the first that the selector picks is shown (`requery_after_wait`).

About `requery` and `wait_for`.
-/

namespace ScreenQuery

/-! ## The same elements -/

section SameNodes

variable {s s' : Snapshot} (h : s.nodes = s'.nodes)

include h

theorem Snapshot.get?_congr : s.get? = s'.get? := by
  funext id
  rw [get?, get?, h]

theorem Snapshot.children_congr (id : NodeId) : s.children id = s'.children id := by
  rw [children, children, get?_congr h]

theorem Snapshot.descendants_congr (id : NodeId) : s.descendants id = s'.descendants id := by
  rw [descendants, descendants, get?_congr h, h]

theorem PathQuery.reach_congr (step : Step) : reach s step = reach s' step := by
  funext id
  unfold reach
  rw [Snapshot.children_congr h, Snapshot.descendants_congr h]

theorem PathQuery.follow_congr (contexts : List NodeId) (steps : List Step) :
    follow s contexts steps = follow s' contexts steps := by
  induction steps generalizing contexts with
  | nil => rfl
  | cons step steps ih =>
    rw [follow, follow, reach_congr h]
    split
    · rfl
    · exact ih _

theorem Query.candidates_congr (context : Option NodeId) :
    candidates s context = candidates s' context := by
  cases context with
  | none => rw [candidates, candidates, h]
  | some id => exact Snapshot.descendants_congr h id

end SameNodes

namespace Query

variable {s s' : Snapshot}

mutual

/-- A selector picks the same elements when the elements are the same. -/
theorem evaluate_congr (h : s.nodes = s'.nodes) (context : Option NodeId) :
    ∀ selector : Selector, evaluate s context selector = evaluate s' context selector
  | .predicate clauses => by rw [evaluate, evaluate, candidates_congr h]
  | .shorthand short => by rw [evaluate, evaluate, candidates_congr h]
  | .path query => PathQuery.follow_congr h _ _
  | .alternatives items => firstResult_congr h context items

theorem firstResult_congr (h : s.nodes = s'.nodes) (context : Option NodeId) :
    ∀ items : List Selector, firstResult s context items = firstResult s' context items
  | [] => rfl
  | item :: rest => by
    rw [firstResult, firstResult, evaluate_congr h context item, firstResult_congr h context rest]

end

end Query

/-- What stands first among the picked elements, seen from the first shown one. -/
theorem Snapshot.FirstShown.head_cases {s : Snapshot} {selector : Selector} {id : NodeId}
    (h : s.FirstShown selector id) :
    ∃ first, (Query.findAll s selector).head? = some first ∧ (first = id ↔ s.Shows first) := by
  obtain ⟨before, after, hSplit, hBefore, hShows⟩ := h
  cases before with
  | nil => exact ⟨id, by rw [hSplit]; rfl, fun _ => hShows, fun _ => rfl⟩
  | cons first before =>
    refine ⟨first, by rw [hSplit]; rfl, fun hSame => hSame ▸ hShows, fun hFirst => ?_⟩
    exact absurd hFirst (hBefore first List.mem_cons_self)

/-- The first element that a selector picks on a screen with the same elements. -/
theorem Handle.exists_findFirst {s p : Snapshot} (hSame : s.nodes = p.nodes) (hParsed : p.Parsed)
    {selector : Selector} (hSelector : selector.WellFormed) {first : NodeId}
    (hHead : (Query.findAll p selector).head? = some first) :
    ∃ again, Handle.findFirst s selector = some again ∧ again.snapshot = s ∧ again.id = first ∧
      again.selector = some selector ∧ p.get? first = some again.node := by
  have hTree : PreOrder p.nodes := by
    obtain ⟨number, dump, rfl⟩ := hParsed
    exact Dump.preOrder_parse number dump
  obtain ⟨node, hNode⟩ :=
    Query.evaluate_valid hTree hSelector none first (List.mem_of_mem_head? hHead)
  have hThere : s.get? first = some node := by rw [Snapshot.get?_congr hSame, hNode]
  have hPicked : Query.findFirst s selector = some first := by
    rw [Query.findFirst_eq_head?, ← hHead]
    exact congrArg List.head? (Query.evaluate_congr hSame none selector)
  refine ⟨⟨s, first, node, some selector, hThere⟩, ?_, rfl, rfl, rfl, hNode⟩
  rw [Handle.findFirst, hPicked, Option.bind_some, Handle.of?_eq_some hThere]

namespace Session

variable {σ ν α β : Type} {bridge : Bridge σ} {i : Nat} {events : List (Nat × Event)}

/-! ## One request -/

/-- Worker `i` has been given no reply. -/
def Unanswered (events : List (Nat × Event)) (i : Nat) : Prop :=
  ∀ event, (i, event) ∈ events → event.reply? = none

/-- Worker `i` has been given this reply and no other. -/
def Answered (events : List (Nat × Event)) (i : Nat) (reply : Except BridgeError Snapshot) : Prop :=
  ∀ event other, (i, event) ∈ events → event.reply? = some other → other = reply

/-- How far a plan has come that asks once and goes by the reply. -/
def Phase.Asking (events : List (Nat × Event)) (i : Nat)
    (look : Except BridgeError Snapshot → β) : Phase β → Prop
  | ready (.snapshot _ next) | awaitingCache _ _ next | awaitingDevice _ next
  | capturing _ _ _ next =>
    (∀ reply taken, next reply taken = .done (look reply)) ∧ Unanswered events i
  | ready (.done value) => ∃ reply, value = look reply ∧ Answered events i reply
  | _ => False

theorem Unanswered.snoc (h : Unanswered events i) {event : Event} (hNone : event.reply? = none) :
    Unanswered (events ++ [(i, event)]) i := by
  intro other hOther
  rcases List.mem_append.mp hOther with hOther | hOther
  · exact h other hOther
  · obtain ⟨-, rfl⟩ := Prod.mk.inj (List.mem_singleton.mp hOther)
    exact hNone

theorem Unanswered.answer (h : Unanswered events i) {event : Event}
    {reply : Except BridgeError Snapshot} (hReply : event.reply? = some reply) :
    Answered (events ++ [(i, event)]) i reply := by
  intro other reply' hOther hReply'
  rcases List.mem_append.mp hOther with hOther | hOther
  · cases (h other hOther).symm.trans hReply'
  · obtain ⟨-, rfl⟩ := Prod.mk.inj (List.mem_singleton.mp hOther)
    exact Option.some.inj (hReply'.symm.trans hReply)

/-- The events of others are no replies to worker `i`. -/
theorem mem_snoc_of_ne {j : Nat} (hne : j ≠ i) {event other : Event}
    (h : (i, other) ∈ events ++ [(j, event)]) : (i, other) ∈ events := by
  rcases List.mem_append.mp h with h | h
  · exact h
  · exact absurd (Prod.mk.inj (List.mem_singleton.mp h)).1.symm hne

theorem Phase.Asking.other {look : Except BridgeError Snapshot → β} {phase : Phase β} {j : Nat}
    (hne : j ≠ i) (event : Event) (h : phase.Asking events i look) :
    phase.Asking (events ++ [(j, event)]) i look := by
  unfold Phase.Asking at h ⊢
  split at h
  case h_5 =>
    obtain ⟨reply, hValue, hAnswered⟩ := h
    refine ⟨reply, hValue, fun other reply' hOther => ?_⟩
    exact hAnswered other reply' (mem_snoc_of_ne hne hOther)
  case h_6 => exact h
  all_goals exact ⟨h.1, fun other hOther => h.2 other (mem_snoc_of_ne hne hOther)⟩

/-- One step of a plan that asks once. -/
theorem Phase.Step.asking {job : Job ν β} {shared shared' : Shared σ ν} {phase phase' : Phase β}
    {event : Event} {look : Except BridgeError Snapshot → β} (hBusy : phase.Busy)
    (hStep : Phase.Step bridge job i shared phase event phase' shared')
    (h : phase.Asking events i look) : phase'.Asking (events ++ [(i, event)]) i look := by
  cases hStep with
  | begin | finish => exact hBusy.elim
  | ask | miss | beginCapture => exact ⟨h.1, h.2.snoc rfl⟩
  | serve =>
    rw [h.1]
    exact ⟨_, rfl, h.2.answer rfl⟩
  | endCapture =>
    rw [h.1]
    exact ⟨_, rfl, h.2.answer rfl⟩
  | askInput | beginInput | endInput | askDrop | drop | sleep | wake => exact h.elim

/-- **A plan that asks once goes by the one reply that it is given.** -/
theorem Performs.answered {origin system : System σ ν α} {force : Bool}
    {look : Except BridgeError Snapshot → β} {rest : β → Plan α} {value : β}
    (h : Performs bridge origin i (.snapshot force fun reply _ => .done (look reply)) rest events
      system (.ready (.done value))) :
    ∃ reply, value = look reply ∧ Answered events i reply := by
  have hAll : ∀ {events system phase}, Performs bridge origin i
      (.snapshot force fun reply _ => .done (look reply)) rest events system phase →
      phase.Asking events i look := by
    intro events system phase h
    induction h with
    | begin => exact ⟨fun _ _ => rfl, fun _ h => nomatch h⟩
    | own _ _ hBusy hStep ih => exact hStep.asking hBusy ih
    | other _ hne _ ih => exact ih.other hne _
    | wait _ _ ih => exact ih
  exact hAll h

/-! ## A look-up after a wait -/

theorem selector_of_firstShown {selector : Selector} {s : Snapshot} {handle : Handle}
    (h : firstShown selector s = some handle) : handle.selector = some selector := by
  obtain ⟨id, -, hHandle⟩ := List.mem_filterMap.mp (List.mem_of_find?_eq_some h)
  unfold Handle.of? at hHandle
  split at hHandle <;> cases hHandle
  rfl

/-- A look-up goes by the screen that it is given. -/
theorem outcome_of_requery {origin system : System σ ν α} {rest : Except Failure Handle → Plan α}
    {handle : Handle} {selector : Selector} (hSelector : handle.selector = some selector)
    {outcome : Except Failure Handle}
    (h : Performs bridge origin i (requery handle) rest events system (.ready (.done outcome)))
    {s : Snapshot} (hHanded : HandedOut events i s) : outcome = firstOf selector s := by
  unfold requery onSnapshot at h
  rw [hSelector] at h
  obtain ⟨reply, hValue, hAnswered⟩ := h.answered
  obtain ⟨event, hEvent, hReply⟩ := hHanded
  obtain rfl := hAnswered event _ hEvent hReply
  exact hValue

/-- **A look-up after a wait finds the first element that the selector picks.** Workers use a new
session in any way, and worker `i` waits for an element and gets a handle. Whenever a worker then
looks the handle up again, and the screen that it captures has the same elements, the look-up
succeeds. It finds the first element that the selector picks, shown or not. That is the element of
the handle, with the same bounds and the same centre, just when it is shown. -/
theorem requery_after_wait {freshness : Nat} {device : σ} {board : ν} {jobs : List (Job ν α)}
    {before : List (Nat × Event)} {origin : System σ ν α}
    (hBefore : History bridge (.start (.start freshness device) board jobs) before origin)
    {selector : Selector} (hSelector : selector.WellFormed) {patience : Patience}
    {rest : Except Failure Handle → Plan α} {during : List (Nat × Event)} {system : System σ ν α}
    {handle : Handle}
    (hWait : Performs bridge origin i (waitFor selector patience) rest during system
      (.ready (.done (.ok handle))))
    {j : Nat} {origin' : System σ ν α} {rest' : Except Failure Handle → Plan α}
    {later : List (Nat × Event)} {after : System σ ν α} {outcome : Except Failure Handle}
    (hRequery : Performs bridge origin' j (requery handle) rest' later after
      (.ready (.done outcome)))
    {s : Snapshot} (hHanded : HandedOut later j s) (hSame : s.nodes = handle.snapshot.nodes) :
    ∃ first again, (Query.findAll handle.snapshot selector).head? = some first ∧
      outcome = .ok again ∧ again.snapshot = s ∧ again.selector = some selector ∧
      again.id = first ∧ (again.id = handle.id ↔ handle.snapshot.Shows first) ∧
      (handle.snapshot.Shows first →
        again.bounds = handle.bounds ∧ again.center = handle.center) := by
  obtain ⟨shown, hShown, -, hFound⟩ := hWait.gives (Wait.gives_untilSome _) handle rfl
  have hParsed := hBefore.parsed rfl hWait.history hShown
  obtain ⟨rfl, hFirstShown⟩ := firstShown_eq_some hParsed hFound
  obtain ⟨first, hHead, hFirst⟩ := hFirstShown.head_cases
  have hOutcome : outcome = firstOf selector s :=
    outcome_of_requery (selector_of_firstShown hFound) hRequery hHanded
  obtain ⟨again, hAgain, hScreen, rfl, hKnows, hNode⟩ :=
    Handle.exists_findFirst hSame hParsed hSelector hHead
  rw [firstOf, hAgain] at hOutcome
  refine ⟨again.id, again, hHead, hOutcome, hScreen, hKnows, rfl, hFirst, fun hShows => ?_⟩
  have hNodes : again.node = handle.node := by
    rw [hFirst.mpr hShows] at hNode
    exact Option.some.inj (hNode.symm.trans handle.get?_id)
  exact ⟨congrArg Node.bounds hNodes, congrArg Node.center hNodes⟩

/-- Looks a handle up again, if there is one, and gives both handles. -/
def thenRequery : Except Failure Handle → Operation (Handle × Handle)
  | .ok handle =>
    (requery handle).bind fun result => .done (result.map fun again => (handle, again))
  | .error failure => .done (.error failure)

/-- A row that covers no area in front of one that is shown. -/
def hiddenRowFirst : Text := "<a><b/><b bounds='[0,0][9,9]'/></a>"

/-- A row. -/
def row : Selector := .shorthand (.classPart "b")

/-- A wait for a row gets the shown one. A look-up on the same screen finds the one in front of
it. -/
theorem requery_finds_hidden_row : ∃ handle again,
    (((waitFor row Timing.default.patience).bind thenRequery).run (.still hiddenRowFirst)
        (.start 1000 ())).1 = .ok (handle, again) ∧
      again.snapshot.nodes = handle.snapshot.nodes ∧ handle.id = 2 ∧ again.id = 1 ∧
      handle.center = ⟨4, 4⟩ ∧ again.center = ⟨0, 0⟩ := by
  have h : (((waitFor row Timing.default.patience).bind thenRequery).run (.still hiddenRowFirst)
      (.start 1000 ())).1.toOption.any (fun found => decide
        (found.2.snapshot.nodes = found.1.snapshot.nodes ∧ found.1.id = 2 ∧ found.2.id = 1 ∧
          found.1.center = ⟨4, 4⟩ ∧ found.2.center = ⟨0, 0⟩)) = true := by decide +kernel
  cases hRun : (((waitFor row Timing.default.patience).bind thenRequery).run (.still hiddenRowFirst)
      (.start 1000 ())).1 with
  | error failure =>
    rw [hRun] at h
    cases h
  | ok found =>
    rw [hRun] at h
    exact ⟨found.1, found.2, rfl, of_decide_eq_true h⟩

/-- One worker waits for an element and looks it up again. -/
def waitAndRequery : Job Unit (Except Failure (Handle × Handle)) :=
  ⟨fun _ => waitForAnything.bind thenRequery, fun _ board => board⟩

/-- The system when the worker is about to wait. -/
def aloneBeforeWait : System Unit Unit (Except Failure (Handle × Handle)) where
  shared := ⟨.start 1000 (), (), [], []⟩
  workers := [⟨waitAndRequery, .ready (waitForAnything.bind thenRequery)⟩]

/-- The cache when the screen has been captured. -/
def squareCache : Cache := ((Cache.empty 1000).accept (.ok squareDump) 0).2

/-- The system when the worker has captured the screen and goes on with a plan. -/
def aloneAfterCapture (plan : Plan (Except Failure (Handle × Handle))) :
    System Unit Unit (Except Failure (Handle × Handle)) where
  shared := ⟨⟨0, squareCache, ()⟩, (), [], []⟩
  workers := [⟨waitAndRequery, .ready plan⟩]

theorem history_aloneBeforeWait : History (.still squareDump)
    (.start (.start 1000 ()) () [waitAndRequery]) [(0, .began)] aloneBeforeWait := by
  have h := (History.start : History (.still squareDump)
    (.start (.start 1000 ()) () [waitAndRequery]) [] _)
  replace h := h.step (.mk rfl .begin : System.Step _ _ 0 _ _)
  exact h

/-- What the worker does to look the element up again. -/
def requeryEvents : List (Nat × Event) :=
  [(0, .asked true), (0, .missed), (0, .captureBegan),
    (0, .captured (.ok squareDump) (.ok (Dump.parse 2 squareDump)))]

/-- The worker alone, on a screen that stays. -/
theorem requery_after_wait_alone : ∃ during system handle later after outcome s,
    Performs (.still squareDump) aloneBeforeWait 0 waitForAnything thenRequery during system
        (.ready (.done (.ok handle))) ∧
      Performs (.still squareDump) system 0 (requery handle)
        (fun result => .done (result.map fun again => (handle, again))) later after
        (.ready (.done outcome)) ∧
      HandedOut later 0 s ∧ s.nodes = handle.snapshot.nodes ∧
      ∃ again, outcome = .ok again ∧ again.snapshot = s := by
  have hSome : (firstShown anything (Dump.parse 1 squareDump)).isSome = true := by decide +kernel
  obtain ⟨handle, hHandle⟩ := Option.isSome_iff_exists.mp hSome
  obtain ⟨hSnapshot, -⟩ := firstShown_eq_some ⟨1, squareDump, rfl⟩ hHandle
  have hNodes : (Dump.parse 2 squareDump).nodes = handle.snapshot.nodes := by
    rw [hSnapshot]
    decide +kernel
  obtain ⟨next, hPlan, hNext⟩ :=
    Wait.exists_untilSome_eq anything.toText Timing.default.patience (firstShown anything)
  have hAsks : waitForAnything = .snapshot false next := hPlan
  have hFinish := hNext (Dump.parse 1 squareDump) handle 0 (by decide +kernel) hHandle
  have h : Performs (.still squareDump) aloneBeforeWait 0 waitForAnything thenRequery []
      aloneBeforeWait (.ready (.snapshot false next)) := by
    rw [← hAsks]
    exact .begin rfl rfl
  replace h := h.own rfl trivial (.ask _ _)
  replace h := h.own rfl trivial (.miss rfl rfl)
  replace h := h.own rfl trivial (.beginCapture rfl rfl)
  have hWait : Performs (.still squareDump) aloneBeforeWait 0 waitForAnything thenRequery _
      (aloneAfterCapture ((next (.ok (Dump.parse 1 squareDump)) 0).bind thenRequery))
      (.ready (next (.ok (Dump.parse 1 squareDump)) 0)) :=
    h.own rfl trivial (.endCapture (Nat.le_refl _) rfl)
  rw [hFinish] at hWait
  -- the look-up captures the screen once more
  have hLook : requery handle = .snapshot true fun reply _ =>
      .done ((reply.mapError BridgeError.failure).bind (firstOf anything)) := by
    unfold requery
    rw [selector_of_firstShown hHandle]
    rfl
  have g : Performs (.still squareDump) (aloneAfterCapture (thenRequery (.ok handle))) 0
      (requery handle) (fun result => .done (result.map fun again => (handle, again))) []
      (aloneAfterCapture (thenRequery (.ok handle))) (.ready (.snapshot true fun reply _ =>
        .done ((reply.mapError BridgeError.failure).bind (firstOf anything)))) := by
    rw [← hLook]
    exact .begin rfl rfl
  replace g := g.own rfl trivial (.ask _ _)
  replace g := g.own rfl trivial (.miss rfl rfl)
  replace g := g.own rfl trivial (.beginCapture rfl rfl)
  have hRequery : Performs (.still squareDump) (aloneAfterCapture (thenRequery (.ok handle))) 0
      (requery handle) (fun result => .done (result.map fun again => (handle, again)))
      requeryEvents _ (.ready (.done (firstOf anything (Dump.parse 2 squareDump)))) :=
    g.own rfl trivial (.endCapture (Nat.le_refl _) rfl)
  have hHanded : HandedOut requeryEvents 0 (Dump.parse 2 squareDump) :=
    ⟨_, List.getLast_mem (List.cons_ne_nil _ _), rfl⟩
  obtain ⟨_, again, -, hAgain, hScreen, -⟩ := requery_after_wait history_aloneBeforeWait
    (.predicate _) hWait hRequery hHanded hNodes
  exact ⟨_, _, handle, _, _, _, _, hWait, hRequery, hHanded, hNodes, again, hAgain, hScreen⟩

end Session

end ScreenQuery
