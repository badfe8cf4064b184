import ScreenQuery.Proofs.Dump.Rectangles
import ScreenQuery.Proofs.Query
import ScreenQuery.Proofs.Session.Currency
import ScreenQuery.Proofs.Session.Performance
import ScreenQuery.Proofs.Wait.Polling

/-!
# What the waits of a session have found

A wait that succeeds has been given a screen that could be read and that shows what it waited for,
however other workers use the session and whatever goes wrong with the captures.

* The check of a wait is only asked about screens that could be read, so what a wait finds, it finds
  on one of these (`Wait.gives_pollFrom`).
* What a worker is given was in the cache when its wait began, or has been captured since
  (`History.source`); in any case it was read from a dump (`History.parsed`). Hence its elements are
  in document order and their rectangles in order, and a shown element covers its centre.
* `FirstShown` is the first of the elements that a selector picks that is shown.

About `wait_for`, `wait_for_hidden`, `wait_for_text` and `wait_for_change`, with `poll_until` below
them and `is_visible` of `Node`.
-/

namespace ScreenQuery

/-! ## Shown elements -/

namespace Snapshot

/-- The snapshot was read from a dump. -/
def Parsed (s : Snapshot) : Prop := ∃ number dump, s = Dump.parse number dump

/-- There is such an element, and it is shown. -/
def Shows (s : Snapshot) (id : NodeId) : Prop := ∃ node, s.get? id = some node ∧ node.Shown

/-- The element is the first shown one of those that a selector picks. -/
def FirstShown (s : Snapshot) (selector : Selector) (id : NodeId) : Prop :=
  ∃ before after, Query.findAll s selector = before ++ id :: after ∧
    (∀ other ∈ before, ¬ s.Shows other) ∧ s.Shows id

variable {s : Snapshot} {id : NodeId} {node : Node}

theorem Parsed.isVisible_iff (h : s.Parsed) (hNode : s.get? id = some node) :
    node.isVisible = true ↔ node.Shown := by
  obtain ⟨number, dump, rfl⟩ := h
  exact Node.isVisible_iff (Dump.proper_parse number dump id node hNode)

theorem Parsed.get?_id (h : s.Parsed) (hNode : node ∈ s.nodes.toList) :
    s.get? node.id = some node := by
  obtain ⟨number, dump, rfl⟩ := h
  obtain ⟨i, hi⟩ := List.mem_iff_getElem?.mp hNode
  rw [Array.getElem?_toList] at hi
  rw [(Dump.preOrder_parse number dump).id_eq hi]
  exact hi

end Snapshot

/-- What a predicate picks around one of the elements that it picks. -/
theorem Query.findAll_predicate_of_split {s : Snapshot} {clauses : Predicate} {node : Node}
    {before after : List Node} (hSplit : s.nodes.toList = before ++ node :: after)
    (hPicks : clauses.picks node = true) :
    findAll s (.predicate clauses) = (before.filter clauses.picks).map Node.id ++
      node.id :: (after.filter clauses.picks).map Node.id := by
  show (s.nodes.toList.filter clauses.picks).map Node.id = _
  rw [hSplit, List.filter_append, List.filter_cons_of_pos hPicks, List.map_append, List.map_cons]

/-- To look for some words is to look for them in the text and the description, in lower case. -/
theorem Predicate.picks_containing (words : Text) (node : Node) :
    (containing words).picks node =
      (Text.contains (Text.lowercase words) (Text.lowercase node.text) ||
        Text.contains (Text.lowercase words) (Text.lowercase node.description)) :=
  Bool.and_true _

namespace Handle

/-- An element that is shown is tapped at a place of its own. -/
theorem covers_center {handle : Handle} (hParsed : handle.snapshot.Parsed)
    (h : handle.snapshot.Shows handle.id) : handle.bounds.Covers handle.center := by
  obtain ⟨number, dump, hDump⟩ := hParsed
  obtain ⟨node, hNode, hShown⟩ := h
  obtain rfl : handle.node = node := Option.some.inj (handle.get?_id.symm.trans hNode)
  rw [hDump] at hNode
  exact Bounds.covers_center (Dump.proper_parse number dump _ _ hNode) hShown.width_pos
    hShown.height_pos

end Handle

namespace Session

/-! ## What the checks find -/

section Checks

variable {s : Snapshot} {selector : Selector} {handle : Handle} (hParsed : s.Parsed)

include hParsed

theorem firstShown_eq_some (h : firstShown selector s = some handle) :
    handle.snapshot = s ∧ s.FirstShown selector handle.id := by
  obtain ⟨hVisible, before, after, hSplit, hBefore⟩ := List.find?_eq_some_iff_append.mp h
  obtain ⟨passed, rest, hIds, hPassed, hRest⟩ := List.filterMap_eq_append_iff.mp hSplit
  obtain ⟨absent, id, others, rfl, hAbsent, hHandle, -⟩ := List.filterMap_eq_cons_iff.mp hRest
  obtain ⟨rfl, rfl⟩ := Handle.of?_cases hHandle
  -- before it stand the ids of elements that are not shown, and ids of none
  refine ⟨rfl, passed ++ absent, others, by rw [hIds, List.append_assoc], ?_, handle.node,
    handle.get?_id, (hParsed.isVisible_iff handle.get?_id).mp hVisible⟩
  rintro other hOther ⟨node, hNode, hShown⟩
  have hFound : Handle.of? handle.snapshot other (some selector) = some _ :=
    Handle.of?_eq_some hNode
  rcases List.mem_append.mp hOther with hOther | hOther
  · have hMem : _ ∈ before := hPassed ▸ List.mem_filterMap.mpr ⟨other, hOther, hFound⟩
    have hHidden := hBefore _ hMem
    rw [Handle.isVisible, (hParsed.isVisible_iff hNode).mpr hShown] at hHidden
    cases hHidden
  · cases (hAbsent other hOther).symm.trans hFound

theorem not_shows_of_isHidden (h : isHidden selector s = true) :
    ∀ id ∈ Query.findAll s selector, ¬ s.Shows id := by
  rintro id hId ⟨node, hNode, hShown⟩
  unfold isHidden at h
  rw [Bool.not_eq_true', List.any_eq_false] at h
  have hFound : Handle.of? s id (some selector) = some _ := Handle.of?_eq_some hNode
  exact h _ (List.mem_filterMap.mpr ⟨id, hId, hFound⟩) ((hParsed.isVisible_iff hNode).mpr hShown)

theorem firstShowing_eq_some {words : Text} (h : firstShowing words s = some handle) :
    handle.snapshot = s ∧ s.FirstShown (.predicate (Predicate.containing words)) handle.id := by
  obtain ⟨node, hFind, hHandle⟩ := Option.bind_eq_some_iff.mp h
  obtain ⟨rfl, hId⟩ := Handle.of?_cases hHandle
  obtain ⟨hNode, before, after, hSplit, hBefore⟩ := List.find?_eq_some_iff_append.mp hFind
  rw [← Predicate.picks_containing] at hNode
  obtain ⟨hVisible, hPicks⟩ := Bool.and_eq_true_iff.mp hNode
  have hMem : ∀ other ∈ before ++ node :: after, handle.snapshot.get? other.id = some other :=
    fun other hOther => hParsed.get?_id (by rw [hSplit]; exact hOther)
  have hGet := hMem node (List.mem_append_right _ List.mem_cons_self)
  rw [hId]
  refine ⟨rfl, _, _, Query.findAll_predicate_of_split hSplit hPicks, ?_, node, hGet,
    (hParsed.isVisible_iff hGet).mp hVisible⟩
  rintro id hId ⟨other, hOther, hShown⟩
  obtain ⟨picked, hPicked, rfl⟩ := List.mem_map.mp hId
  obtain ⟨hPassed, hPicks⟩ := List.mem_filter.mp hPicked
  have hSame := (hMem picked (List.mem_append_left _ hPassed)).symm.trans hOther
  obtain rfl := Option.some.inj hSame
  have hNot := hBefore picked hPassed
  rw [← Predicate.picks_containing, (hParsed.isVisible_iff hOther).mpr hShown, hPicks] at hNot
  cases hNot

end Checks

end Session

/-! ## What a wait comes to -/

namespace Wait

variable {σ β : Type} {what : Text} {patience : Patience} {seen : Snapshot → Prop}

/-- A check has accepted a screen that was seen and could be read. -/
def Accepted (seen : Snapshot → Prop) (check : Check σ β) (value : β) : Prop :=
  ∃ s memory elapsed, seen s ∧ s.isDegraded = false ∧ (check memory elapsed s).1 = some value

theorem readable_of_examine {check : Check σ β} {progress after : Progress σ} {elapsed : Nat}
    {reply : Except BridgeError Snapshot} {value : β}
    (h : examine check progress elapsed reply = (some value, after)) :
    ∃ s, reply = .ok s ∧ s.isDegraded = false ∧
      (check progress.memory elapsed s).1 = some value := by
  cases examined_of_eq h with
  | shown hRead hCheck => exact ⟨_, rfl, hRead, congrArg Prod.fst hCheck⟩

theorem gives_pollFrom (check : Check σ β) (progress : Progress σ) (elapsed : Nat) :
    (pollFrom what patience check progress elapsed).Gives seen fun outcome =>
      ∀ value, outcome.1 = .ok value → Accepted seen check value := by
  fun_induction pollFrom what patience check progress elapsed with
  | case1 progress elapsed ih =>
    intro reply taken hSeen
    simp only
    split
    · rename_i value after hExamine
      obtain ⟨s, hReply, hRead, hFound⟩ := readable_of_examine hExamine
      intro value' hValue
      cases hValue
      exact ⟨s, _, _, hSeen s hReply, hRead, hFound⟩
    · rename_i next hNext
      split
      · rename_i hTime
        exact fun late => ih taken next hTime late
      · exact fun value hValue => by cases hValue

theorem gives_pollUntil (check : Check σ β) (memory : σ) :
    (pollUntil what patience check memory).Gives seen fun outcome =>
      ∀ value, outcome.1 = .ok value → Accepted seen check value :=
  gives_pollFrom check _ _

/-- A wait whose check remembers nothing has found what the check finds on some screen. -/
theorem gives_untilSome (find : Snapshot → Option β) :
    (untilSome what patience find).Gives seen fun outcome => ∀ value, outcome = .ok value →
      ∃ s, seen s ∧ s.isDegraded = false ∧ find s = some value := by
  refine (gives_pollUntil _ _).bind fun outcome hOutcome value hValue => ?_
  obtain ⟨s, _, _, hSeen, hRead, hFound⟩ := hOutcome value hValue
  exact ⟨s, hSeen, hRead, hFound⟩

/-- A wait whose check remembers nothing ends with a reply that its check accepts. -/
theorem exists_untilSome_eq (what : Text) (patience : Patience) (find : Snapshot → Option β) :
    ∃ next, untilSome what patience find = .snapshot (decide (patience.refresh ≤ 0)) next ∧
      ∀ s value taken, s.isDegraded = false → find s = some value →
        next (.ok s) taken = .done (.ok value) := by
  unfold untilSome pollUntil
  rw [pollFrom]
  refine ⟨_, rfl, fun s value taken hRead hFound => ?_⟩
  simp only [examine_of_readable hRead, hFound, Plan.done_bind]

end Wait

namespace Session

open Wait

/-- The waits of a session. -/
inductive IsWait : {β : Type} → Operation β → Prop
  | waitFor (selector : Selector) (patience : Patience) : IsWait (waitFor selector patience)
  | waitForHidden (selector : Selector) (patience : Patience) :
      IsWait (waitForHidden selector patience)
  | waitForText (words : Text) (patience : Patience) : IsWait (waitForText words patience)
  | waitForChange (baseline : UInt64) (patience : Patience) :
      IsWait (waitForChange baseline patience)
  | waitForIdle (settle : Nat) (patience : Patience) : IsWait (waitForIdle settle patience)
  | waitUntil {μ β : Type} (what : Text) (patience : Patience) (check : Check μ β) (memory : μ) :
      IsWait ((pollUntil what patience check memory).bind fun outcome => .done outcome.1)

section Waits

variable {seen : Snapshot → Prop} {patience : Patience}

theorem gives_waitForText (words : Text) :
    (waitForText words patience).Gives seen fun outcome => ∀ handle, outcome = .ok handle →
      ∃ s, seen s ∧ s.isDegraded = false ∧ firstShowing words s = some handle := by
  unfold waitForText
  split
  · exact fun handle hHandle => by cases hHandle
  · exact gives_untilSome _

/-- **A wait succeeds only with a screen that could be read.** -/
theorem IsWait.gives {β : Type} {operation : Operation β} (h : IsWait operation) :
    operation.Gives seen fun outcome => ∀ value, outcome = .ok value →
      ∃ s, seen s ∧ s.isDegraded = false := by
  have hUntil : ∀ {μ β : Type} (what : Text) (patience : Patience) (check : Check μ β) (memory : μ),
      ((pollUntil what patience check memory).bind fun outcome => .done outcome.1).Gives seen
        fun outcome => ∀ value, outcome = .ok value → ∃ s, seen s ∧ s.isDegraded = false := by
    intro μ β what patience check memory
    refine (gives_pollUntil check memory).bind fun outcome hOutcome value hValue => ?_
    obtain ⟨s, _, _, hSeen, hRead, -⟩ := hOutcome value hValue
    exact ⟨s, hSeen, hRead⟩
  cases h with
  | waitForText words patience =>
    unfold Session.waitForText
    split
    · exact fun value hValue => by cases hValue
    · exact hUntil _ _ _ _
  | waitFor | waitForHidden | waitForChange | waitForIdle | waitUntil => exact hUntil _ _ _ _

end Waits

/-! ## Where snapshots come from -/

variable {σ ν α : Type} {bridge : Bridge σ}

/-- A capture has ended and shown the snapshot. -/
def CapturedIn (events : List (Nat × Event)) (s : Snapshot) : Prop :=
  ∃ j result, (j, Event.captured result (.ok s)) ∈ events

theorem CapturedIn.snoc {events : List (Nat × Event)} {s : Snapshot} (h : CapturedIn events s)
    (last : Nat × Event) : CapturedIn (events ++ [last]) s := by
  obtain ⟨j, result, hEvent⟩ := h
  exact ⟨j, result, List.mem_append_left _ hEvent⟩

/-- The snapshot was in the cache, or has been captured since. -/
def Source (origin : System σ ν α) (events : List (Nat × Event)) (s : Snapshot) : Prop :=
  origin.shared.session.cache.current = some s ∨ CapturedIn events s

section History

variable {origin system : System σ ν α} {events : List (Nat × Event)} {i : Nat} {s : Snapshot}

theorem Source.snoc (h : Source origin events s) (last : Nat × Event) :
    Source origin (events ++ [last]) s :=
  h.imp_right fun hCaptured => hCaptured.snoc last

/-- What the cache holds after a step, it has held before, or it has just been captured. -/
theorem Event.cached_cases {before : Option Snapshot} {event : Event}
    (h : event.cached before = some s) :
    before = some s ∨ ∃ result, event = .captured result (.ok s) := by
  cases event with
  | captured result reply =>
    cases reply with
    | ok s' =>
      cases h
      exact Or.inr ⟨result, rfl⟩
    | error error => exact Or.inl h
  | dropped => cases h
  | began | asked | served | missed | captureBegan | inputAsked | inputBegan | inputEnded
  | dropAsked | slept | woke | returned => exact Or.inl h

/-- **What the cache holds and what is handed out was in the cache at first, or has been captured
since.** -/
theorem History.source (h : History bridge origin events system) :
    (∀ s, system.shared.session.cache.current = some s → Source origin events s) ∧
      ∀ i s, HandedOut events i s → Source origin events s := by
  induction h with
  | start => exact ⟨fun s hCurrent => Or.inl hCurrent, fun i s ⟨_, hEvent, _⟩ => by cases hEvent⟩
  | @step events system after j event _ hStep ih =>
    obtain ⟨hCached, hHanded⟩ := ih
    obtain ⟨-, hPhase⟩ := hStep
    rename_i worker phase shared
    -- the only event that brings a new snapshot is the end of a capture
    have hCaptured : ∀ s result, event = .captured result (.ok s) →
        Source origin (events ++ [(j, event)]) s := by
      rintro s result rfl
      exact Or.inr ⟨j, result, List.mem_append_right _ List.mem_cons_self⟩
    constructor
    · intro s hCurrent
      replace hCurrent : shared.session.cache.current = some s := hCurrent
      rw [hPhase.current_eq] at hCurrent
      rcases Event.cached_cases hCurrent with hBefore | ⟨result, hEvent⟩
      · exact (hCached s hBefore).snoc _
      · exact hCaptured s result hEvent
    · rintro i s ⟨other, hOther, hReply⟩
      rcases List.mem_append.mp hOther with hOther | hOther
      · exact (hHanded i s ⟨other, hOther, hReply⟩).snoc _
      · obtain ⟨rfl, rfl⟩ := Prod.mk.inj (List.mem_singleton.mp hOther)
        cases other with
        | served s' =>
          cases hReply
          exact (hCached s (hPhase.current_of_served rfl)).snoc _
        | captured result reply =>
          cases hReply
          exact hCaptured s result rfl
        | _ => cases hReply
  | wait _ _ ih => exact ih

theorem History.parsed_of_capturedIn (h : History bridge origin events system)
    (hCaptured : CapturedIn events s) : s.Parsed := by
  induction h with
  | start =>
    obtain ⟨_, _, hEvent⟩ := hCaptured
    cases hEvent
  | @step events system after j event _ hStep ih =>
    obtain ⟨i, result, hEvent⟩ := hCaptured
    rcases List.mem_append.mp hEvent with hEvent | hEvent
    · exact ih ⟨i, result, hEvent⟩
    · obtain ⟨-, hPhase⟩ := hStep
      obtain ⟨-, hEvent⟩ := Prod.mk.inj (List.mem_singleton.mp hEvent)
      obtain ⟨dump, -, hParsed, -⟩ := hPhase.reply_of_captured hEvent.symm
      exact ⟨_, dump, hParsed⟩
  | wait _ _ ih => exact ih hCaptured

/-- In a session that began with nothing in its cache, every snapshot was read from a dump. -/
theorem History.parsed {session : Session σ} (hNew : session.cache.current = none) {board : ν}
    {jobs : List (Job ν α)} {before : List (Nat × Event)}
    (hBefore : History bridge (.start session board jobs) before origin)
    (h : History bridge origin events system) (hHanded : HandedOut events i s) : s.Parsed := by
  rcases h.source.2 i s hHanded with hCurrent | hCaptured
  · rcases hBefore.source.1 s hCurrent with hStart | hCaptured
    · cases hNew.symm.trans hStart
    · exact hBefore.parsed_of_capturedIn hCaptured
  · exact h.parsed_of_capturedIn hCaptured

end History

/-! ## The waits -/

section

variable {freshness : Nat} {device : σ} {board : ν} {jobs : List (Job ν α)}
  {before : List (Nat × Event)} {origin : System σ ν α}
  (hBefore : History bridge (.start (.start freshness device) board jobs) before origin) (i : Nat)

include hBefore

/-- **What waits have found.** Workers use a new session in any way, with any bridge and under any
schedule, and then worker `i` performs a wait while the others go on.

If the wait succeeds, it was given a screen that could be read and that shows what it waited for:
the element is the first shown one that the selector picks, and it covers its centre; or the
selector picks no shown element; or the element is the first shown one with the words; or the screen
has another hash. And no wait succeeds if no capture that ends during it can be read and the cache
had no readable screen when it began. -/
theorem found_by_waits :
    (∀ selector patience rest during system handle,
      Performs bridge origin i (waitFor selector patience) rest during system
        (.ready (.done (.ok handle))) →
      HandedOut during i handle.snapshot ∧ handle.snapshot.isDegraded = false ∧
        handle.snapshot.FirstShown selector handle.id ∧ handle.bounds.Covers handle.center) ∧
    (∀ selector patience rest during system,
      Performs bridge origin i (waitForHidden selector patience) rest during system
        (.ready (.done (.ok ()))) →
      ∃ s, HandedOut during i s ∧ s.isDegraded = false ∧
        ∀ id ∈ Query.findAll s selector, ¬ s.Shows id) ∧
    (∀ words patience rest during system handle,
      Performs bridge origin i (waitForText words patience) rest during system
        (.ready (.done (.ok handle))) →
      HandedOut during i handle.snapshot ∧ handle.snapshot.isDegraded = false ∧
        handle.snapshot.FirstShown (.predicate (Predicate.containing words)) handle.id) ∧
    (∀ baseline patience rest during system s,
      Performs bridge origin i (waitForChange baseline patience) rest during system
        (.ready (.done (.ok s))) →
      HandedOut during i s ∧ s.isDegraded = false ∧ s.contentHash ≠ baseline) ∧
    (∀ (β : Type) (operation : Operation β) rest during system outcome,
      IsWait operation →
      Performs bridge origin i operation rest during system (.ready (.done outcome)) →
      (∀ s, origin.shared.session.cache.current = some s → s.isDegraded = true) →
      (∀ s, CapturedIn during s → s.isDegraded = true) → ∃ failure, outcome = .error failure) := by
  refine ⟨?_, ?_, ?_, ?_, ?_⟩
  · intro selector patience rest during system handle h
    obtain ⟨s, hHanded, hRead, hFound⟩ := h.gives (gives_untilSome _) handle rfl
    have hParsed := hBefore.parsed rfl h.history hHanded
    obtain ⟨rfl, hFirst⟩ := firstShown_eq_some hParsed hFound
    obtain ⟨-, -, -, -, hShows⟩ := id hFirst
    exact ⟨hHanded, hRead, hFirst, Handle.covers_center hParsed hShows⟩
  · intro selector patience rest during system h
    obtain ⟨s, hHanded, hRead, hFound⟩ := h.gives (gives_untilSome _) () rfl
    have hHidden : isHidden selector s = true := by
      by_contra hNot
      simp [hNot] at hFound
    exact ⟨s, hHanded, hRead, not_shows_of_isHidden (hBefore.parsed rfl h.history hHanded) hHidden⟩
  · intro words patience rest during system handle h
    obtain ⟨s, hHanded, hRead, hFound⟩ := h.gives (gives_waitForText words) handle rfl
    obtain ⟨rfl, hFirst⟩ := firstShowing_eq_some (hBefore.parsed rfl h.history hHanded) hFound
    exact ⟨hHanded, hRead, hFirst⟩
  · intro baseline patience rest during system s h
    obtain ⟨s', hHanded, hRead, hFound⟩ := h.gives (gives_untilSome _) s rfl
    split at hFound
    · cases hFound
    · rename_i hHash
      cases hFound
      exact ⟨hHanded, hRead, hHash⟩
  · intro β operation rest during system outcome hWait h hCached hCaptured
    cases outcome with
    | error failure => exact ⟨failure, rfl⟩
    | ok value =>
      obtain ⟨s, hHanded, hRead⟩ := h.gives hWait.gives value rfl
      have hDegraded : s.isDegraded = true :=
        (h.history.source.2 i s hHanded).elim (hCached s) (hCaptured s)
      rw [hRead] at hDegraded
      cases hDegraded

end

/-- A screen of one element. -/
def squareDump : Text := "<a bounds=\"[0,0][2,2]\"/>"

/-- Any element. -/
def anything : Selector := .predicate Predicate.always

/-- A wait for any element. -/
def waitForAnything : Operation Handle := waitFor anything Timing.default.patience

/-- The elements with a part of a text that only the inner element has. -/
def gone : Selector := .predicate (Predicate.containing "gone")

/-- A wait until none of these is shown. -/
def waitForGone : Operation Unit := waitForHidden gone Timing.default.patience

/-- A wait for some words, in another case than on the screen. -/
def waitForOk : Operation Handle := waitForText "ok" Timing.default.patience

/-- A wait for another screen than that of one element. -/
def waitForOther : Operation Snapshot :=
  waitForChange (Dump.parse 0 squareDump).contentHash Timing.default.patience

/-- A screen of an element that is shown and one inside of it that is not. -/
def nestedDump : Text := "<a text='OK' bounds='[0,0][2,2]'><b text='Gone'/></a>"

/-- Has no time left after its first request. -/
def brief : Patience := ⟨0, 1, 1⟩

section Beside

variable {β : Type} (operation : Operation β)

/-- One worker performs an operation; the other asks for an element at once. -/
def besideRequire : List (Job Unit Unit) :=
  [⟨fun _ => operation.bind fun _ => .done (), fun _ board => board⟩,
    ⟨fun _ => (require anything).bind fun _ => .done (), fun _ board => board⟩]

/-- The system when the first worker is about to perform its operation. -/
def aboutTo : System Unit Unit Unit where
  shared := ⟨.start 1000 (), (), [], []⟩
  workers := [⟨⟨fun _ => operation.bind fun _ => .done (), fun _ board => board⟩,
      .ready (operation.bind fun _ => .done ())⟩,
    ⟨⟨fun _ => (require anything).bind fun _ => .done (), fun _ board => board⟩, .waiting⟩]

theorem history_aboutTo (dump : Text) : History (.still dump)
    (.start (.start 1000 ()) () (besideRequire operation)) [(0, .began)] (aboutTo operation) := by
  have h := (History.start :
    History (.still dump) (.start (.start 1000 ()) () (besideRequire operation)) [] _)
  replace h := h.step (.mk rfl .begin : System.Step _ _ 0 _ _)
  exact h

/-- The second worker asks for a snapshot while the first captures the screen. -/
def besideEvents (dump : Text) : List (Nat × Event) :=
  [(0, .asked false), (1, .began), (1, .asked false), (0, .missed), (0, .captureBegan),
    (0, .captured (.ok dump) (.ok (Dump.parse 1 dump)))]

theorem eq_of_capturedIn_beside {dump : Text} {s : Snapshot}
    (h : CapturedIn (besideEvents dump) s) : s = Dump.parse 1 dump := by
  obtain ⟨j, result, hEvent⟩ := h
  simp only [besideEvents, List.mem_cons, Prod.mk.injEq, reduceCtorEq, and_false, false_or,
    List.not_mem_nil, or_false, Event.captured.injEq, Except.ok.injEq] at hEvent
  exact hEvent.2.2

/-- An operation that asks for a snapshot gets the screen while the other worker waits. -/
theorem performs_beside {next : Except BridgeError Snapshot → Nat → Operation β}
    (hAsks : operation = .snapshot false next) {outcome : Except Failure β} {dump : Text}
    (hFinish : next (.ok (Dump.parse 1 dump)) 0 = .done outcome) :
    ∃ system, Performs (.still dump) (aboutTo operation) 0 operation (fun _ => .done ())
      (besideEvents dump) system (.ready (.done outcome)) := by
  subst hAsks
  have h : Performs (.still dump) (aboutTo (.snapshot false next)) 0 (.snapshot false next)
      (fun _ => .done ()) [] (aboutTo (.snapshot false next)) (.ready (.snapshot false next)) :=
    .begin rfl rfl
  replace h := h.own rfl trivial (.ask _ _)
  replace h := h.other (j := 1) (by decide) (.mk rfl .begin)
  replace h := h.other (j := 1) (by decide) (.mk rfl (.ask _ _))
  replace h := h.own rfl trivial (.miss rfl rfl)
  replace h := h.own rfl trivial (.beginCapture rfl rfl)
  have hEnd : Performs (.still dump) (aboutTo (.snapshot false next)) 0 (.snapshot false next)
      (fun _ => .done ()) (besideEvents dump) _ (.ready (next (.ok (Dump.parse 1 dump)) 0)) :=
    h.own rfl trivial (.endCapture (Nat.le_refl _) rfl)
  rw [hFinish] at hEnd
  exact ⟨_, hEnd⟩

/-- A wait whose check accepts the screen succeeds. -/
theorem untilSome_beside {what : Text} {find : Snapshot → Option β} {value : β} {dump : Text}
    (hOperation : operation = untilSome what Timing.default.patience find)
    (hRead : (Dump.parse 1 dump).isDegraded = false)
    (hFound : find (Dump.parse 1 dump) = some value) :
    ∃ system, Performs (.still dump) (aboutTo operation) 0 operation (fun _ => .done ())
      (besideEvents dump) system (.ready (.done (.ok value))) := by
  obtain ⟨next, hPlan, hNext⟩ := exists_untilSome_eq what Timing.default.patience find
  exact performs_beside operation (hOperation.trans hPlan) (hNext _ value 0 hRead hFound)

/-- A wait that is out of time after its first request ends then, even if the screen cannot be
read. -/
theorem untilSome_brief_beside {what : Text} {find : Snapshot → Option β} {dump : Text}
    (hOperation : operation = untilSome what brief find)
    (hDegraded : (Dump.parse 1 dump).isDegraded = true) :
    ∃ system outcome, Performs (.still dump) (aboutTo operation) 0 operation (fun _ => .done ())
      (besideEvents dump) system (.ready (.done outcome)) := by
  obtain ⟨reason, hReason⟩ := Option.isSome_iff_exists.mp hDegraded
  have hPlan : ∃ next, untilSome what brief find = .snapshot false next ∧
      next (.ok (Dump.parse 1 dump)) 0 =
        .done (.error (expired what 0 (some (unreadable reason)))) := by
    unfold untilSome pollUntil
    rw [pollFrom]
    refine ⟨_, rfl, ?_⟩
    simp only [examine_of_unreadable hReason]
    rfl
  obtain ⟨next, hPlan, hFinish⟩ := hPlan
  obtain ⟨system, h⟩ := performs_beside operation (hOperation.trans hPlan) hFinish
  exact ⟨system, _, h⟩

end Beside

/-- Whatever the first worker waits for, the second asks for a snapshot while it captures the
screen. The wait for an element finds the outer one and so does the wait for words in another case;
the inner one counts as hidden, though the selector picks it; the screen is not the one before. A
wait fails when the dump cannot be read. -/
theorem found_by_waits_beside :
    (∃ system handle, Performs (.still nestedDump) (aboutTo waitForAnything) 0 waitForAnything
        (fun _ => .done ()) (besideEvents nestedDump) system (.ready (.done (.ok handle))) ∧
      HandedOut (besideEvents nestedDump) 0 handle.snapshot ∧
        handle.snapshot.isDegraded = false ∧ handle.snapshot.FirstShown anything handle.id ∧
        handle.bounds.Covers handle.center) ∧
    (∃ system, Performs (.still nestedDump) (aboutTo waitForGone) 0 waitForGone
        (fun _ => .done ()) (besideEvents nestedDump) system (.ready (.done (.ok ()))) ∧
      Query.findAll (Dump.parse 1 nestedDump) gone = [1] ∧
      ∃ s, HandedOut (besideEvents nestedDump) 0 s ∧ s.isDegraded = false ∧
        ∀ id ∈ Query.findAll s gone, ¬ s.Shows id) ∧
    (∃ system handle, Performs (.still nestedDump) (aboutTo waitForOk) 0 waitForOk
        (fun _ => .done ()) (besideEvents nestedDump) system (.ready (.done (.ok handle))) ∧
      HandedOut (besideEvents nestedDump) 0 handle.snapshot ∧
        handle.snapshot.isDegraded = false ∧
        handle.snapshot.FirstShown (.predicate (Predicate.containing "ok")) handle.id) ∧
    (∃ system s, Performs (.still nestedDump) (aboutTo waitForOther) 0 waitForOther
        (fun _ => .done ()) (besideEvents nestedDump) system (.ready (.done (.ok s))) ∧
      HandedOut (besideEvents nestedDump) 0 s ∧ s.isDegraded = false ∧
        s.contentHash ≠ (Dump.parse 0 squareDump).contentHash) ∧
    ∃ system failure, Performs (.still []) (aboutTo (waitFor anything brief)) 0
      (waitFor anything brief) (fun _ => .done ()) (besideEvents []) system
      (.ready (.done (.error failure))) := by
  have hRead : (Dump.parse 1 nestedDump).isDegraded = false := by decide +kernel
  refine ⟨?_, ?_, ?_, ?_, ?_⟩
  · have hSome : (firstShown anything (Dump.parse 1 nestedDump)).isSome = true := by
      decide +kernel
    obtain ⟨handle, hHandle⟩ := Option.isSome_iff_exists.mp hSome
    obtain ⟨system, h⟩ := untilSome_beside waitForAnything rfl hRead hHandle
    exact ⟨system, handle, h, (found_by_waits (history_aboutTo _ nestedDump) 0).1 anything
      Timing.default.patience _ _ system handle h⟩
  · have hFound : (if isHidden gone (Dump.parse 1 nestedDump) then some () else none) =
        some () := by decide +kernel
    obtain ⟨system, h⟩ := untilSome_beside waitForGone rfl hRead hFound
    exact ⟨system, h, by decide +kernel, (found_by_waits (history_aboutTo _ nestedDump) 0).2.1 gone
      Timing.default.patience _ _ system h⟩
  · have hSome : (firstShowing "ok" (Dump.parse 1 nestedDump)).isSome = true := by decide +kernel
    obtain ⟨handle, hHandle⟩ := Option.isSome_iff_exists.mp hSome
    obtain ⟨system, h⟩ := untilSome_beside waitForOk rfl hRead hHandle
    exact ⟨system, handle, h, (found_by_waits (history_aboutTo _ nestedDump) 0).2.2.1 "ok"
      Timing.default.patience _ _ system handle h⟩
  · have hOther : (Dump.parse 1 nestedDump).contentHash ≠
        (Dump.parse 0 squareDump).contentHash := by decide +kernel
    obtain ⟨system, h⟩ := untilSome_beside waitForOther rfl hRead (if_neg hOther)
    exact ⟨system, _, h, (found_by_waits (history_aboutTo _ nestedDump) 0).2.2.2.1 _
      Timing.default.patience _ _ system _ h⟩
  · have hDegraded : (Dump.parse 1 []).isDegraded = true := by decide +kernel
    obtain ⟨system, outcome, h⟩ :=
      untilSome_brief_beside (waitFor anything brief) rfl hDegraded
    obtain ⟨failure, rfl⟩ := (found_by_waits (history_aboutTo _ []) 0).2.2.2.2 _ _ _ _ system
      outcome (.waitFor anything brief) h (fun s hCurrent => by cases hCurrent)
      fun s hCaptured => eq_of_capturedIn_beside hCaptured ▸ hDegraded
    exact ⟨system, failure, h⟩

end Session

end ScreenQuery
