import ScreenQuery.Proofs.Session.Record

/-!
# The cache, use by use

* A `Use` of a cache is a request, a drop of what it holds, or a while in which nothing is done. A
  `Turn` is a use with all that it led to: the captures that were made, the reply, and the session
  before and after.
* `Turned` lists what a use can lead to. From this it follows what the cache holds after some turns
  (`Traced`), and hence what a turn may do after those in the past (`Turn.Lawful`).
* Every turn of every sequence of uses is lawful: `lawful_turns`.

About `get`, `is_fresh`, `invalidate` and `store` of `SnapshotCache`.
-/

namespace ScreenQuery.Cache

/-- What can be done with the cache of a session. -/
inductive Use
  | get (force : Bool)
  | invalidate
  | wait (duration : Nat)
  deriving DecidableEq, Repr

/-- The plan that makes use of the cache. Only a request has a reply. -/
def Use.plan : Use → Plan (Option (Except BridgeError Snapshot))
  | get force => .snapshot force fun reply _ => .done (some reply)
  | invalidate => .invalidate (.done none)
  | wait duration => .sleep duration fun _ => .done none

/-- A use, with the captures that it made and what it led to. -/
structure Turn (σ : Type) where
  use : Use
  before : Session σ
  shots : List Shot
  reply : Option (Except BridgeError Snapshot)
  after : Session σ

variable {σ : Type}

/-- A use of the cache. -/
def turn (bridge : Bridge σ) (session : Session σ) (use : Use) : Turn σ :=
  let (reply, after) := use.plan.run bridge session
  ⟨use, session, use.plan.shots bridge session, reply, after⟩

/-- Some uses of the cache, one after another. -/
def turns (bridge : Bridge σ) (session : Session σ) : List Use → List (Turn σ)
  | [] => []
  | use :: rest =>
    let first := turn bridge session use
    first :: turns bridge first.after rest

namespace Turn

/-- The use made a capture that succeeded, and replied with its snapshot. -/
def Stored (turn : Turn σ) (s : Snapshot) : Prop :=
  (∃ shot ∈ turn.shots, shot.Succeeded) ∧ turn.reply = some (.ok s)

theorem not_stored_of_nil {turn : Turn σ} {s : Snapshot} (h : turn.shots = []) :
    ¬ turn.Stored s := by
  rintro ⟨⟨shot, hShot, -⟩, -⟩
  rw [h] at hShot
  cases hShot

/-- The use drops what the cache holds, or puts a new snapshot in its place. -/
def Replaces (turn : Turn σ) : Prop := turn.use = .invalidate ∨ ∃ s, turn.Stored s

/-- The use is a request that must not be served from the cache: it is forced, there is nothing to
serve, or what there is has become too old. -/
def Misses (freshness : Nat) (turn : Turn σ) : Prop :=
  ∃ force, turn.use = .get force ∧ (force = true ∨ turn.before.cache.entry = none ∨
    ∃ entry, turn.before.cache.entry = some entry ∧
      freshness < turn.before.now - entry.captured)

end Turn

/-- What a turn may do after those in the past. -/
structure Turn.Lawful (freshness : Nat) (past : List (Turn σ)) (turn : Turn σ) : Prop where
  /-- A request that must not be served makes one capture. -/
  captures : turn.Misses freshness → ∃ shot, turn.shots = [shot] ∧
    shot.began = turn.before.now ∧ shot.ended = turn.after.now
  /-- Nothing else makes a capture. -/
  no_captures : ¬ turn.Misses freshness → turn.shots = []
  /-- A capture that succeeds is counted. Its snapshot is the reply and is kept, with the time after
  the capture. -/
  succeeded : ∀ shot dump, turn.shots = [shot] → shot.dump = .ok dump →
    ∃ s, s.IsOf shot ∧ turn.reply = some (.ok s) ∧
      turn.after.cache.entry = some ⟨s, turn.after.now⟩ ∧
      turn.after.cache.captures = turn.before.cache.captures + 1
  /-- A capture that fails changes nothing. -/
  failed : ∀ shot error, turn.shots = [shot] → shot.dump = .error error →
    turn.reply = some (.error error) ∧ turn.after.cache = turn.before.cache
  /-- After a capture that failed, what was kept before it is served as long as it is fresh. -/
  served_after_failed : ∀ m earlier force shot error entry, past[m]? = some earlier →
    earlier.use = .get force → earlier.shots = [shot] → shot.dump = .error error →
    earlier.before.cache.entry = some entry → NoneAfter Turn.Replaces past m →
    turn.use = .get false → turn.before.now - entry.captured ≤ freshness →
    turn.shots = [] ∧ turn.reply = some (.ok entry.snapshot)
  /-- A reply without a capture is the snapshot that was stored last, and nothing has been dropped
  since. -/
  served : ∀ reply, turn.reply = some reply → turn.shots = [] →
    ∃ m earlier s, Latest Turn.Replaces past m earlier ∧ earlier.Stored s ∧ reply = .ok s
  /-- Snapshots do not come back once a newer one was the reply. -/
  id_le : ∀ earlier ∈ past, ∀ s s', earlier.reply = some (.ok s) → turn.reply = some (.ok s') →
    s.id ≤ s'.id
  /-- Unless something was dropped, a capture that is not forced begins only when every snapshot
  stored earlier is too old. -/
  apart : ∀ m earlier s s', past[m]? = some earlier → earlier.Stored s →
    NoneAfter (fun other => other.use = .invalidate) past m →
    turn.use = .get false → turn.Stored s' → earlier.after.now + freshness < turn.before.now

/-! ## One use -/

/-- What a use can lead to. -/
inductive Turned (session : Session σ) : Turn σ → Prop
  | served {entry : Entry} (hEntry : session.cache.entry = some entry)
      (hFresh : session.now - entry.captured ≤ session.cache.freshness) :
      Turned session ⟨.get false, session, [], some (.ok entry.snapshot), session⟩
  | captured {force : Bool} (hMisses : session.cache.fresh? force session.now = none)
      (taken : Nat) (dump : Text) (device : σ) :
      Turned session
        ⟨.get force, session, [⟨session.now, session.now + taken, .ok dump⟩],
          some (.ok (Dump.parse session.cache.nextId dump)),
          ⟨session.now + taken, (session.cache.receive dump (session.now + taken)).2, device⟩⟩
  | failed {force : Bool} (hMisses : session.cache.fresh? force session.now = none)
      (taken : Nat) (error : BridgeError) (device : σ) :
      Turned session
        ⟨.get force, session, [⟨session.now, session.now + taken, .error error⟩],
          some (.error error), ⟨session.now + taken, session.cache, device⟩⟩
  | dropped :
      Turned session
        ⟨.invalidate, session, [], none, { session with cache := session.cache.invalidate }⟩
  | waited (duration : Nat) :
      Turned session
        ⟨.wait duration, session, [], none, { session with now := session.now + duration }⟩

theorem turned (bridge : Bridge σ) (session : Session σ) (use : Use) :
    Turned session (turn bridge session use) := by
  cases use with
  | invalidate => exact .dropped
  | wait duration => exact .waited duration
  | get force =>
    have hGot := Cache.got bridge session.cache force session.now session.device []
    unfold turn Plan.shots
    rw [Plan.run_recording bridge (Use.get force).plan session]
    simp only [Use.plan, Plan.run, Session.request, Session.recording]
    generalize session.cache.get bridge.recorded force session.now (session.device, []) = served
      at hGot
    cases hGot with
    | served hForce hEntry hFresh =>
      subst hForce
      exact .served hEntry hFresh
    | captured hMiss taken dump after => exact .captured hMiss taken dump after
    | failed hMiss taken error after => exact .failed hMiss taken error after

namespace Turned

variable {session : Session σ} {turn : Turn σ} {shot : Shot}

/-- A capture that succeeds. -/
theorem stored_of_ok (h : Turned session turn) {dump : Text} (hShots : turn.shots = [shot])
    (hDump : shot.dump = .ok dump) :
    ∃ s, s.IsOf shot ∧ turn.reply = some (.ok s) ∧
      turn.after.cache.entry = some ⟨s, turn.after.now⟩ ∧
      turn.after.cache.captures = turn.before.cache.captures + 1 := by
  cases h with
  | served | dropped | waited => cases hShots
  | failed =>
    cases hShots
    cases hDump
  | captured =>
    cases hShots
    cases hDump
    exact ⟨_, isOf_parse _ _ _ _, rfl, rfl, rfl⟩

/-- A capture that fails. -/
theorem unchanged_of_error (h : Turned session turn) {error : BridgeError}
    (hShots : turn.shots = [shot]) (hDump : shot.dump = .error error) :
    turn.reply = some (.error error) ∧ turn.after.cache = turn.before.cache := by
  cases h with
  | served | dropped | waited => cases hShots
  | captured =>
    cases hShots
    cases hDump
  | failed =>
    cases hShots
    cases hDump
    exact ⟨rfl, rfl⟩

/-- A request that is not forced is served what is kept as long as it is fresh. -/
theorem served_of_entry (h : Turned session turn) {entry : Entry}
    (hEntry : session.cache.entry = some entry) (hUse : turn.use = .get false)
    (hFresh : turn.before.now - entry.captured ≤ session.cache.freshness) :
    turn.shots = [] ∧ turn.reply = some (.ok entry.snapshot) := by
  cases h with
  | @served other hOther =>
    cases hEntry.symm.trans hOther
    exact ⟨rfl, rfl⟩
  | dropped | waited => cases hUse
  | captured hMisses | failed hMisses =>
    cases hUse
    rcases fresh?_eq_none_iff.mp hMisses with hForce | hNothing | ⟨other, hOther, hOld⟩
    · cases hForce
    · cases hNothing.symm.trans hEntry
    · cases hOther.symm.trans hEntry
      exact absurd hOld (Nat.not_lt_of_le hFresh)

end Turned

/-! ## After some turns -/

/-- What the cache holds after some turns. -/
structure Traced (freshness : Nat) (past : List (Turn σ)) (session : Session σ) : Prop where
  freshness_eq : session.cache.freshness = freshness
  /-- What is kept was stored last, and nothing has been dropped since. -/
  entry : ∀ entry, session.cache.entry = some entry → ∃ m earlier,
    Latest Turn.Replaces past m earlier ∧ earlier.Stored entry.snapshot
  captured_le : ∀ entry, session.cache.entry = some entry → entry.captured ≤ session.now
  /-- What is kept is not older than any reply, and the next snapshot is newer. -/
  id_le : ∀ turn ∈ past, ∀ s, turn.reply = some (.ok s) → s.id < session.cache.nextId ∧
    ∀ entry, session.cache.entry = some entry → s.id ≤ entry.snapshot.id
  /-- Unless something is dropped, something is kept that is not older than a stored snapshot. -/
  stamped : ∀ m turn s, past[m]? = some turn → turn.Stored s →
    NoneAfter (fun other => other.use = .invalidate) past m →
    ∃ entry, session.cache.entry = some entry ∧ turn.after.now ≤ entry.captured
  /-- A turn that replaces nothing leaves what was kept before it. -/
  unchanged : ∀ m turn, past[m]? = some turn → ¬ turn.Replaces → NoneAfter Turn.Replaces past m →
    session.cache.entry = turn.before.cache.entry

namespace Traced

variable {freshness : Nat} {past : List (Turn σ)} {session : Session σ} {turn : Turn σ}

theorem start (freshness : Nat) (device : σ) : Traced freshness [] (.start freshness device) :=
  { freshness_eq := rfl
    entry := nofun
    captured_le := nofun
    id_le := fun _ hPast => by cases hPast
    stamped := fun _ _ _ hGet => by simp at hGet
    unchanged := fun _ _ hGet => by simp at hGet }

/-- A turn that leaves the cache as it is. -/
theorem keep (h : Traced freshness past session) (hBefore : turn.before = session)
    (hReplaces : ¬ turn.Replaces) (hCache : turn.after.cache = session.cache)
    (hNow : session.now ≤ turn.after.now)
    (hReply : ∀ s, turn.reply = some (.ok s) →
      ∃ captured, session.cache.entry = some ⟨s, captured⟩) :
    Traced freshness (past ++ [turn]) turn.after := by
  constructor
  case freshness_eq => rw [hCache, h.freshness_eq]
  case entry =>
    intro entry hEntry
    rw [hCache] at hEntry
    obtain ⟨m, earlier, hLatest, hStored⟩ := h.entry entry hEntry
    exact ⟨m, earlier, hLatest.snoc hReplaces, hStored⟩
  case captured_le =>
    intro entry hEntry
    rw [hCache] at hEntry
    exact Nat.le_trans (h.captured_le entry hEntry) hNow
  case id_le =>
    intro other hOther s hOk
    rw [hCache]
    rcases List.mem_append.mp hOther with hOther | hLast
    · exact h.id_le other hOther s hOk
    · -- the reply is what the cache holds
      rw [List.mem_singleton.mp hLast] at hOk
      obtain ⟨captured, hEntry⟩ := hReply s hOk
      obtain ⟨m, earlier, hLatest, hStored⟩ := h.entry _ hEntry
      exact h.id_le earlier (List.mem_of_getElem? hLatest.get) s hStored.2
  case stamped =>
    intro m other s hGet hStored hNone
    rw [hCache]
    rcases noneAfter_snoc_cases hGet hNone with ⟨-, rfl⟩ | ⟨hGet, hNone, -⟩
    · exact absurd (Or.inr ⟨s, hStored⟩) hReplaces
    · exact h.stamped m other s hGet hStored hNone
  case unchanged =>
    intro m other hGet hOther hNone
    rw [hCache]
    rcases noneAfter_snoc_cases hGet hNone with ⟨-, rfl⟩ | ⟨hGet, hNone, -⟩
    · rw [hBefore]
    · exact h.unchanged m other hGet hOther hNone

/-- A turn that drops what is kept. -/
theorem drop (h : Traced freshness past session) (hUse : turn.use = .invalidate)
    (hReply : turn.reply = none) (hCache : turn.after.cache = session.cache.invalidate) :
    Traced freshness (past ++ [turn]) turn.after := by
  have hEntry : turn.after.cache.entry = none := by rw [hCache]; rfl
  have hReplaces : turn.Replaces := Or.inl hUse
  constructor
  case freshness_eq => rw [hCache, ← h.freshness_eq]; rfl
  case entry => simp [hEntry]
  case captured_le => simp [hEntry]
  case id_le =>
    intro other hOther s hOk
    rcases List.mem_append.mp hOther with hOther | hLast
    · refine ⟨?_, by simp [hEntry]⟩
      rw [hCache]
      exact (h.id_le other hOther s hOk).1
    · rw [List.mem_singleton.mp hLast, hReply] at hOk
      cases hOk
  case stamped =>
    intro m other s hGet hStored hNone
    rcases noneAfter_snoc_cases hGet hNone with ⟨-, rfl⟩ | ⟨-, -, hLast⟩
    · exact absurd hStored.2 (by simp [hReply])
    · exact absurd hUse hLast
  case unchanged =>
    intro m other hGet hOther hNone
    rcases noneAfter_snoc_cases hGet hNone with ⟨-, rfl⟩ | ⟨-, -, hLast⟩
    · exact absurd hReplaces hOther
    · exact absurd hReplaces hLast

/-- A turn that stores a snapshot. -/
theorem store (h : Traced freshness past session) {s : Snapshot} (hStored : turn.Stored s)
    (hId : s.id = session.cache.nextId) (hCache : turn.after.cache =
      { session.cache with
        entry := some ⟨s, turn.after.now⟩
        captures := session.cache.captures + 1
        nextId := session.cache.nextId + 1 })
    (hNow : session.now ≤ turn.after.now) : Traced freshness (past ++ [turn]) turn.after := by
  have hEntry : turn.after.cache.entry = some ⟨s, turn.after.now⟩ := by rw [hCache]
  have hReplaces : turn.Replaces := Or.inr ⟨s, hStored⟩
  constructor
  case freshness_eq => rw [hCache, ← h.freshness_eq]
  case entry =>
    intro entry hSome
    cases hEntry.symm.trans hSome
    exact ⟨past.length, turn, .self hReplaces, hStored⟩
  case captured_le =>
    intro entry hSome
    cases hEntry.symm.trans hSome
    exact Nat.le_refl _
  case id_le =>
    intro other hOther s' hOk
    have hLe : s'.id ≤ s.id := by
      rcases List.mem_append.mp hOther with hOther | hLast
      · rw [hId]
        exact Nat.le_of_lt (h.id_le other hOther s' hOk).1
      · rw [List.mem_singleton.mp hLast] at hOk
        cases hOk.symm.trans hStored.2
        exact Nat.le_refl _
    refine ⟨?_, fun entry hSome => ?_⟩
    · rw [hCache]
      exact Nat.lt_succ_of_le (hId ▸ hLe)
    · cases hEntry.symm.trans hSome
      exact hLe
  case stamped =>
    intro m other s' hGet hOther hNone
    refine ⟨_, hEntry, ?_⟩
    rcases noneAfter_snoc_cases hGet hNone with ⟨-, rfl⟩ | ⟨hGet, hNone, -⟩
    · exact Nat.le_refl _
    · obtain ⟨entry, hSome, hLe⟩ := h.stamped m other s' hGet hOther hNone
      exact Nat.le_trans hLe (Nat.le_trans (h.captured_le entry hSome) hNow)
  case unchanged =>
    intro m other hGet hOther hNone
    rcases noneAfter_snoc_cases hGet hNone with ⟨-, rfl⟩ | ⟨-, -, hLast⟩
    · exact absurd hReplaces hOther
    · exact absurd hReplaces hLast

/-- **A turn keeps up what is known of the cache.** -/
theorem snoc (h : Traced freshness past session) (hTurned : Turned session turn) :
    Traced freshness (past ++ [turn]) turn.after := by
  cases hTurned with
  | @served entry hEntry hFresh =>
    refine h.keep rfl ?_ rfl (Nat.le_refl _) fun s hOk => ?_
    · rintro (hUse | ⟨s, hStored⟩)
      · cases hUse
      · exact Turn.not_stored_of_nil rfl hStored
    · cases hOk
      exact ⟨entry.captured, hEntry⟩
  | captured hMisses taken dump device =>
    exact h.store ⟨⟨_, List.mem_singleton_self _, Shot.succeeded_ok _ _ dump⟩, rfl⟩
      (Dump.id_parse _ _) rfl (Nat.le_add_right _ _)
  | failed hMisses taken error device =>
    refine h.keep rfl ?_ rfl (Nat.le_add_right _ _) nofun
    rintro (hUse | ⟨s, -, hReply⟩)
    · cases hUse
    · cases hReply
  | dropped => exact h.drop rfl rfl rfl
  | waited duration =>
    refine h.keep rfl ?_ rfl (Nat.le_add_right _ _) nofun
    rintro (hUse | ⟨s, hStored⟩)
    · cases hUse
    · exact Turn.not_stored_of_nil rfl hStored

/-- A request captures the screen when it misses the cache, and else nothing does. -/
theorem captures_cases (h : Traced freshness past session) (hTurned : Turned session turn) :
    (turn.Misses freshness ∧ ∃ shot, turn.shots = [shot] ∧ shot.began = turn.before.now ∧
      shot.ended = turn.after.now) ∨ (¬ turn.Misses freshness ∧ turn.shots = []) := by
  rw [← h.freshness_eq]
  cases hTurned with
  | @served entry hEntry hFresh =>
    refine .inr ⟨?_, rfl⟩
    rintro ⟨force, hUse, hForce | hNone | ⟨other, hOther, hOld⟩⟩
    · cases hUse
      cases hForce
    · cases hNone.symm.trans hEntry
    · cases hOther.symm.trans hEntry
      exact Nat.not_lt_of_le hFresh hOld
  | captured hMisses | failed hMisses =>
    exact .inl ⟨⟨_, rfl, fresh?_eq_none_iff.mp hMisses⟩, _, rfl, rfl, rfl⟩
  | dropped | waited =>
    refine .inr ⟨?_, rfl⟩
    rintro ⟨force, hUse, -⟩
    cases hUse

/-- After a capture that failed, what was kept before it is served as long as it is fresh. -/
theorem served_after_failed (h : Traced freshness past session) (hTurned : Turned session turn)
    {m : Nat} {earlier : Turn σ} {forced : Bool} {shot : Shot} {error : BridgeError} {entry : Entry}
    (hGet : past[m]? = some earlier) (hEarlier : earlier.use = .get forced)
    (hShots : earlier.shots = [shot]) (hDump : shot.dump = .error error)
    (hBefore : earlier.before.cache.entry = some entry) (hNone : NoneAfter Turn.Replaces past m)
    (hUse : turn.use = .get false) (hFresh : turn.before.now - entry.captured ≤ freshness) :
    turn.shots = [] ∧ turn.reply = some (.ok entry.snapshot) := by
  have hReplaces : ¬ earlier.Replaces := by
    rintro (hInvalidate | ⟨s, ⟨other, hOther, dump, hOk⟩, -⟩)
    · cases hEarlier.symm.trans hInvalidate
    · rw [hShots, List.mem_singleton] at hOther
      subst hOther
      cases hDump.symm.trans hOk
  have hEntry := (h.unchanged m earlier hGet hReplaces hNone).trans hBefore
  exact hTurned.served_of_entry hEntry hUse (h.freshness_eq ▸ hFresh)

/-- A reply without a capture is what was stored last. -/
theorem served (h : Traced freshness past session) (hTurned : Turned session turn)
    {reply : Except BridgeError Snapshot} (hReply : turn.reply = some reply)
    (hShots : turn.shots = []) :
    ∃ m earlier s, Latest Turn.Replaces past m earlier ∧ earlier.Stored s ∧ reply = .ok s := by
  cases hTurned with
  | captured | failed => cases hShots
  | dropped | waited => cases hReply
  | @served entry hEntry =>
    cases hReply
    obtain ⟨m, earlier, hLatest, hStored⟩ := h.entry entry hEntry
    exact ⟨m, earlier, entry.snapshot, hLatest, hStored, rfl⟩

/-- Replies are numbered in their order. -/
theorem id_le_of_reply (h : Traced freshness past session) (hTurned : Turned session turn)
    {earlier : Turn σ} {s s' : Snapshot} (hEarlier : earlier ∈ past)
    (hOk : earlier.reply = some (.ok s)) (hOk' : turn.reply = some (.ok s')) : s.id ≤ s'.id := by
  obtain ⟨hLt, hLe⟩ := h.id_le earlier hEarlier s hOk
  cases hTurned with
  | failed | dropped | waited => cases hOk'
  | @served entry hEntry =>
    cases hOk'
    exact hLe entry hEntry
  | captured =>
    cases hOk'
    rw [Dump.id_parse]
    exact Nat.le_of_lt hLt

/-- A capture that is not forced begins when what was stored earlier is too old. -/
theorem apart (h : Traced freshness past session) (hTurned : Turned session turn)
    {m : Nat} {earlier : Turn σ} {s s' : Snapshot} (hGet : past[m]? = some earlier)
    (hStored : earlier.Stored s) (hNone : NoneAfter (fun other => other.use = .invalidate) past m)
    (hUse : turn.use = .get false) (hStored' : turn.Stored s') :
    earlier.after.now + freshness < turn.before.now := by
  obtain ⟨entry, hEntry, hStamp⟩ := h.stamped m earlier s hGet hStored hNone
  refine Nat.lt_of_not_le fun hFresh => ?_
  have hAge : turn.before.now - entry.captured ≤ session.cache.freshness := by
    rw [h.freshness_eq]
    omega
  exact Turn.not_stored_of_nil (hTurned.served_of_entry hEntry hUse hAge).1 hStored'

/-- **A turn is lawful after those in the past.** -/
theorem lawful (h : Traced freshness past session) (hTurned : Turned session turn) :
    turn.Lawful freshness past := by
  have hCaptures := h.captures_cases hTurned
  constructor
  case captures =>
    intro hMisses
    rcases hCaptures with ⟨-, hShot⟩ | ⟨hNot, -⟩
    · exact hShot
    · exact absurd hMisses hNot
  case no_captures =>
    intro hNot
    rcases hCaptures with ⟨hMisses, -⟩ | ⟨-, hShots⟩
    · exact absurd hMisses hNot
    · exact hShots
  case succeeded => exact fun _ _ hShots hDump => hTurned.stored_of_ok hShots hDump
  case failed => exact fun _ _ hShots hDump => hTurned.unchanged_of_error hShots hDump
  case served_after_failed =>
    exact fun _ _ _ _ _ _ hGet hEarlier hShots hDump hBefore hNone hUse hFresh =>
      h.served_after_failed hTurned hGet hEarlier hShots hDump hBefore hNone hUse hFresh
  case served => exact fun _ hReply hShots => h.served hTurned hReply hShots
  case id_le =>
    exact fun _ hEarlier _ _ hOk hOk' => h.id_le_of_reply hTurned hEarlier hOk hOk'
  case apart =>
    exact fun _ _ _ _ hGet hStored hNone hUse hStored' =>
      h.apart hTurned hGet hStored hNone hUse hStored'

end Traced

/-! ## All uses -/

/-- The turns of a run are lawful, each after those before it. -/
def LawfulTurns (freshness : Nat) (run : List (Turn σ)) : Prop :=
  ∀ past turn rest, run = past ++ turn :: rest → turn.Lawful freshness past

theorem Traced.lawful_of_append {freshness : Nat} {past : List (Turn σ)} {session : Session σ}
    (h : Traced freshness past session) (bridge : Bridge σ) (uses : List Use)
    (before : List (Turn σ)) (next : Turn σ) (rest : List (Turn σ))
    (hRun : turns bridge session uses = before ++ next :: rest) :
    next.Lawful freshness (past ++ before) := by
  induction uses generalizing past session before with
  | nil => cases before <;> cases hRun
  | cons use uses ih =>
    have hTurned := turned bridge session use
    cases before with
    | nil =>
      obtain ⟨rfl, -⟩ := List.cons.inj hRun
      rw [List.append_nil]
      exact h.lawful hTurned
    | cons first before =>
      obtain ⟨rfl, hRest⟩ := List.cons.inj hRun
      rw [List.append_cons]
      exact ih (h.snoc hTurned) before hRest

/-- **Every use of a cache is lawful**, after whatever uses and with whatever the bridge answers. -/
theorem lawful_turns (bridge : Bridge σ) (freshness : Nat) (device : σ) (uses : List Use) :
    LawfulTurns freshness (turns bridge (.start freshness device) uses) :=
  fun past next rest hRun =>
    (Traced.start freshness device).lawful_of_append bridge uses past next rest hRun

/-- A snapshot that may be served for 10 is served after 10, and not after 11. -/
example : (turns (.still "<a/>") (.start 10 ()) [.get false, .wait 10, .get false, .wait 1,
    .get false, .get true, .invalidate, .get false]).map (·.shots.length) =
    [1, 0, 0, 0, 1, 1, 0, 1] := by decide +kernel

end ScreenQuery.Cache
