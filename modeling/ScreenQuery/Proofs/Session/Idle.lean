import ScreenQuery.Proofs.Session.Record
import ScreenQuery.Session.Operation

/-!
# What a wait for an idle screen has observed

* The wait measures how long the replies to its requests have shown the same screen. A reply may
  come from the cache, so the last capture may be older than the reply: the wait may accept a
  screen that the captures have shown for less than the time asked for (`idleOn_eq`).
* `Seen` is what its memory says of the captures: they have shown nothing else since one that is no
  later than the sighting. Every round of a wait keeps this true (`Watched.looked`).
* `Exact` is what the memory says of them if nothing could be read before the wait. In particular
  the check has missed no quiet window (`Exact.looked`).
* Hence a wait has observed a quiet window if its last request captured the screen; and only then,
  unless captures from before the wait show the screen, too.

About `wait_for_idle`, with `poll_until` and `SnapshotCache` below it.
-/

namespace ScreenQuery.Session

variable {σ : Type}

/-! ## Stretches of captures -/

/-- From one capture to a later one, all that could be read show the same screen. -/
structure Stretch (log : List Shot) (hash : UInt64) (k m : Nat) (first last : Shot) : Prop where
  lt : k < m
  get_first : log[k]? = some first
  get_last : log[m]? = some last
  hash_first : first.hash? = some hash
  hash_last : last.hash? = some hash
  between : ∀ i shot, k < i → i < m → log[i]? = some shot →
    shot.hash? = none ∨ shot.hash? = some hash

/-- The captures have shown one screen for some time: two of them do, the later one at least that
long after the earlier, and none in between shows another screen. -/
def QuietWindow (log : List Shot) (hash : UInt64) (settle : Nat) : Prop :=
  ∃ k m first last, Stretch log hash k m first last ∧ first.ended + settle ≤ last.ended

/-- Since a capture, all that could be read show the same screen. -/
structure ShownSince (log : List Shot) (hash : UInt64) (k : Nat) (first : Shot) : Prop where
  get : log[k]? = some first
  hash_eq : first.hash? = some hash
  later : ∀ i shot, k < i → log[i]? = some shot → shot.hash? = none ∨ shot.hash? = some hash

section Stretches

variable {log : List Shot} {hash : UInt64} {k m : Nat} {first last shot : Shot}

/-- A capture that could be read shows one screen. -/
theorem hash_eq_of_shown {other : UInt64}
    (h : shot.hash? = none ∨ shot.hash? = some hash) (hOther : shot.hash? = some other) :
    other = hash := by
  rcases h with hNone | hSame
  · rw [hNone] at hOther
    cases hOther
  · exact Option.some.inj (hOther.symm.trans hSame)

theorem Stretch.of_snoc (h : Stretch (log ++ [shot]) hash k m first last) :
    (m = log.length ∧ last = shot) ∨ Stretch log hash k m first last := by
  rcases getElem?_snoc_cases h.get_last with hLast | ⟨hlt, hLast⟩
  · exact Or.inl hLast
  · rcases getElem?_snoc_cases h.get_first with ⟨rfl, -⟩ | ⟨-, hFirst⟩
    · exact absurd h.lt (Nat.not_lt_of_gt hlt)
    · exact Or.inr ⟨h.lt, hFirst, hLast, h.hash_first, h.hash_last, fun i other hki him hOther =>
        h.between i other hki him (getElem?_snoc hOther)⟩

theorem Stretch.shorten {i : Nat} {middle : Shot} (h : Stretch log hash k m first last)
    (hki : k < i) (him : i ≤ m) (hGet : log[i]? = some middle) (hHash : middle.hash? = some hash) :
    Stretch log hash k i first middle :=
  ⟨hki, h.get_first, hGet, h.hash_first, hHash, fun j other hkj hji hOther =>
    h.between j other hkj (Nat.lt_of_lt_of_le hji him) hOther⟩

/-- In a stretch only one screen can be read. -/
theorem Stretch.hash_unique {i : Nat} {middle : Shot} {other : UInt64}
    (h : Stretch log hash k m first last) (hki : k ≤ i) (him : i ≤ m)
    (hGet : log[i]? = some middle) (hHash : middle.hash? = some other) : other = hash := by
  rcases Nat.lt_or_eq_of_le hki with hki | rfl
  · rcases Nat.lt_or_eq_of_le him with him | rfl
    · exact hash_eq_of_shown (h.between i middle hki him hGet) hHash
    · obtain rfl := Option.some.inj (hGet.symm.trans h.get_last)
      exact Option.some.inj (hHash.symm.trans h.hash_last)
  · obtain rfl := Option.some.inj (hGet.symm.trans h.get_first)
    exact Option.some.inj (hHash.symm.trans h.hash_first)

theorem ShownSince.snoc (h : ShownSince log hash k first)
    (hShot : shot.hash? = none ∨ shot.hash? = some hash) :
    ShownSince (log ++ [shot]) hash k first := by
  refine ⟨getElem?_snoc h.get, h.hash_eq, fun i other hki hOther => ?_⟩
  rcases getElem?_snoc_cases hOther with ⟨-, rfl⟩ | ⟨-, hOther⟩
  · exact hShot
  · exact h.later i other hki hOther

theorem shownSince_of_latest (h : Latest Shot.Succeeded log k first)
    (hHash : first.hash? = some hash) : ShownSince log hash k first := by
  refine ⟨h.get, hHash, fun i other hki hOther => ?_⟩
  cases hOtherHash : other.hash? with
  | none => exact Or.inl rfl
  | some otherHash =>
    exact absurd (Shot.succeeded_of_hash? hOtherHash) (h.later i other hki hOther)

/-- From the first capture of a screen to the latest, if there is another. -/
theorem ShownSince.stretch (h : ShownSince log hash k first) (hkm : k < m)
    (hGet : log[m]? = some last) (hHash : last.hash? = some hash) :
    Stretch log hash k m first last :=
  ⟨hkm, h.get, hGet, h.hash_eq, hHash, fun i shot hki _ hShot => h.later i shot hki hShot⟩

end Stretches

/-! ## The check -/

/-- What the check makes of a reply: what it accepts, and what it remembers. -/
inductive Looked (settle elapsed : Nat) : Option Sighting → Except BridgeError Snapshot →
    Option Snapshot → Option Sighting → Prop
  | unread {sighting : Option Sighting} {reply : Except BridgeError Snapshot}
      (h : ∀ s, reply = .ok s → s.isDegraded = true) :
      Looked settle elapsed sighting reply none sighting
  | sighted {sighting : Option Sighting} {s : Snapshot} (hRead : s.isDegraded = false)
      (hNew : ∀ seen, sighting = some seen → seen.hash ≠ s.contentHash) :
      Looked settle elapsed sighting (.ok s) none (some ⟨s.contentHash, s.id, elapsed⟩)
  | again {seen : Sighting} {s : Snapshot} (hRead : s.isDegraded = false)
      (hSame : seen.hash = s.contentHash)
      (hEarly : s.id ≠ seen.snapshotId → elapsed - seen.since < settle) :
      Looked settle elapsed (some seen) (.ok s) none (some seen)
  | accepted {seen : Sighting} {s : Snapshot} (hRead : s.isDegraded = false)
      (hSame : seen.hash = s.contentHash) (hOther : s.id ≠ seen.snapshotId)
      (hSettled : settle ≤ elapsed - seen.since) :
      Looked settle elapsed (some seen) (.ok s) (some s) (some seen)

theorem looked_of_examine {settle asked elapsed : Nat} {patience : Patience}
    {progress after : Wait.Progress (Option Sighting)} {reply : Except BridgeError Snapshot}
    {found : Option Snapshot}
    (h : Wait.examine (settled settle) (progress.probed patience asked) elapsed reply =
      (found, after)) :
    Looked settle elapsed progress.memory reply found after.memory := by
  cases Wait.examined_of_eq h with
  | failed error =>
    rw [Wait.probed_memory]
    exact .unread nofun
  | unread hReason =>
    rw [Wait.probed_memory]
    refine .unread fun s' hEq => ?_
    cases hEq
    simp [Snapshot.isDegraded, hReason]
  | @shown s _ _ hRead hCheck =>
    rw [Wait.probed_memory] at hCheck
    cases hMemory : progress.memory with
    | none =>
      rw [hMemory] at hCheck
      cases hCheck
      exact .sighted hRead nofun
    | some seen =>
      rw [hMemory] at hCheck
      unfold settled at hCheck
      by_cases hSame : seen.hash = s.contentHash
      · by_cases hLong : s.id ≠ seen.snapshotId ∧ settle ≤ elapsed - seen.since
        · simp only [hSame, if_true, if_pos hLong] at hCheck
          cases hCheck
          exact .accepted hRead hSame hLong.1 hLong.2
        · simp only [hSame, if_true, if_neg hLong] at hCheck
          cases hCheck
          exact .again hRead hSame fun hOther =>
            Nat.lt_of_not_le fun hSettled => hLong ⟨hOther, hSettled⟩
      · simp only [if_neg hSame] at hCheck
        cases hCheck
        exact .sighted hRead fun _ hEq => by cases hEq; exact hSame

/-! ## What the wait remembers -/

section Rounds

variable {settle start freshness elapsed taken : Nat} {cache after : Cache}
  {log longer : List Shot} {reply : Except BridgeError Snapshot} {sighting next : Option Sighting}
  {seen : Sighting} {k m : Nat} {first last : Shot} {s : Snapshot}

/-- The screen in the cache is the one that the latest capture shows. -/
theorem exists_latest (hKept : Kept freshness cache log (start + elapsed)) {captured : Nat}
    (hEntry : cache.entry = some ⟨s, captured⟩) (hRead : s.isDegraded = false) :
    ∃ m last, Latest Shot.Succeeded log m last ∧ s.IsOf last ∧ captured = last.ended ∧
      last.hash? = some s.contentHash ∧ last.ended ≤ start + elapsed := by
  obtain ⟨m, last, hLatest, hIsOf, hCaptured, -⟩ := hKept.entry _ hEntry
  exact ⟨m, last, hLatest, hIsOf, hCaptured, hIsOf.hash?_of_readable hRead,
    hKept.timely.ended_le last (List.mem_of_getElem? hLatest.get)⟩

/-- What a sighting says of the captures. -/
structure Seen (start : Nat) (cache : Cache) (log : List Shot) (elapsed : Nat) (seen : Sighting)
    (k : Nat) (first : Shot) : Prop where
  shown : ShownSince log seen.hash k first
  ended_le : first.ended ≤ start + seen.since
  since_le : seen.since ≤ elapsed
  /-- Without a newer capture, the cache still holds the snapshot that was sighted. -/
  id_eq : ∀ entry, cache.entry = some entry → Latest Shot.Succeeded log k first →
    entry.snapshot.id = seen.snapshotId

/-- A screen is sighted. -/
theorem seen_of_entry (hKept : Kept freshness cache log (start + elapsed)) {captured : Nat}
    (hEntry : cache.entry = some ⟨s, captured⟩) (hRead : s.isDegraded = false) :
    ∃ k first, Seen start cache log elapsed ⟨s.contentHash, s.id, elapsed⟩ k first := by
  obtain ⟨m, last, hLatest, -, -, hHash, hEnded⟩ := exists_latest hKept hEntry hRead
  refine ⟨m, last, shownSince_of_latest hLatest hHash, hEnded, Nat.le_refl _, ?_⟩
  intro entry hEntry' _
  rw [hEntry] at hEntry'
  cases hEntry'
  rfl

/-- A request that shows nothing else leaves what is known of the sighting. -/
theorem Seen.requested (h : Seen start cache log elapsed seen k first)
    (hRequested : Requested cache log (start + elapsed) taken reply after longer)
    (hSame : ∀ s, reply = .ok s → s.isDegraded = false → s.contentHash = seen.hash) :
    Seen start after longer (elapsed + taken) seen k first := by
  have hSince : seen.since ≤ elapsed + taken := Nat.le_add_right_of_le h.since_le
  cases hRequested with
  | served => exact ⟨h.shown, h.ended_le, hSince, h.id_eq⟩
  | captured taken dump =>
    have hIsOf := isOf_parse (start + elapsed) (start + elapsed + taken) cache.nextId dump
    refine ⟨h.shown.snoc ?_, h.ended_le, hSince, fun entry _ hLatest => ?_⟩
    · cases hRead : (Dump.parse cache.nextId dump).isDegraded with
      | true => exact Or.inl (hIsOf.hash?_of_degraded hRead)
      | false => exact Or.inr (hSame _ rfl hRead ▸ hIsOf.hash?_of_readable hRead)
    · -- the capture is newer than the sighting
      have hlt : k < log.length := (List.getElem?_eq_some_iff.mp h.shown.get).1
      exact absurd (hLatest.unique (.self (Shot.succeeded_ok _ _ dump))).1 (Nat.ne_of_lt hlt)
  | failed taken error =>
    refine ⟨h.shown.snoc (Or.inl rfl), h.ended_le, hSince, fun entry hEntry hLatest => ?_⟩
    exact h.id_eq entry hEntry (hLatest.of_snoc (Shot.not_succeeded_error _ _ error))

/-- What a wait remembers is known of the captures. -/
def Watched (start : Nat) (cache : Cache) (log : List Shot) (elapsed : Nat)
    (sighting : Option Sighting) : Prop :=
  ∀ seen, sighting = some seen → ∃ k first, Seen start cache log elapsed seen k first

/-- The time may pass. -/
theorem Watched.wait {later : Nat} (h : Watched start cache log elapsed sighting)
    (hLater : elapsed ≤ later) : Watched start cache log later sighting := by
  intro seen hSeen
  obtain ⟨k, first, hFirst⟩ := h seen hSeen
  exact ⟨k, first, { hFirst with since_le := Nat.le_trans hFirst.since_le hLater }⟩

/-- **A reply that the check does not accept leaves its memory true.** -/
theorem Watched.looked (h : Watched start cache log elapsed sighting)
    (hKept : Kept freshness cache log (start + elapsed))
    (hRequested : Requested cache log (start + elapsed) taken reply after longer)
    (hLooked : Looked settle (elapsed + taken) sighting reply none next) :
    Watched start after longer (elapsed + taken) next := by
  cases hLooked with
  | unread hUnread =>
    intro seen hSeen
    obtain ⟨k, first, hFirst⟩ := h seen hSeen
    refine ⟨k, first, hFirst.requested hRequested fun s hReply hRead => ?_⟩
    rw [hUnread s hReply] at hRead
    cases hRead
  | sighted hRead hNew =>
    intro seen hSeen
    cases hSeen
    obtain ⟨captured, hEntry, -⟩ := hRequested.entry_of_ok
    have hAfter := hKept.requested hRequested
    rw [Nat.add_assoc] at hAfter
    exact seen_of_entry hAfter hEntry hRead
  | again hRead hSame hEarly =>
    intro seen hSeen
    obtain ⟨k, first, hFirst⟩ := h seen hSeen
    refine ⟨k, first, hFirst.requested hRequested fun s hReply _ => ?_⟩
    cases hReply
    cases hSeen
    exact hSame.symm

/-- What has been observed of a screen that is accepted at some time: a capture `last` shows it,
which is not too old, and another capture does, which is old enough; in between, no capture shows
another screen. -/
structure Observed (settle freshness : Nat) (log : List Shot) (now : Nat) (s : Snapshot)
    (k m : Nat) (first last : Shot) : Prop where
  stretch : Stretch log s.contentHash k m first last
  isOf : s.IsOf last
  /-- No later capture has succeeded. -/
  latest : Latest Shot.Succeeded log m last
  settle_le : first.ended + settle ≤ now
  age_le : now ≤ last.ended + freshness

theorem Watched.accepted (h : Watched start cache log elapsed sighting)
    (hKept : Kept freshness cache log (start + elapsed))
    (hRequested : Requested cache log (start + elapsed) taken reply after longer)
    (hLooked : Looked settle (elapsed + taken) sighting reply (some s) next) :
    ∃ k m first last,
      Observed settle freshness longer (start + (elapsed + taken)) s k m first last := by
  cases hLooked with
  | accepted hRead hSame hOther hSettled =>
    obtain ⟨captured, hEntry, hAge⟩ := hRequested.entry_of_ok
    have hAfter := hKept.requested hRequested
    rw [Nat.add_assoc] at hAfter hAge
    rw [hKept.freshness_eq] at hAge
    obtain ⟨m, last, hLatest, hIsOf, rfl, hHash, hEnded⟩ := exists_latest hAfter hEntry hRead
    obtain ⟨k, first, hFirst⟩ := h _ rfl
    have hFirst' := hFirst.requested hRequested fun s hReply _ => by
      cases hReply
      exact hSame.symm
    refine ⟨k, m, first, last, ?_, hIsOf, hLatest, ?_, hAge⟩
    · rw [← hSame] at hHash ⊢
      refine hFirst'.shown.stretch (Nat.lt_of_le_of_ne ?_ ?_) hLatest.get hHash
      · exact hLatest.le_of_holds hFirst'.shown.get (Shot.succeeded_of_hash? hFirst'.shown.hash_eq)
      · rintro rfl
        obtain rfl := Option.some.inj (hFirst'.shown.get.symm.trans hLatest.get)
        exact hOther (hFirst'.id_eq _ hEntry hLatest)
    · have hEndedFirst := hFirst'.ended_le
      have hSince := hFirst'.since_le
      omega

/-! ## What the wait has missed -/

/-- What a wait knows of all captures, if none before it could be read. -/
structure Exact (settle start : Nat) (cache : Cache) (log : List Shot)
    (sighting : Option Sighting) : Prop where
  unread : sighting = none → ∀ shot ∈ log, shot.hash? = none
  /-- The sighting was made at once, and the captures just before showed another screen. -/
  sighted : ∀ seen, sighting = some seen → ∃ k first, ShownSince log seen.hash k first ∧
    first.ended = start + seen.since ∧ (∀ j other, ¬ Stretch log seen.hash j k other first) ∧
    seen.snapshotId < cache.nextId
  /-- The check has missed no quiet window. -/
  busy : ∀ hash, ¬ QuietWindow log hash settle

namespace Exact

variable {shot : Shot}

/-- One more capture that could not be read. -/
theorem snoc_unread (h : Exact settle start cache log sighting)
    (hNext : cache.nextId ≤ after.nextId) (hShot : shot.hash? = none) :
    Exact settle start after (log ++ [shot]) sighting := by
  constructor
  case unread =>
    intro hNone other hOther
    rcases List.mem_append.mp hOther with hOther | hLast
    · exact h.unread hNone other hOther
    · rw [List.mem_singleton.mp hLast]
      exact hShot
  case sighted =>
    intro seen hSeen
    obtain ⟨k, first, hShown, hEnded, hFirst, hId⟩ := h.sighted seen hSeen
    refine ⟨k, first, hShown.snoc (Or.inl hShot), hEnded, fun j other hStretch => ?_,
      Nat.lt_of_lt_of_le hId hNext⟩
    rcases hStretch.of_snoc with ⟨rfl, -⟩ | hStretch
    · exact absurd (List.getElem?_eq_some_iff.mp hShown.get).1 (Nat.lt_irrefl _)
    · exact hFirst j other hStretch
  case busy =>
    rintro hash ⟨k, m, first, last, hStretch, hLong⟩
    rcases hStretch.of_snoc with ⟨-, rfl⟩ | hStretch
    · rw [hStretch.hash_last] at hShot
      cases hShot
    · exact h.busy hash ⟨k, m, first, last, hStretch, hLong⟩

/-- No stretch ends with a capture of another screen than the one that was sighted. -/
theorem not_stretch_of_new (h : Exact settle start cache log sighting) {hash : UInt64}
    (hShot : shot.hash? = some hash) (hNew : ∀ seen, sighting = some seen → seen.hash ≠ hash)
    (hash' : UInt64) (j : Nat) (other : Shot) :
    ¬ Stretch (log ++ [shot]) hash' j log.length other shot := by
  intro hStretch
  obtain rfl : hash = hash' := Option.some.inj (hShot.symm.trans hStretch.hash_last)
  rcases getElem?_snoc_cases hStretch.get_first with ⟨rfl, -⟩ | ⟨-, hOther⟩
  · exact absurd hStretch.lt (Nat.lt_irrefl _)
  · cases hSighting : sighting with
    | none =>
      have hNone := h.unread hSighting other (List.mem_of_getElem? hOther)
      rw [hStretch.hash_first] at hNone
      cases hNone
    | some seen =>
      obtain ⟨k, first, hShown, -⟩ := h.sighted seen hSighting
      refine hNew seen hSighting ?_
      rcases Nat.lt_or_ge k j with hkj | hjk
      · exact (hash_eq_of_shown (hShown.later j other hkj hOther) hStretch.hash_first).symm
      · have hk : k < log.length := (List.getElem?_eq_some_iff.mp hShown.get).1
        exact hStretch.hash_unique hjk (Nat.le_of_lt hk) (getElem?_snoc hShown.get) hShown.hash_eq

/-- One more capture, of another screen. -/
theorem snoc_new (h : Exact settle start cache log sighting) {hash : UInt64} {id : Nat}
    (hShot : shot.hash? = some hash) (hNew : ∀ seen, sighting = some seen → seen.hash ≠ hash)
    (hEnded : shot.ended = start + elapsed) (hId : id < after.nextId) :
    Exact settle start after (log ++ [shot]) (some ⟨hash, id, elapsed⟩) := by
  have hNoStretch := h.not_stretch_of_new hShot hNew
  constructor
  case unread => exact nofun
  case sighted =>
    rintro seen ⟨⟩
    refine ⟨log.length, shot, ⟨List.getElem?_concat_length, hShot, fun i other hi hOther => ?_⟩,
      hEnded, hNoStretch hash, hId⟩
    rcases getElem?_snoc_cases hOther with ⟨rfl, -⟩ | ⟨hlt, -⟩
    · exact absurd hi (Nat.lt_irrefl _)
    · exact absurd hi (Nat.not_lt_of_gt hlt)
  case busy =>
    rintro hash' ⟨k, m, first, last, hStretch, hLong⟩
    rcases hStretch.of_snoc with ⟨rfl, rfl⟩ | hOld
    · exact hNoStretch hash' k first hStretch
    · exact h.busy hash' ⟨k, m, first, last, hOld, hLong⟩

/-- One more capture of the screen that was sighted, too early to be accepted. -/
theorem snoc_again (h : Exact settle start cache log (some seen)) {now : Nat}
    (hTimely : Timely log now) (hShot : shot.hash? = some seen.hash)
    (hEnded : shot.ended = start + elapsed) (hEarly : elapsed - seen.since < settle)
    (hNext : cache.nextId ≤ after.nextId) :
    Exact settle start after (log ++ [shot]) (some seen) := by
  obtain ⟨k, first, hShown, hFirstEnded, hFirst, hId⟩ := h.sighted seen rfl
  have hk : k < log.length := (List.getElem?_eq_some_iff.mp hShown.get).1
  constructor
  case unread => exact nofun
  case sighted =>
    rintro seen ⟨⟩
    refine ⟨k, first, hShown.snoc (Or.inr hShot), hFirstEnded, fun j other hStretch => ?_,
      Nat.lt_of_lt_of_le hId hNext⟩
    rcases hStretch.of_snoc with ⟨rfl, -⟩ | hStretch
    · exact absurd hk (Nat.lt_irrefl _)
    · exact hFirst j other hStretch
  case busy =>
    rintro hash ⟨j, m, other, last, hStretch, hLong⟩
    rcases hStretch.of_snoc with ⟨rfl, rfl⟩ | hOld
    · obtain rfl : seen.hash = hash := Option.some.inj (hShot.symm.trans hStretch.hash_last)
      rcases Nat.lt_or_ge j k with hjk | hkj
      · -- the stretch up to the sighting would be one of the captures before
        rcases (hStretch.shorten hjk (Nat.le_of_lt hk) (getElem?_snoc hShown.get)
          hShown.hash_eq).of_snoc with ⟨rfl, -⟩ | hOld
        · exact Nat.lt_irrefl _ hk
        · exact hFirst j other hOld
      · rcases getElem?_snoc_cases hStretch.get_first with ⟨rfl, -⟩ | ⟨-, hOther⟩
        · exact Nat.lt_irrefl _ hStretch.lt
        · have hLe := hTimely.ended_le_ended hkj hShown.get hOther
          omega
    · exact h.busy hash ⟨j, m, other, last, hOld, hLong⟩

/-- What the cache serves has been sighted. -/
theorem sighted_of_entry (h : Exact settle start cache log sighting)
    (hKept : Kept freshness cache log (start + elapsed)) {captured : Nat}
    (hEntry : cache.entry = some ⟨s, captured⟩) (hRead : s.isDegraded = false) :
    ∃ seen, sighting = some seen ∧ seen.hash = s.contentHash := by
  obtain ⟨m, last, hLatest, -, -, hHash, -⟩ := exists_latest hKept hEntry hRead
  cases hSighting : sighting with
  | none =>
    have hNone := h.unread hSighting last (List.mem_of_getElem? hLatest.get)
    rw [hHash] at hNone
    cases hNone
  | some seen =>
    refine ⟨seen, rfl, ?_⟩
    obtain ⟨k, first, hShown, -⟩ := h.sighted seen hSighting
    have hkm : k ≤ m :=
      hLatest.le_of_holds hShown.get (Shot.succeeded_of_hash? hShown.hash_eq)
    rcases Nat.lt_or_eq_of_le hkm with hkm | rfl
    · exact (hash_eq_of_shown (hShown.later m last hkm hLatest.get) hHash).symm
    · obtain rfl := Option.some.inj (hShown.get.symm.trans hLatest.get)
      exact Option.some.inj (hShown.hash_eq.symm.trans hHash)

/-- **A reply that the check does not accept leaves what is known of all captures exact.** -/
theorem looked (h : Exact settle start cache log sighting)
    (hKept : Kept freshness cache log (start + elapsed))
    (hRequested : Requested cache log (start + elapsed) taken reply after longer)
    (hLooked : Looked settle (elapsed + taken) sighting reply none next) :
    Exact settle start after longer next := by
  cases hRequested with
  | served hEntry _ =>
    cases hLooked with
    | unread => exact h
    | again => exact h
    | sighted hRead hNew =>
      obtain ⟨seen, hSeen, hSame⟩ := h.sighted_of_entry hKept hEntry hRead
      exact absurd hSame (hNew seen hSeen)
  | captured taken dump =>
    have hIsOf := isOf_parse (start + elapsed) (start + elapsed + taken) cache.nextId dump
    cases hLooked with
    | unread hUnread =>
      exact h.snoc_unread (Nat.le_succ _) (hIsOf.hash?_of_degraded (hUnread _ rfl))
    | sighted hRead hNew =>
      refine h.snoc_new (hIsOf.hash?_of_readable hRead) hNew (Nat.add_assoc _ _ _) ?_
      rw [Dump.id_parse]
      exact Nat.lt_succ_self _
    | again hRead hSame hEarly =>
      obtain ⟨-, -, -, -, -, hId⟩ := h.sighted _ rfl
      refine h.snoc_again hKept.timely (hSame ▸ hIsOf.hash?_of_readable hRead)
        (Nat.add_assoc _ _ _) (hEarly ?_) (Nat.le_succ _)
      rw [Dump.id_parse]
      exact Nat.ne_of_gt hId
  | failed taken error =>
    cases hLooked with
    | unread => exact h.snoc_unread (Nat.le_refl _) rfl

/-- **A quiet window that a wait accepts ends with its last request.** -/
theorem accepted (h : Exact settle start cache log sighting)
    (hRequested : Requested cache log (start + elapsed) taken reply after longer)
    (hLooked : Looked settle (elapsed + taken) sighting reply (some s) next)
    (hLatest : Latest Shot.Succeeded longer m last) {hash : UInt64}
    (hQuiet : QuietWindow longer hash settle) : last.ended = start + (elapsed + taken) := by
  cases hLooked with
  | accepted =>
    cases hRequested with
    | served => exact absurd hQuiet (h.busy hash)
    | captured taken dump =>
      rw [(hLatest.unique (.self (Shot.succeeded_ok _ _ dump))).2, Nat.add_assoc]

end Exact

/-! ## Whole waits -/

section Runs

variable {bridge : Bridge σ} {what : Text} {patience : Patience}
  {progress : Wait.Progress (Option Sighting)} {state final : Cache × σ × List Shot}
  {calls : List Call} {outcome : Except Failure Snapshot × Option Sighting} {finish : Nat}
  (h : Wait.Polled (Plan.sessionHost bridge.recorded) what patience (settled settle) start progress
    elapsed state calls outcome finish final)
  (hKept : Kept freshness state.1 state.2.2 (start + elapsed))

include h hKept

theorem observed_of_polled (hWatched : Watched start state.1 state.2.2 elapsed progress.memory)
    (hOk : outcome.1 = .ok s) :
    ∃ k m first last,
      Observed settle freshness final.2.2 (start + finish) s k m first last := by
  induction h with
  | accept hServe hExamine =>
    cases hOk
    exact hWatched.accepted hKept (requested_of_serve hServe) (looked_of_examine hExamine)
  | giveUp => cases hOk
  | again hServe hExamine _ _ ih =>
    have hRequested := requested_of_serve hServe
    refine ih ((hKept.requested hRequested).wait ?_) ?_ hOk
    · omega
    · exact (hWatched.looked hKept hRequested (looked_of_examine hExamine)).wait
        (Nat.le_add_right _ _)

theorem ended_of_polled
    (hExact : Exact settle start state.1 state.2.2 progress.memory) (hOk : outcome.1 = .ok s)
    (hLatest : Latest Shot.Succeeded final.2.2 m last) {hash : UInt64}
    (hQuiet : QuietWindow final.2.2 hash settle) : last.ended = start + finish := by
  induction h with
  | accept hServe hExamine =>
    exact hExact.accepted (requested_of_serve hServe) (looked_of_examine hExamine) hLatest hQuiet
  | giveUp => cases hOk
  | again hServe hExamine _ _ ih =>
    have hRequested := requested_of_serve hServe
    refine ih ((hKept.requested hRequested).wait ?_) ?_ hOk hLatest hQuiet
    · omega
    · exact hExact.looked hKept hRequested (looked_of_examine hExamine)

end Runs

end Rounds

/-- **What a wait for an idle screen has observed**, after whatever was done with the session
before. The captures show the screen unchanged from `first` to `last`, but only the reply to the
last request is known to come `settle` after `first`. So there is a quiet window if `last` was made
for that request. If no capture before the wait could be read, there is none otherwise. -/
theorem observed_of_idle {γ : Type} (bridge : Bridge σ) (freshness : Nat) (device : σ)
    (earlier : Plan γ) (settle : Nat) (patience : Patience) :
    let before := (earlier.run bridge.recorded (.start freshness (device, []))).2
    let after := (waitForIdle settle patience).run bridge.recorded before
    let log := after.2.device.2
    ∀ s, after.1 = .ok s → ∃ k m first last,
      Observed settle freshness log after.2.now s k m first last ∧
      (last.ended = after.2.now → QuietWindow log s.contentHash settle) ∧
      ((∀ shot ∈ before.device.2, shot.hash? = none) →
        QuietWindow log s.contentHash settle → last.ended = after.2.now) := by
  intro before after log s hOk
  have hKept : Kept freshness before.cache before.device.2 before.now :=
    Kept.run (Kept.start freshness) earlier
  obtain ⟨calls, outcome, finish, final, hRun, hPolled⟩ := Wait.polled_run bridge.recorded
    ("screen idle for " ++ Text.ofNat settle ++ "ms") patience (settled settle) none before
  have hAfter : after = (outcome.1, ⟨before.now + finish, final.1, final.2⟩) := by
    unfold after waitForIdle
    rw [Plan.run_bind, hRun]
    rfl
  have hLog : log = final.2.2 := congrArg (fun result => result.2.device.2) hAfter
  rw [hLog]
  rw [hAfter] at hOk ⊢
  obtain ⟨k, m, first, last, hObserved⟩ := observed_of_polled hPolled hKept nofun hOk
  refine ⟨k, m, first, last, hObserved, fun hEnded => ?_, fun hUnread hQuiet => ?_⟩
  · exact ⟨k, m, first, last, hObserved.stretch, hEnded ▸ hObserved.settle_le⟩
  · have hExact : Exact settle before.now before.cache before.device.2 none := by
      refine ⟨fun _ => hUnread, nofun, ?_⟩
      rintro hash ⟨j, n, early, late, hStretch, -⟩
      have hNone := hUnread early (List.mem_of_getElem? hStretch.get_first)
      rw [hStretch.hash_first] at hNone
      cases hNone
    exact ended_of_polled hPolled hKept hExact hOk hObserved.latest hQuiet

/-! ## A wait that accepts what it has not seen -/

/-- A wait on a device that always shows the same screen. Its requests may be served from the cache,
and every 6 the screen is captured. -/
def idleOn (dump : Text) : Except Failure Snapshot × Session (Unit × List Shot) :=
  (waitForIdle 10 ⟨10, 6, 6⟩).run (Bridge.still dump).recorded (.start 100 ((), []))

section Still

variable {dump : Text}

/-- What the wait remembers of the first request. -/
def firstSighting (dump : Text) : Sighting :=
  ⟨(Dump.parse 1 dump).contentHash, (Dump.parse 1 dump).id, 0⟩

theorem settled_firstSighting (dump : Text) (elapsed : Nat) :
    settled 10 (some (firstSighting dump)) elapsed (Dump.parse 2 dump) =
      (if 10 ≤ elapsed then some (Dump.parse 2 dump) else none, some (firstSighting dump)) := by
  have hHash : (Dump.parse 1 dump).contentHash = (Dump.parse 2 dump).contentHash := by
    rw [Dump.parse_eq 1 2]
    rfl
  simp only [settled, firstSighting, hHash, Dump.id_parse]
  by_cases hSettled : 10 ≤ elapsed <;> simp [hSettled]

theorem isDegraded_parse (hRead : (Dump.parse 0 dump).isDegraded = false) (id : Nat) :
    (Dump.parse id dump).isDegraded = false := by
  rw [Dump.parse_eq id 0]
  exact hRead

/-- The wait captures the screen at 0 and at 6, and accepts at 10 what the cache holds. -/
theorem idleOn_eq (hRead : (Dump.parse 0 dump).isDegraded = false) :
    idleOn dump = (.ok (Dump.parse 2 dump), ⟨10, ⟨100, some ⟨Dump.parse 2 dump, 6⟩, 2, 3⟩,
      ((), [⟨0, 0, .ok dump⟩, ⟨6, 6, .ok dump⟩])⟩) := by
  let cacheAt0 : Cache := ⟨100, some ⟨Dump.parse 1 dump, 0⟩, 1, 2⟩
  let cacheAt6 : Cache := ⟨100, some ⟨Dump.parse 2 dump, 6⟩, 2, 3⟩
  let logAt0 : List Shot := [⟨0, 0, .ok dump⟩]
  let logAt6 : List Shot := [⟨0, 0, .ok dump⟩, ⟨6, 6, .ok dump⟩]
  let sighting := some (firstSighting dump)
  have hRequest₁ : Session.request (Bridge.still dump).recorded false (start 100 ((), [])) =
      (.ok (Dump.parse 1 dump), ⟨0, cacheAt0, ((), logAt0)⟩) := rfl
  have hRequest₂ : Session.request (Bridge.still dump).recorded true ⟨6, cacheAt0, (), logAt0⟩ =
      (.ok (Dump.parse 2 dump), ⟨6, cacheAt6, (), logAt6⟩) := rfl
  have hRequest₃ : Session.request (Bridge.still dump).recorded false ⟨10, cacheAt6, (), logAt6⟩ =
      (.ok (Dump.parse 2 dump), ⟨10, cacheAt6, (), logAt6⟩) := rfl
  have hExamine₁ : Wait.examine (settled 10) ⟨0, none, none⟩ 0 (.ok (Dump.parse 1 dump)) =
      (none, ⟨0, none, sighting⟩) := Wait.examine_of_readable (isDegraded_parse hRead 1)
  have hExamine₂ : Wait.examine (settled 10) ⟨6, none, sighting⟩ 6 (.ok (Dump.parse 2 dump)) =
      (none, ⟨6, none, sighting⟩) := by
    simp only [Wait.examine_of_readable (isDegraded_parse hRead 2), settled_firstSighting, sighting]
    rfl
  have hExamine₃ : Wait.examine (settled 10) ⟨6, none, sighting⟩ 10 (.ok (Dump.parse 2 dump)) =
      (some (Dump.parse 2 dump), ⟨6, none, sighting⟩) := by
    simp only [Wait.examine_of_readable (isDegraded_parse hRead 2), settled_firstSighting, sighting]
    rfl
  unfold idleOn waitForIdle Wait.pollUntil
  rw [Plan.run_bind, Wait.run_pollFrom_again 0 hRequest₁ rfl hExamine₁ (by decide),
    Wait.run_pollFrom_again 0 hRequest₂ rfl hExamine₂ (by decide),
    Wait.run_pollFrom_accept 0 hRequest₃ rfl hExamine₃]
  rfl

end Still

theorem readable_element : (Dump.parse 0 "<a/>").isDegraded = false := by decide +kernel

/-- What such a wait has observed. -/
theorem observed_of_idleOn : ∃ s k m first last, (idleOn "<a/>").1 = .ok s ∧
    Observed 10 100 (idleOn "<a/>").2.device.2 (idleOn "<a/>").2.now s k m first last := by
  have hOk : (idleOn "<a/>").1 = .ok (Dump.parse 2 "<a/>") := by
    rw [idleOn_eq readable_element]
  obtain ⟨k, m, first, last, hObserved, -⟩ :=
    observed_of_idle (.still "<a/>") 100 () (.done ()) 10 ⟨10, 6, 6⟩ _ hOk
  exact ⟨_, k, m, first, last, hOk, hObserved⟩

/-- **There is a wait that accepts a screen without a quiet window.** It has seen the screen for 6
and accepts it after 10. -/
theorem idle_without_quietWindow : ∃ s, (idleOn "<a/>").1 = .ok s ∧
    ¬ QuietWindow (idleOn "<a/>").2.device.2 s.contentHash 10 := by
  rw [idleOn_eq readable_element]
  refine ⟨_, rfl, ?_⟩
  rintro ⟨k, m, first, last, hStretch, hLong⟩
  have hLast := List.mem_of_getElem? hStretch.get_last
  simp only [List.mem_cons, List.not_mem_nil, or_false] at hLast
  rcases hLast with rfl | rfl
  · exact absurd (Nat.le_trans (Nat.le_add_left _ _) hLong) (by decide)
  · exact absurd (Nat.le_trans (Nat.le_add_left _ _) hLong) (by decide)

end ScreenQuery.Session
