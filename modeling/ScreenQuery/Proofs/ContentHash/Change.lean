import ScreenQuery.Proofs.ContentHash
import ScreenQuery.Proofs.Wait.Contract
import ScreenQuery.Session.Operation

/-!
# The smallest changes of a screen

A hash of 64 bits cannot tell all screens apart, but it does tell screens apart that are spelled out
by bytes of which only one differs.

* A step of FNV-1a can be undone when its byte is known: the multiplication by the prime, which is
  odd, has an inverse (`mul_inversePrime`), and so has the exclusive or. The byte makes a difference
  to the state (`step_byte_inj`), and what differs goes on to differ through all bytes behind it
  (`foldl_step_inj`).
* `Node.Touched` lists the smallest changes of what an element shows: a flag that is toggled, a
  letter that is typed over. Each of them changes one byte of one field (`Touched.differOnce`), and
  with it one byte of what the hash is taken of (`TouchedOnce.differOnce`).
* `noticed_touch` puts this together, up to the wait that looks for another hash.

About `compute_content_hash` and `wait_for_change`.
-/

namespace ScreenQuery

/-! ## Lists that differ once -/

/-- The lists are equally long and differ at exactly one place. -/
def DifferOnce {α : Type} (a b : List α) : Prop :=
  a.length = b.length ∧ ∃ i : Nat, a[i]? ≠ b[i]? ∧ ∀ j : Nat, j ≠ i → a[j]? = b[j]?

namespace DifferOnce

variable {α : Type} {a b : List α}

theorem mk {x y : α} (before after : List α) (h : x ≠ y) :
    DifferOnce (before ++ x :: after) (before ++ y :: after) := by
  refine ⟨by simp, before.length, by simpa using h, fun j hj => ?_⟩
  by_cases hBefore : j < before.length
  · rw [List.getElem?_append_left hBefore, List.getElem?_append_left hBefore]
  · obtain ⟨k, hk⟩ : ∃ k, j - before.length = k + 1 := ⟨j - before.length - 1, by omega⟩
    have hLe : before.length ≤ j := by omega
    simp only [List.getElem?_append_right hLe, hk, List.getElem?_cons_succ]

theorem exists_split (h : DifferOnce a b) :
    ∃ before x y after, a = before ++ x :: after ∧ b = before ++ y :: after ∧ x ≠ y := by
  obtain ⟨hLength, i, hi, hOther⟩ := h
  have hLt : i < a.length := by
    by_contra hNot
    rw [List.getElem?_eq_none (by omega), List.getElem?_eq_none (by omega)] at hi
    exact hi rfl
  have hTake : b.take i = a.take i := List.ext_getElem? fun j => by
    by_cases hj : j < i
    · simp only [List.getElem?_take, if_pos hj, hOther j (by omega)]
    · simp only [List.getElem?_take, if_neg hj]
  have hDrop : b.drop (i + 1) = a.drop (i + 1) := List.ext_getElem? fun j => by
    simp only [List.getElem?_drop, hOther (i + 1 + j) (by omega)]
  refine ⟨a.take i, a[i], b[i], a.drop (i + 1), ?_, ?_, fun hEq => hi ?_⟩
  · rw [List.getElem_cons_drop, List.take_append_drop]
  · rw [← hTake, ← hDrop, List.getElem_cons_drop, List.take_append_drop]
  · rw [List.getElem?_eq_getElem hLt, List.getElem?_eq_getElem (hLength ▸ hLt), hEq]

theorem append (h : DifferOnce a b) (before after : List α) :
    DifferOnce (before ++ (a ++ after)) (before ++ (b ++ after)) := by
  obtain ⟨front, x, y, rest, rfl, rfl, hxy⟩ := h.exists_split
  have hWhole := mk (before ++ front) (rest ++ after) hxy
  simpa only [List.append_assoc, List.cons_append] using hWhole

/-- Two functions that differ on one element of a list. -/
theorem map {β : Type} {l : List β} {f g : β → α} {x : β} (hMem : x ∈ l) (hNodup : l.Nodup)
    (hx : f x ≠ g x) (hOther : ∀ y, y ≠ x → f y = g y) : DifferOnce (l.map f) (l.map g) := by
  obtain ⟨before, after, rfl⟩ := List.append_of_mem hMem
  obtain ⟨-, hAfter, hBefore⟩ := List.nodup_append.mp hNodup
  have hSame : ∀ part : List β, x ∉ part → part.map g = part.map f := by
    intro part hNot
    refine List.map_congr_left fun y hy => (hOther y ?_).symm
    rintro rfl
    exact hNot hy
  have hFront : x ∉ before := fun hx => hBefore x hx x List.mem_cons_self rfl
  rw [List.map_append, List.map_append, List.map_cons, List.map_cons, hSame before hFront,
    hSame after (List.nodup_cons.mp hAfter).1]
  exact .mk _ _ hx

end DifferOnce

namespace ContentHash

/-! ## What a byte does to the hash -/

/-- The inverse of the prime modulo `2 ^ 64`. -/
def inversePrime : UInt64 := 0xce965057aff6957b

theorem mul_inversePrime (x : UInt64) : x * 0x00000100000001b3 * inversePrime = x := by
  have hOne : (0x00000100000001b3 : UInt64) * inversePrime = 1 := by decide
  rw [UInt64.mul_assoc, hOne, UInt64.mul_one]

theorem mul_prime_inj {x y : UInt64} :
    x * 0x00000100000001b3 = y * 0x00000100000001b3 ↔ x = y := by
  refine ⟨fun h => ?_, fun h => by rw [h]⟩
  rw [← mul_inversePrime x, h, mul_inversePrime]

/-- The same byte keeps different states apart. -/
theorem step_hash_inj {hash hash' : UInt64} {byte : UInt8} :
    step hash byte = step hash' byte ↔ hash = hash' := by
  unfold step
  rw [mul_prime_inj, UInt64.xor_left_inj]

/-- Different bytes lead from one state to different ones. -/
theorem step_byte_inj {hash : UInt64} {byte byte' : UInt8} :
    step hash byte = step hash byte' ↔ byte = byte' := by
  unfold step
  rw [mul_prime_inj, UInt64.xor_right_inj, UInt8.toUInt64_inj]

theorem foldl_step_inj {hash hash' : UInt64} (bytes : List UInt8) :
    bytes.foldl step hash = bytes.foldl step hash' ↔ hash = hash' := by
  induction bytes generalizing hash hash' with
  | nil => rfl
  | cons byte bytes ih => rw [List.foldl_cons, List.foldl_cons, ih, step_hash_inj]

/-- **A single byte makes a difference to the hash**, wherever it stands. -/
theorem fnv1a_ne {a b : List UInt8} (h : DifferOnce a b) : fnv1a a ≠ fnv1a b := by
  obtain ⟨before, x, y, after, rfl, rfl, hxy⟩ := h.exists_split
  unfold fnv1a
  rw [List.foldl_append, List.foldl_append, List.foldl_cons, List.foldl_cons, Ne, foldl_step_inj,
    step_byte_inj]
  exact hxy

end ContentHash

/-! ## The smallest changes -/

/-- One ASCII character of a text is replaced by another. -/
inductive Retyped : Text → Text → Prop
  | mk (before after : Text) {c d : Char} (hc : c.toNat < 128) (hd : d.toNat < 128) (h : c ≠ d) :
    Retyped (before ++ c :: after) (before ++ d :: after)

theorem Retyped.differOnce {a b : Text} (h : Retyped a b) :
    DifferOnce (Text.bytes a) (Text.bytes b) := by
  obtain ⟨before, after, hc, hd, hNe⟩ := h
  simp only [Text.bytes_append, Text.bytes_cons_ascii hc, Text.bytes_cons_ascii hd]
  refine .mk _ _ fun hEq => hNe ?_
  have hNat := congrArg UInt8.toNat hEq
  simp only [UInt8.toNat_ofNat'] at hNat
  exact Char.toNat_inj.mp (by omega)

/-- The smallest changes of what an element shows. Bounds change so that one character of their
encoding does. -/
inductive Node.Touched (node : Node) : Node → Prop
  | flag (flag : Flag) : Touched node { node with flags := node.flags.set flag (!node.flag flag) }
  | text {text : Text} (h : Retyped node.text text) : Touched node { node with text := text }
  | description {text : Text} (h : Retyped node.description text) :
    Touched node { node with description := text }
  | className {text : Text} (h : Retyped node.className text) :
    Touched node { node with className := text }
  | resourceId {text : Text} (h : Retyped node.resourceId text) :
    Touched node { node with resourceId := text }
  | bounds {bounds : Bounds} (h : Retyped node.bounds.toText bounds.toText) :
    Touched node { node with bounds := bounds }

/-- One element of a screen is touched. -/
inductive TouchedOnce : List Node → List Node → Prop
  | mk (before after : List Node) {node node' : Node} (h : node.Touched node') :
    TouchedOnce (before ++ node :: after) (before ++ node' :: after)

open ContentHash

theorem differOnce_flagBytes (node : Node) (flag : Flag) :
    DifferOnce (flagBytes node)
      (flagBytes { node with flags := node.flags.set flag (!node.flag flag) }) := by
  refine .map (mem_all flag) (by decide) ?_ fun other hOther => ?_
  · cases hFlag : node.flag flag <;> simp [Node.flag]
  · have hSame : Node.flag { node with flags := node.flags.set flag (!node.flag flag) } other =
        node.flag other := by simp [Node.flag, hOther]
    rw [hSame]

/-- A touch changes one byte of one field. -/
theorem Node.Touched.differOnce {node node' : Node} (h : node.Touched node') :
    ∃ before field field' after, fields node = before ++ field :: after ∧
      fields node' = before ++ field' :: after ∧ DifferOnce field field' := by
  cases h with
  | className h => exact ⟨[_], _, _, _, rfl, rfl, h.differOnce⟩
  | resourceId h => exact ⟨[_, _], _, _, _, rfl, rfl, h.differOnce⟩
  | text h => exact ⟨[_, _, _], _, _, _, rfl, rfl, h.differOnce⟩
  | description h => exact ⟨[_, _, _, _], _, _, _, rfl, rfl, h.differOnce⟩
  | bounds h => exact ⟨[_, _, _, _, _], _, _, _, rfl, rfl, h.differOnce⟩
  | flag flag => exact ⟨[_, _, _, _, _, _], _, _, [], rfl, rfl, differOnce_flagBytes node flag⟩

/-- A touch changes one byte of what spells out the screen. -/
theorem TouchedOnce.differOnce {a b : List Node} (h : TouchedOnce a b) :
    DifferOnce (encoding a) (encoding b) := by
  obtain ⟨before, after, hTouched⟩ := h
  obtain ⟨front, field, field', rest, hFields, hFields', hDiffer⟩ := hTouched.differOnce
  have hNode := hDiffer.append (front.flatMap (· ++ [separator]))
    ([separator] ++ rest.flatMap (· ++ [separator]))
  have hScreen := hNode.append (encoding before) (encoding after)
  have hEncoding : ∀ nodes : List Node, encoding nodes =
      nodes.flatMap fun node => (fields node).flatMap (· ++ [separator]) := fun _ => rfl
  simp only [hEncoding, List.flatMap_append, List.flatMap_cons, hFields, hFields',
    List.append_assoc] at hScreen ⊢
  exact hScreen

/-- **A change of a single byte is never missed.** Screens that are spelled out by bytes of which
exactly one differs have different hashes. So it is when one element of a screen is touched, and a
wait for a change from the old screen is over, with the new one as its result, as soon as it is
shown the new one. -/
theorem ContentHash.noticed_touch :
    (∀ a b : List Node, DifferOnce (encoding a) (encoding b) → ofNodes a ≠ ofNodes b) ∧
    ∀ s s' : Snapshot, TouchedOnce s.nodes.toList s'.nodes.toList →
      s.contentHash ≠ s'.contentHash ∧ (s'.isDegraded = false →
        ∀ {τ : Type} (host : Host τ) (patience : Patience) (start : Nat) (state : τ),
          let followed := (Session.waitForChange s.contentHash patience).follow host start state
          ∀ call ∈ followed.calls, call.reply = .ok s' →
            followed.value = .ok s' ∧ call.ended = followed.finish) := by
  have hHash : ∀ s s' : Snapshot, TouchedOnce s.nodes.toList s'.nodes.toList →
      s.contentHash ≠ s'.contentHash := fun s s' h => fnv1a_ne h.differOnce
  refine ⟨fun a b h => fnv1a_ne h, fun s s' h => ⟨hHash s s' h, ?_⟩⟩
  intro hRead τ host patience start state
  exact Wait.ok_of_found host _ patience hRead (if_neg (hHash s s' h).symm) start state

/-- A screen with one element, which shows a letter. -/
def lettered (c : Char) : Snapshot := ⟨1, none, #[{ Node.bare "a" with text := [c] }]⟩

/-- Whatever it is asked for, it shows the same screen. -/
def Host.showing (s : Snapshot) : Host Unit where
  serve := fun _ _ _ => ⟨0, .ok s, ()⟩
  act := fun _ _ _ => ⟨0, .ok (), ()⟩
  drop := fun _ => ()

/-- One letter is typed over, and the wait sees it at once. -/
theorem ContentHash.noticed_letter :
    let before := lettered 'a'
    let after := lettered 'b'
    let followed := (Session.waitForChange before.contentHash ⟨10, 3, 4⟩).follow
      (.showing after) 0 ()
    DifferOnce (encoding before.nodes.toList) (encoding after.nodes.toList) ∧
      ofNodes before.nodes.toList ≠ ofNodes after.nodes.toList ∧
      TouchedOnce before.nodes.toList after.nodes.toList ∧
      before.contentHash ≠ after.contentHash ∧ after.isDegraded = false ∧
      ∃ call ∈ followed.calls, call.reply = .ok after ∧ followed.value = .ok after := by
  intro before after followed
  have hTouched : TouchedOnce before.nodes.toList after.nodes.toList :=
    .mk [] [] (.text (.mk [] [] (by decide) (by decide) (by decide)))
  have hDiffer := hTouched.differOnce
  obtain ⟨hHash, hWait⟩ := noticed_touch.2 before after hTouched
  have hCall : ∃ call ∈ followed.calls, call.reply = .ok after := by
    simp only [followed, Session.waitForChange, Wait.untilSome, Wait.pollUntil,
      Plan.follow_bind_done]
    rw [Wait.pollFrom]
    exact ⟨_, List.mem_cons_self, rfl⟩
  obtain ⟨call, hMem, hReply⟩ := hCall
  exact ⟨hDiffer, noticed_touch.1 _ _ hDiffer, hTouched, hHash, rfl, call, hMem, hReply,
    (hWait rfl _ _ 0 () call hMem hReply).1⟩

end ScreenQuery
