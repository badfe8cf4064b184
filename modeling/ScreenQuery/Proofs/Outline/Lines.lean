import ScreenQuery.Outline
import ScreenQuery.Proofs.Geometry
import ScreenQuery.Proofs.Text.Shortened

/-!
# The lines of an outline

* `Lines` counts the lines of a text in which every line has its end.
* What an element shows and what is remarked on it goes to the outline on one line; its class and
  its resource id go there as they are. So a line feed in one of these breaks the line in two:
  `count_line`.
* `lines_ofSnapshot` counts the lines of an outline.
-/

namespace ScreenQuery

/-- The text is made of so many lines, each with its line feed. -/
structure Lines (count : Nat) (text : Text) : Prop where
  count_eq : text.count '\n' = count
  ended : text = [] ∨ text.getLast? = some '\n'

namespace Lines

variable {α : Type} {m n : Nat} {a b text : Text}

theorem nil : Lines 0 [] := ⟨rfl, .inl rfl⟩

theorem ofLine (text : Text) : Lines (text.count '\n' + 1) (text ++ "\n") where
  count_eq := List.count_append
  ended := .inr List.getLast?_concat

theorem append (ha : Lines m a) (hb : Lines n b) : Lines (m + n) (a ++ b) where
  count_eq := by rw [List.count_append, ha.count_eq, hb.count_eq]
  ended := by
    rcases hb.ended with rfl | hb
    · rw [List.append_nil]
      exact ha.ended
    · exact .inr (by rw [List.getLast?_append, hb, Option.some_or])

theorem flatMap {items : List α} {count : α → Nat} {text : α → Text}
    (h : ∀ item, Lines (count item) (text item)) :
    Lines (items.map count).sum (items.flatMap text) := by
  induction items with
  | nil => exact nil
  | cons item items ih => exact (h item).append ih

theorem unique (hm : Lines m text) (hn : Lines n text) : m = n :=
  hm.count_eq.symm.trans hn.count_eq

end Lines

/-- A sum of ones and more is the length of the list only when there is no more. -/
theorem sum_map_succ_eq_length_iff {α : Type} {items : List α} {more : α → Nat} :
    (items.map fun item => more item + 1).sum = items.length ↔ ∀ item ∈ items, more item = 0 := by
  have hSum : (items.map fun item => more item + 1).sum = (items.map more).sum + items.length := by
    induction items with
    | nil => rfl
    | cons item items ih =>
      simp only [List.map_cons, List.sum_cons, List.length_cons, ih]
      omega
  rw [hSum, Nat.add_eq_right, List.sum_eq_zero_iff_forall_eq_nat,
    List.forall_mem_map]

/-! ## Pieces without a line feed -/

namespace Text

theorem newline_not_mem_shorten (room : Nat) (text : Text) : '\n' ∉ shorten room text :=
  fun h => (shorten_unbroken room text _ h).1 rfl

theorem not_mem_joinWith {c : Char} {mark : Text} {texts : List Text} (hMark : c ∉ mark)
    (h : ∀ text ∈ texts, c ∉ text) : c ∉ joinWith mark texts := by
  unfold joinWith
  induction texts with
  | nil => exact List.not_mem_nil
  | cons first rest ih =>
    obtain ⟨hFirst, hRest⟩ := List.forall_mem_cons.mp h
    cases rest with
    | nil => simpa [List.intercalate] using hFirst
    | cons next rest =>
      rw [List.intercalate_cons_cons]
      simp only [List.mem_append, not_or]
      exact ⟨⟨hFirst, hMark⟩, ih hRest⟩

end Text

theorem Bounds.newline_not_mem_toText (b : Bounds) : '\n' ∉ b.toText := by
  have hNumber (i : Int) : '\n' ∉ Text.ofInt i := not_mem_ofInt i (by decide) (by decide)
  rw [toText_eq]
  simp [hNumber]

theorem NodeId.newline_not_mem_toText (id : NodeId) : '\n' ∉ id.toText := by
  have hNumber : '\n' ∉ Text.ofNat id := Text.not_mem_ofNat (by decide) id
  simp [NodeId.toText, hNumber]

theorem Flag.newline_not_mem_attributeName (flag : Flag) : '\n' ∉ flag.attributeName := by
  cases flag <;> decide

theorem Node.shortResourceId_of_isEmpty {node : Node} (h : node.resourceId.isEmpty = true) :
    node.shortResourceId = [] := by
  unfold shortResourceId
  rw [List.isEmpty_iff.mp h]
  rfl

/-! ## The line of an element -/

namespace Outline

variable {style : Style} {node : Node}

theorem newline_not_mem_remarks : ∀ remark ∈ remarks style node, '\n' ∉ remark := by
  have hDescription : '\n' ∉ "desc: " ++ Text.shorten style.textWidth node.description :=
    List.not_mem_append (by decide) (Text.newline_not_mem_shorten _ _)
  have hBounds : '\n' ∉ "bounds: " ++ node.bounds.toText :=
    List.not_mem_append (by decide) node.bounds.newline_not_mem_toText
  intro remark hRemark
  simp only [remarks, List.mem_append, List.mem_map, List.mem_ite_nil_left, List.mem_singleton]
    at hRemark
  rcases hRemark with (((⟨-, rfl⟩ | ⟨-, rfl⟩) | ⟨flag, -, rfl⟩) | ⟨-, rfl⟩) | ⟨-, rfl⟩
  · exact hDescription
  · exact hBounds
  · exact flag.newline_not_mem_attributeName
  · decide
  · decide

/-- The line feeds of the class and of the resource id. -/
def innerFeeds (node : Node) : Nat :=
  node.shortClass.count '\n' + node.shortResourceId.count '\n'

theorem innerFeeds_eq_zero :
    innerFeeds node = 0 ↔ '\n' ∉ node.shortClass ∧ '\n' ∉ node.shortResourceId := by
  unfold innerFeeds
  rw [Nat.add_eq_zero_iff, List.count_eq_zero, List.count_eq_zero]

/-- The line of an element has the line feeds of its class and of its resource id, and no others. -/
theorem count_line (style : Style) (node : Node) :
    (line style node).count '\n' = innerFeeds node := by
  have hId : (NodeId.toText node.id).count '\n' = 0 :=
    List.count_eq_zero.mpr node.id.newline_not_mem_toText
  have hResource : (if node.resourceId.isEmpty then []
      else " #" ++ node.shortResourceId : Text).count '\n' = node.shortResourceId.count '\n' := by
    split
    next hEmpty => rw [Node.shortResourceId_of_isEmpty hEmpty]
    · rw [List.count_append]
      exact Nat.zero_add _
  have hText : (if node.text.isEmpty then []
      else " \"" ++ Text.shorten style.textWidth node.text ++ "\"" : Text).count '\n' = 0 := by
    split
    · rfl
    · simp [List.count_eq_zero, Text.newline_not_mem_shorten]
  have hRemarks : (Text.joinWith ", " (remarks style node)).count '\n' = 0 :=
    List.count_eq_zero.mpr (Text.not_mem_joinWith (by decide) newline_not_mem_remarks)
  unfold line innerFeeds
  simp only [List.count_append, hId, hResource, hText]
  split
  · simp
  · rw [List.count_append, List.count_append, hRemarks]
    simp

theorem lines_indentedLine (style : Style) (node : Node) :
    Lines (innerFeeds node + 1) (indentedLine style node) := by
  have hIndent : (List.replicate (2 * node.depth) ' ').count '\n' = 0 :=
    List.count_eq_zero.mpr (by simp [List.mem_replicate])
  have hLine := Lines.ofLine (List.replicate (2 * node.depth) ' ' ++ line style node)
  rwa [List.count_append, hIndent, Nat.zero_add, count_line] at hLine

/-- The lines before those of the elements: one and more for a screen that could not be read. -/
def headerLines (s : Snapshot) : Nat :=
  match s.diagnostic with
  | some reason => reason.count '\n' + 1
  | none => 0

theorem lines_header (s : Snapshot) : Lines (headerLines s) (header s) := by
  unfold headerLines header
  cases s.diagnostic with
  | none => exact .nil
  | some reason =>
    have hLine := Lines.ofLine ("# degraded snapshot: " ++ reason)
    have hWords : ("# degraded snapshot: " : Text).count '\n' = 0 := by decide
    rwa [List.count_append, hWords, Nat.zero_add] at hLine

/-- The lines of an outline. -/
theorem lines_ofSnapshot (style : Style) (s : Snapshot) :
    Lines (headerLines s + ((shown style s).map fun node => innerFeeds node + 1).sum)
      (ofSnapshot style s) :=
  (lines_header s).append (.flatMap (lines_indentedLine style))

end Outline

end ScreenQuery
