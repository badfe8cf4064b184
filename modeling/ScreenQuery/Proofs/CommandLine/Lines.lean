import ScreenQuery.Proofs.CommandLine.Find
import ScreenQuery.Proofs.Outline.Lines

/-!
# The lines that commands print of elements

* The command that finds elements prints the line of an outline and the name of each element. The
  name takes the class, and the text or the description when there is no resource id, as they are.
* `lines_of_elements` counts the lines of an outline and of what is found, and says when there is
  one for each element. `broken_lines` shows an element with two lines in either.

About `print_handle` and `format_tree`, with `format_node` and `describe` below them.
-/

namespace ScreenQuery

/-- What the name of an element shows besides its class: the resource id, else the text, else the
description. -/
def Snapshot.distinction (node : Node) : Text :=
  if !node.resourceId.isEmpty then node.shortResourceId
  else if !node.text.isEmpty then node.text
  else node.description

namespace Snapshot

/-- The line feeds of the class and of what else the name of an element shows. -/
def nameFeeds (node : Node) : Nat :=
  node.shortClass.count '\n' + (distinction node).count '\n'

theorem nameFeeds_eq_zero {node : Node} :
    nameFeeds node = 0 ↔ '\n' ∉ node.shortClass ∧ '\n' ∉ distinction node := by
  unfold nameFeeds
  rw [Nat.add_eq_zero_iff, List.count_eq_zero, List.count_eq_zero]

theorem count_baseDescription (node : Node) :
    (baseDescription node).count '\n' = nameFeeds node := by
  unfold baseDescription nameFeeds distinction
  split
  · simp
  · split
    · simp
    · split
      · simp
      next hEmpty => simp_all

theorem count_describe {s : Snapshot} {id : NodeId} {node : Node} (h : s.get? id = some node) :
    (s.describe id).count '\n' = nameFeeds node := by
  rw [← count_baseDescription]
  have hNumber (n : Nat) : '\n' ∉ Text.ofNat n := Text.not_mem_ofNat (by decide) n
  unfold describe
  rw [h]
  dsimp only
  split
  · rfl
  · split
    · rfl
    · simp [List.count_eq_zero, hNumber]

end Snapshot

namespace CommandLine

open Outline Session

theorem lines_handleLine (handle : Handle) :
    Lines (innerFeeds handle.node + Snapshot.nameFeeds handle.node + 1) (handleLine handle) := by
  have hNumber (i : Int) : (Text.ofInt i).count '\n' = 0 :=
    List.count_eq_zero.mpr (Bounds.not_mem_ofInt i (by decide) (by decide))
  have hName : handle.describe.count '\n' = Snapshot.nameFeeds handle.node :=
    Snapshot.count_describe handle.get?_id
  have hLine := Lines.ofLine (Outline.line .default handle.node ++ "  @(" ++
    Text.ofInt handle.center.x.toInt ++ "," ++ Text.ofInt handle.center.y.toInt ++ ")  " ++
    handle.describe)
  simp only [List.count_append, hNumber, hName, count_line] at hLine
  simpa [handleLine] using hLine

variable {σ : Type} {bridge : Bridge σ}

/-- What the command prints when it finds all elements. -/
theorem find_all_eq_ok {freshness : Nat} {device : σ} {text : Text} {json : Bool}
    {scope : Option Text} {print : Print}
    (h : ((find text true json scope).run bridge (.start freshness device)).1 = .ok print) :
    ∃ selector inner first rest, selectorOf text = .ok selector ∧
      scope.mapM selectorOf = .ok inner ∧
      ((search true selector inner).run bridge (.start freshness device)).1 =
        .ok (first :: rest) ∧ print = allPrint json (first :: rest) := by
  rcases find_cases bridge freshness device text json scope with ⟨failure, -, hAll⟩ |
    ⟨selector, inner, first, rest, hSelector, hScope, hFound, -, hAll⟩
  · cases hAll.symm.trans h
  · exact ⟨selector, inner, first, rest, hSelector, hScope, hFound,
      (Except.ok.inj (hAll.symm.trans h)).symm⟩

/-- **The lines that are printed of elements.** An outline begins with the line that tells of a dump
that could not be read, if it could not, and has one line for each element that it shows and another
for each line feed in the class and the resource id; so there is one line for each element only when
there are no such line feeds. The command that finds all elements prints one line for each that it
finds, another for each such line feed, and another for each line feed in the name, which takes over
the class and the resource id, or the text or else the description when there is none. -/
theorem lines_of_elements (style : Style) (s : Snapshot) (bridge : Bridge σ) (freshness : Nat)
    (device : σ) (text : Text) (scope : Option Text) :
    (Lines (headerLines s + ((shown style s).map fun node => innerFeeds node + 1).sum)
        (ofSnapshot style s) ∧
      (Lines (headerLines s + (shown style s).length) (ofSnapshot style s) ↔
        ∀ node ∈ shown style s, '\n' ∉ node.shortClass ∧ '\n' ∉ node.shortResourceId)) ∧
    ∀ print, ((find text true false scope).run bridge (.start freshness device)).1 = .ok print →
      ∃ selector inner found output, selectorOf text = .ok selector ∧
        scope.mapM selectorOf = .ok inner ∧
        ((search true selector inner).run bridge (.start freshness device)).1 = .ok found ∧
        print = .words output ∧
        Lines (found.map fun handle =>
          innerFeeds handle.node + Snapshot.nameFeeds handle.node + 1).sum output ∧
        (Lines found.length output ↔ ∀ handle ∈ found, '\n' ∉ handle.node.shortClass ∧
          '\n' ∉ handle.node.shortResourceId ∧ '\n' ∉ Snapshot.distinction handle.node) := by
  constructor
  · have hLines := lines_ofSnapshot style s
    refine ⟨hLines, ?_⟩
    simp only [← innerFeeds_eq_zero, ← sum_map_succ_eq_length_iff]
    exact ⟨fun h => Nat.add_left_cancel (hLines.unique h), fun h => h ▸ hLines⟩
  · intro print hPrint
    obtain ⟨selector, inner, first, rest, hSelector, hScope, hFound, rfl⟩ := find_all_eq_ok hPrint
    have hLines : Lines _ ((first :: rest).flatMap handleLine) := .flatMap lines_handleLine
    refine ⟨selector, inner, first :: rest, _, hSelector, hScope, hFound, rfl, hLines, ?_⟩
    have hEach (handle : Handle) : ('\n' ∉ handle.node.shortClass ∧
        '\n' ∉ handle.node.shortResourceId ∧ '\n' ∉ Snapshot.distinction handle.node) ↔
        innerFeeds handle.node + Snapshot.nameFeeds handle.node = 0 := by
      rw [Nat.add_eq_zero_iff, innerFeeds_eq_zero, Snapshot.nameFeeds_eq_zero]
      tauto
    simp only [hEach, ← sum_map_succ_eq_length_iff]
    exact ⟨fun h => hLines.unique h, fun h => h ▸ hLines⟩

/-- An element with a line feed in its class. -/
def brokenClass : Text := "<a class=\"x&#10;y\"/>"

/-- An element with a line feed in its text. -/
def brokenText : Text := "<a text=\"x&#10;y\"/>"

/-- One element with two lines in an outline, and one that is found and printed on two lines. -/
theorem broken_lines :
    ((shown .default (Dump.parse 1 brokenClass)).length = 1 ∧
      headerLines (Dump.parse 1 brokenClass) = 0 ∧
      ofSnapshot .default (Dump.parse 1 brokenClass) = "n0 [x\ny]\n") ∧
    (((search true (.shorthand (.classPart "a")) none).run (.still brokenText)
        (.start 1000 ())).1.toOption.map List.length = some 1 ∧
      ((find ".a" true false none).run (.still brokenText) (.start 1000 ())).1.toOption.map
        (Print.toText []) = some "n0 [a] \"x y\"  @(0,0)  a[text=\"x\ny\"]\n".toList) := by
  decide +kernel

/-- Three elements on three lines, and two rows that are found and printed on lines of their own. -/
theorem lines_of_rows :
    Lines (headerLines (Dump.parse 1 twoRows) + (shown .default (Dump.parse 1 twoRows)).length)
        (ofSnapshot .default (Dump.parse 1 twoRows)) ∧
      ∃ (found : List Handle) (output : Text),
        ((find ".b" true false none).run (.still twoRows) (.start 1000 ())).1 =
          .ok (.words output) ∧ Lines (found.map fun handle =>
            innerFeeds handle.node + Snapshot.nameFeeds handle.node + 1).sum output := by
  obtain ⟨⟨-, hOutline⟩, hFind⟩ :=
    lines_of_elements .default (Dump.parse 1 twoRows) (.still twoRows) 1000 () ".b" none
  refine ⟨hOutline.mpr (by decide +kernel), ?_⟩
  have hPrints : ((find ".b" true false none).run (.still twoRows)
      (.start 1000 ())).1.toOption.isSome = true := by decide +kernel
  cases hRun : ((find ".b" true false none).run (.still twoRows) (.start 1000 ())).1 with
  | error failure =>
    rw [hRun] at hPrints
    cases hPrints
  | ok print =>
    obtain ⟨_, _, found, output, -, -, -, rfl, hLines, -⟩ := hFind print hRun
    exact ⟨found, output, rfl, hLines⟩

end CommandLine

end ScreenQuery
