import ScreenQuery.Proofs.Arena
import ScreenQuery.Proofs.Dump.Draft
import ScreenQuery.Proofs.Markup.Attributes
import ScreenQuery.Proofs.Markup.Events
import ScreenQuery.Proofs.Markup.Meaning

/-!
# How the values of a dump are read

* A well-formed document is laid out from its events, with its values repaired (`read_document`),
  and its attributes have the repaired values decoded (`ofTag_repaired`).
* What that makes of a value is known from its pieces. A text whose references all stand for
  characters is shown as it is meant. A single reference that stands for nothing, such as `&#0;`,
  leaves the whole text as repair has written it, and the escapes show (`text_of_value`).

About `sanitize` and `starts_entity`, and how `push_node` unescapes a value.
-/

namespace ScreenQuery.Dump

open Markup

variable {raw markup value : Text}

/-! ## Well-formed documents -/

/-- What begins with a tag is no empty dump. -/
theorem read_eq_layOut (hRepair : repair raw = escape markup) (hHead : markup.head? = some '<') :
    read raw = layOut (Event.readAll (escape markup)) := by
  obtain ⟨rest, rfl⟩ := List.head?_eq_some_iff.mp hHead
  have hTrim : (Text.trim (escape ('<' :: rest))).isEmpty = false := by
    rw [List.isEmpty_eq_false_iff]
    refine Text.trim_ne_nil (c := '<') ?_ (by decide)
    rw [escape_eq]
    rfl
  simp [read, hRepair, hTrim]

/-- Nothing is cut off from a text that begins and ends with a tag. -/
theorem repair_eq_escape (hKept : IsKept raw) (hHead : raw.head? = some '<')
    (hLast : raw.getLast? = some '>') : repair raw = escape raw := by
  have hCut := cutMarkup_append List.not_mem_nil hHead hLast []
  simp only [List.nil_append, List.append_nil, List.rdropWhile_nil] at hCut
  rw [repair, withoutControls_eq_self hKept, hCut]

theorem repair_document {D : Document} (h : D.WellFormed) : repair D.text = escape D.text :=
  repair_eq_escape h.kept D.head?_text D.getLast?_text

theorem read_document {D : Document} (h : D.WellFormed) :
    read D.text = layOut ⟨D.repaired.events, none⟩ := by
  rw [read_eq_layOut (repair_document h) D.head?_text, Document.readAll_eq h]

/-- The names of a tag and its values, repaired and decoded. -/
theorem ofTag_repaired {tag : WrittenTag} (h : tag.WellFormed) :
    Draft.ofTag tag.repaired.toTag = .ok (.ofPairs (tag.attributes.map fun a =>
      (a.name, decode ((Place.inValue a.quote).write a.value)))) := by
  have hRead : Attribute.readAll tag.repaired.toTag.name tag.repaired.toTag.rest = _ :=
    Attribute.readAll_written h.repaired
  rw [ofTag_eq_ok hRead]
  simp only [pairsOf, WrittenTag.repaired, List.map_map]
  rfl

/-! ## A single value -/

/-- A root with one element in it is laid out. -/
theorem layOut_single {rootTag tag : Tag} {rootDraft draft : Draft}
    (hRoot : Draft.ofTag rootTag = .ok rootDraft) (hDraft : Draft.ofTag tag = .ok draft) :
    layOut ⟨[.opening rootTag, .empty tag, .closing], none⟩ =
      .ok (addBelow #[rootDraft.toNode rootTag .root] rootId
        (draft.toNode tag (.below 1 (rootDraft.toNode rootTag .root)))) := by
  generalize hNode : rootDraft.toNode rootTag .root = root
  have hOpen : Arena.step .empty (.opening rootTag) = .ok ⟨#[root], [rootId], false⟩ := by
    simp only [Arena.step, Arena.empty, push, hRoot, ← hNode]
    rfl
  have hPut : Arena.step ⟨#[root], [rootId], false⟩ (.empty tag) =
      .ok ⟨addBelow #[root] rootId (draft.toNode tag (.below 1 root)), [rootId], false⟩ := by
    have hParent : #[root][rootId]? = some root := rfl
    simp only [Arena.step, push, hDraft, hParent]
    rfl
  simp only [layOut, List.foldlM_cons, List.foldlM_nil, bind, Except.bind, hOpen, hPut]
  rfl

/-- The tag of an element with a text. -/
def textTag (value : Text) : WrittenTag := ⟨"node", [⟨" ", "text", [], [], '"', value⟩], []⟩

/-- A screen of a root and one element with a text. -/
def textScreen (value : Text) : Document where
  declaration := none
  root := .pair ⟨"hierarchy", [], []⟩ (.more [] (.empty (textTag value)) (.last [])) []

/-- The dump of that screen, written out. -/
def textDump (value : Text) : Text :=
  "<hierarchy><node text=\"" ++ (value ++ "\"/></hierarchy>")

theorem text_textScreen (value : Text) : (textScreen value).text = textDump value := by
  unfold textDump
  simp [textScreen, textTag, Document.text, Element.text, Content.text, WrittenTag.text,
    WrittenTag.rest, WrittenAttribute.text]

section

variable (hQuote : '"' ∉ value) (hKept : IsKept value)

include hQuote hKept

theorem wellFormed_textTag : (textTag value).WellFormed where
  name := show IsName "node" by decide
  attributes := fun a ha => by
    obtain rfl := List.mem_singleton.mp ha
    have hLaidOut : WrittenAttribute.LaidOut ⟨" ", "text", [], [], '"', value⟩ :=
      ⟨List.cons_ne_nil _ _, show IsBlanks " " by decide, show IsName "text" by decide,
        nofun, nofun⟩
    exact ⟨hLaidOut, .inl rfl, hQuote, hKept⟩
  trail := nofun

theorem wellFormed_textScreen : (textScreen value).WellFormed where
  declaration := nofun
  root := ⟨by decide, ⟨by decide, wellFormed_textTag hQuote hKept, by decide⟩, by decide⟩

/-- The screen has the text that repair and decoding make of the value. -/
theorem exists_parse_textScreen (id : Nat) :
    ∃ node, (parse id (textDump value)).isDegraded = false ∧
      (parse id (textDump value)).get? 1 = some node ∧
      node.text = decode ((Place.inValue '"').write value) := by
  have hRoot : WrittenTag.WellFormed ⟨"hierarchy", [], []⟩ := by decide
  have hLayOut := layOut_single (ofTag_repaired hRoot)
    (ofTag_repaired (wellFormed_textTag hQuote hKept))
  have hRead := read_document (wellFormed_textScreen hQuote hKept)
  rw [text_textScreen] at hRead
  rw [parse, hRead.trans hLayOut]
  exact ⟨_, rfl, getElem?_addBelow_size, rfl⟩

end

/-- **A text is shown as it is meant when each of its references stands for a character.** If one
stands for nothing, the whole text is shown as repair has written it: with escapes for what only
looks like markup, and with its references. The two are the same just when nothing in the text looks
like markup or stands for another character. The pieces that all this goes by make up the text. -/
theorem text_of_value (id : Nat) (hQuote : '"' ∉ value) (hKept : IsKept value) :
    ∃ pieces node, Cut value pieces ∧ pieces.flatMap Piece.text = value ∧
      (parse id (textDump value)).isDegraded = false ∧
      (parse id (textDump value)).get? 1 = some node ∧
      ((∀ piece ∈ pieces, piece.Legible) → node.text = pieces.flatMap Piece.meant) ∧
      ((∃ piece ∈ pieces, ¬piece.Legible) → node.text = pieces.flatMap Piece.repaired) ∧
      (node.text = pieces.flatMap Piece.meant ↔
        (∀ piece ∈ pieces, piece.Legible) ∨ ∀ piece ∈ pieces, piece.Plain) := by
  obtain ⟨pieces, hCut⟩ := exists_cut value
  obtain ⟨node, hReadable, hNode, hText⟩ := exists_parse_textScreen hQuote hKept id
  have hLegible : (∀ piece ∈ pieces, piece.Legible) → node.text = pieces.flatMap Piece.meant :=
    fun hAll => hText.trans (hCut.decode_of_legible (.inl rfl) hQuote hAll)
  have hNot : (∃ piece ∈ pieces, ¬piece.Legible) → node.text = pieces.flatMap Piece.repaired :=
    fun hSome => hText.trans (hCut.decode_of_not_legible (.inl rfl) hQuote hSome)
  refine ⟨pieces, node, hCut, hCut.text_eq, hReadable, hNode, hLegible, hNot, fun hMeant => ?_, ?_⟩
  · by_cases hAll : ∀ piece ∈ pieces, piece.Legible
    · exact .inl hAll
    · push Not at hAll
      rw [hNot hAll] at hMeant
      exact .inr (flatMap_repaired_eq_iff.mp hMeant)
  · rintro (hAll | hPlain)
    · exact hLegible hAll
    · by_cases hAll : ∀ piece ∈ pieces, piece.Legible
      · exact hLegible hAll
      · push Not at hAll
        exact (hNot hAll).trans (flatMap_repaired_eq_iff.mpr hPlain)

/-- A text that begins with a bare ampersand between two letters. -/
theorem cut_department {rest : Text} {pieces : List Piece} (h : Cut rest pieces)
    (hNone : startsReference ("D " ++ rest) = false) :
    Cut ("R&D " ++ rest) ([.char 'R', .char '&', .char 'D', .char ' '] ++ pieces) := by
  have hPlain : ∀ {c : Char} {rest : Text}, c ≠ '&' → c = '&' → ∀ body tail, IsBody body →
      body.length ≤ maxReferenceLength → rest ≠ body ++ ';' :: tail :=
    fun hc hAmp => absurd hAmp hc
  exact .char (hPlain (by decide)) (.char (fun _ => startsReference_eq_false_iff.mp hNone)
    (.char (hPlain (by decide)) (.char (hPlain (by decide)) h)))

theorem text_of_decodable_reference :
    '"' ∉ ("R&D &lt;" : Text) ∧ IsKept "R&D &lt;" ∧
      ∃ node, (parse 1 (textDump "R&D &lt;")).isDegraded = false ∧
        (parse 1 (textDump "R&D &lt;")).get? 1 = some node ∧
        node.text = "R&D <" := by
  have hQuote : '"' ∉ ("R&D &lt;" : Text) := by decide
  have hKept : IsKept "R&D &lt;" := by decide
  obtain ⟨pieces, node, hCut, -, hReadable, hNode, hLegible, -⟩ := text_of_value 1 hQuote hKept
  have hLt : ("lt".toList, '<') ∈ namedReferences := by decide
  have hPieces : Cut "R&D &lt;" [.char 'R', .char '&', .char 'D', .char ' ', .reference "lt"] :=
    cut_department (.reference (.named hLt) (by decide) .nil) (by decide)
  obtain rfl := hCut.unique hPieces
  refine ⟨hQuote, hKept, node, hReadable, hNode, (hLegible ?_).trans (by decide)⟩
  intro piece hPiece
  simp only [List.mem_cons, List.not_mem_nil, or_false] at hPiece
  rcases hPiece with rfl | rfl | rfl | rfl | rfl
  · trivial
  · trivial
  · trivial
  · trivial
  · exact ⟨'<', .named hLt⟩

/-- Nothing in this text means anything but what is written. It is shown with an escape all the
same, because the reference at its end stands for nothing. -/
theorem text_of_nul_reference :
    '"' ∉ ("R&D &#0;" : Text) ∧ (∀ c ∈ ("R&D &#0;" : Text), Text.isControl c = false) ∧
      ∃ pieces node, Cut "R&D &#0;" pieces ∧ pieces.flatMap Piece.meant = "R&D &#0;" ∧
        (parse 1 (textDump "R&D &#0;")).get? 1 = some node ∧
        node.text = "R&amp;D &#0;" ∧ node.text ≠ pieces.flatMap Piece.meant := by
  have hZero : IsBody "#0" := .decimal (List.cons_ne_nil _ _) (List.all_eq_true.mp (by decide))
  have hPieces : Cut "R&D &#0;" [.char 'R', .char '&', .char 'D', .char ' ', .reference "#0"] :=
    cut_department (.reference hZero (by decide) .nil) (by decide)
  have hText : ((parse 1 (textDump "R&D &#0;")).get? 1).map Node.text = some "R&amp;D &#0;" := by
    decide +kernel
  have hPrintable : ("R&D &#0;" : Text).all (fun c => !Text.isControl c) = true := by decide
  obtain ⟨node, hNode, hText⟩ := Option.map_eq_some_iff.mp hText
  refine ⟨by decide, fun c hc => ?_, _, node, hPieces, by decide, hNode, hText, ?_⟩
  · simpa using List.all_eq_true.mp hPrintable c hc
  · rw [hText]
    decide

end ScreenQuery.Dump
