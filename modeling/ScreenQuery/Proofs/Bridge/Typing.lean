import ScreenQuery.Bridge.Adb
import ScreenQuery.Proofs.Text.Parts

/-!
# How a typed text reaches the phone

An escaped text is an argument of the shell of the phone, and then of its `input` program.

* The shell drops every backslash and keeps the character behind it (`Shell.glyphs`). Characters
  without a backslash may end a command, separate words or mean something else (`Shell.commands`,
  `Shell.Glyph.isActive`).
* The `input` program takes each `%s` as a space (`Adb.expandSpaces`).

What the shell sees of an escaped text is told character by character (`glyphs_escape`). So no
character ever means anything to it, but line feeds and tabs, which `escape` passes through, cut the
text into commands and words (`Adb.words_of_escape`). The `input` program sees the text with `%s`
for its spaces, and cannot tell these from a `%s` of the text itself (`Adb.received_escape`).

About `escape_input_text`, and `input_text` of `AdbBridge`.
-/

namespace ScreenQuery

/-! ## The shell -/

namespace Shell

/-- A character as the shell reads it; it is quoted when a backslash stood before it. -/
structure Glyph where
  char : Char
  quoted : Bool
  deriving DecidableEq

/-- Reads a line: a backslash goes, and quotes the character behind it. -/
def glyphs : Text → List Glyph
  | [] => []
  | [c] => [⟨c, false⟩]
  | c :: d :: rest =>
    if c = '\\' then ⟨d, true⟩ :: glyphs rest else ⟨c, false⟩ :: glyphs (d :: rest)

/-- The characters that mean something to the shell within a word. -/
def activeCharacters : Text := "\"'`$&|;<>()*?~#![]\x7b\x7d"

namespace Glyph

/-- The character means something to the shell. -/
def isActive (glyph : Glyph) : Bool := !glyph.quoted && decide (glyph.char ∈ activeCharacters)

/-- The character ends a command. -/
def endsCommand (glyph : Glyph) : Bool := !glyph.quoted && glyph.char == '\n'

/-- The character stands between words. -/
def separates (glyph : Glyph) : Bool :=
  !glyph.quoted && (glyph.char == ' ' || glyph.char == '\t')

end Glyph

/-- The commands that the shell reads, and the words of each. -/
def commands (text : Text) : List (List (List Glyph)) :=
  ((glyphs text).splitOnP Glyph.endsCommand).map fun command =>
    (command.splitOnP Glyph.separates).filter fun word => !word.isEmpty

/-- The shell reads a single word, none of whose characters means anything to it. -/
def IsPlainWord (text : Text) : Prop :=
  ∃ word, commands text = [[word]] ∧ ∀ glyph ∈ word, glyph.isActive = false

theorem glyphs_backslash (c : Char) (rest : Text) :
    glyphs ('\\' :: c :: rest) = ⟨c, true⟩ :: glyphs rest := by
  rw [glyphs, if_pos rfl]

theorem glyphs_cons {c : Char} (h : c ≠ '\\') (rest : Text) :
    glyphs (c :: rest) = ⟨c, false⟩ :: glyphs rest := by
  cases rest with
  | nil => rw [glyphs, glyphs]
  | cons d rest => rw [glyphs, if_neg h]

/-! ## Lists that are written out and cut -/

section Cut

variable {α β : Type} {p : β → Bool} {mark : α}

theorem splitOnP_append {part : List β} (h : ∀ x ∈ part, p x = false) (rest : List β) :
    (part ++ rest).splitOnP p = (rest.splitOnP p).modifyHead (part ++ ·) := by
  induction part with
  | nil =>
    rw [List.nil_append]
    cases rest.splitOnP p <;> rfl
  | cons x part ih =>
    have hRest := ih fun y hy => h y (List.mem_cons_of_mem x hy)
    rw [List.cons_append, List.splitOnP_cons_eq_if_modifyHead, h x List.mem_cons_self, hRest]
    cases rest.splitOnP p <;> rfl

/-- Only the mark is written with what the cuts are made at: then the cuts are made at the marks. -/
theorem splitOnP_flatMap [DecidableEq α] (written : α → List β)
    (hMark : ∃ x, written mark = [x] ∧ p x = true)
    (hOther : ∀ a, a ≠ mark → ∀ x ∈ written a, p x = false) (list : List α) :
    (list.flatMap written).splitOnP p = (list.splitOn mark).map (List.flatMap written) := by
  induction list with
  | nil => rfl
  | cons a list ih =>
    rw [List.flatMap_cons, List.splitOn_cons_eq_if_modifyHead]
    by_cases ha : a = mark
    · obtain ⟨x, hWritten, hx⟩ := hMark
      rw [ha, hWritten, List.singleton_append, List.splitOnP_cons_eq_if_modifyHead, hx, ih]
      simp
    · -- what the character is written with goes to the front of the first part
      rw [splitOnP_append (hOther a ha), ih, beq_false_of_ne ha]
      cases list.splitOn mark <;> simp

theorem splitOn_eq_singleton_iff [DecidableEq α] {list part : List α} :
    list.splitOn mark = [part] ↔ list = part ∧ mark ∉ list := by
  constructor
  · intro h
    by_cases hMark : mark ∈ list
    · obtain ⟨before, after, rfl⟩ := List.append_of_mem hMark
      rw [List.splitOn_append_cons_self] at h
      have hLength := congrArg List.length h
      have hBefore := List.length_pos_iff.mpr (List.splitOn_ne_nil mark before)
      have hAfter := List.length_pos_iff.mpr (List.splitOn_ne_nil mark after)
      rw [List.length_append, List.length_singleton] at hLength
      omega
    · rw [List.splitOn_eq_singleton hMark] at h
      exact ⟨List.singleton_inj.mp h, hMark⟩
  · rintro ⟨rfl, hMark⟩
    exact List.splitOn_eq_singleton hMark

end Cut

end Shell

namespace Adb

open Shell

/-! ## An escaped text before the shell -/

/-- What the shell reads of a character that has been escaped. -/
def spellChar (c : Char) : List Glyph :=
  if c = ' ' then [⟨'%', false⟩, ⟨'s', false⟩] else [⟨c, decide (c ∈ shellCharacters)⟩]

/-- What the shell reads of a text that has been escaped. -/
def spell (text : Text) : List Glyph := text.flatMap spellChar

theorem glyphs_escapeChar (c : Char) (rest : Text) :
    glyphs (escapeChar c ++ rest) = spellChar c ++ glyphs rest := by
  unfold escapeChar spellChar
  by_cases hSpace : c = ' '
  · rw [if_pos hSpace, if_pos hSpace]
    exact (glyphs_cons (by decide) _).trans (congrArg _ (glyphs_cons (by decide) rest))
  · rw [if_neg hSpace, if_neg hSpace]
    by_cases hShell : c ∈ shellCharacters
    · rw [if_pos hShell, decide_eq_true hShell]
      exact glyphs_backslash c rest
    · have hBackslash : c ≠ '\\' := by
        rintro rfl
        exact hShell (by decide)
      rw [if_neg hShell, decide_eq_false hShell]
      exact glyphs_cons hBackslash rest

theorem glyphs_escape (text : Text) : glyphs (escape text) = spell text := by
  induction text with
  | nil => rfl
  | cons c text ih =>
    show glyphs (escapeChar c ++ escape text) = spellChar c ++ spell text
    rw [glyphs_escapeChar, ih]

/-- The glyphs of a character are those of a space, or the character itself. -/
theorem mem_spellChar_cases {c : Char} {glyph : Glyph} (h : glyph ∈ spellChar c) :
    glyph = ⟨'%', false⟩ ∨ glyph = ⟨'s', false⟩ ∨
      c ≠ ' ' ∧ glyph = ⟨c, decide (c ∈ shellCharacters)⟩ := by
  unfold spellChar at h
  split at h
  · simp only [List.mem_cons, List.not_mem_nil, or_false] at h
    exact h.imp_right Or.inl
  · rename_i hSpace
    exact Or.inr (Or.inr ⟨hSpace, List.mem_singleton.mp h⟩)

theorem mem_shellCharacters {c : Char} (h : c ∈ activeCharacters) : c ∈ shellCharacters := by
  have hAll : activeCharacters.all (fun c => decide (c ∈ shellCharacters)) = true := by decide
  exact of_decide_eq_true (List.all_eq_true.mp hAll c h)

theorem isActive_of_mem_spellChar {c : Char} {glyph : Glyph} (h : glyph ∈ spellChar c) :
    glyph.isActive = false := by
  rcases mem_spellChar_cases h with rfl | rfl | ⟨-, rfl⟩
  · decide
  · decide
  · unfold Glyph.isActive
    by_cases hShell : c ∈ shellCharacters
    · rw [decide_eq_true hShell]
      rfl
    · rw [decide_eq_false (mt mem_shellCharacters hShell), Bool.and_false]

theorem isActive_of_mem_spell {text : Text} {glyph : Glyph} (h : glyph ∈ spell text) :
    glyph.isActive = false := by
  obtain ⟨c, -, hc⟩ := List.mem_flatMap.mp h
  exact isActive_of_mem_spellChar hc

theorem spell_eq_nil_iff {text : Text} : spell text = [] ↔ text = [] := by
  cases text with
  | nil => exact iff_of_true rfl rfl
  | cons c text =>
    refine iff_of_false (fun h => ?_) (List.cons_ne_nil c text)
    unfold spell spellChar at h
    rw [List.flatMap_cons] at h
    split at h <;> cases h

/-- The parts of a line between tabs, without empty ones. -/
def tabbedParts (line : Text) : List Text := (line.splitOn '\t').filter fun part => !part.isEmpty

theorem splitOnP_endsCommand (text : Text) :
    (spell text).splitOnP Glyph.endsCommand = (text.splitOn '\n').map spell := by
  have hOther : ∀ c, c ≠ '\n' → ∀ glyph ∈ spellChar c, glyph.endsCommand = false := by
    intro c hc glyph hGlyph
    rcases mem_spellChar_cases hGlyph with rfl | rfl | ⟨-, rfl⟩
    · rfl
    · rfl
    · unfold Glyph.endsCommand
      rw [beq_false_of_ne hc, Bool.and_false]
  exact splitOnP_flatMap spellChar ⟨⟨'\n', false⟩, rfl, rfl⟩ hOther text

theorem splitOnP_separates (line : Text) :
    (spell line).splitOnP Glyph.separates = (line.splitOn '\t').map spell := by
  have hOther : ∀ c, c ≠ '\t' → ∀ glyph ∈ spellChar c, glyph.separates = false := by
    intro c hc glyph hGlyph
    rcases mem_spellChar_cases hGlyph with rfl | rfl | ⟨hSpace, rfl⟩
    · rfl
    · rfl
    · unfold Glyph.separates
      rw [beq_false_of_ne hc, beq_false_of_ne hSpace, Bool.or_false, Bool.and_false]
  exact splitOnP_flatMap spellChar ⟨⟨'\t', false⟩, rfl, rfl⟩ hOther line

theorem words_spell (line : Text) :
    ((spell line).splitOnP Glyph.separates).filter (fun word => !word.isEmpty) =
      (tabbedParts line).map spell := by
  rw [splitOnP_separates, List.filter_map]
  congr 1
  refine List.filter_congr fun part _ => ?_
  have hEmpty : (spell part).isEmpty = part.isEmpty := by
    rw [Bool.eq_iff_iff, List.isEmpty_iff, List.isEmpty_iff, spell_eq_nil_iff]
  exact congrArg not hEmpty

theorem commands_escape (text : Text) :
    commands (escape text) =
      (text.splitOn '\n').map fun line => (tabbedParts line).map spell := by
  unfold commands
  rw [glyphs_escape, splitOnP_endsCommand, List.map_map]
  exact List.map_congr_left fun line _ => words_spell line

theorem isPlainWord_escape_iff (text : Text) :
    IsPlainWord (escape text) ↔ '\n' ∉ text ∧ (tabbedParts text).length = 1 := by
  unfold IsPlainWord
  rw [commands_escape]
  constructor
  · rintro ⟨word, hWord, -⟩
    obtain ⟨line, hLine, hParts⟩ := List.map_eq_singleton_iff.mp hWord
    obtain ⟨rfl, hFeed⟩ := splitOn_eq_singleton_iff.mp hLine
    have hLength := congrArg List.length hParts
    rw [List.length_map] at hLength
    exact ⟨hFeed, hLength⟩
  · rintro ⟨hFeed, hLength⟩
    obtain ⟨part, hPart⟩ := List.length_eq_one_iff.mp hLength
    refine ⟨spell part, ?_, fun _ => isActive_of_mem_spell⟩
    rw [splitOn_eq_singleton_iff.mpr ⟨rfl, hFeed⟩, List.map_singleton, hPart, List.map_singleton]

/-- **What a shell makes of an escaped text.** No character means anything to it. Its commands are
the lines of the text, and their words the parts between tabs, each spelled out in full. So it reads
a single plain word just when there is no line feed, and one stretch without tabs. -/
theorem words_of_escape (text : Text) :
    (∀ glyph ∈ glyphs (escape text), glyph.isActive = false) ∧
      commands (escape text) =
        (text.splitOn '\n').map (fun line => (tabbedParts line).map spell) ∧
      (IsPlainWord (escape text) ↔ '\n' ∉ text ∧ (tabbedParts text).length = 1) := by
  refine ⟨fun glyph hGlyph => ?_, commands_escape text, isPlainWord_escape_iff text⟩
  rw [glyphs_escape] at hGlyph
  exact isActive_of_mem_spell hGlyph

/-- **A tab in a text cuts it in two words**, and a line feed begins another command. -/
theorem escape_is_no_plain_word :
    ¬ IsPlainWord (escape "a\tb") ∧
      commands (escape "a\tb") = [[[⟨'a', false⟩], [⟨'b', false⟩]]] ∧
      commands (escape "a\nb") = [[[⟨'a', false⟩]], [[⟨'b', false⟩]]] := by
  refine ⟨?_, by decide, by decide⟩
  rw [isPlainWord_escape_iff]
  decide

/-! ## The `input` program -/

/-- The `input` program takes each `%s`, from left to right, as a space. -/
def expandSpaces : Text → Text
  | [] => []
  | [c] => [c]
  | c :: d :: rest =>
    if c = '%' ∧ d = 's' then ' ' :: expandSpaces rest else c :: expandSpaces (d :: rest)

/-- The text that is typed on the phone for an argument. -/
def received (argument : Text) : Text := expandSpaces ((glyphs argument).map Glyph.char)

theorem expandSpaces_mark (rest : Text) :
    expandSpaces ('%' :: 's' :: rest) = ' ' :: expandSpaces rest := by
  rw [expandSpaces, if_pos ⟨rfl, rfl⟩]

/-- A character stays if it does not begin a mark. -/
theorem expandSpaces_cons {c : Char} {rest : Text} (h : c = '%' → rest.head? ≠ some 's') :
    expandSpaces (c :: rest) = c :: expandSpaces rest := by
  cases rest with
  | nil => rw [expandSpaces, expandSpaces]
  | cons d rest =>
    rw [expandSpaces, if_neg]
    rintro ⟨hc, rfl⟩
    exact h hc rfl

/-- What the `input` program sees of a character. -/
def markSpace (c : Char) : Text := if c = ' ' then "%s" else [c]

theorem map_char_spell (text : Text) :
    (spell text).map Glyph.char = text.flatMap markSpace := by
  unfold spell
  rw [List.map_flatMap]
  have hChar : ∀ c, (spellChar c).map Glyph.char = markSpace c := by
    intro c
    unfold spellChar markSpace
    split <;> rfl
  rw [funext hChar]

/-- The mark of a space does not begin with the end of another. -/
theorem head?_markSpace {c : Char} {text : Text} (h : c ≠ 's') :
    ((c :: text).flatMap markSpace).head? ≠ some 's' := by
  rw [List.flatMap_cons]
  unfold markSpace
  split
  · exact fun hHead => absurd (Option.some.inj hHead) (by decide)
  · exact fun hHead => h (Option.some.inj hHead)

/-- Spaces and marks come out alike. The induction is on how the text itself is read, because a `%`
and a mark behind it must not be taken for a mark. -/
theorem expandSpaces_flatMap (text : Text) :
    expandSpaces (text.flatMap markSpace) = expandSpaces text := by
  fun_induction expandSpaces text with
  | case1 => rfl
  | case2 c =>
    by_cases hc : c = ' '
    · rw [hc]
      rfl
    · rw [List.flatMap_singleton, markSpace, if_neg hc]
      rfl
  | case3 c d rest h ih =>
    obtain ⟨rfl, rfl⟩ := h
    rw [List.flatMap_cons, List.flatMap_cons]
    exact (expandSpaces_mark _).trans (congrArg _ ih)
  | case4 c d rest h ih =>
    rw [List.flatMap_cons]
    by_cases hc : c = ' '
    · rw [markSpace, if_pos hc, hc]
      exact (expandSpaces_mark _).trans (congrArg _ ih)
    · rw [markSpace, if_neg hc, List.singleton_append, expandSpaces_cons, ih]
      intro hPercent
      exact head?_markSpace fun hd => h ⟨hPercent, hd⟩

theorem head?_expandSpaces {text : Text} (h : (expandSpaces text).head? = some 's') :
    text.head? = some 's' := by
  fun_cases expandSpaces text with
  | case1 => exact h
  | case2 c => exact h
  | case3 c d rest hMark =>
    rw [expandSpaces, if_pos hMark] at h
    exact absurd (Option.some.inj h) (by decide)
  | case4 c d rest hMark =>
    rw [expandSpaces, if_neg hMark] at h
    exact h

/-- Whatever the `input` program is given, it types no `%s`. -/
theorem not_mark_expandSpaces (text : Text) : ¬ ['%', 's'] <:+: expandSpaces text := by
  fun_induction expandSpaces text with
  | case1 => decide
  | case2 c => exact fun h => absurd h.length_le (Nat.not_succ_le_self 1)
  | case3 c d rest h ih =>
    rw [List.infix_cons_iff, not_or, List.cons_prefix_cons]
    exact ⟨fun hPrefix => absurd hPrefix.1 (by decide), ih⟩
  | case4 c d rest h ih =>
    rw [List.infix_cons_iff, not_or, List.cons_prefix_cons]
    refine ⟨fun ⟨hPercent, hPrefix⟩ => ?_, ih⟩
    -- the character behind a `%` that has stayed is not the `s` of a mark
    obtain ⟨rest', hRest⟩ := hPrefix
    have hHead : (expandSpaces (d :: rest)).head? = some 's' := by
      rw [← hRest]
      rfl
    exact h ⟨hPercent.symm, Option.some.inj (head?_expandSpaces hHead)⟩

theorem expandSpaces_eq_self_iff {text : Text} :
    expandSpaces text = text ↔ ¬ ['%', 's'] <:+: text := by
  refine ⟨fun h => h ▸ not_mark_expandSpaces text, ?_⟩
  fun_induction expandSpaces text with
  | case1 => exact fun _ => rfl
  | case2 c => exact fun _ => rfl
  | case3 c d rest h ih =>
    obtain ⟨rfl, rfl⟩ := h
    exact fun hMark => absurd ⟨[], rest, rfl⟩ hMark
  | case4 c d rest h ih =>
    intro hMark
    rw [List.infix_cons_iff, not_or] at hMark
    rw [ih hMark.2]

/-- **What is typed for an escaped text.** It is the text, but with a space for each `%s` that it
holds; so it is the text itself just when it holds none. And no argument whatever makes the `input`
program type a `%s`. -/
theorem received_escape (text : Text) :
    received (escape text) = expandSpaces text ∧
      (received (escape text) = text ↔ ¬ ['%', 's'] <:+: text) ∧
      ∀ argument, ¬ ['%', 's'] <:+: received argument := by
  have hReceived : received (escape text) = expandSpaces text := by
    unfold received
    rw [glyphs_escape, map_char_spell, expandSpaces_flatMap]
  refine ⟨hReceived, ?_, fun argument => not_mark_expandSpaces _⟩
  rw [hReceived]
  exact expandSpaces_eq_self_iff

/-- **A `%s` is typed as a space.** -/
theorem received_mark : received (escape "%s") = [' '] ∧ received (escape "%s") ≠ ['%', 's'] := by
  decide

end Adb

end ScreenQuery
