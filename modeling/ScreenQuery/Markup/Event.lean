import ScreenQuery.Markup.Attribute

/-!
# Markup as events

* `Event.readAll` cuts markup into events, from left to right, and checks that closing tags match
  the opening ones. Reading stops at the first fault, with its position in bytes.
* What starts with `<` is character data, a comment, a document type, an instruction or a tag
  (`Construct`); each has its own rule for where it ends. Only tags matter further on.
* An element that is never closed is no fault here; the events show it.

These are the events that `build_arena` goes through. Out of scope: encodings, since a dump is a
text already, and what events other than tags hold.
-/

namespace ScreenQuery.Markup

/-- A tag: its name and what follows the name. -/
structure Tag where
  name : Text
  rest : Text
  deriving DecidableEq

/-- What markup says, piece by piece. -/
inductive Event
  | opening (tag : Tag)
  | empty (tag : Tag)
  | closing
  | aside
  deriving DecidableEq

/-- What starts with `<`. -/
inductive Construct
  | characterData | comment | doctype | instruction | tag
  deriving DecidableEq

/-- What is wrong with markup. -/
inductive Fault
  | unknown
  | unclosed (construct : Construct)
  | namelessDoctype
  | strayClosing (name : Text)
  | mismatchedClosing (expected found : Text)
  deriving DecidableEq

/-- The wording of a construct that does not end. -/
def Construct.unclosedMessage : Construct → Text
  | .characterData => "CDATA not closed: `]]>` not found before end of input"
  | .comment => "comment not closed: `-->` not found before end of input"
  | .doctype => "DOCTYPE not closed: `>` not found before end of input"
  | .instruction =>
    "processing instruction or xml declaration not closed: `?>` not found before end of input"
  | .tag => "tag not closed: `>` not found before end of input"

/-- The wording of a fault. -/
def Fault.message : Fault → Text
  | .unknown => "syntax error: unknown or missed symbol in markup"
  | .unclosed construct => "syntax error: " ++ construct.unclosedMessage
  | .namelessDoctype =>
    "ill-formed document: `<!DOCTYPE>` declaration does not contain a name of a document type"
  | .strayClosing name =>
    "ill-formed document: close tag `</" ++ name ++ ">` does not match any open tag"
  | .mismatchedClosing expected found =>
    "ill-formed document: expected `</" ++ expected ++ ">`, but `</" ++ found ++ ">` was found"

/-! ## Where a construct ends -/

/-- The text up to the first `>` before which `ends` holds of what has been passed, reversed, and
the text behind that `>`. -/
def cutWhere (ends : Text → Bool) (passed : Text) : Text → Option (Text × Text)
  | [] => none
  | c :: rest =>
    if c = '>' ∧ ends passed then some (passed.reverse, rest)
    else cutWhere ends (c :: passed) rest

/-- The text up to the `>` that belongs to no inner `<`, and the text behind it. -/
def cutNested (passed : Text) (depth : Nat) : Text → Option (Text × Text)
  | [] => none
  | c :: rest =>
    if c = '<' then cutNested (c :: passed) (depth + 1) rest
    else if c = '>' then
      match depth with
      | 0 => some (passed.reverse, rest)
      | depth + 1 => cutNested (c :: passed) depth rest
    else cutNested (c :: passed) depth rest

/-- The text up to the first `>` outside of quotes, and the text behind it. -/
def cutTag (passed : Text) (quote : Option Char) : Text → Option (Text × Text)
  | [] => none
  | c :: rest =>
    match quote with
    | some q => cutTag (c :: passed) (if c = q then none else some q) rest
    | none =>
      if c = '>' then some (passed.reverse, rest)
      else cutTag (c :: passed) (if c = '"' ∨ c = '\'' then some c else none) rest

/-- The construct that the text after a `<` starts. -/
def Construct.of? : Text → Option Construct
  | '!' :: '[' :: _ => some .characterData
  | '!' :: '-' :: _ => some .comment
  | '!' :: 'D' :: _ => some .doctype
  | '!' :: 'd' :: _ => some .doctype
  | '!' :: _ => none
  | '?' :: _ => some .instruction
  | _ => some .tag

/-- The construct at the front of the text after its `<`, up to its `>`, and the text behind. -/
def Construct.cut? : Construct → Text → Option (Text × Text)
  | .characterData, text => cutWhere (fun passed => Text.startsWith "]]" passed) [] text
  | .comment, text =>
    cutWhere (fun passed => Text.startsWith "--" passed && 5 ≤ Text.byteLength passed) [] text
  | .doctype, text => cutNested [] 0 text
  | .instruction, text => cutWhere (fun passed => Text.startsWith "?" passed) [] text
  | .tag, text => cutTag [] none text

theorem cutWhere_length_lt {ends : Text → Bool} {passed text body rest : Text}
    (h : cutWhere ends passed text = some (body, rest)) : rest.length < text.length := by
  fun_induction cutWhere ends passed text with
  | case1 => cases h
  | case2 => cases h; simp
  | case3 _ _ _ _ ih => have := ih h; simp only [List.length_cons]; omega

theorem cutNested_length_lt {passed text body rest : Text} {depth : Nat}
    (h : cutNested passed depth text = some (body, rest)) : rest.length < text.length := by
  fun_induction cutNested passed depth text with
  | case1 => cases h
  | case2 _ _ _ ih => have := ih h; simp only [List.length_cons]; omega
  | case3 => cases h; simp
  | case4 _ _ _ _ ih => have := ih h; simp only [List.length_cons]; omega
  | case5 _ _ _ _ _ _ ih => have := ih h; simp only [List.length_cons]; omega

theorem cutTag_length_lt {passed text body rest : Text} {quote : Option Char}
    (h : cutTag passed quote text = some (body, rest)) : rest.length < text.length := by
  fun_induction cutTag passed quote text with
  | case1 => cases h
  | case2 _ _ _ _ ih => have := ih h; simp only [List.length_cons]; omega
  | case3 => cases h; simp
  | case4 _ _ _ _ ih => have := ih h; simp only [List.length_cons]; omega

theorem Construct.cut?_length_lt {construct : Construct} {text body rest : Text}
    (h : construct.cut? text = some (body, rest)) : rest.length < text.length := by
  cases construct with
  | doctype => exact cutNested_length_lt h
  | tag => exact cutTag_length_lt h
  | characterData | comment | instruction => exact cutWhere_length_lt h

/-! ## What a construct says -/

/-- The text without the blanks at its end; a text of blanks alone stays. -/
def closingName (text : Text) : Text :=
  match text.reverse.dropWhile isBlank with
  | [] => text
  | trimmed => trimmed.reverse

/-- The tag with a name up to the first blank. -/
def Tag.of (content : Text) : Tag :=
  ⟨content.takeWhile fun c => !isBlank c, content.dropWhile fun c => !isBlank c⟩

/-- What a tag says, given the names of the open elements, innermost first. -/
def Event.ofTag (opened : List Text) (content : Text) : Except Fault (Event × List Text) :=
  match content with
  | '/' :: name =>
    match opened with
    | [] => .error (.strayClosing (closingName name))
    | expected :: outer =>
      if closingName name = expected then .ok (.closing, outer)
      else .error (.mismatchedClosing expected (closingName name))
  | _ =>
    match Text.dropSuffix? "/" content with
    | some content => .ok (.empty (Tag.of content), opened)
    | none => .ok (.opening (Tag.of content), (Tag.of content).name :: opened)

/-- What a construct says, given what stands between its `<` and its `>`, and the names of the open
elements, innermost first. -/
def Event.ofConstruct (construct : Construct) (opened : List Text) (content : Text) :
    Except Fault (Event × List Text) :=
  match construct with
  | .characterData =>
    if Text.startsWith "![CDATA[" content then .ok (.aside, opened)
    else .error (.unclosed .characterData)
  | .comment =>
    if Text.startsWith "!--" content then .ok (.aside, opened) else .error (.unclosed .comment)
  | .doctype =>
    if (content.take 8).map Text.asciiLower = "!doctype" then
      if (content.drop 8).all isBlank then .error .namelessDoctype else .ok (.aside, opened)
    else .error (.unclosed .doctype)
  | .instruction =>
    if 1 < content.length then .ok (.aside, opened) else .error (.unclosed .instruction)
  | .tag => Event.ofTag opened content

/-! ## All events -/

/-- What reading has found: the events, and the fault that stopped it with its position. -/
structure Reading where
  events : List Event
  fault : Option (Nat × Fault)

/-- The work of `readAll`: the events so far, reversed, the names of the open elements, innermost
first, and the rest of the text with its position. -/
def Event.readFrom (events : List Event) (opened : List Text) (position : Nat) (text : Text) :
    Reading :=
  let skipped := text.takeWhile fun c => c != '<'
  match hRest : text.dropWhile fun c => c != '<' with
  | [] => ⟨events.reverse, none⟩
  | _ :: content =>
    let start := position + Text.byteLength skipped + 1
    match Construct.of? content with
    | none => ⟨events.reverse, some (start, .unknown)⟩
    | some construct =>
      match hCut : construct.cut? content with
      | none => ⟨events.reverse, some (start + Text.byteLength content, .unclosed construct)⟩
      | some (body, rest) =>
        let stop := start + Text.byteLength body + 1
        match Event.ofConstruct construct opened body with
        | .error fault => ⟨events.reverse, some (stop, fault)⟩
        | .ok (event, opened) =>
          have : rest.length < text.length := by
            have h1 := Construct.cut?_length_lt hCut
            have h2 : (text.dropWhile fun c => c != '<').length ≤ _ :=
              (List.dropWhile_suffix _).length_le
            rw [hRest] at h2
            simp only [List.length_cons] at h2
            omega
          Event.readFrom (event :: events) opened stop rest
termination_by text.length

/-- The events of markup. -/
def Event.readAll (text : Text) : Reading := Event.readFrom [] [] 0 text

end ScreenQuery.Markup
