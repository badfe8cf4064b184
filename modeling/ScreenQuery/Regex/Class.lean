import ScreenQuery.Regex.Escape

/-!
# Bracketed classes of patterns

* `Class.read` reads a class after its opening bracket: characters, ranges, escapes, named classes
  and nested classes, joined by union, and the operations `&&`, `--` and `~~`, which group from the
  left.
* A class that is not yet complete waits in a list of frames, innermost first, so a class may be
  nested to any depth.
-/

namespace ScreenQuery.Regex.Class

/-- The operations between classes. -/
inductive Operation
  | intersection | difference | exclusive

/-- The class that an operation makes. -/
def Operation.apply : Operation → CharClass → CharClass → CharClass
  | intersection => .intersection
  | difference => .difference
  | exclusive => .exclusive

/-- What waits for the class that is being read: the class around it, or the left operand. -/
inductive Frame
  | inside (outer : CharClass) (negated : Bool)
  | operand (operation : Operation) (left : CharClass)

/-- What is being read: the frames, innermost first, and the items so far. -/
structure State where
  frames : List Frame
  items : CharClass

/-- The items with one more. -/
def State.add (state : State) (a : CharClass) : State :=
  { state with items := .union state.items a }

/-- Hyphens at the start of a class stand for themselves. -/
def readHyphens (items : CharClass) : Text → CharClass × Text
  | '-' :: rest => readHyphens (.union items (.single '-')) rest
  | text => (items, text)

/-- The start of a class after its bracket: negation, hyphens, and a closing bracket that stands for
itself because nothing else has been read. -/
def opened (frames : List Frame) (outer : CharClass) (flags : Flags) (text : Text) : State × Text :=
  let text := flags.skip text
  let (negated, text) := match text with
    | '^' :: rest => (true, flags.skip rest)
    | _ => (false, text)
  let (items, text') := readHyphens .nothing text
  let frames := .inside outer negated :: frames
  match text, text' with
  | '-' :: _, _ => (⟨frames, items⟩, text')
  | _, ']' :: rest => (⟨frames, .single ']'⟩, rest)
  | _, _ => (⟨frames, items⟩, text')

/-- The items as the right operand of the operation that waits for them, if one does. -/
def State.complete (state : State) (flags : Flags) : State :=
  match state.frames with
  | .operand operation left :: frames =>
    ⟨frames, operation.apply (flags.fold left) (flags.fold state.items)⟩
  | _ => state

/-- The state after an operation sign. -/
def State.operate (state : State) (flags : Flags) (operation : Operation) : State :=
  let state := state.complete flags
  ⟨.operand operation state.items :: state.frames, .nothing⟩

/-- The state after a closing bracket, or the class when it was the last one. -/
def State.close (state : State) (flags : Flags) : Except Fault (State ⊕ CharClass) :=
  let state := state.complete flags
  match state.frames with
  | .inside outer negated :: frames =>
    let a := CharClass.negateIf negated (flags.fold state.items)
    if flags.ascii && a.exceedsAscii then .error .outsideUtf8
    else if frames.isEmpty then .ok (.inr a)
    else .ok (.inl ⟨frames, .union outer a⟩)
  | _ => .error .unclosedClass

/-- One item of a class, as a single character or a class. -/
def readItem (flags : Flags) : Text → Except Fault (Atom × Text)
  | [] => .error .unclosedClass
  | '\\' :: rest =>
    match readEscape flags rest with
    | .ok (atom, after) =>
      if flags.ascii && atom.exceedsAscii && !countsByte flags rest then .error .outsideUtf8
      else .ok (atom, after)
    | .error fault => .error fault
  | c :: rest => if flags.ascii && 0x80 ≤ c.toNat then .error .outsideUtf8 else .ok (.char c, rest)

/-- The class of an item that is no range. -/
def itemClass : Atom → Except Fault CharClass
  | .char c => .ok (.single c)
  | .chars a => .ok a
  | .condition _ => .error .badClassItem

/-- An item or a range. -/
def readRange (flags : Flags) (text : Text) : Except Fault (CharClass × Text) := do
  let (low, rest) ← readItem flags text
  let rest := flags.skip rest
  match rest with
  | [] => throw .unclosedClass
  | '-' :: after =>
    let next := (flags.skip after).head?
    if next = some ']' ∨ next = some '-' then return (← itemClass low, rest)
    else
      let (high, rest) ← readItem flags (flags.skip after)
      match low, high with
      | .char low, .char high =>
        if low ≤ high then return (.range low high, rest) else throw .badRange
      | _, _ => throw .badRange
  | _ => return (← itemClass low, rest)

/-- A named class after its opening bracket, such as `:alpha:]`. -/
def readNamed? (flags : Flags) : Text → Option (CharClass × Text)
  | ':' :: text => do
    let (negated, text) := match text with
      | '^' :: rest => (true, rest)
      | _ => (false, text)
    let (name, rest) ← Text.splitFirst ":" text
    let rest ← Text.dropPrefix? "]" rest
    let a ← CharClass.named? name
    return (.negateIf negated (flags.fold a), rest)
  | _ => none

/-- The work of `read`, for a text of at most `bound` characters. -/
def readFrom (flags : Flags) (state : State) :
    (bound : Nat) → Text → Except Fault (CharClass × Text)
  | 0, _ => .error .unclosedClass
  | bound + 1, text =>
    match flags.skip text with
    | [] => .error .unclosedClass
    | '[' :: rest =>
      match readNamed? flags rest with
      | some (a, rest) => readFrom flags (state.add a) bound rest
      | none =>
        let (state, rest) := opened state.frames state.items flags rest
        readFrom flags state bound rest
    | ']' :: rest =>
      match state.close flags with
      | .error fault => .error fault
      | .ok (.inr a) => .ok (a, rest)
      | .ok (.inl state) => readFrom flags state bound rest
    | '&' :: '&' :: rest => readFrom flags (state.operate flags .intersection) bound rest
    | '-' :: '-' :: rest => readFrom flags (state.operate flags .difference) bound rest
    | '~' :: '~' :: rest => readFrom flags (state.operate flags .exclusive) bound rest
    | text =>
      match readRange flags text with
      | .error fault => .error fault
      | .ok (a, rest) => readFrom flags (state.add a) bound rest

/-- A class after its opening bracket. -/
def read (flags : Flags) (text : Text) : Except Fault (CharClass × Text) :=
  let (state, rest) := opened [] .nothing flags text
  readFrom flags state (rest.length + 1) rest

end ScreenQuery.Regex.Class
