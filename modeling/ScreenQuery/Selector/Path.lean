import ScreenQuery.Snapshot
import ScreenQuery.Selector.Shorthand

/-!
# Path queries

* A query is a sequence of steps. `//` goes to every element below, `/` to the children; a name
  other than `*` is a part of the class. A predicate in brackets asks for an attribute, or for a
  position, which counts the index of the dump from one.
* `PathQuery.evaluate` follows the steps from one element. The elements reached so far are kept in
  document order without repetition.

`parse` and `evaluate` are those of `PathQuery`, with `find_closing_bracket` (`cutBracket`) and
`parse_predicate` (`predicateOf`); `holds` and `picks` are `matches` of `PathPredicate` and of
`Step`.
-/

namespace ScreenQuery

/-- Where a step leads. -/
inductive Axis
  | child | descendant
  deriving DecidableEq

/-- The attributes that a path can ask for. -/
inductive PathAttribute
  | text | resourceId | contentDesc | clickable
  deriving DecidableEq

namespace PathAttribute

/-- All of them. -/
def all : List PathAttribute := [text, resourceId, contentDesc, clickable]

/-- The name in a query. -/
def name : PathAttribute → Text
  | text => "text"
  | resourceId => "resource-id"
  | contentDesc => "content-desc"
  | clickable => "clickable"

/-- The attribute with a name. -/
def ofName? (name : Text) : Option PathAttribute := all.find? fun a => a.name == name

/-- The value of the attribute. -/
def value (a : PathAttribute) (node : Node) : Text :=
  match a with
  | text => node.text
  | resourceId => node.resourceId
  | contentDesc => node.description
  | clickable => Node.truthText node.flags.clickable

end PathAttribute

/-- A predicate of a step. A position counts from one. -/
inductive PathPredicate
  | equals (a : PathAttribute) (value : Text)
  | position (n : UInt32)
  deriving DecidableEq

/-- True when the predicate holds of an element. -/
def PathPredicate.holds (predicate : PathPredicate) (node : Node) : Bool :=
  match predicate with
  | .equals a value => a.value node == value
  | .position n => node.index == n - 1

/-- One step of a query; without a name any class will do. -/
structure Step where
  axis : Axis
  name : Option Text
  predicate : Option PathPredicate
  deriving DecidableEq

/-- True when the step may end at an element. -/
def Step.picks (step : Step) (node : Node) : Bool :=
  (step.name.all fun name => Text.contains name node.className) &&
    step.predicate.all fun predicate => predicate.holds node

/-- A path query with its source. -/
structure PathQuery where
  source : Text
  steps : List Step
  deriving DecidableEq

namespace PathQuery

/-! ## Reading -/

/-- The text up to the first `]` outside of quotes, and the text behind it. -/
def cutBracket (passed : Text) (quote : Option Char) : Text → Option (Text × Text)
  | [] => none
  | c :: rest =>
    match quote with
    | some q => cutBracket (c :: passed) (if c = q then none else some q) rest
    | none =>
      if c = ']' then some (passed.reverse, rest)
      else cutBracket (c :: passed) (if c = '"' ∨ c = '\'' then some c else none) rest

theorem cutBracket_length_lt {passed text body rest : Text} {quote : Option Char}
    (h : cutBracket passed quote text = some (body, rest)) : rest.length < text.length := by
  fun_induction cutBracket passed quote text with
  | case1 => cases h
  | case2 _ _ _ _ ih => have := ih h; simp only [List.length_cons]; omega
  | case3 => cases h; simp
  | case4 _ _ _ _ ih => have := ih h; simp only [List.length_cons]; omega

/-- True for a text that starts and ends with the same quote. -/
def isQuoted (text : Text) : Bool :=
  (Shorthand.betweenQuotes? '"' text).isSome || (Shorthand.betweenQuotes? '\'' text).isSome

/-- The predicate that stands between brackets. -/
def predicateOf (raw : Text) : Except SelectorFault PathPredicate :=
  let body := Text.trim raw
  if !body.isEmpty && body.all Text.isDigit then
    match Text.uint32? body with
    | none => .error .largePosition
    | some n => if n = 0 then .error .zeroPosition else .ok (.position n)
  else match body with
    | '@' :: test =>
      match Text.splitFirst "=" test with
      | none => .error (.missingEquals body)
      | some (name, value) =>
        match PathAttribute.ofName? (Text.trim name) with
        | none => .error (.unknownPathAttribute (Text.trim name))
        | some a =>
          if isQuoted (Text.trim value) then .ok (.equals a (Shorthand.unquote value))
          else .error (.unquotedValue a.name)
    | _ => .error (.unknownPredicate body)

/-- The axis at the front of a text, and what follows it. -/
def axisOf : Text → Except SelectorFault (Axis × Text)
  | '/' :: '/' :: rest => .ok (.descendant, rest)
  | '/' :: rest => .ok (.child, rest)
  | text => .error (.missingSlash text)

theorem axisOf_length_lt {text rest : Text} {axis : Axis} (h : axisOf text = .ok (axis, rest)) :
    rest.length < text.length := by
  unfold axisOf at h
  split at h <;> cases h <;> simp only [List.length_cons] <;> omega

/-- The predicate at the front of a text, if there is a bracket, and what follows it. -/
def bracketOf : Text → Except SelectorFault (Option PathPredicate × Text)
  | '[' :: text =>
    match cutBracket [] none text with
    | none => .error .unclosedBracket
    | some (body, rest) => (predicateOf body).map fun predicate => (some predicate, rest)
  | text => .ok (none, text)

theorem bracketOf_length_le {text rest : Text} {predicate : Option PathPredicate}
    (h : bracketOf text = .ok (predicate, rest)) : rest.length ≤ text.length := by
  unfold bracketOf at h
  split at h
  · rename_i text
    split at h
    · cases h
    · rename_i body rest' hCut
      have hLt := cutBracket_length_lt hCut
      cases hBody : predicateOf body with
      | error fault => rw [hBody] at h; cases h
      | ok predicate =>
        rw [hBody] at h
        simp only [Except.map, Except.ok.injEq, Prod.mk.injEq] at h
        obtain ⟨-, rfl⟩ := h
        simp only [List.length_cons]
        omega
  · cases h
    exact Nat.le_refl _

/-- True for the characters that end the name of a step. -/
def endsName (c : Char) : Bool := c == '[' || c == '/'

/-- The steps of a text, after those already read, which are reversed. -/
def stepsFrom (read : List Step) (text : Text) : Except SelectorFault (List Step) :=
  if text.isEmpty then .ok read.reverse
  else match hAxis : axisOf text with
    | .error fault => .error fault
    | .ok (axis, rest) =>
      let name := Text.trim (rest.takeWhile fun c => !endsName c)
      if name.isEmpty then .error .missingElementName
      else match hBracket : bracketOf (rest.dropWhile fun c => !endsName c) with
        | .error fault => .error fault
        | .ok (predicate, rest') =>
          have : rest'.length < text.length := by
            have h1 := axisOf_length_lt hAxis
            have h2 := bracketOf_length_le hBracket
            have h3 : (rest.dropWhile fun c => !endsName c).length ≤ rest.length :=
              (List.dropWhile_suffix _).length_le
            omega
          let step : Step := ⟨axis, if name = "*" then none else some name, predicate⟩
          stepsFrom (step :: read) rest'
termination_by text.length

/-- The steps of a text without blanks around it. -/
def stepsOf (source : Text) : Except SelectorFault (List Step) :=
  if source.isEmpty then .error .emptyPath else stepsFrom [] source

/-- The path query of a text. -/
def parse (input : Text) : Except SelectorError PathQuery :=
  match stepsOf (Text.trim input) with
  | .ok steps => .ok ⟨Text.trim input, steps⟩
  | .error fault => .error ⟨input, fault⟩

/-- The way the query is shown. -/
def toText (query : PathQuery) : Text := query.source

/-! ## Evaluation -/

/-- A list without the repetitions of neighbours. -/
def dropRepeats : List NodeId → List NodeId
  | [] => []
  | [id] => [id]
  | a :: b :: rest => if a = b then dropRepeats (b :: rest) else a :: dropRepeats (b :: rest)

/-- Ids in document order without repetition. -/
def inOrder (ids : List NodeId) : List NodeId := dropRepeats (ids.mergeSort fun a b => a ≤ b)

/-- Where a step leads from one element. -/
def reach (s : Snapshot) (step : Step) (context : NodeId) : List NodeId :=
  let candidates := match step.axis with
    | .child => s.children context
    | .descendant => s.descendants context
  (candidates.filter step.picks).map Node.id

/-- Where some steps lead from some elements. -/
def follow (s : Snapshot) (contexts : List NodeId) : List Step → List NodeId
  | [] => contexts
  | step :: steps =>
    match inOrder (contexts.flatMap (reach s step)) with
    | [] => []
    | next => follow s next steps

/-- The elements that the query leads to, in document order. -/
def evaluate (query : PathQuery) (s : Snapshot) (context : NodeId) : List NodeId :=
  follow s [context] query.steps

end PathQuery

end ScreenQuery
