import ScreenQuery.Selector.Basic

/-!
# Queries

* `findAll` gives the elements of a screen that a selector picks, in document order; `findWithin`
  those inside one element. A path query over a whole screen starts at the root.
* `findFirst` stops a predicate or a shorthand selector at its first element.

`findAll` is `find_all`, `findFirst` is `find_one`, and `findWithin` is `find_all_within`;
`evaluate` and `candidates` are `evaluate` and `scan`.
-/

namespace ScreenQuery.Query

/-- The elements that are looked at: all of them, or those inside one. -/
def candidates (s : Snapshot) : (context : Option NodeId) → List Node
  | none => s.nodes.toList
  | some id => s.descendants id

mutual

/-- The elements that a selector picks, on a whole screen or inside one element. -/
def evaluate (s : Snapshot) (context : Option NodeId) : Selector → List NodeId
  | .predicate clauses => ((candidates s context).filter clauses.picks).map Node.id
  | .shorthand short => ((candidates s context).filter short.picks).map Node.id
  | .path query => query.evaluate s (context.getD rootId)
  | .alternatives items => firstResult s context items

/-- The result of the first alternative that has one. -/
def firstResult (s : Snapshot) (context : Option NodeId) : List Selector → List NodeId
  | [] => []
  | item :: rest =>
    match evaluate s context item with
    | [] => firstResult s context rest
    | found => found

end

/-- The elements that a selector picks. -/
def findAll (s : Snapshot) (selector : Selector) : List NodeId := evaluate s none selector

/-- The elements inside `context` that a selector picks. -/
def findWithin (s : Snapshot) (context : NodeId) (selector : Selector) : List NodeId :=
  evaluate s (some context) selector

/-- The first element that a selector picks. -/
def findFirst (s : Snapshot) : Selector → Option NodeId
  | .predicate clauses => (s.nodes.toList.find? clauses.picks).map Node.id
  | .shorthand short => (s.nodes.toList.find? short.picks).map Node.id
  | selector => (findAll s selector).head?

end ScreenQuery.Query
