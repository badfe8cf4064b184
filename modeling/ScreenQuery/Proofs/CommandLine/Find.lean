import ScreenQuery.CommandLine.Execute
import ScreenQuery.Proofs.Query

/-!
# Finding one element and finding all

* A search for all elements and a search for the first one look at the same screen, and end with the
  same failure or with the same first element: `search_cases`.
* So the command that finds elements prints, without its flag for all of them, exactly the first
  entry of what it prints with the flag, and fails just when it fails with the flag:
  `finds_in_order`.

About `find_all` and `find_one`, and what `DeviceSession`, `ElementHandle` and `execute` make of
them.
-/

namespace ScreenQuery.CommandLine

open Session (Operation)

variable {σ α β : Type} {bridge : Bridge σ}

theorem run_andThen (operation : Operation α) (rest : α → Operation β) (session : Session σ) :
    (andThen operation rest).run bridge session =
      match operation.run bridge session with
      | (.ok value, after) => (rest value).run bridge after
      | (.error failure, after) => (.error failure, after) := by
  unfold andThen
  rw [Plan.run_bind]
  cases operation.run bridge session with
  | mk result after => cases result <;> rfl

theorem run_onSnapshot (force : Bool) (look : Snapshot → Except Failure α) (session : Session σ) :
    (Session.onSnapshot force look).run bridge session =
      (((session.request bridge force).1.mapError BridgeError.failure).bind look,
        (session.request bridge force).2) :=
  rfl

/-- The first screen of a session comes from a dump. -/
theorem exists_dump_of_start {freshness : Nat} {device : σ} {force : Bool} {s : Snapshot}
    (h : ((Session.start freshness device).request bridge force).1 = .ok s) :
    ∃ id raw, s = Dump.parse id raw := by
  have hMiss : (Cache.empty freshness).fresh? force 0 = none := by
    cases force <;> rfl
  simp only [Session.request, Session.start, Cache.get, hMiss] at h
  cases hResult : (bridge.capture 0 device).result with
  | error error =>
    rw [hResult] at h
    cases h
  | ok raw =>
    rw [hResult] at h
    cases h
    exact ⟨_, raw, rfl⟩

/-- A search for all elements and one for the first. -/
theorem search_cases {freshness : Nat} {device : σ} {selector : Selector}
    {scope : Option Selector} {one all : Except Failure (List Handle)} (h : selector.WellFormed)
    (hOne : ((search false selector scope).run bridge (.start freshness device)).1 = one)
    (hAll : ((search true selector scope).run bridge (.start freshness device)).1 = all) :
    (∃ failure, one = .error failure ∧ all = .error failure) ∨
      (all = .ok [] ∧ (one = .ok [] ∨ one = .error (.notFound selector.toText))) ∨
        ∃ first rest, all = .ok (first :: rest) ∧ one = .ok [first] := by
  subst hOne hAll
  unfold search
  cases scope with
  | some scope =>
    dsimp only
    rw [run_andThen, run_andThen]
    cases (Session.require scope).run bridge (.start freshness device) with
    | mk result after =>
      cases result with
      | error failure => exact Or.inl ⟨failure, rfl, rfl⟩
      | ok outer =>
        simp only [Bool.false_eq_true, if_false, if_true, Plan.run, Handle.findWithin]
        cases outer.findAllWithin selector with
        | nil => exact Or.inr (Or.inl ⟨rfl, Or.inl rfl⟩)
        | cons first rest => exact Or.inr (Or.inr ⟨first, rest, rfl, rfl⟩)
  | none =>
    simp only [Bool.false_eq_true, if_false, if_true]
    rw [run_andThen]
    unfold Session.require Session.findAll
    rw [run_onSnapshot, run_onSnapshot]
    cases hReply : ((Session.start freshness device).request bridge false).1 with
    | error error => exact Or.inl ⟨error.failure, rfl, rfl⟩
    | ok s =>
      obtain ⟨id, raw, rfl⟩ := exists_dump_of_start hReply
      have hFirst := Handle.findFirst_eq_head? (Dump.preOrder_parse id raw) h
      simp only [Except.mapError, Except.bind, Session.firstOf, hFirst]
      cases Handle.findAll (Dump.parse id raw) selector with
      | nil => exact Or.inr (Or.inl ⟨rfl, Or.inr rfl⟩)
      | cons first rest => exact Or.inr (Or.inr ⟨first, rest, rfl, rfl⟩)

/-- What is printed of the first element that was found. -/
def firstPrint (json : Bool) (first : Handle) : Print :=
  if json then .record first.toJson else .words (handleLine first)

/-- What is printed of all elements that were found. -/
def allPrint (json : Bool) (found : List Handle) : Print :=
  if json then .record (.array (found.map Handle.toJson)) else .words (found.flatMap handleLine)

theorem printFound_all (json : Bool) (selector : Selector) (first : Handle)
    (rest : List Handle) :
    printFound true json selector (first :: rest) = .ok (allPrint json (first :: rest)) := by
  unfold printFound allPrint
  cases json <;> rfl

theorem printFound_first (json : Bool) (selector : Selector) (first : Handle) :
    printFound false json selector [first] = .ok (firstPrint json first) := by
  unfold printFound firstPrint
  cases json
  · simp
  · rfl

theorem wellFormed_of_selectorOf {text : Text} {selector : Selector}
    (h : selectorOf text = .ok selector) : selector.WellFormed := by
  unfold selectorOf at h
  cases hInput : Selector.ofInput text with
  | error error => rw [hInput] at h; cases h
  | ok read =>
    rw [hInput] at h
    cases h
    exact Selector.wellFormed_of_ofInput hInput

/-- The command that finds elements, for all of them and for the first. -/
theorem find_cases (bridge : Bridge σ) (freshness : Nat) (device : σ) (text : Text) (json : Bool)
    (scope : Option Text) :
    let start := Session.start freshness device
    let one := ((find text false json scope).run bridge start).1
    let all := ((find text true json scope).run bridge start).1
    (∃ failure, one = .error failure ∧ all = .error failure) ∨
      ∃ selector inner first rest,
        selectorOf text = .ok selector ∧ scope.mapM selectorOf = .ok inner ∧
        ((search true selector inner).run bridge start).1 = .ok (first :: rest) ∧
        one = .ok (firstPrint json first) ∧ all = .ok (allPrint json (first :: rest)) := by
  intro start one all
  unfold one all find
  cases hSelector : selectorOf text with
  | error failure => exact Or.inl ⟨failure, rfl, rfl⟩
  | ok selector =>
    cases hScope : scope.mapM selectorOf with
    | error failure => exact Or.inl ⟨failure, rfl, rfl⟩
    | ok inner =>
      simp only [given, run_andThen]
      cases hOne : (search false selector inner).run bridge start with
      | mk one afterOne =>
        cases hAll : (search true selector inner).run bridge start with
        | mk all afterAll =>
          rcases search_cases (wellFormed_of_selectorOf hSelector) (congrArg Prod.fst hOne)
            (congrArg Prod.fst hAll) with ⟨failure, hFailed, hAllFailed⟩ |
            ⟨hNone, hOneNone⟩ | ⟨first, rest, hFound, hFirst⟩
          · obtain rfl : one = .error failure := hFailed
            obtain rfl : all = .error failure := hAllFailed
            exact Or.inl ⟨failure, rfl, rfl⟩
          · obtain rfl : all = .ok [] := hNone
            refine Or.inl ⟨.notFound selector.toText, ?_, rfl⟩
            rcases hOneNone with hOneNone | hOneNone
            · obtain rfl : one = .ok [] := hOneNone
              rfl
            · obtain rfl : one = .error (.notFound selector.toText) := hOneNone
              rfl
          · obtain rfl : all = .ok (first :: rest) := hFound
            obtain rfl : one = .ok [first] := hFirst
            refine Or.inr ⟨selector, inner, first, rest, rfl, rfl, congrArg Prod.fst hAll, ?_, ?_⟩
            · exact printFound_first json selector first
            · exact printFound_all json selector first rest

/-- **What is found comes in document order, and the first element that is found is the first of
all.** On the screen of any dump, and with any selector, on the whole screen or inside an element:
the elements are found in document order and once each, all of them are elements of the screen, so
that each gets its handle, and a search that stops at the first element stops at the first of all.
The command that finds elements prints either all of them or exactly the first entry, and fails in
both cases or in neither, and in the same way. -/
theorem finds_in_order :
    (∀ (id : Nat) (raw : Text) (selector : Selector), selector.WellFormed →
      let s := Dump.parse id raw
      (∀ context, (Query.evaluate s context selector).Pairwise (· < ·) ∧
        ∀ n ∈ Query.evaluate s context selector, ∃ node, s.get? n = some node) ∧
      Query.findFirst s selector = (Query.findAll s selector).head? ∧
      (Handle.findAll s selector).map Handle.id = Query.findAll s selector ∧
      Handle.findFirst s selector = (Handle.findAll s selector).head? ∧
      ∀ outer : Handle, outer.snapshot = s →
        (outer.findAllWithin selector).map Handle.id = Query.findWithin s outer.id selector ∧
          outer.findWithin selector = (outer.findAllWithin selector).head?) ∧
    ∀ {σ : Type} (bridge : Bridge σ) (freshness : Nat) (device : σ) (text : Text) (json : Bool)
      (scope : Option Text),
      let start := Session.start freshness device
      let one := ((find text false json scope).run bridge start).1
      let all := ((find text true json scope).run bridge start).1
      (∀ failure, one = .error failure ↔ all = .error failure) ∧
      ∀ print, one = .ok print → ∃ selector inner first rest,
        selectorOf text = .ok selector ∧ scope.mapM selectorOf = .ok inner ∧
        ((search true selector inner).run bridge start).1 = .ok (first :: rest) ∧
        print = firstPrint json first ∧ all = .ok (allPrint json (first :: rest)) := by
  constructor
  · intro id raw selector h s
    have hTree : PreOrder s.nodes := Dump.preOrder_parse id raw
    refine ⟨fun context =>
      ⟨Query.evaluate_sorted hTree h context, Query.evaluate_valid hTree h context⟩,
      Query.findFirst_eq_head? s selector, Handle.map_id_findAll hTree h,
      Handle.findFirst_eq_head? hTree h, fun outer hOuter => ⟨?_, rfl⟩⟩
    rw [← hOuter] at hTree ⊢
    exact outer.map_id_findAllWithin hTree h
  · intro σ bridge freshness device text json scope start one all
    rcases find_cases bridge freshness device text json scope with ⟨failure, hOne, hAll⟩ |
      ⟨selector, inner, first, rest, hSelector, hScope, hFound, hOne, hAll⟩
    · have hSame : one = all := hOne.trans hAll.symm
      refine ⟨fun other => by rw [hSame], fun print hPrint => ?_⟩
      cases hOne.symm.trans hPrint
    · constructor
      · intro failure
        constructor
        · intro h
          cases hOne.symm.trans h
        · intro h
          cases hAll.symm.trans h
      · intro print hPrint
        exact ⟨selector, inner, first, rest, hSelector, hScope, hFound,
          Except.ok.inj (hPrint.symm.trans hOne), hAll⟩

/-- A small screen with two elements of one class. -/
def twoRows : Text := "<a><b/><b><c/></b></a>"

/-- Elements that are not on the small screen. -/
def noTables : PathQuery := ⟨"//t", [⟨.descendant, some "t", none⟩]⟩

/-- The rows, if there are no tables. -/
def tablesOrRows : Selector := .alternatives [.path noTables, .shorthand (.classPart "b")]

theorem wellFormed_tablesOrRows : tablesOrRows.WellFormed := by
  have hTables : PathQuery.parse "//t" = .ok noTables := by decide +kernel
  refine .alternatives fun item hItem => ?_
  simp only [List.mem_cons, List.not_mem_nil, or_false] at hItem
  rcases hItem with rfl | rfl
  · exact .path hTables
  · exact .shorthand _

theorem finds_rows_in_order :
    (tablesOrRows.WellFormed ∧ Query.findAll (Dump.parse 1 twoRows) tablesOrRows = [1, 2] ∧
      Query.findFirst (Dump.parse 1 twoRows) tablesOrRows = some 1 ∧
      ∃ outer : Handle, outer.snapshot = Dump.parse 1 twoRows ∧
        (outer.findAllWithin tablesOrRows).map Handle.id = [1, 2]) ∧
    ∃ print first rest,
      ((find ".b" false false none).run (.still twoRows) (.start 1000 ())).1 = .ok print ∧
      print = firstPrint false first ∧
      ((find ".b" true false none).run (.still twoRows) (.start 1000 ())).1 =
        .ok (allPrint false (first :: rest)) := by
  obtain ⟨hScreen, hCommand⟩ := finds_in_order
  obtain ⟨-, hFirst, -, -, hWithin⟩ := hScreen 1 twoRows tablesOrRows wellFormed_tablesOrRows
  have hAll : Query.findAll (Dump.parse 1 twoRows) tablesOrRows = [1, 2] := by decide +kernel
  have hInside : Query.findWithin (Dump.parse 1 twoRows) 0 tablesOrRows = [1, 2] := by
    decide +kernel
  obtain ⟨outer, hOuter⟩ : ∃ root, (Dump.parse 1 twoRows).get? 0 = some root :=
    Option.isSome_iff_exists.mp (by decide +kernel)
  refine ⟨⟨wellFormed_tablesOrRows, hAll, by rw [hFirst, hAll]; rfl,
    ⟨_, 0, outer, none, hOuter⟩, rfl, (hWithin _ rfl).1.trans hInside⟩, ?_⟩
  have hPrints : ((find ".b" false false none).run (.still twoRows)
      (.start 1000 ())).1.toOption.isSome = true := by decide +kernel
  cases hOne : ((find ".b" false false none).run (.still twoRows) (.start 1000 ())).1 with
  | error failure =>
    rw [hOne] at hPrints
    cases hPrints
  | ok print =>
    obtain ⟨-, -, first, rest, -, -, -, hPrint, hAllPrint⟩ :=
      (hCommand (.still twoRows) 1000 () ".b" false none).2 print hOne
    exact ⟨print, first, rest, rfl, hPrint, hAllPrint⟩

end ScreenQuery.CommandLine
