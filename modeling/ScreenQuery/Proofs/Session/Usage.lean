import ScreenQuery.Session.Operation

/-!
# What the users of a session do

* `Offered` are the operations of a session, and `Uses` the plans of its users: operations one after
  another, with sleeps between them, each chosen by the results of those before it.
* `Plan.Tidy` says that every input is followed at once by dropping the cached snapshot. The
  operations are tidy, so all users are (`Uses.tidy`).
* `Plan.Quiet` says that there are no inputs at all. Queries and waits are quiet.
-/

namespace ScreenQuery

namespace Plan

variable {α β : Type}

/-- The plan begins by dropping the cached snapshot. -/
def Drops : Plan α → Prop
  | invalidate _ => True
  | _ => False

/-- Every input is followed at once by dropping the cached snapshot. -/
def Tidy : Plan α → Prop
  | done _ => True
  | snapshot _ next => ∀ reply taken, (next reply taken).Tidy
  | act _ next => ∀ reply, (next reply).Drops ∧ (next reply).Tidy
  | invalidate next => next.Tidy
  | sleep _ next => ∀ late, (next late).Tidy

/-- The plan passes no inputs to the device. -/
def Quiet : Plan α → Prop
  | done _ => True
  | snapshot _ next => ∀ reply taken, (next reply taken).Quiet
  | act _ _ => False
  | invalidate next => next.Quiet
  | sleep _ next => ∀ late, (next late).Quiet

theorem Drops.bind {plan : Plan α} (h : plan.Drops) (rest : α → Plan β) :
    (plan.bind rest).Drops := by
  cases plan with
  | invalidate next => trivial
  | done value | snapshot force next | act action next | sleep duration next => exact h.elim

theorem Tidy.bind {plan : Plan α} {rest : α → Plan β} (h : plan.Tidy)
    (hRest : ∀ value, (rest value).Tidy) : (plan.bind rest).Tidy := by
  induction plan with
  | done value => exact hRest value
  | snapshot force next ih => exact fun reply taken => ih reply taken (h reply taken)
  | act action next ih => exact fun reply => ⟨(h reply).1.bind rest, ih reply (h reply).2⟩
  | invalidate next ih => exact ih h
  | sleep duration next ih => exact fun late => ih late (h late)

theorem Quiet.bind {plan : Plan α} {rest : α → Plan β} (h : plan.Quiet)
    (hRest : ∀ value, (rest value).Quiet) : (plan.bind rest).Quiet := by
  induction plan with
  | done value => exact hRest value
  | snapshot force next ih => exact fun reply taken => ih reply taken (h reply taken)
  | act action next _ => exact h.elim
  | invalidate next ih => exact ih h
  | sleep duration next ih => exact fun late => ih late (h late)

theorem Quiet.tidy {plan : Plan α} (h : plan.Quiet) : plan.Tidy := by
  induction plan with
  | done value => trivial
  | snapshot force next ih => exact fun reply taken => ih reply taken (h reply taken)
  | act action next _ => exact h.elim
  | invalidate next ih => exact ih h
  | sleep duration next ih => exact fun late => ih late (h late)

end Plan

namespace Wait

variable {σ β : Type} {what : Text} {patience : Patience}

theorem quiet_pollFrom (check : Check σ β) (progress : Progress σ) (elapsed : Nat) :
    (pollFrom what patience check progress elapsed).Quiet := by
  fun_induction pollFrom what patience check progress elapsed with
  | case1 progress elapsed ih =>
    intro reply taken
    simp only
    split
    · trivial
    · rename_i next hNext
      split
      · rename_i hTime
        exact fun late => ih taken next hTime late
      · trivial

theorem quiet_pollUntil (check : Check σ β) (memory : σ) :
    (pollUntil what patience check memory).Quiet :=
  quiet_pollFrom check _ _

theorem quiet_untilSome (find : Snapshot → Option β) : (untilSome what patience find).Quiet :=
  (quiet_pollUntil _ _).bind fun _ => trivial

end Wait

namespace Session

/-- The operations of a session. -/
inductive Offered : {α : Type} → Plan α → Prop
  | snapshot (force : Bool) : Offered (Session.snapshot force)
  | find (selector : Selector) : Offered (Session.find selector)
  | findAll (selector : Selector) : Offered (Session.findAll selector)
  | require (selector : Selector) : Offered (Session.require selector)
  | requery (handle : Handle) : Offered (Session.requery handle)
  | waitFor (selector : Selector) (patience : Patience) :
      Offered (Session.waitFor selector patience)
  | waitForHidden (selector : Selector) (patience : Patience) :
      Offered (Session.waitForHidden selector patience)
  | waitForText (words : Text) (patience : Patience) :
      Offered (Session.waitForText words patience)
  | waitForChange (baseline : UInt64) (patience : Patience) :
      Offered (Session.waitForChange baseline patience)
  | waitForIdle (settle : Nat) (patience : Patience) :
      Offered (Session.waitForIdle settle patience)
  | waitUntil {β γ : Type} (what : Text) (patience : Patience) (check : Wait.Check β γ)
      (memory : β) : Offered (Wait.pollUntil what patience check memory)
  | invalidate : Offered (.invalidate (.done ()))
  | tap (handle : Handle) : Offered (Session.tap handle)
  | tapPoint (spot : Point) : Offered (Session.tapPoint spot)
  | tapSelector (selector : Selector) (patience : Patience) :
      Offered (Session.tapSelector selector patience)
  | longPress (handle : Handle) (duration : Nat) : Offered (Session.longPress handle duration)
  | swipe (start finish : Point) (duration : Nat) :
      Offered (Session.swipe start finish duration)
  | drag (start finish : Handle) (duration : Nat) : Offered (Session.drag start finish duration)
  | typeText (words : Text) : Offered (Session.typeText words)
  | pressKey (code : UInt32) : Offered (Session.pressKey code)

/-- The plans of a session's users. -/
inductive Uses {α : Type} : Plan α → Prop
  | done (value : α) : Uses (.done value)
  | sleep (duration : Nat) {next : Nat → Plan α} (h : ∀ late, Uses (next late)) :
      Uses (.sleep duration next)
  | call {β : Type} {operation : Plan β} {rest : β → Plan α} (hOperation : Offered operation)
      (h : ∀ value, Uses (rest value)) : Uses (operation.bind rest)

theorem quiet_onSnapshot {α : Type} (force : Bool) (find : Snapshot → Except Failure α) :
    (onSnapshot force find).Quiet :=
  fun _ _ => trivial

theorem tidy_dispatch (name : Text) (action : Action) : (dispatch name action).Tidy :=
  fun _ => ⟨trivial, trivial⟩

theorem quiet_waitFor (selector : Selector) (patience : Patience) :
    (waitFor selector patience).Quiet :=
  Wait.quiet_untilSome _

/-- **Every operation drops the cached snapshot right after an input.** -/
theorem Offered.tidy {α : Type} {operation : Plan α} (h : Offered operation) :
    operation.Tidy := by
  cases h with
  | snapshot force => exact fun _ _ => trivial
  | find selector => exact (quiet_onSnapshot _ _).tidy
  | findAll selector => exact (quiet_onSnapshot _ _).tidy
  | require selector => exact (quiet_onSnapshot _ _).tidy
  | requery handle =>
    unfold Session.requery
    split
    · trivial
    · exact (quiet_onSnapshot _ _).tidy
  | waitFor selector patience => exact (quiet_waitFor _ _).tidy
  | waitForHidden selector patience => exact (Wait.quiet_untilSome _).tidy
  | waitForText words patience =>
    unfold Session.waitForText
    split
    · trivial
    · exact (Wait.quiet_untilSome _).tidy
  | waitForChange baseline patience => exact (Wait.quiet_untilSome _).tidy
  | waitForIdle settle patience => exact (Wait.quiet_pollUntil _ _).tidy.bind fun _ => trivial
  | waitUntil what patience check memory => exact (Wait.quiet_pollUntil _ _).tidy
  | invalidate => trivial
  | tap handle => exact tidy_dispatch _ _
  | tapPoint spot => exact tidy_dispatch _ _
  | tapSelector selector patience =>
    refine (quiet_waitFor _ _).tidy.bind fun found => ?_
    cases found with
    | error failure => trivial
    | ok handle => exact (tidy_dispatch _ _).bind fun _ => trivial
  | longPress handle duration => exact tidy_dispatch _ _
  | swipe start finish duration => exact tidy_dispatch _ _
  | drag start finish duration => exact tidy_dispatch _ _
  | typeText words =>
    unfold Session.typeText
    split
    · trivial
    · exact tidy_dispatch _ _
  | pressKey code => exact tidy_dispatch _ _

theorem Uses.tidy {α : Type} {plan : Plan α} (h : Uses plan) : plan.Tidy := by
  induction h with
  | done value => trivial
  | sleep duration _ ih => exact ih
  | call hOperation _ ih => exact hOperation.tidy.bind ih

end Session

end ScreenQuery
