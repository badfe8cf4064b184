import ScreenQuery.Session.Operation
import ScreenQuery.Session.System

/-!
# Scenarios

* A scenario is a list of steps on one session. A step may save the handle that it found, or the
  hash of the screen that it saw, under a name for later steps.
* Steps follow one another, but those of `together` run at once. Only a step that succeeds saves
  anything.

A step calls one of the methods of `DeviceSession`.
-/

namespace ScreenQuery.Scenario

open Session (Operation)

/-- What steps have saved. -/
structure Notebook where
  handles : Dictionary Handle
  hashes : Dictionary UInt64

/-- A notebook without entries. -/
def Notebook.blank : Notebook := ⟨[], []⟩

/-- Changes to the patience of a session's waits. -/
structure Changes where
  timeout : Option Nat
  poll : Option Nat
  refresh : Option Nat

/-- The patience after some changes. -/
def Changes.apply (changes : Changes) (patience : Patience) : Patience where
  timeout := changes.timeout.getD patience.timeout
  poll := changes.poll.getD patience.poll
  refresh := changes.refresh.getD patience.refresh

/-- What one step asks for. Handles and hashes are given by their names. -/
inductive Request
  /-- A request whose selector cannot be read. -/
  | rejected (error : SelectorError)
  | snapshot (force : Bool)
  | invalidate
  | sleep (duration : Nat)
  | timing
  | find (selector : Selector)
  | findAll (selector : Selector)
  | require (selector : Selector)
  | requery (handle : Text)
  | element (id : NodeId)
  | within (handle : Text) (selector : Selector)
  | inspect (handle : Text)
  | isStale (handle : Text)
  | waitFor (selector : Selector) (changes : Changes)
  | waitForHidden (selector : Selector) (changes : Changes)
  | waitForText (words : Text) (changes : Changes)
  | waitForChange (baseline : Option Text) (changes : Changes)
  | waitForIdle (settle : Nat) (changes : Changes)
  | waitForCount (selector : Selector) (least : Nat) (what : Text) (changes : Changes)
  | tap (handle : Text)
  | tapPoint (spot : Point)
  | tapSelector (selector : Selector) (changes : Changes)
  | longPress (handle : Text) (duration : Nat)
  | swipe (start finish : Point) (duration : Nat)
  | drag (start finish : Text) (duration : Nat)
  | typeText (words : Text)
  | pressKey (code : UInt32)

/-- What a step leads to. -/
inductive Outcome
  | done
  | failed (failure : Failure)
  | unknownName (name : Text)
  | handle (found : Handle)
  | perhaps (found : Option Handle)
  | handles (found : List Handle)
  | within (found : List Handle) (first : Option Handle)
  | inspected (handle : Handle)
  | screen (s : Snapshot)
  | truth (value : Bool)
  | timing (timing : Timing) (patience : Patience)
  | count (looks : Nat) (result : Except Failure Nat)

/-- The outcome of an operation. -/
def outcomeOf {α : Type} (encode : α → Outcome) (operation : Operation α) :
    Plan Outcome :=
  operation.bind fun result => .done <| match result with
    | .ok value => encode value
    | .error failure => .failed failure

/-- The plan of a step that needs a saved handle. -/
def withHandle (notebook : Notebook) (name : Text) (plan : Handle → Plan Outcome) :
    Plan Outcome :=
  match notebook.handles.get? name with
  | some handle => plan handle
  | none => .done (.unknownName name)

/-- The plan of a wait for another screen than the saved one. -/
def changePlan (notebook : Notebook) (baseline : Option Text) (patience : Patience) :
    Plan Outcome :=
  match baseline with
  | none => outcomeOf .screen (Session.waitForChange 0 patience)
  | some name =>
    match notebook.hashes.get? name with
    | some hash => outcomeOf .screen (Session.waitForChange hash patience)
    | none => .done (.unknownName name)

/-- The plan of a step in a session with some timing. -/
def planOf (timing : Timing) (notebook : Notebook) : Request → Plan Outcome
  | .rejected error => .done (.failed error.failure)
  | .snapshot force => outcomeOf .screen (Session.snapshot force)
  | .invalidate => .invalidate (.done .done)
  | .sleep duration => .sleep duration fun _ => .done .done
  | .timing => .done (.timing timing timing.patience)
  | .find selector => outcomeOf .perhaps (Session.find selector)
  | .findAll selector => outcomeOf .handles (Session.findAll selector)
  | .require selector => outcomeOf .handle (Session.require selector)
  | .requery name =>
    withHandle notebook name fun handle => outcomeOf .handle (Session.requery handle)
  | .element id =>
    outcomeOf .perhaps (Session.onSnapshot false fun s => .ok (Handle.of? s id none))
  | .within name selector =>
    withHandle notebook name fun handle =>
      .done (.within (handle.findAllWithin selector) (handle.findWithin selector))
  | .inspect name => withHandle notebook name fun handle => .done (.inspected handle)
  | .isStale name =>
    withHandle notebook name fun handle =>
      outcomeOf (fun (s : Snapshot) => .truth (handle.isStale s.id)) (Session.snapshot false)
  | .waitFor selector changes =>
    outcomeOf .handle (Session.waitFor selector (changes.apply timing.patience))
  | .waitForHidden selector changes =>
    outcomeOf (fun _ => .done) (Session.waitForHidden selector (changes.apply timing.patience))
  | .waitForText words changes =>
    outcomeOf .handle (Session.waitForText words (changes.apply timing.patience))
  | .waitForChange baseline changes =>
    changePlan notebook baseline (changes.apply timing.patience)
  | .waitForIdle settle changes =>
    outcomeOf .screen (Session.waitForIdle settle (changes.apply timing.patience))
  | .waitForCount selector least what changes =>
    (Session.waitForCount selector least what (changes.apply timing.patience)).bind
      fun (result, looks) => .done (.count looks result)
  | .tap name =>
    withHandle notebook name fun handle => outcomeOf (fun _ => .done) (Session.tap handle)
  | .tapPoint spot => outcomeOf (fun _ => .done) (Session.tapPoint spot)
  | .tapSelector selector changes =>
    outcomeOf .handle (Session.tapSelector selector (changes.apply timing.patience))
  | .longPress name duration =>
    withHandle notebook name fun handle =>
      outcomeOf (fun _ => .done) (Session.longPress handle duration)
  | .swipe start finish duration =>
    outcomeOf (fun _ => .done) (Session.swipe start finish duration)
  | .drag start finish duration =>
    withHandle notebook start fun start =>
      withHandle notebook finish fun finish =>
        outcomeOf (fun _ => .done) (Session.drag start finish duration)
  | .typeText words => outcomeOf (fun _ => .done) (Session.typeText words)
  | .pressKey code => outcomeOf (fun _ => .done) (Session.pressKey code)

/-- The handle of an outcome. -/
def Outcome.handle? : Outcome → Option Handle
  | .handle found => some found
  | .perhaps found => found
  | .within _ first => first
  | _ => none

/-- The notebook with what an outcome has to save. -/
def Notebook.save (notebook : Notebook) (name : Text) (outcome : Outcome) : Notebook :=
  match outcome with
  | .screen s => { notebook with hashes := notebook.hashes.insert name s.contentHash }
  | outcome =>
    match outcome.handle? with
    | some handle => { notebook with handles := notebook.handles.insert name handle }
    | none => notebook

/-- A request, and the name under which to save what it finds. -/
structure Command where
  request : Request
  name : Option Text

/-- The job of a command. -/
def Command.job (timing : Timing) (command : Command) : Session.Job Notebook Outcome where
  plan := fun notebook => planOf timing notebook command.request
  note := fun outcome notebook => match command.name with
    | some name => notebook.save name outcome
    | none => notebook

/-- One step of a scenario. -/
inductive Step
  | single (command : Command)
  | together (commands : List Command)

/-- What a step of a scenario leads to; of steps that run at once, each with its time. -/
inductive Report
  | single (outcome : Outcome)
  | together (outcomes : List (Option (Outcome × Nat)))

/-- A scenario under way. -/
structure State (σ : Type) where
  session : Session σ
  notebook : Notebook

variable {σ : Type}

/-- Carries out one step. -/
def perform (bridge : Bridge σ) (timing : Timing) (state : State σ) :
    Step → Report × State σ
  | .single command =>
    let job := command.job timing
    let (outcome, session) := (job.plan state.notebook).run bridge state.session
    (.single outcome, ⟨session, job.note outcome state.notebook⟩)
  | .together commands =>
    let (outcomes, notebook, session) :=
      Session.runAll bridge state.session state.notebook (commands.map (Command.job timing))
    (.together outcomes, ⟨session, notebook⟩)

/-- Carries out all steps; after each its report is given with the session. -/
def performAll (bridge : Bridge σ) (timing : Timing) (state : State σ) :
    List Step → List (Report × Session σ) × State σ
  | [] => ([], state)
  | step :: rest =>
    let (report, state) := perform bridge timing state step
    let (reports, last) := performAll bridge timing state rest
    ((report, state.session) :: reports, last)

end ScreenQuery.Scenario
