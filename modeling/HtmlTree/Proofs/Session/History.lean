import HtmlTree.Proofs.Session.Operation

/-! Runs of a process. The settings of the process are unset until an operation installs some or asks for
them, and stay as they are from then on, so all work of a run is done with the same settings. -/

namespace HtmlTree

variable {Kind : Type} {Value : Kind → Type}

/-- An operation of a run: the settings of the process that it finds, its answer, and the settings that
it leaves. -/
structure Event {Kind : Type} (Value : Kind → Type) where
  operation : Operation Value
  before : Option Settings
  answer : Except Error (Answer Value)
  after : Option Settings

namespace Operation

/-- Performs an operation and notes what happens. -/
def observe (operation : Operation Value) : Session (Event Value) := do
  let before ← get
  let answer ← operation.perform.run
  return ⟨operation, before, answer, ← get⟩

def event (before : Option Settings) (operation : Operation Value) : Event Value :=
  ⟨operation, before, operation.answer before, operation.settingsAfter before⟩

def IsInstall (operation : Operation Value) : Prop :=
  ∃ settings, operation = .install settings

def IsShared (operation : Operation Value) : Prop :=
  ∃ task, operation = .shared task

theorem run_observe (operation : Operation Value) (before : Option Settings) :
    operation.observe.run before = (operation.event before, operation.settingsAfter before) := by
  have noted : operation.observe.run before =
      let (answer, after) := Session.outcome operation.perform before
      (⟨operation, before, answer, after⟩, after) := rfl
  rw [noted, operation.outcome_perform]
  rfl

end Operation

/-- The events of a run that starts with these settings of the process, or without any. -/
def Session.history (start : Option Settings) (operations : List (Operation Value)) :
    List (Event Value) :=
  ((operations.mapM Operation.observe).run start).1

namespace Session

theorem history_nil (start : Option Settings) :
    history start ([] : List (Operation Value)) = [] := rfl

theorem history_cons (start : Option Settings) (operation : Operation Value)
    (rest : List (Operation Value)) :
    history start (operation :: rest) =
      operation.event start :: history (operation.settingsAfter start) rest := by
  rw [history, List.mapM_cons, StateT.run_bind, Operation.run_observe]
  rfl

end Session

namespace Event

/-- The settings that the operation installs, if it does install some. -/
def installed? (event : Event Value) : Option Settings :=
  match event.operation, event.answer with
  | .install settings, .ok _ => some settings
  | _, _ => none

/-- The settings that are installed in the course of these events, or else the standard ones. -/
def inForce (events : List (Event Value)) : Settings :=
  (events.filterMap installed?).head?.getD .standard

theorem inForce_cons_of_none {event : Event Value} (installsNone : event.installed? = none)
    (rest : List (Event Value)) : inForce (event :: rest) = inForce rest := by
  rw [inForce, List.filterMap_cons, installsNone, inForce]

theorem inForce_cons_of_some {event : Event Value} {settings : Settings}
    (installs : event.installed? = some settings) (rest : List (Event Value)) :
    inForce (event :: rest) = settings := by
  rw [inForce, List.filterMap_cons, installs, List.head?_cons, Option.getD_some]

/-- An installation is refused, and changes nothing, unless there were no settings. Work with the
settings of the process has the answer that the chosen settings give. Anything else leaves the settings
of the process alone. -/
structure Lawful (chosen : Settings) (event : Event Value) : Prop where
  installs : ∀ settings, event.operation = .install settings →
    (event.before = none → event.answer = .ok .done ∧ event.after = some settings) ∧
      (event.before ≠ none → event.answer = .error .settingsFixed ∧ event.after = event.before)
  shares : ∀ task, event.operation = .shared task → event.answer = task.performWith chosen
  spares : ¬ event.operation.IsInstall → ¬ event.operation.IsShared → event.after = event.before

end Event

/-- All work of the process is done with the chosen settings, and one installation at most succeeds,
which is the first one. -/
structure OneSettings (chosen : Settings) (events : List (Event Value)) : Prop where
  lawful : ∀ event ∈ events, event.Lawful chosen
  /-- After an installation, no operation finds the settings unset. -/
  first : events.Pairwise fun earlier later => earlier.operation.IsInstall → later.before ≠ none
  once : (events.filterMap Event.installed?).length ≤ 1

theorem OneSettings.cons {chosen : Settings} {event : Event Value} {events : List (Event Value)}
    (tail : OneSettings chosen events) (lawful : event.Lawful chosen)
    (first : event.operation.IsInstall → ∀ later ∈ events, later.before ≠ none)
    (once : event.installed? = none ∨ events.filterMap Event.installed? = []) :
    OneSettings chosen (event :: events) := by
  refine ⟨?_, ?_, ?_⟩
  · intro other member
    rcases List.mem_cons.mp member with rfl | later
    · exact lawful
    · exact tail.lawful other later
  · exact List.pairwise_cons.mpr ⟨fun later member install => first install later member, tail.first⟩
  · rw [List.filterMap_cons]
    rcases once with none | alone
    · rw [none]
      exact tail.once
    · rw [alone]
      cases event.installed? <;> simp

namespace Operation

theorem lawful_event {operation : Operation Value} {before : Option Settings} {chosen : Settings}
    (agrees : ∀ task, operation = .shared task → task.asksForSettings = true →
      before.getD .standard = chosen) :
    (operation.event before).Lawful chosen := by
  refine ⟨?_, ?_, ?_⟩
  · rintro settings rfl
    cases before with
    | none => exact ⟨fun _ => ⟨rfl, rfl⟩, fun unset => absurd rfl unset⟩
    | some inForce => exact ⟨nofun, fun _ => ⟨rfl, rfl⟩⟩
  · rintro task rfl
    cases asks : task.asksForSettings with
    | true =>
      rw [← agrees task rfl asks]
      rfl
    | false => exact Task.performWith_eq_of_not_asks asks _ _
  · intro notInstall notShared
    cases operation with
    | install settings => exact absurd ⟨settings, rfl⟩ notInstall
    | shared task => exact absurd ⟨task, rfl⟩ notShared
    | given | formattedIn | select | fileAsText | fileAsMarkup => rfl

theorem installed?_event_some (operation : Operation Value) (settings : Settings) :
    (operation.event (some settings)).installed? = none := by
  cases operation <;> rfl

theorem installed?_event_of_not_isInstall {operation : Operation Value}
    (notInstall : ¬ operation.IsInstall) (before : Option Settings) :
    (operation.event before).installed? = none := by
  cases operation with
  | install settings => exact absurd ⟨settings, rfl⟩ notInstall
  | _ => rfl

end Operation

namespace Session

/-- Once there are settings, every operation finds them, and none installs others. -/
theorem history_some (settings : Settings) (operations : List (Operation Value)) :
    ∀ event ∈ history (some settings) operations,
      event.before = some settings ∧ event.installed? = none ∧ event.Lawful settings := by
  induction operations with
  | nil =>
    rw [history_nil]
    exact fun _ member => absurd member List.not_mem_nil
  | cons operation rest ih =>
    rw [history_cons, operation.settingsAfter_some]
    intro event member
    rcases List.mem_cons.mp member with rfl | later
    · exact ⟨rfl, operation.installed?_event_some settings, Operation.lawful_event fun _ _ _ => rfl⟩
    · exact ih event later

theorem filterMap_installed?_history_some (settings : Settings)
    (operations : List (Operation Value)) :
    (history (some settings) operations).filterMap Event.installed? = [] := by
  rw [List.filterMap_eq_nil_iff]
  exact fun event member => (history_some settings operations event member).2.1

theorem inForce_history_some (settings : Settings) (operations : List (Operation Value)) :
    Event.inForce (history (some settings) operations) = .standard := by
  rw [Event.inForce, filterMap_installed?_history_some, List.head?_nil, Option.getD_none]

theorem oneSettings_history_some (settings : Settings) (operations : List (Operation Value)) :
    OneSettings settings (history (some settings) operations) := by
  have found := history_some settings operations
  refine ⟨fun event member => (found event member).2.2, ?_, ?_⟩
  · refine List.pairwise_of_forall_mem_list fun _ _ later member _ => ?_
    rw [(found later member).1]
    exact Option.some_ne_none _
  · rw [filterMap_installed?_history_some]
    exact Nat.zero_le 1

/-- A run goes on without settings until an operation installs some or asks for them. -/
theorem oneSettings_history (operations : List (Operation Value)) :
    OneSettings (Event.inForce (history none operations)) (history none operations) := by
  induction operations with
  | nil => exact ⟨fun _ member => absurd member List.not_mem_nil, .nil, Nat.zero_le 1⟩
  | cons operation rest ih =>
    -- While the settings stay unset nothing is decided, so the rest of the run decides.
    have stillUnset (unset : operation.settingsAfter none = none)
        (notInstall : ¬ operation.IsInstall)
        (idle : ∀ task, operation = .shared task → task.asksForSettings = false) :
        OneSettings (Event.inForce (history none (operation :: rest)))
          (history none (operation :: rest)) := by
      have installsNone := Operation.installed?_event_of_not_isInstall notInstall none
      rw [history_cons, unset, Event.inForce_cons_of_none installsNone]
      refine ih.cons (Operation.lawful_event fun task same asks => ?_) (absurd · notInstall)
        (.inl installsNone)
      rw [idle task same] at asks
      cases asks
    cases operation with
    | install settings =>
      have installs : (Operation.event none (.install settings : Operation Value)).installed? =
          some settings := rfl
      rw [history_cons, Event.inForce_cons_of_some installs]
      refine (oneSettings_history_some settings rest).cons
        (Operation.lawful_event (by simp)) (fun _ later member => ?_)
        (.inr (filterMap_installed?_history_some settings rest))
      rw [(history_some settings rest later member).1]
      exact Option.some_ne_none _
    | shared task =>
      have notInstall : ¬ (Operation.shared task).IsInstall := by simp [Operation.IsInstall]
      cases asks : task.asksForSettings with
      | false =>
        refine stillUnset ?_ notInstall ?_
        · simp only [Operation.settingsAfter, asks, Bool.false_eq_true, ↓reduceIte]
        · intro other same
          rw [← Operation.shared.inj same]
          exact asks
      | true =>
        have set : (Operation.shared task).settingsAfter none = some .standard := by
          simp only [Operation.settingsAfter, asks, ↓reduceIte, Option.getD_none]
        have installsNone := Operation.installed?_event_of_not_isInstall notInstall none
        rw [history_cons, set, Event.inForce_cons_of_none installsNone, inForce_history_some]
        exact (oneSettings_history_some .standard rest).cons
          (Operation.lawful_event fun _ _ _ => rfl) (absurd · notInstall) (.inl installsNone)
    | given | formattedIn | select | fileAsText | fileAsMarkup =>
      exact stillUnset rfl (by simp [Operation.IsInstall]) (by simp)

/-- Asking for the settings is enough to shut out all others. -/
example (settings : Settings) :
    (history none [.given settings .settings, .shared .settings, .install settings] :
      List (Event fun _ : Unit => Unit)).map Event.after =
        [none, some .standard, some .standard] := rfl

end Session

end HtmlTree
