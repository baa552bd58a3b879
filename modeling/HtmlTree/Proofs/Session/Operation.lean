import HtmlTree.Session.Equality

/-! Operations of a process as data. Work that needs settings can be done with those of the process or
with given ones, and an operation is either of these, an installation, or work that needs none. -/

namespace HtmlTree

variable {Kind : Type} {Value : Kind → Type}

namespace Node

/-- Whether two nodes are equal when they are rendered with these settings. -/
def same (settings : Settings) : Node Value → Node Value → Bool
  | .text first, .text second => first == second
  | .markup first, .markup second => first == second
  | .void first, .void second =>
    render (.ofSettings settings) (.void first) == render (.ofSettings settings) (.void second)
  | .element first children, .element second others =>
    render (.ofSettings settings) (.element first children) ==
      render (.ofSettings settings) (.element second others)
  | _, _ => false

/-- Whether it takes markup to compare two nodes. -/
def comparesMarkup : Node Value → Node Value → Bool
  | .void _, .void _ | .element _ _, .element _ _ => true
  | _, _ => false

/-- What a hash of a node is taken of when it is rendered with these settings. -/
def hashText (settings : Settings) : Node Value → String
  | .text plain => plain
  | .markup source => source
  | node => node.render (.ofSettings settings)

/-- Whether it takes markup to hash a node. -/
def hashesMarkup : Node Value → Bool
  | .text _ | .markup _ => false
  | .void _ | .element _ _ | .fragment _ | .computed _ => true

end Node

/-- What work comes to when it does not fail. -/
inductive Answer {Kind : Type} (Value : Kind → Type) where
  | done
  | settings (settings : Settings)
  | text (text : String)
  | truth (truth : Bool)
  | selector (selector : Selector)
  | node (node : Node Value)
  | element (element : Element Value)

/-- Work that needs settings. -/
inductive Task {Kind : Type} (Value : Kind → Type) where
  | settings
  | renderAttribute (entry : Attribute Value)
  | render (node : Node Value)
  | renderFor (model : Model Value) (node : Node Value)
  | formatted (node : Node Value)
  | formattedElement (element : Element Value)
  | formattedFragment (fragment : Fragment Value)
  | same (first second : Node Value)
  | hashText (node : Node Value)
  | phrase (phrase : Phrase Value)
  | document (root : Element Value)
  | formattedDocument (root : Element Value)
  /-- The file is decoded by what this detector finds. -/
  | embed (detector : Charset.Detector) (file : FileContents) (format : Resource.Format)
  /-- The operation that embeds files of this format only. -/
  | embedAs (format : Resource.Format) (detector : Charset.Detector) (file : FileContents)

namespace Task

/-- The work done with the settings of the process. -/
def perform : Task Value → ExceptT Error Session (Answer Value)
  | .settings => return .settings (← Session.settings)
  | .renderAttribute entry => return .text (← Session.renderAttribute entry)
  | .render node => return .text (← Session.render node)
  | .renderFor model node => return .text (← Session.renderFor model node)
  | .formatted node => return .text (← Session.formatted node)
  | .formattedElement element => return .text (← Session.formattedElement element)
  | .formattedFragment fragment => return .text (← Session.formattedFragment fragment)
  | .same first second => return .truth (← Session.same first second)
  | .hashText node => return .text (← Session.hashText node)
  | .phrase words => return .text (← Session.phrase words)
  | .document root => return .text (← Session.document root)
  | .formattedDocument root => return .text (← Session.formattedDocument root)
  | .embed detector file format => return .element (← Session.embed detector file format)
  | .embedAs .css detector file => return .element (← Session.embedCss detector file)
  | .embedAs .minifiedCss detector file => return .element (← Session.embedMinifiedCss detector file)
  | .embedAs .js detector file => return .element (← Session.embedJs detector file)
  | .embedAs .minifiedJs detector file => return .element (← Session.embedMinifiedJs detector file)

/-- The work done with given settings. -/
def performWith (settings : Settings) : Task Value → Except Error (Answer Value)
  | .settings => .ok (.settings settings)
  | .renderAttribute entry => .ok (.text (entry.render (.ofSettings settings)))
  | .render node => .ok (.text (node.render (.ofSettings settings)))
  | .renderFor model node => .ok (.text (node.render ⟨settings, some model⟩))
  | .formatted node => .ok (.text (node.formatted (.ofSettings settings)))
  | .formattedElement element => .ok (.text (element.formatted (.ofSettings settings)))
  | .formattedFragment fragment => .ok (.text (fragment.formatted (.ofSettings settings)))
  | .same first second => .ok (.truth (Node.same settings first second))
  | .hashText node => .ok (.text (node.hashText settings))
  | .phrase words => .ok (.text (words.render settings))
  | .document root => (Document.compact settings root).map .text
  | .formattedDocument root => (Document.formatted settings root).map .text
  | .embed detector file format => (Resource.embed detector settings file format).map .element
  | .embedAs format detector file => (Resource.embed detector settings file format).map .element

/-- Whether the work gets as far as asking for settings. -/
def asksForSettings : Task Value → Bool
  | .same first second => Node.comparesMarkup first second
  | .hashText node => node.hashesMarkup
  | .document root => root.tag.name == "html"
  | _ => true

end Task

/-- Something that a process does. -/
inductive Operation {Kind : Type} (Value : Kind → Type) where
  | install (settings : Settings)
  /-- Work with the settings of the process. -/
  | shared (task : Task Value)
  /-- Work with settings of its own. -/
  | given (settings : Settings) (task : Task Value)
  /-- Formatting with settings of its own and a model. -/
  | formattedIn (context : Context Value) (element : Element Value)
  | select (text : String)
  | fileAsText (detector : Charset.Detector) (file : FileContents)
  | fileAsMarkup (detector : Charset.Detector) (file : FileContents)

namespace Operation

def perform : Operation Value → ExceptT Error Session (Answer Value)
  | .install settings => do
    Session.install settings
    return .done
  | .shared task => task.perform
  | .given settings task => task.performWith settings
  | .formattedIn context element => return .text (element.formatted context)
  | .select text => return .selector (← Selector.parse text)
  | .fileAsText detector file => return .node (← Resource.asText detector file)
  | .fileAsMarkup detector file => return .node (← Resource.asMarkup detector file)

end Operation

namespace Document

theorem checkRoot_eq_ok {root : Element Value} (isRoot : root.tag.name = "html") :
    checkRoot root = .ok () := by
  simp [checkRoot, isRoot]

theorem checkRoot_eq_error {root : Element Value} (other : root.tag.name ≠ "html") :
    checkRoot root = .error (.rootNotHtml root.tag.name) := by
  simp [checkRoot, other]

end Document

namespace Session

/-- The answer that work gives, and the settings of the process after it. -/
def outcome {α : Type} (work : ExceptT Error Session α) (before : Option Settings) :
    Except Error α × Option Settings :=
  work.run.run before

theorem outcome_map {α β : Type} (make : α → β) (work : ExceptT Error Session α)
    (before : Option Settings) :
    outcome (do return make (← work)) before =
      ((outcome work before).1.map make, (outcome work before).2) := by
  rcases result : work.run.run before with ⟨answer, after⟩
  unfold outcome
  rw [ExceptT.run_bind, StateT.run_bind, result]
  cases answer <;> rfl

theorem outcome_liftM {α : Type} (work : Session α) (before : Option Settings) :
    outcome (liftM work) before = (.ok (work.run before).1, (work.run before).2) := rfl

/-- Two nodes are compared by their markup or not at all, and only markup takes settings. -/
theorem run_same (first second : Node Value) (before : Option Settings) :
    (same first second).run before =
      (Node.same (before.getD .standard) first second,
        if Node.comparesMarkup first second then some (before.getD .standard) else before) := by
  cases first <;> cases second <;> cases before <;> rfl

theorem run_hashText (node : Node Value) (before : Option Settings) :
    (hashText node).run before =
      (node.hashText (before.getD .standard),
        if node.hashesMarkup then some (before.getD .standard) else before) := by
  cases node <;> cases before <;> rfl

theorem outcome_document (root : Element Value) (before : Option Settings) :
    outcome (document root) before =
      (Document.compact (before.getD .standard) root,
        if root.tag.name == "html" then some (before.getD .standard) else before) := by
  by_cases isRoot : root.tag.name = "html"
  · simp only [document, Document.compact, Document.checkRoot_eq_ok isRoot, isRoot,
      beq_self_eq_true, ↓reduceIte]
    cases before <;> rfl
  · simp only [document, Document.compact, Document.checkRoot_eq_error isRoot, beq_iff_eq, isRoot,
      ↓reduceIte]
    rfl

theorem outcome_formattedDocument (root : Element Value) (before : Option Settings) :
    outcome (formattedDocument root) before =
      (Document.formatted (before.getD .standard) root, some (before.getD .standard)) := by
  cases before <;> rfl

theorem outcome_embed (detector : Charset.Detector) (file : FileContents) (format : Resource.Format)
    (before : Option Settings) :
    outcome (embed detector file format) before =
      ((Resource.embed detector (before.getD .standard) file format : Except Error (Element Value)),
        some (before.getD .standard)) := by
  cases before <;> rfl

end Session

/-- Work with the settings of the process gives the answer that the settings in force give, the standard
ones if there are none yet, and these are in force afterwards if the work asked for them. -/
theorem Task.outcome_perform (task : Task Value) (before : Option Settings) :
    Session.outcome task.perform before =
      (task.performWith (before.getD .standard),
        if task.asksForSettings then some (before.getD .standard) else before) := by
  have embedded (detector : Charset.Detector) (file : FileContents) (format : Resource.Format) :
      Session.outcome (embed detector file format : Task Value).perform before =
        ((embed detector file format).performWith (before.getD .standard),
          some (before.getD .standard)) := by
    rw [perform, Session.outcome_map, Session.outcome_embed]
    rfl
  cases task with
  | same first second =>
    rw [perform, Session.outcome_map, Session.outcome_liftM, Session.run_same]
    rfl
  | hashText node =>
    rw [perform, Session.outcome_map, Session.outcome_liftM, Session.run_hashText]
    rfl
  | document root =>
    rw [perform, Session.outcome_map, Session.outcome_document]
    rfl
  | formattedDocument root =>
    rw [perform, Session.outcome_map, Session.outcome_formattedDocument]
    rfl
  | embed detector file format => exact embedded detector file format
  | embedAs format detector file =>
    -- The operation for one format is the general one with that format.
    cases format <;> exact embedded detector file _
  | settings | renderAttribute | render | renderFor | formatted | formattedElement
  | formattedFragment | phrase => cases before <;> rfl

/-- Work that does not ask for settings comes to the same whatever they are. -/
theorem Task.performWith_eq_of_not_asks {task : Task Value}
    (idle : task.asksForSettings = false) (settings others : Settings) :
    task.performWith settings = task.performWith others := by
  cases task with
  | same first second =>
    rw [asksForSettings] at idle
    cases first <;> cases second <;> simp_all [performWith, Node.same, Node.comparesMarkup]
  | hashText node =>
    rw [asksForSettings] at idle
    cases node <;> simp_all [performWith, Node.hashText, Node.hashesMarkup]
  | document root =>
    have other : root.tag.name ≠ "html" := by simpa [asksForSettings] using idle
    rw [performWith, performWith, Document.compact, Document.compact,
      Document.checkRoot_eq_error other]
    rfl
  | _ => cases idle

namespace Operation

/-- The answer to an operation of a process with these settings, or without any. -/
def answer (before : Option Settings) : Operation Value → Except Error (Answer Value)
  | .install _ => if before.isSome then .error .settingsFixed else .ok .done
  | .shared task => task.performWith (before.getD .standard)
  | .given settings task => task.performWith settings
  | .formattedIn context element => .ok (.text (element.formatted context))
  | .select text => (Selector.parse text).map .selector
  | .fileAsText detector file => (Resource.asText detector file).map .node
  | .fileAsMarkup detector file => (Resource.asMarkup detector file).map .node

/-- The settings of the process after an operation. Once there are some, they stay. -/
def settingsAfter (before : Option Settings) : Operation Value → Option Settings
  | .install settings => some (before.getD settings)
  | .shared task => if task.asksForSettings then some (before.getD .standard) else before
  | .given _ _ | .formattedIn _ _ | .select _ | .fileAsText _ _ | .fileAsMarkup _ _ => before

theorem outcome_perform (operation : Operation Value) (before : Option Settings) :
    Session.outcome operation.perform before =
      (operation.answer before, operation.settingsAfter before) := by
  cases operation with
  | install settings => cases before <;> rfl
  | shared task => exact task.outcome_perform before
  | given | formattedIn => rfl
  | select | fileAsText | fileAsMarkup =>
    rw [perform, Session.outcome_map]
    rfl

theorem settingsAfter_some (operation : Operation Value) (settings : Settings) :
    operation.settingsAfter (some settings) = some settings := by
  cases operation <;> simp [settingsAfter]

end Operation

end HtmlTree
