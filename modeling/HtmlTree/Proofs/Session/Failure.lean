import HtmlTree.Proofs.Session.Operation

/-! Failed operations and the settings of the process. What fails leaves them as they were, except for
the operations that take them before they look at what they were given. -/

namespace HtmlTree

variable {Kind : Type} {Value : Kind → Type}

namespace Operation

/-- Whether an operation takes the settings of the process before it checks its argument. -/
def takesSettingsFirst : Operation Value → Bool
  | .shared (.formattedDocument _) | .shared (.embed _ _ _) | .shared (.embedAs _ _ _) => true
  | _ => false

theorem settingsAfter_of_fails {operation : Operation Value} {before : Option Settings}
    {error : Error} (fails : operation.answer before = .error error) :
    operation.settingsAfter before =
      if operation.takesSettingsFirst then some (before.getD .standard) else before := by
  cases operation with
  | install settings =>
    cases before with
    | none => cases fails
    | some inForce => rfl
  | shared task =>
    cases task with
    | document root =>
      -- The root has been refused, so the settings have not been asked for.
      have other : root.tag.name ≠ "html" := by
        intro isRoot
        rw [answer, Task.performWith, Document.compact, Document.checkRoot_eq_ok isRoot] at fails
        cases fails
      simp [settingsAfter, takesSettingsFirst, Task.asksForSettings, other]
    | formattedDocument | embed | embedAs => rfl
    | _ => cases fails
  | given | formattedIn | select | fileAsText | fileAsMarkup => rfl

end Operation

namespace Session

theorem install_succeeds_iff (settings : Settings) (before : Option Settings) :
    (outcome (install settings) before).1 = .ok () ↔ before = none := by
  cases before with
  | none => exact ⟨fun _ => rfl, fun _ => rfl⟩
  | some inForce => exact ⟨nofun, nofun⟩

/-- A failed operation leaves the settings of the process as they were exactly if it does not take them
first or if there were some already. Exactly then, what could be installed before it can be installed
after it. -/
theorem failure_keeps_settings_iff {operation : Operation Value} {before after : Option Settings}
    {error : Error} (fails : outcome operation.perform before = (.error error, after)) :
    (after = before ↔ (operation.takesSettingsFirst = true → before ≠ none)) ∧
      ((∀ settings, (outcome (install settings) before).1 = .ok () →
          (outcome (install settings) after).1 = .ok ()) ↔
        (operation.takesSettingsFirst = true → before ≠ none)) := by
  rw [operation.outcome_perform, Prod.mk.injEq] at fails
  obtain ⟨refused, rfl⟩ := fails
  have kept : operation.settingsAfter before = before ↔
      (operation.takesSettingsFirst = true → before ≠ none) := by
    rw [Operation.settingsAfter_of_fails refused]
    cases operation.takesSettingsFirst <;> cases before <;> simp
  refine ⟨kept, ?_⟩
  simp only [install_succeeds_iff]
  rw [← kept]
  cases before with
  | none => exact ⟨fun possible => possible .standard rfl, fun same _ _ => same⟩
  | some inForce => exact ⟨fun _ => operation.settingsAfter_some inForce, fun _ _ => nofun⟩

private def division : Element (fun _ : Unit => Unit) := .ofName "div"

/-- The check of a document that is not formatted comes first. -/
theorem failure_keeps_settings_document :
    outcome (Operation.shared (.document division)).perform none =
        (.error (.rootNotHtml "div"), none) ∧
      ∀ settings, (outcome (install settings) none).1 = .ok () := by
  have fails : outcome (Operation.shared (.document division)).perform none =
      (.error (.rootNotHtml "div"), none) := rfl
  exact ⟨fails, fun settings => (failure_keeps_settings_iff fails).2.mpr nofun settings rfl⟩

private def missing : ReadFailure where
  message := "No such file or directory (os error 2)"
  description := "Os \x7b code: 2, kind: NotFound, message: \"No such file or directory\" \x7d"

/-- The check of a document that is formatted, and the reading of a file, come too late. -/
theorem failure_fixes_settings :
    outcome (Operation.shared (.formattedDocument division)).perform none =
        (.error (.rootNotHtml "div"), some .standard) ∧
      outcome (Operation.shared
          (.embed .standard (.error missing) .css : Task fun _ : Unit => Unit)).perform none =
        (.error (.unreadable missing), some .standard) ∧
      outcome (install .standard) none = (.ok (), some .standard) ∧
      outcome (install .standard) (some .standard) = (.error .settingsFixed, some .standard) :=
  ⟨rfl, rfl, rfl, rfl⟩

end Session

end HtmlTree
