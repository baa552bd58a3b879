import HtmlTree.NameSet
import HtmlTree.Proofs.Text.LetterCase
import Mathlib.Data.List.Induction
import Mathlib.Data.List.NodupEquivFin
import Mathlib.SetTheory.Cardinal.Finite

/-! Runs of changes to a set of names. Whether the set holds a name is decided by the last change of a
name that is the same but for case. The set holds no name twice, and what it holds is all there is to
it. -/

namespace HtmlTree.NameSet

open Text

inductive Change where
  | insert (name : String)
  | erase (name : String)

namespace Change

def name : Change → String
  | .insert name | .erase name => name

def IsInsertion (change : Change) : Prop := ∃ name, change = .insert name

def apply : Change → NameSet → NameSet
  | .insert name, set => set.insert name
  | .erase name, set => set.erase name

/-- Makes changes first to last. -/
def applyAll (changes : List Change) (set : NameSet) : NameSet :=
  changes.foldl (fun set change => change.apply set) set

/-- Of the changes of names that are the same as this one but for case, the last is an insertion. -/
def InsertedLast (changes : List Change) (name : String) : Prop :=
  ∃ earlier inserted later, changes = earlier ++ .insert inserted :: later ∧
    SameName inserted name ∧ ∀ change ∈ later, ¬ SameName change.name name

end Change

/-- The set that is made of some names and then changed. -/
def run (initial : List String) (changes : List Change) : NameSet :=
  Change.applyAll changes (ofList initial)

/-- All changes of a run. The names that the set is made of are insertions. -/
def changesOf (initial : List String) (changes : List Change) : List Change :=
  initial.map .insert ++ changes

/-- The names that the set holds, up to case. -/
def heldNames (set : NameSet) : Setoid { name : String // set.contains name = true } :=
  ignoringCase.comap Subtype.val

theorem mem_names_iff {set : NameSet} {name : String} :
    name ∈ set.names ↔ set.contains name = true ∧ asciiLower name = name := by
  rw [contains_iff]
  constructor
  · intro member
    have lower := set.lower name member
    exact ⟨lower.symm ▸ member, lower⟩
  · rintro ⟨member, lower⟩
    exact lower ▸ member

theorem contains_empty (name : String) : empty.contains name = false := by
  simp [contains, empty]

theorem contains_insert (set : NameSet) (name other : String) :
    (set.insert name).contains other = true ↔ SameName name other ∨ set.contains other = true := by
  rw [contains_iff, contains_iff, sameName_iff, insert]
  split
  · rename_i present
    constructor
    · exact .inr
    · rintro (same | member)
      · exact same ▸ present
      · exact member
  · rw [List.mem_cons, eq_comm]

theorem contains_erase (set : NameSet) (name other : String) :
    (set.erase name).contains other = true ↔
      ¬ SameName name other ∧ set.contains other = true := by
  rw [contains_iff, contains_iff, sameName_iff, erase, List.mem_filter, bne_iff_ne, ne_comm,
    and_comm]

namespace Change

/-- A change settles the matter for the names that are the same but for case, and leaves all others. -/
theorem contains_apply (change : Change) (set : NameSet) (name : String) :
    (change.apply set).contains name = true ↔
      SameName change.name name ∧ change.IsInsertion ∨
        ¬ SameName change.name name ∧ set.contains name = true := by
  cases change with
  | insert inserted =>
    have insertion : (insert inserted).IsInsertion := ⟨inserted, rfl⟩
    rw [apply, contains_insert, Change.name]
    by_cases same : SameName inserted name
    · simp only [same, insertion, true_or, true_and]
    · simp only [same, false_or, false_and, not_false_eq_true, true_and]
  | erase erased =>
    have noInsertion : ¬ (erase erased).IsInsertion := nofun
    rw [apply, contains_erase, Change.name]
    simp only [noInsertion, and_false, false_or]

theorem insertedLast_nil (name : String) : ¬ InsertedLast [] name := by
  rintro ⟨earlier, inserted, later, split, _⟩
  simp at split

/-- The last change settles the matter if it is of a name that is the same but for case, and otherwise
the changes before it do. -/
theorem insertedLast_append_singleton (changes : List Change) (change : Change) (name : String) :
    InsertedLast (changes ++ [change]) name ↔
      SameName change.name name ∧ change.IsInsertion ∨
        ¬ SameName change.name name ∧ InsertedLast changes name := by
  constructor
  · rintro ⟨earlier, inserted, later, split, same, untouched⟩
    rcases List.eq_nil_or_concat later with rfl | ⟨others, last, rfl⟩
    · obtain ⟨rfl, rfl⟩ := List.append_singleton_inj.mp split
      exact .inl ⟨same, inserted, rfl⟩
    · rw [List.concat_eq_append, ← List.cons_append, ← List.append_assoc] at split
      obtain ⟨rfl, rfl⟩ := List.append_singleton_inj.mp split
      refine .inr ⟨untouched change (by simp), earlier, inserted, others, rfl, same, ?_⟩
      exact fun other member => untouched other (by simp [member])
  · rintro (⟨same, inserted, rfl⟩ | ⟨different, earlier, inserted, later, rfl, same, untouched⟩)
    · exact ⟨changes, inserted, [], rfl, same, nofun⟩
    · refine ⟨earlier, inserted, later ++ [change], by simp, same, ?_⟩
      intro other member
      rcases List.mem_append.mp member with before | last
      · exact untouched other before
      · rwa [List.mem_singleton.mp last]

theorem contains_applyAll_empty (changes : List Change) (name : String) :
    (applyAll changes empty).contains name = true ↔ InsertedLast changes name := by
  induction changes using List.reverseRecOn with
  | nil =>
    have held : ¬ empty.contains name = true := by simp [contains_empty]
    exact iff_of_false held (insertedLast_nil name)
  | append_singleton changes change ih =>
    have step : applyAll (changes ++ [change]) empty = change.apply (applyAll changes empty) := by
      rw [applyAll, List.foldl_append, applyAll]
      rfl
    rw [step, contains_apply, insertedLast_append_singleton, ih]

end Change

theorem run_eq_applyAll (initial : List String) (changes : List Change) :
    run initial changes = Change.applyAll (changesOf initial changes) empty := by
  rw [changesOf, Change.applyAll, List.foldl_append, List.foldl_map]
  rfl

theorem contains_run (initial : List String) (changes : List Change) (name : String) :
    (run initial changes).contains name = true ↔
      Change.InsertedLast (changesOf initial changes) name := by
  rw [run_eq_applyAll, Change.contains_applyAll_empty]

/-- Of the names that are the same but for case, the set keeps the one in lower case. -/
theorem size_eq_card (set : NameSet) : set.size = Nat.card (Quotient set.heldNames) := by
  let classOf (kept : { name // name ∈ set.names }) : Quotient set.heldNames :=
    Quotient.mk _ ⟨kept.1, (mem_names_iff.mp kept.2).1⟩
  have bijective : Function.Bijective classOf := by
    constructor
    · intro first second same
      have lowered := sameName_iff.mp (Quotient.exact same)
      rw [set.lower _ first.2, set.lower _ second.2] at lowered
      exact Subtype.ext lowered
    · intro someClass
      obtain ⟨⟨name, held⟩, rfl⟩ := Quotient.exists_rep someClass
      refine ⟨⟨asciiLower name, (contains_iff set name).mp held⟩, Quotient.sound ?_⟩
      exact sameName_iff.mpr (asciiLower_asciiLower name)
  calc set.size = Nat.card { name // name ∈ set.names } :=
        (Nat.card_eq_of_equiv_fin (set.distinct.getEquiv set.names).symm).symm
    _ = Nat.card (Quotient set.heldNames) := Nat.card_eq_of_bijective classOf bijective

theorem isEmpty_iff (set : NameSet) :
    set.isEmpty = true ↔ ∀ name, set.contains name = false := by
  rw [isEmpty, List.isEmpty_iff, List.eq_nil_iff_forall_not_mem]
  constructor
  · intro absent name
    rw [Bool.eq_false_iff, ne_eq, contains_iff]
    exact absent (asciiLower name)
  · intro unheld name member
    have held := (mem_names_iff.mp member).1
    rw [unheld name] at held
    cases held

theorem beq_iff (first second : NameSet) :
    (first == second) = true ↔ ∀ name, first.contains name = second.contains name := by
  have subset (first second : NameSet) :
      first.names.all second.names.contains = true ↔
        ∀ name, first.contains name = true → second.contains name = true := by
    rw [List.all_eq_true]
    constructor
    · intro included name held
      rw [contains_iff] at held ⊢
      exact List.contains_iff_mem.mp (included _ held)
    · intro included name member
      obtain ⟨held, lower⟩ := mem_names_iff.mp member
      exact List.contains_iff_mem.mpr (mem_names_iff.mpr ⟨included name held, lower⟩)
  have both : (first == second) =
      (first.names.all second.names.contains && second.names.all first.names.contains) := rfl
  rw [both, Bool.and_eq_true, subset, subset]
  constructor
  · rintro ⟨included, includes⟩ name
    exact Bool.eq_iff_iff.mpr ⟨included name, includes name⟩
  · intro same
    exact ⟨fun name held => same name ▸ held, fun name held => same name ▸ held⟩

/-- However a set of names has come about, it holds a name exactly if of the changes of that name, in
whatever case, the last was an insertion. Its size is the number of names that it holds up to case, and
sets are equal exactly if they hold the same names. -/
theorem run_holds_names_inserted_last (initial : List String) (changes : List Change) :
    (∀ name, (run initial changes).contains name = true ↔
      Change.InsertedLast (changesOf initial changes) name) ∧
    (run initial changes).size = Nat.card (Quotient (run initial changes).heldNames) ∧
    ((run initial changes).isEmpty = true ↔
      ∀ name, (run initial changes).contains name = false) ∧
    ∀ (others : List String) (otherChanges : List Change),
      (run initial changes == run others otherChanges) = true ↔
        ∀ name, (run initial changes).contains name = (run others otherChanges).contains name := by
  refine ⟨contains_run initial changes, size_eq_card _, isEmpty_iff _, fun others otherChanges => ?_⟩
  exact beq_iff (run initial changes) (run others otherChanges)

example : (run ["pre"] [.insert "Code", .erase "PRE", .insert "É"]).names = ["É", "code"] := by
  decide

end HtmlTree.NameSet
