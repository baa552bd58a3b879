import HtmlTree.Edit
import HtmlTree.Node.Items

/-! Content without its grouping: the leaves from left to right. Adding content adds these and nothing
else, so that it does not matter in how many steps, or in which groups, the leaves are brought. -/

namespace HtmlTree

variable {Kind : Type} {Value : Kind → Type} {α Key Entry : Type} {m : Type → Type} [Monad m]

namespace Content

mutual

/-- The nodes of content from left to right. -/
def leaves : Content Value → List (Node Value)
  | .node single => [single]
  | .text plain => [.text plain]
  | .nothing => []
  | .optional content => leavesOptional content
  | .group contents => leavesAll contents

def leavesOptional : Option (Content Value) → List (Node Value)
  | none => []
  | some content => leaves content

def leavesAll : List (Content Value) → List (Node Value)
  | [] => []
  | content :: rest => leaves content ++ leavesAll rest

end

theorem leaves_group (contents : List (Content Value)) :
    (group contents).leaves = contents.flatMap leaves := by
  rw [leaves]
  induction contents with
  | nil => rfl
  | cons content rest ih => rw [leavesAll, ih, List.flatMap_cons]

theorem leaves_guarded (condition : Bool) (content : Content Value) :
    (guarded condition content).leaves = if condition then content.leaves else [] := by
  cases condition <;> rfl

mutual

theorem appendTo_eq (children : List (Node Value)) :
    (content : Content Value) → content.appendTo children = children ++ content.leaves
  | .node _ => rfl
  | .text _ => rfl
  | .nothing => (List.append_nil children).symm
  | .optional content => appendOptional_eq children content
  | .group contents => appendAll_eq children contents

theorem appendOptional_eq (children : List (Node Value)) :
    (content : Option (Content Value)) →
      appendOptional children content = children ++ leavesOptional content
  | none => (List.append_nil children).symm
  | some content => appendTo_eq children content

theorem appendAll_eq (children : List (Node Value)) :
    (contents : List (Content Value)) →
      appendAll children contents = children ++ leavesAll contents
  | [] => (List.append_nil children).symm
  | content :: rest => by
    rw [appendAll, appendAll_eq, appendTo_eq, leavesAll, List.append_assoc]

end

theorem leaves_eq_iff {first second : Content Value} :
    first.leaves = second.leaves ↔
      ∀ children, first.appendTo children = second.appendTo children := by
  simp only [appendTo_eq, List.append_cancel_left_eq, forall_const]

end Content

/-- What an edit adds to the children. -/
def ElementEdit.content : ElementEdit Value → Content Value
  | .tag _ => .nothing
  | .add content => content
  | .addText text => .text text
  | .addWhen condition content => .guarded condition content

namespace Element

theorem children_apply (edit : ElementEdit Value) (element : Element Value) :
    (edit.apply element).children = edit.content.appendTo element.children := by
  cases edit with
  | tag | add | addText => rfl
  | addWhen condition content => cases condition <;> rfl

/-- A run of edits adds the leaves of all that it adds. -/
theorem children_edit (edits : List (ElementEdit Value)) (element : Element Value) :
    (element.edit edits).children =
      element.children ++ (edits.map ElementEdit.content).flatMap Content.leaves := by
  induction edits generalizing element with
  | nil => exact (List.append_nil _).symm
  | cons edit rest ih =>
    have step : element.edit (edit :: rest) = (edit.apply element).edit rest := rfl
    rw [step, ih, children_apply, Content.appendTo_eq, List.append_assoc, List.map_cons,
      List.flatMap_cons]

end Element

namespace Fragment

theorem children_add (fragment : Fragment Value) (content : Content Value) :
    (fragment.add content).children = fragment.children ++ content.leaves :=
  content.appendTo_eq fragment.children

theorem children_ofContent (content : Content Value) :
    (ofContent content).children = content.leaves :=
  children_add empty content

theorem children_foldl_add (contents : List (Content Value)) (fragment : Fragment Value) :
    (contents.foldl add fragment).children =
      fragment.children ++ contents.flatMap Content.leaves := by
  induction contents generalizing fragment with
  | nil => exact (List.append_nil _).symm
  | cons content rest ih =>
    rw [List.foldl_cons, ih, children_add, List.append_assoc, List.flatMap_cons]

theorem children_ofList (contents : List (Content Value)) :
    (ofList contents).children = contents.flatMap Content.leaves :=
  children_foldl_add contents empty

variable [LawfulMonad m]

/-- All contents are made before any of them has to be added. -/
theorem foldlM_add (make : α → m (Content Value)) (items : List α) (fragment : Fragment Value) :
    items.foldlM (fun fragment item => fragment.add <$> make item) fragment =
      (fun contents => contents.foldl add fragment) <$> items.mapM make := by
  induction items generalizing fragment with
  | nil => simp
  | cons item rest ih => simp [ih]

theorem ofItemsM_eq (make : α → m (Content Value)) (items : List α) :
    ofItemsM make items =
      (fun contents => ⟨contents.flatMap Content.leaves⟩) <$> items.mapM make := by
  rw [ofItemsM, foldlM_add]
  exact congrArg (· <$> items.mapM make)
    (funext fun contents => congrArg Fragment.mk (children_ofList contents))

theorem ofItems_eq (make : α → Content Value) (items : List α) :
    ofItems make items = ⟨items.flatMap fun item => (make item).leaves⟩ := by
  rw [ofItems, ofItemsM_eq, List.mapM_pure, ← List.flatMap_map]
  rfl

end Fragment

/-- Notes each item before it is used. -/
def noting {β : Type} (use : α → m β) (item : α) : StateT (List α) m β := do
  modify (· ++ [item])
  use item

variable [LawfulMonad m]

theorem run_mapM_noting {β : Type} (use : α → m β) (items noted : List α) :
    (items.mapM (noting use)).run noted =
      (fun results => (results, noted ++ items)) <$> items.mapM use := by
  induction items generalizing noted with
  | nil => simp
  | cons item rest ih => simp [noting, ih]

/-- The items are noted once each and in order. -/
theorem Fragment.run_ofItemsM_noting (make : α → m (Content Value)) (items noted : List α) :
    (Fragment.ofItemsM (noting make) items).run noted =
      (fun fragment => (fragment, noted ++ items)) <$> Fragment.ofItemsM make items := by
  rw [ofItemsM_eq, ofItemsM_eq, StateT.run_map, run_mapM_noting, Functor.map_map, Functor.map_map]

/-- So are the entries of a map. -/
theorem Fragment.run_ofEntriesM_noting (make : Key → Entry → m (Content Value))
    (entries noted : List (Key × Entry)) :
    (Fragment.ofEntriesM (fun key entry => noting (fun pair => make pair.1 pair.2) (key, entry))
        entries).run noted =
      (fun fragment => (fragment, noted ++ entries)) <$> Fragment.ofEntriesM make entries :=
  run_ofItemsM_noting (fun pair : Key × Entry => make pair.1 pair.2) entries noted

/-- Leaving items out beforehand or leaving out what is made of them: the same leaves remain. -/
theorem leaves_keepM (accepts : α → m Bool) (make : α → Content Value) (items : List α) :
    (fun kept => kept.flatMap fun item => (make item).leaves) <$> keepM accepts items =
      (fun contents => contents.flatMap Content.leaves) <$>
        items.mapM fun item => (Content.guarded · (make item)) <$> accepts item := by
  induction items with
  | nil => simp [keepM]
  | cons item rest ih =>
    simp only [keepM, List.mapM_cons, map_bind, bind_map_left, bind_pure_comp,
      Functor.map_map]
    refine congrArg (accepts item >>= ·) (funext fun accepted => ?_)
    cases accepted with
    | false => simpa [Content.leaves_guarded] using ih
    | true =>
      have behind := congrArg ((fun later => (make item).leaves ++ later) <$> ·) ih
      simpa [Content.leaves_guarded] using behind

theorem Fragment.ofItems_keepM (accepts : α → m Bool) (make : α → Content Value) (items : List α) :
    Fragment.ofItems make <$> keepM accepts items =
      Fragment.ofItemsM (fun item => (Content.guarded · (make item)) <$> accepts item) items := by
  have made : Fragment.ofItems make = fun kept => ⟨kept.flatMap fun item => (make item).leaves⟩ :=
    funext (Fragment.ofItems_eq make)
  have same := congrArg (Fragment.mk <$> ·) (leaves_keepM accepts make items)
  simp only [Functor.map_map] at same
  rw [ofItemsM_eq, made]
  exact same

/-- Content adds its leaves, from left to right, behind the children that are there, and content with
the same leaves adds the same. So do the edits of an element, the additions to a fragment, a
collection, and the items or entries of which content is made, each of them visited once and in order:
the children are the leaves of all the contents. Choosing among the items, with or without a state,
comes to the same as guarding what is made of each. -/
theorem content_flattened_in_order :
    (∀ (children : List (Node Value)) (content : Content Value),
      content.appendTo children = children ++ content.leaves) ∧
    (∀ first second : Content Value, first.leaves = second.leaves ↔
      ∀ children, first.appendTo children = second.appendTo children) ∧
    (∀ contents : List (Content Value),
      (Content.group contents).leaves = contents.flatMap Content.leaves) ∧
    (∀ (element : Element Value) (edits : List (ElementEdit Value)),
      (element.edit edits).children =
        element.children ++ (edits.map ElementEdit.content).flatMap Content.leaves) ∧
    (∀ (fragment : Fragment Value) (content : Content Value) (contents : List (Content Value)),
      (fragment.add content).children = fragment.children ++ content.leaves ∧
      (contents.foldl Fragment.add fragment).children =
        fragment.children ++ contents.flatMap Content.leaves ∧
      (Fragment.ofContent content).children = content.leaves ∧
      (Fragment.ofList contents).children = contents.flatMap Content.leaves) ∧
    (∀ (make : α → m (Content Value)) (items noted : List α),
      Fragment.ofItemsM make items =
        (fun contents => ⟨contents.flatMap Content.leaves⟩) <$> items.mapM make ∧
      (Fragment.ofItemsM (noting make) items).run noted =
        (fun fragment => (fragment, noted ++ items)) <$> Fragment.ofItemsM make items) ∧
    (∀ (make : Key → Entry → m (Content Value)) (entries noted : List (Key × Entry)),
      Fragment.ofEntriesM make entries =
        (fun contents => ⟨contents.flatMap Content.leaves⟩) <$>
          entries.mapM (fun pair => make pair.1 pair.2) ∧
      (Fragment.ofEntriesM (fun key entry => noting (fun pair => make pair.1 pair.2) (key, entry))
          entries).run noted =
        (fun fragment => (fragment, noted ++ entries)) <$> Fragment.ofEntriesM make entries) ∧
    (∀ (make : α → Content Value) (items : List α),
      (Fragment.ofItems make items).children = items.flatMap fun item => (make item).leaves) ∧
    ∀ (accepts : α → m Bool) (make : α → Content Value) (items : List α),
      Fragment.ofItems make <$> keepM accepts items =
        Fragment.ofItemsM (fun item => (Content.guarded · (make item)) <$> accepts item) items :=
  ⟨fun children content => content.appendTo_eq children,
    fun _ _ => Content.leaves_eq_iff, Content.leaves_group,
    fun element edits => element.children_edit edits,
    fun fragment content contents => ⟨fragment.children_add content,
      Fragment.children_foldl_add contents fragment, Fragment.children_ofContent content,
      Fragment.children_ofList contents⟩,
    fun make items noted =>
      ⟨Fragment.ofItemsM_eq make items, Fragment.run_ofItemsM_noting make items noted⟩,
    fun make entries noted => ⟨Fragment.ofItemsM_eq _ entries,
      Fragment.run_ofEntriesM_noting make entries noted⟩,
    fun make items => congrArg Fragment.children (Fragment.ofItems_eq make items),
    Fragment.ofItems_keepM⟩

/-- Accepts every second item, counting them. -/
private def everySecond (_ : String) : StateM Nat Bool :=
  modifyGet fun count => (count % 2 == 0, count + 1)

private def listed (item : String) : Content (fun _ : Unit => Unit) :=
  .group [.text item, .optional none, .node (.void (.ofName "br"))]

theorem content_flattened_in_order_alternating :
    (Fragment.ofItems listed ["a", "b"]).children =
      [.text "a", .void (.ofName "br"), .text "b", .void (.ofName "br")] ∧
    ((keepM everySecond ["a", "b", "c"]).run 0).1 = ["a", "c"] ∧
    Fragment.ofItems listed <$> keepM everySecond ["a", "b", "c"] =
      Fragment.ofItemsM (fun item => (Content.guarded · (listed item)) <$> everySecond item)
        ["a", "b", "c"] := by
  obtain ⟨-, -, -, -, -, -, -, made, chosen⟩ :=
    @content_flattened_in_order Unit (fun _ => Unit) String Unit Unit (StateM Nat) _ _
  exact ⟨made listed ["a", "b"], rfl, chosen everySecond listed ["a", "b", "c"]⟩

end HtmlTree
