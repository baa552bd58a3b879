import HtmlTree.Node.Computed
import HtmlTree.Proofs.Node.Place
import HtmlTree.Proofs.Session.Operation

/-! Nodes that are equal can stand for each other. Equality compares markup, and the markup of a tree, a
document or a phrase is put together from that of its parts, so nothing changes if a part is replaced
by an equal one. -/

namespace HtmlTree

variable {Kind : Type} {Value : Kind → Type}

namespace Session

/-- Work with the settings of the process is done with those in force, which then stay in force. -/
theorem run_withSettings {α : Type} (work : Settings → α) (now : Option Settings) :
    (do return work (← settings) : Session α).run now =
      (work (now.getD .standard), some (now.getD .standard)) := by
  cases now <;> rfl

theorem run_render (node : Node Value) (now : Option Settings) :
    (render node).run now =
      (node.render (.ofSettings (now.getD .standard)), some (now.getD .standard)) :=
  run_withSettings (fun settings => node.render (.ofSettings settings)) now

theorem run_phrase (words : Phrase Value) (now : Option Settings) :
    (phrase words).run now = (words.render (now.getD .standard), some (now.getD .standard)) :=
  run_withSettings (fun settings => words.render settings) now

end Session

/-- Equal nodes have one compact form. -/
theorem Node.render_eq_of_same {settings : Settings} {first second : Node Value}
    (equal : Node.same settings first second = true) :
    first.render (.ofSettings settings) = second.render (.ofSettings settings) := by
  unfold Node.same at equal
  split at equal
  · rw [beq_iff_eq.mp equal]
  · rw [beq_iff_eq.mp equal]
  · exact beq_iff_eq.mp equal
  · exact beq_iff_eq.mp equal
  · cases equal

/-- The root is checked by its tag alone. -/
theorem Document.compact_congr {settings : Settings} {tag : Tag Value}
    {children others : List (Node Value)}
    (same : Node.render (.ofSettings settings) (.element tag children) =
      Node.render (.ofSettings settings) (.element tag others)) :
    compact settings ⟨tag, children⟩ = compact settings ⟨tag, others⟩ := by
  unfold compact Element.render Element.toNode
  rw [same]
  rfl

/-- A phrase sees its nodes rendered. -/
theorem Phrase.render_congr {settings : Settings} {first second : Node Value}
    (same : first.render (.ofSettings settings) = second.render (.ofSettings settings))
    (separator : String) (tight : Bool) (before after : List (Part Value)) :
    Phrase.render settings ⟨separator, tight, before ++ .node first :: after⟩ =
      Phrase.render settings ⟨separator, tight, before ++ .node second :: after⟩ := by
  have pieces : (before ++ .node first :: after).filterMap (Part.piece? settings) =
      (before ++ .node second :: after).filterMap (Part.piece? settings) := by
    rw [List.filterMap_append, List.filterMap_append, List.filterMap_cons, List.filterMap_cons,
      Part.piece?, Part.piece?, same]
  unfold render joined
  rw [pieces]

/-- Whichever of two nodes stands in a tree, a document or a phrase, the process cannot tell. -/
structure Session.Interchangeable (now : Option Settings) (first second : Node Value) : Prop where
  render_eq : ∀ place : Place Value,
    (Session.render (place.fill first)).run now = (Session.render (place.fill second)).run now
  same_root : ∀ (tag : Tag Value) (before : List (Node Value)) (place : Place Value)
      (after : List (Node Value)),
    ((Session.same (.element tag (before ++ place.fill first :: after))
      (.element tag (before ++ place.fill second :: after))).run now).1 = true
  document_eq : ∀ (tag : Tag Value) (before : List (Node Value)) (place : Place Value)
      (after : List (Node Value)),
    outcome (Session.document ⟨tag, before ++ place.fill first :: after⟩) now =
      outcome (Session.document ⟨tag, before ++ place.fill second :: after⟩) now
  phrase_eq : ∀ (separator : String) (tight : Bool) (before : List (Part Value))
      (place : Place Value) (after : List (Part Value)),
    (Session.phrase ⟨separator, tight, before ++ .node (place.fill first) :: after⟩).run now =
      (Session.phrase ⟨separator, tight, before ++ .node (place.fill second) :: after⟩).run now

theorem Session.interchangeable_of_write_eq {now : Option Settings} {first second : Node Value}
    (same : ∀ written, first.write (.ofSettings (now.getD .standard)) written =
      second.write (.ofSettings (now.getD .standard)) written) :
    Interchangeable now first second := by
  have trees (place : Place Value) :
      (place.fill first).render (.ofSettings (now.getD .standard)) =
        (place.fill second).render (.ofSettings (now.getD .standard)) :=
    place.write_fill same ""
  have roots (tag : Tag Value) (before : List (Node Value)) (place : Place Value)
      (after : List (Node Value)) :
      Node.render (.ofSettings (now.getD .standard))
          (.element tag (before ++ place.fill first :: after)) =
        Node.render (.ofSettings (now.getD .standard))
          (.element tag (before ++ place.fill second :: after)) :=
    trees (.element tag before place after)
  constructor
  · intro place
    rw [run_render, run_render, trees place]
  · intro tag before place after
    rw [run_same]
    exact beq_iff_eq.mpr (roots tag before place after)
  · intro tag before place after
    rw [outcome_document, outcome_document, Document.compact_congr (roots tag before place after)]
  · intro separator tight before place after
    rw [run_phrase, run_phrase, Phrase.render_congr (trees place)]

/-- If its custom content keeps the contract, a node adds its own compact form to what is written
already, and a tree is put together from the compact forms of its parts; shared nodes and templates
keep the contract if what they hold does. So two such nodes that the process has found equal are
interchangeable, whatever stands around them, as long as the same settings are in force. -/
theorem equal_nodes_interchangeable [DecidableEq Kind] :
    (∀ (context : Context Value) (written : String) (node : Node Value), node.OnlyAppends →
      node.write context written = written ++ node.render context) ∧
    (∀ (context : Context Value) (tag : Tag Value) (children : List (Node Value)),
      Node.OnlyAppendsAll children →
      Node.render context (.element tag children) =
          tag.opening context false ++ String.join (children.map (Node.render context)) ++
            tag.closing ∧
        Node.render context (.fragment children) =
          String.join (children.map (Node.render context))) ∧
    (∀ renderer : Renderer Value, renderer.OnlyAppends →
      ∀ (context : Context Value) (written : String),
        (Node.computed fun context written => written ++ renderer context "").write context written =
          renderer context written) ∧
    ((∀ node : Node Value, node.OnlyAppends → node.shared.OnlyAppends) ∧
      (∀ make : Context Value → Content Value,
        (∀ context, Node.OnlyAppendsAll (make context).nodes) → (Node.ofContext make).OnlyAppends) ∧
      ∀ (kind : Kind) (make : Value kind → Content Value),
        (∀ value, Node.OnlyAppendsAll (make value).nodes) → (Node.ofModel kind make).OnlyAppends) ∧
    (∀ (context : Context Value) (written : String),
      (∀ node : Node Value, node.shared.write context written = node.write context written) ∧
        (∀ make : Context Value → Content Value, (Node.ofContext make).write context written =
          Node.writeAll context written (make context).nodes) ∧
        ∀ (kind : Kind) (make : Value kind → Content Value),
          (Node.ofModel kind make).write context written =
            match context.ask kind with
            | some value => Node.writeAll context written (make value).nodes
            | none => written) ∧
    ∀ (before now : Option Settings) (first second : Node Value),
      first.OnlyAppends → second.OnlyAppends →
      ((Session.same first second).run before).1 = true →
      now.getD .standard = before.getD .standard →
      Session.Interchangeable now first second := by
  refine ⟨fun _ written node appends => Node.write_eq _ written node appends, ?_, ?_,
    ⟨fun _ => Node.onlyAppends_shared, fun _ => Node.onlyAppends_ofContext,
      fun _ _ => Node.onlyAppends_ofModel⟩, fun _ _ => ⟨fun _ => rfl, fun _ => rfl, fun _ _ => rfl⟩,
    ?_⟩
  · intro context tag children appends
    rw [Node.render_element context tag appends, Node.render_fragment,
      Node.renderAll_eq_join appends]
    exact ⟨rfl, rfl⟩
  · intro renderer appends context written
    exact (appends context written).symm
  · intro before now first second appends appends' equal inForce
    rw [Session.run_same, ← inForce] at equal
    exact Session.interchangeable_of_write_eq
      (Node.write_eq_of_render_eq appends appends' (Node.render_eq_of_same equal))

/-- A link with its text in one piece. -/
private def plainLink : Node (fun _ : Unit => Unit) :=
  .element ⟨"a", [.ofText "href" "/"]⟩ [.text "home"]

/-- Custom content that writes the end of the word. -/
private def ending : Renderer (fun _ : Unit => Unit) := fun _ written => written ++ "me"

/-- The same link with its text in two pieces, one of them custom content in a group. -/
private def piecedLink : Node (fun _ : Unit => Unit) :=
  .element ⟨"a", [.ofName "", .ofText "href" "/"]⟩ [.text "ho", .fragment [.computed ending]]

/-- The link as an item of a list, in a group and an element without a name. -/
private def linkedItem : Place (fun _ : Unit => Unit) :=
  .element (.ofName "ul") [.text "1"]
    (.fragment [] (.element (.ofName "") [] (.element (.ofName "li") [] .here []) []) []) [.text "3"]

theorem equal_nodes_interchangeable_links :
    let bare : Context (fun _ : Unit => Unit) := .ofSettings .standard
    (plainLink.OnlyAppends ∧ piecedLink.OnlyAppends) ∧
      piecedLink.write bare "at " = "at " ++ piecedLink.render bare ∧
      ((Session.same plainLink piecedLink).run none).1 = true ∧
      Session.Interchangeable none plainLink piecedLink ∧
      ((Session.render (linkedItem.fill plainLink)).run none).1 =
        "<ul>1<li><a href=\"/\">home</a></li>3</ul>" ∧
      (Session.render (linkedItem.fill plainLink)).run none =
        (Session.render (linkedItem.fill piecedLink)).run none := by
  intro bare
  have equal : ((Session.same plainLink piecedLink).run none).1 = true := by decide
  have contract : ending.OnlyAppends := fun _ _ => by simp [ending]
  have plain : plainLink.OnlyAppends := ⟨trivial, trivial⟩
  have pieced : piecedLink.OnlyAppends := ⟨trivial, ⟨contract, trivial⟩, trivial⟩
  obtain ⟨appended, _, _, _, _, interchange⟩ :=
    @equal_nodes_interchangeable Unit (fun _ => Unit) inferInstance
  have interchangeable := interchange none none plainLink piecedLink plain pieced equal rfl
  exact ⟨⟨plain, pieced⟩, appended bare "at " piecedLink pieced, equal, interchangeable,
    by decide, interchangeable.render_eq linkedItem⟩

end HtmlTree
