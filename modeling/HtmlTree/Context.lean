import HtmlTree.Settings

/-! What a node sees while it is rendered: the settings, and perhaps a model, which is a value of
one of several types. Whoever wants the model asks for one type, and gets nothing if the model is
of another. -/

namespace HtmlTree

/-- A value of one of the types in the family `Value`, with the index of its type. -/
structure Model {Kind : Type} (Value : Kind → Type) where
  kind : Kind
  value : Value kind

variable {Kind : Type} {Value : Kind → Type}

def Model.as? [DecidableEq Kind] (model : Model Value) (kind : Kind) : Option (Value kind) :=
  if same : model.kind = kind then some (same ▸ model.value) else none

structure Context {Kind : Type} (Value : Kind → Type) where
  settings : Settings
  model : Option (Model Value)

namespace Context

def ofSettings (settings : Settings) : Context Value := ⟨settings, none⟩

/-- The same settings with another model. -/
def supply (context : Context Value) (model : Model Value) : Context Value :=
  ⟨context.settings, some model⟩

/-- The same settings without a model. -/
def bare (context : Context Value) : Context Value :=
  ofSettings context.settings

/-- The model, if there is one and it is of this type. -/
def ask [DecidableEq Kind] (context : Context Value) (kind : Kind) : Option (Value kind) :=
  context.model.bind (·.as? kind)

@[simp] theorem settings_supply (context : Context Value) (model : Model Value) :
    (context.supply model).settings = context.settings := rfl

@[simp] theorem settings_bare (context : Context Value) :
    context.bare.settings = context.settings := rfl

@[simp] theorem ask_ofSettings [DecidableEq Kind] (settings : Settings) (kind : Kind) :
    (ofSettings settings : Context Value).ask kind = none := rfl

theorem ask_supply_self [DecidableEq Kind] (context : Context Value) (model : Model Value) :
    (context.supply model).ask model.kind = some model.value := by
  simp [ask, supply, Model.as?]

theorem ask_supply_of_ne [DecidableEq Kind] (context : Context Value) (model : Model Value)
    {kind : Kind} (different : model.kind ≠ kind) :
    (context.supply model).ask kind = none := by
  simp [ask, supply, Model.as?, different]

end Context

end HtmlTree
