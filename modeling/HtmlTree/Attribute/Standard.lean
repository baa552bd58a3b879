/-! The attributes that have a setter of their own. -/

namespace HtmlTree.Attribute

/-- The attributes with a text value that have a setter of their own. -/
inductive Setter where
  | alt | action | charset | classNames | content | dir | href | id | lang | method | name
  | placeholder | target | title | type | rel | role | src | style | value
  deriving DecidableEq

namespace Setter

def attributeName : Setter → String
  | .alt => "alt"
  | .action => "action"
  | .charset => "charset"
  | .classNames => "class"
  | .content => "content"
  | .dir => "dir"
  | .href => "href"
  | .id => "id"
  | .lang => "lang"
  | .method => "method"
  | .name => "name"
  | .placeholder => "placeholder"
  | .target => "target"
  | .title => "title"
  | .type => "type"
  | .rel => "rel"
  | .role => "role"
  | .src => "src"
  | .style => "style"
  | .value => "value"

def all : List Setter :=
  [.alt, .action, .charset, .classNames, .content, .dir, .href, .id, .lang, .method, .name,
   .placeholder, .target, .title, .type, .rel, .role, .src, .style, .value]

def ofName? (name : String) : Option Setter :=
  all.find? (·.attributeName == name)

end Setter

/-- The absent attributes that have a setter of their own. -/
inductive Flag where
  | autocomplete | autofocus | hidden | required
  deriving DecidableEq

namespace Flag

def attributeName : Flag → String
  | .autocomplete => "autocomplete"
  | .autofocus => "autofocus"
  | .hidden => "hidden"
  | .required => "required"

def all : List Flag := [.autocomplete, .autofocus, .hidden, .required]

def ofName? (name : String) : Option Flag :=
  all.find? (·.attributeName == name)

end Flag

end HtmlTree.Attribute
