import Wireframe.Bounds
import Wireframe.Keyed
import Wireframe.Scalar

/-!
# Elements

What a scene is made of. Boxes and rows hold further elements; buttons, inputs and links carry an
identifier and may be given properties and actions.

The kinds of elements are the classes of `models` from `BoxElement` to `Spacer`, with `Caption` for
its `Text`; `walkAll` is `iter_elements`.
-/

namespace Wireframe

/-- Where an element stands in its container. -/
inductive Alignment where
  /-- At the left. -/
  | left
  /-- In the middle. -/
  | center
  /-- At the right. -/
  | right
  deriving DecidableEq

/-- What happens when an element is used. -/
inductive Action where
  /-- Another scene is shown. -/
  | goto (target : String) (transition condition : Option String)
  /-- The last scene is shown again. -/
  | back
  /-- The scene that was left by going back is shown again. -/
  | forward
  /-- Fields are checked. -/
  | validate (fields : List String)
  /-- A function is called. -/
  | call (function : String) (args : List String) (condition : Option String)
  deriving DecidableEq

/-- Properties under their names, each name once. -/
abbrev Properties := List (String × Scalar)

/-- A button. -/
structure Button where
  /-- Its identifier. -/
  id : String
  /-- Its label. -/
  text : String
  /-- Where it stands. -/
  position : Position
  /-- Where it stands in its container. -/
  align : Alignment
  /-- Its look, if one was given. -/
  variant : Option String
  /-- Its properties. -/
  properties : Properties
  /-- What happens when it is used. -/
  actions : List Action
  deriving DecidableEq

/-- A field for input. -/
structure Input where
  /-- Its identifier. -/
  id : String
  /-- Where it stands. -/
  position : Position
  /-- The text shown while it is empty. -/
  placeholder : Option String
  /-- Its properties. -/
  properties : Properties
  /-- What happens when it is used. -/
  actions : List Action
  deriving DecidableEq

/-- A link. -/
structure Link where
  /-- Its identifier. -/
  id : String
  /-- Its text. -/
  text : String
  /-- Where it stands. -/
  position : Position
  /-- Where it stands in its container. -/
  align : Alignment
  /-- Its properties. -/
  properties : Properties
  /-- What happens when it is used. -/
  actions : List Action
  deriving DecidableEq

/-- A box to tick. -/
structure Checkbox where
  /-- Whether it is ticked. -/
  checked : Bool
  /-- Its label. -/
  label : String
  /-- Where it stands. -/
  position : Position
  deriving DecidableEq

/-- A line of text. -/
structure Caption where
  /-- The text. -/
  content : String
  /-- Where it stands. -/
  position : Position
  /-- Whether it is emphasised. -/
  emphasis : Bool
  /-- Where it stands in its container. -/
  align : Alignment
  deriving DecidableEq

/-- An element of a scene. -/
inductive Element where
  /-- A box with the elements inside it. -/
  | box (bounds : Bounds) (name : Option String) (children : List Element)
  /-- A button. -/
  | button (b : Button)
  /-- A field for input. -/
  | input (i : Input)
  /-- A link. -/
  | link (l : Link)
  /-- A box to tick. -/
  | checkbox (c : Checkbox)
  /-- A line of text. -/
  | text (t : Caption)
  /-- A line that divides a box. -/
  | divider (position : Position)
  /-- A blank line. -/
  | spacer (position : Position)
  /-- Elements side by side. -/
  | row (children : List Element) (align : Alignment)

namespace Element

mutual

/-- The element in a text that has `rows` more lines in front, with all elements inside it. -/
def shifted (rows : Int) : Element → Element
  | .box b name children => .box (b.shifted rows) name (shiftedAll rows children)
  | .button b => .button { b with position := b.position.shifted rows }
  | .input i => .input { i with position := i.position.shifted rows }
  | .link l => .link { l with position := l.position.shifted rows }
  | .checkbox c => .checkbox { c with position := c.position.shifted rows }
  | .text t => .text { t with position := t.position.shifted rows }
  | .divider p => .divider (p.shifted rows)
  | .spacer p => .spacer (p.shifted rows)
  | .row children align => .row (shiftedAll rows children) align

/-- Several elements in a text that has `rows` more lines in front. -/
def shiftedAll (rows : Int) : List Element → List Element
  | [] => []
  | e :: rest => shifted rows e :: shiftedAll rows rest

end

/-- The identifier of an element that carries one. -/
def id? : Element → Option String
  | .button b => some b.id
  | .input i => some i.id
  | .link l => some l.id
  | _ => none

/-- The rectangle of a box. -/
def boxBounds? : Element → Option Bounds
  | .box b _ _ => some b
  | _ => none

/-- Whether an element is a blank line. -/
def isSpacer : Element → Bool
  | .spacer _ => true
  | _ => false

/-- Whether an element is a button or a link. -/
def isControl : Element → Bool
  | .button _ => true
  | .link _ => true
  | _ => false

/-- The name of an element's type. -/
def typeName : Element → String
  | .box _ _ _ => "box"
  | .button _ => "button"
  | .input _ => "input"
  | .link _ => "link"
  | .checkbox _ => "checkbox"
  | .text _ => "text"
  | .divider _ => "divider"
  | .spacer _ => "spacer"
  | .row _ _ => "row"

mutual

/-- An element and all elements inside it, each before those inside it. -/
def walk : Element → List Element
  | .box b name children => .box b name children :: walkAll children
  | .row children align => .row children align :: walkAll children
  | e => [e]

/-- Several elements and all elements inside them. -/
def walkAll : List Element → List Element
  | [] => []
  | e :: rest => walk e ++ walkAll rest

end

end Element

end Wireframe
