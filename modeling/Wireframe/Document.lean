import Wireframe.Element

/-!
# Documents

Scenes and the documents they make up, with look-ups by identifier.

`Scene` is the class of that name in `models` and `Document` is `AST`: `scene?` is `get_scene` and
`element?` is `find_element`.
-/

namespace Wireframe

/-- One screen. -/
structure Scene where
  /-- Its identifier. -/
  id : String
  /-- Its title. -/
  title : String
  /-- The effect with which it comes in. -/
  transition : String
  /-- The device it is drawn for. -/
  device : String
  /-- Its elements in reading order. -/
  elements : List Element
  /-- The line of the document that identifies it, counted from zero. -/
  line : Int

/-- A document: scenes in their order. -/
structure Document where
  /-- The scenes. -/
  scenes : List Scene

namespace Document

/-- The identifiers of the scenes. -/
def sceneIds (d : Document) : List String := d.scenes.map (·.id)

/-- The first scene with an identifier. -/
def scene? (d : Document) (id : String) : Option Scene :=
  d.scenes.find? fun s => decide (s.id = id)

/-- All elements of all scenes. -/
def elements (d : Document) : List Element := d.scenes.flatMap fun s => Element.walkAll s.elements

/-- The identifiers of all elements that carry one. -/
def elementIds (d : Document) : List String := d.elements.filterMap Element.id?

/-- The first element with an identifier. -/
def element? (d : Document) (id : String) : Option Element :=
  d.elements.find? fun e => decide (e.id? = some id)

end Document

end Wireframe
