import Wireframe.Diagnostic
import Wireframe.Document

/-!
# Interactions

Properties and actions that are given to elements by their identifier. The text that describes them
is read elsewhere; here they are attached to the elements of a document. An identifier that no
element has is reported, and no element is ever added.

`Document.merge` is `merge_interactions` of `interactions`, where `attach` is `_attach`. An
`InteractionReader` is its `InteractionParser`, and `readText` is `parse_interactions`.
-/

namespace Wireframe

/-- What is given to one element. -/
structure Interaction where
  /-- The identifier of the element. -/
  elementId : String
  /-- The properties it is given. -/
  properties : Properties
  /-- The actions it is given. -/
  actions : List Action
  /-- The line where this is written, counted from one. -/
  line : Int
  deriving DecidableEq

/-- Why a text of interactions cannot be read. -/
structure InteractionError where
  /-- What is wrong. -/
  message : String
  /-- The line, counted from one. -/
  line : Int
  /-- The column, counted from one. -/
  column : Int
  deriving DecidableEq

/-- A reader of texts that describe interactions. -/
abbrev InteractionReader := String → Except InteractionError (List Interaction)

namespace Interaction

/-- The interactions a text describes, or the problem with it. -/
def readText (reader : InteractionReader) (text : String) : List Interaction × List Diagnostic :=
  match reader text with
  | .ok interactions => (interactions, [])
  | .error e =>
    ([], [.invalidInteraction e.message ⟨max (e.line - 1) 0, max (e.column - 1) 0⟩])

/-- The looks a button may be given by its properties. -/
def buttonVariants : List String := ["primary", "secondary", "ghost"]

/-- The properties of an element after interactions, one after the other. -/
def mergeProperties (properties : Properties) (given : List Interaction) : Properties :=
  given.foldl (fun acc i => Keyed.update acc i.properties) properties

/-- The actions of an element after interactions, one after the other. -/
def mergeActions (actions : List Action) (given : List Interaction) : List Action :=
  actions ++ given.flatMap (·.actions)

/-- The look of a button with the given properties. -/
def variantFor (properties : Properties) (old : Option String) : Option String :=
  match properties.lookup "variant" with
  | some (.text v) => if v ∈ buttonVariants then some v else old
  | _ => old

/-- The interactions for one identifier. -/
def targeting (interactions : List Interaction) (id : String) : List Interaction :=
  interactions.filter fun i => decide (i.elementId = id)

/-- A button after interactions. Without any for it, it stays as it is. -/
def attachButton (interactions : List Interaction) (b : Button) : Button :=
  match targeting interactions b.id with
  | [] => b
  | given =>
    let properties := mergeProperties b.properties given
    { b with
      properties
      actions := mergeActions b.actions given
      variant := variantFor properties b.variant }

/-- A field after interactions. -/
def attachInput (interactions : List Interaction) (i : Input) : Input :=
  let given := targeting interactions i.id
  { i with
    properties := mergeProperties i.properties given
    actions := mergeActions i.actions given }

/-- A link after interactions. -/
def attachLink (interactions : List Interaction) (l : Link) : Link :=
  let given := targeting interactions l.id
  { l with
    properties := mergeProperties l.properties given
    actions := mergeActions l.actions given }

mutual

/-- An element after interactions, with all elements inside it. -/
def attach (interactions : List Interaction) : Element → Element
  | .box b name children => .box b name (attachAll interactions children)
  | .row children align => .row (attachAll interactions children) align
  | .button b => .button (attachButton interactions b)
  | .input i => .input (attachInput interactions i)
  | .link l => .link (attachLink interactions l)
  | .checkbox c => .checkbox c
  | .text t => .text t
  | .divider p => .divider p
  | .spacer p => .spacer p

/-- Several elements after interactions. -/
def attachAll (interactions : List Interaction) : List Element → List Element
  | [] => []
  | e :: rest => attach interactions e :: attachAll interactions rest

end

/-- The problem with an interaction that no element is there for. -/
def unknownTarget (i : Interaction) : Diagnostic :=
  .unknownElementId i.elementId ⟨max (i.line - 1) 0, 0⟩

end Interaction

/-- What attaching interactions gave. -/
structure Merge where
  /-- The document with the interactions attached. -/
  document : Document
  /-- One problem for each interaction without an element. -/
  problems : List Diagnostic
  /-- Whether any interaction found its element. -/
  attached : Bool

namespace Document

/-- A document with interactions attached to its elements. -/
def merge (d : Document) (interactions : List Interaction) : Merge :=
  let ids := d.elementIds
  let known := interactions.filter fun i => decide (i.elementId ∈ ids)
  let unknown := interactions.filter fun i => decide (i.elementId ∉ ids)
  { document :=
      ⟨d.scenes.map fun s => { s with elements := Interaction.attachAll known s.elements }⟩
    problems := unknown.map Interaction.unknownTarget
    attached := !known.isEmpty }

end Document

end Wireframe
