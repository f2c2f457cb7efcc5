import Wireframe.Text.Blank
import Wireframe.Text.Casing
import Wireframe.Text.Decimal

/-!
# Scene blocks

A document is cut into blocks, one for each scene. A line of three dashes ends a block, and so does
a directive that names a scene once the block has a name or content. Directives are taken out of
the drawing and leave an empty line behind, so that every line of a block keeps its distance from
the first.

`Scene.Block.ofText` is `split_scenes` of `scenes`, with the properties of `SceneBlock`, and
`Directive.ofLine?` matches a line against `DIRECTIVE_PATTERN`. Which lines these are, and with
which key and value, is said by `Directive.Written` (`Directive.ofLine?_eq_some_iff`).
-/

namespace Wireframe

/-- What a directive says something about. -/
inductive DirectiveKey where
  /-- The identifier of the scene. -/
  | scene
  /-- Its title. -/
  | title
  /-- The effect with which it comes in. -/
  | transition
  /-- The device it is drawn for. -/
  | device
  deriving DecidableEq

namespace DirectiveKey

/-- All keys. -/
def all : List DirectiveKey := [.scene, .title, .transition, .device]

/-- The name of a key. -/
def name : DirectiveKey → String
  | .scene => "scene"
  | .title => "title"
  | .transition => "transition"
  | .device => "device"

end DirectiveKey

/-- A line that says something about its scene. -/
structure Directive where
  /-- What it is about. -/
  key : DirectiveKey
  /-- What it says. -/
  value : String
  /-- Its line in the document, counted from zero. -/
  line : Nat
  deriving DecidableEq

/-- The rest of a list behind a first part, if it starts with it. -/
def afterPrefix? : Line → Line → Option Line
  | [], cs => some cs
  | p :: ps, c :: cs => if p = c then afterPrefix? ps cs else none
  | _ :: _, [] => none

/-- A first part is taken off exactly where a list begins with it. -/
theorem afterPrefix?_eq_some_iff {part cs rest : Line} :
    afterPrefix? part cs = some rest ↔ cs = part ++ rest := by
  fun_induction afterPrefix? part cs with
  | case1 cs => simp [eq_comm]
  | case2 ps p cs ih => simpa using ih
  | case3 p ps c cs hne => simp [Ne.symm hne]
  | case4 p ps => simp

namespace Directive

/-- What stands behind a key and its colon, if the text starts so. -/
def valueAfter? (key : DirectiveKey) (cs : Line) : Option Line := do
  let rest ← afterPrefix? key.name.toList cs
  match Text.trimLeft rest with
  | ':' :: value => some (Text.trim value)
  | _ => none

/-- The directive on a line: an at sign, a key, a colon and the value, with blanks anywhere
between them. -/
def ofLine? (number : Nat) (line : Line) : Option Directive :=
  match Text.trimLeft line with
  | '@' :: rest => DirectiveKey.all.findSome? fun key =>
      (valueAfter? key rest).map fun value => ⟨key, String.ofList value, number⟩
  | _ => none

/-- The line is a directive with the key and the value in writing: an at sign, the key, a colon and
the value, with blanks anywhere between them and around them. -/
def Written (line : Line) (key : DirectiveKey) (value : Line) : Prop :=
  ∃ indent gap rest, Text.allBlank indent = true ∧ Text.allBlank gap = true ∧
    Text.Trims rest value ∧ line = indent ++ '@' :: (key.name.toList ++ gap ++ ':' :: rest)

variable {number : Nat} {line cs value : Line} {key : DirectiveKey} {d : Directive}

/-- The value behind a key is what is left of the text behind the colon. -/
theorem valueAfter?_eq_some_iff :
    valueAfter? key cs = some value ↔ ∃ gap rest, Text.allBlank gap = true ∧
      Text.Trims rest value ∧ cs = key.name.toList ++ gap ++ ':' :: rest := by
  unfold valueAfter?
  simp only [Option.bind_eq_bind, Option.bind_eq_some_iff, afterPrefix?_eq_some_iff]
  constructor
  · rintro ⟨behind, rfl, hvalue⟩
    split at hvalue
    · next rest hcolon =>
      obtain ⟨⟨gap, hgap, rfl⟩, -⟩ := Text.trimLeft_eq_iff.1 hcolon
      exact ⟨gap, rest, hgap, Text.trim_eq_iff.1 (Option.some.inj hvalue),
        (List.append_assoc ..).symm⟩
    · simp at hvalue
  · rintro ⟨gap, rest, hgap, hrest, rfl⟩
    refine ⟨gap ++ ':' :: rest, List.append_assoc .., ?_⟩
    rw [Text.trimLeft_append_cons hgap (by decide)]
    exact congrArg some (Text.trim_eq_iff.2 hrest)

/-- The first two characters tell one key from another. -/
theorem eq_of_valueAfter? {key' : DirectiveKey} {value' : Line}
    (h : valueAfter? key cs = some value) (h' : valueAfter? key' cs = some value') :
    key = key' := by
  obtain ⟨gap, rest, -, -, rfl⟩ := valueAfter?_eq_some_iff.1 h
  obtain ⟨gap', rest', -, -, heq⟩ := valueAfter?_eq_some_iff.1 h'
  have htwo : ∀ k : DirectiveKey, 2 ≤ k.name.toList.length := fun k => by cases k <;> decide
  have htell : ∀ k k' : DirectiveKey, k.name.toList.take 2 = k'.name.toList.take 2 → k = k' :=
    fun k k' => by cases k <;> cases k' <;> decide
  have htake := congrArg (List.take 2) heq
  rw [List.append_assoc, List.append_assoc, List.take_append_of_le_length (htwo key),
    List.take_append_of_le_length (htwo key')] at htake
  exact htell key key' htake

/-- So the key that a text begins with is found among all of them. -/
theorem findSome?_valueAfter? (h : valueAfter? key cs = some value) (number : Nat) :
    (DirectiveKey.all.findSome? fun k =>
      (valueAfter? k cs).map fun v => (⟨k, String.ofList v, number⟩ : Directive)) =
        some ⟨key, String.ofList value, number⟩ := by
  have hall : key ∈ DirectiveKey.all := by cases key <;> decide
  have hsome : (DirectiveKey.all.findSome? fun k =>
      (valueAfter? k cs).map fun v => (⟨k, String.ofList v, number⟩ : Directive)).isSome = true :=
    List.findSome?_isSome_iff.2 ⟨key, hall, by rw [h]; rfl⟩
  obtain ⟨found, hfound⟩ := Option.isSome_iff_exists.1 hsome
  obtain ⟨other, -, hother⟩ := List.exists_of_findSome?_eq_some hfound
  obtain ⟨value', hvalue', rfl⟩ := Option.map_eq_some_iff.1 hother
  obtain rfl := eq_of_valueAfter? h hvalue'
  rw [h, Option.some.injEq] at hvalue'
  rw [hfound, hvalue']

/-- A line is read as a directive exactly if it is one in writing, with the key and the value that
are written on it. -/
theorem ofLine?_eq_some_iff :
    ofLine? number line = some d ↔ d.line = number ∧ Written line d.key d.value.toList := by
  unfold ofLine?
  constructor
  · intro h
    split at h
    · next rest hsign =>
      obtain ⟨⟨indent, hindent, rfl⟩, -⟩ := Text.trimLeft_eq_iff.1 hsign
      obtain ⟨key, -, hkey⟩ := List.exists_of_findSome?_eq_some h
      obtain ⟨value, hvalue, rfl⟩ := Option.map_eq_some_iff.1 hkey
      obtain ⟨gap, rest, hgap, hrest, rfl⟩ := valueAfter?_eq_some_iff.1 hvalue
      refine ⟨rfl, indent, gap, rest, hindent, hgap, ?_, rfl⟩
      rwa [String.toList_ofList]
    · simp at h
  · rintro ⟨rfl, indent, gap, rest, hindent, hgap, hrest, rfl⟩
    have hvalue : valueAfter? d.key (d.key.name.toList ++ gap ++ ':' :: rest) =
        some d.value.toList :=
      valueAfter?_eq_some_iff.2 ⟨gap, rest, hgap, hrest, rfl⟩
    rw [Text.trimLeft_append_cons hindent (by decide)]
    refine (findSome?_valueAfter? hvalue d.line).trans ?_
    rw [String.ofList_toList]

end Directive

/-- The lines of one scene. -/
structure Scene.Block where
  /-- The line of the document where the block begins, counted from zero. -/
  offset : Nat
  /-- Its lines, those of directives left empty. -/
  lines : List Line
  /-- Its directives, in their order. -/
  directives : List Directive
  deriving DecidableEq

namespace Scene.Block

/-- A block without lines. -/
def startingAt (offset : Nat) : Scene.Block := ⟨offset, [], []⟩

/-- The block with one more line. -/
def addLine (b : Scene.Block) (line : Line) : Scene.Block := { b with lines := b.lines ++ [line] }

/-- The block with one more directive on a line of its own. -/
def addDirective (b : Scene.Block) (d : Directive) : Scene.Block :=
  { b with lines := b.lines ++ [[]], directives := b.directives ++ [d] }

/-- The directive that counts for a key: the last one. -/
def directive? (b : Scene.Block) (key : DirectiveKey) : Option Directive :=
  b.directives.reverse.find? fun d => decide (d.key = key)

/-- The value given for a key, unless it is empty. -/
def value? (b : Scene.Block) (key : DirectiveKey) : Option String :=
  ((b.directive? key).map (·.value)).filter fun value => decide (value ≠ "")

/-- Whether something is drawn. -/
def hasContent (b : Scene.Block) : Bool := b.lines.any fun line => !Text.allBlank line

/-- Whether nothing is drawn and nothing said. -/
def isEmpty (b : Scene.Block) : Bool := b.directives.isEmpty && !b.hasContent

/-- The identifier of the scene. -/
def sceneId (b : Scene.Block) : String := (b.value? .scene).getD "main"

/-- The title of the scene; if none is given, its identifier with a capital. -/
def title (b : Scene.Block) : String :=
  (b.value? .title).getD (String.ofList (Text.capitalize b.sceneId.toList))

/-- The effect with which the scene comes in. -/
def transition (b : Scene.Block) : String := (b.value? .transition).getD "none"

/-- The devices that are known by name. -/
def knownDevices : List String :=
  ["desktop", "laptop", "tablet", "tablet-landscape", "mobile", "mobile-landscape"]

/-- The device the scene is drawn for. A known one is written in lower case, any other as given. -/
def device (b : Scene.Block) : String :=
  match b.value? .device with
  | none => "desktop"
  | some given =>
    let name := String.ofList (Text.lowerLine given.toList)
    if name ∈ knownDevices then name else given

/-- The line of the document that identifies the scene: that of its name, else its first. -/
def sceneLine (b : Scene.Block) : Nat :=
  ((b.directive? .scene).map (·.line)).getD b.offset

/-- Whether a directive that names a scene begins a new block behind this one. -/
def isTaken (b : Scene.Block) : Bool := (b.directive? .scene).isSome || b.hasContent

/-- Whether a line separates scenes. -/
def isSeparator (line : Line) : Bool := decide (Text.trim line = ['-', '-', '-'])

/-- The blocks of numbered lines, given the block that is being read. -/
def split (current : Scene.Block) (number : Nat) : List Line → List Scene.Block
  | [] => [current]
  | line :: rest =>
    if isSeparator line then current :: split (startingAt (number + 1)) (number + 1) rest
    -- A separator belongs to no block; a directive leaves its line behind, empty.
    else match Directive.ofLine? number line with
      | none => split (current.addLine line) (number + 1) rest
      | some d =>
        if d.key = .scene ∧ current.isTaken then
          current :: split ((startingAt number).addDirective d) (number + 1) rest
        else split (current.addDirective d) (number + 1) rest

/-- All blocks of a document, also the empty ones. -/
def ofLines (lines : List Line) : List Scene.Block := split (startingAt 0) 0 lines

/-- The scene blocks of a text: the blocks that are not empty, or the first one if all are. -/
def ofText (text : List Char) : List Scene.Block :=
  let blocks := ofLines (Text.lines text)
  match blocks.filter fun b => !b.isEmpty with
  | [] => blocks.take 1
  | filled => filled

end Scene.Block

end Wireframe
