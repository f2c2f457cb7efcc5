import Wireframe.Alignment
import Wireframe.Content.Form
import Wireframe.Slug
import Wireframe.Sorting

/-!
# Recognizers

A recognizer reads content of one form as an element. Several are tried by falling priority; content
that none of them reads is plain text.

The recognizers are those of `DEFAULT_RECOGNIZERS` in `elements`, from `ButtonRecognizer` to
`TextRecognizer`: `accepts` is their `can_parse` and `read` their `parse`. `readWith` is
`ParserRegistry.parse`.
-/

namespace Wireframe

/-- The recognizers, named for what they read. -/
inductive Recognizer where
  /-- `[ Submit ]` -/
  | button
  /-- `#email` or `#email Enter your email` -/
  | input
  /-- `[x] Remember me` or `[ ] Remember me` -/
  | checkbox
  /-- `"Forgot password?"` -/
  | link
  /-- `* Welcome back` -/
  | emphasis
  /-- Anything. -/
  | text
  deriving DecidableEq

namespace Recognizer

/-- All recognizers. -/
def all : List Recognizer := [.button, .input, .checkbox, .link, .emphasis, .text]

/-- The rank of a recognizer. Higher ones are tried first. -/
def priority : Recognizer → Nat
  | .button => 100
  | .input => 90
  | .checkbox => 85
  | .link => 80
  | .emphasis => 70
  | .text => 1

/-- How the elements that a recognizer reads are aligned. The place of a box to tick, a field or
plain text says nothing. -/
def rule : Recognizer → AlignmentRule
  | .button => .byPosition
  | .link => .byPosition
  | .emphasis => .byPosition
  | .input => .alwaysLeft
  | .checkbox => .alwaysLeft
  | .text => .alwaysLeft

/-- Whether content has the form that a recognizer reads. -/
def accepts (content : Line) : Recognizer → Bool
  | .button => (Form.bracketed? content).isSome
  | .input => (Form.field? content).isSome
  | .checkbox => (Form.tickBox? content).isSome
  | .link => (Form.quotedText? content).isSome
  | .emphasis => (Form.emphasis? content).isSome
  | .text => true

/-- The identifier of an element by its text, or by its kind and place if the text makes none. -/
def idFor (kind : String) (text : Line) (p : Position) : String :=
  match slugLine text with
  | [] => kind ++ "-" ++ Text.decimal p.row ++ "-" ++ Text.decimal p.col
  | word => String.ofList word

/-- Content as plain text. -/
def caption (content : Line) (p : Position) (container : Bounds) : Element :=
  .text ⟨String.ofList content, p, false, (rule .text).align content p container⟩

/-- The element that a recognizer reads. Also content of the right form is refused when it lacks a
label. -/
def read (content : Line) (p : Position) (container : Bounds) : Recognizer → Option Element
  | .button => do
    let label := Text.trim (← Form.bracketed? content)
    if label = [] then none
    else some (.button
      { id := idFor "button" label p
        text := String.ofList label
        position := p
        align := (rule .button).align content p container
        variant := none
        properties := []
        actions := [] })
  | .input => do
    let (name, placeholder) ← Form.field? content
    some (.input
      { id := String.ofList name
        position := p
        placeholder := placeholder.map String.ofList
        properties := []
        actions := [] })
  | .checkbox => do
    let (mark, rest) ← Form.tickBox? content
    let label := Text.trim rest
    if label = [] then none
    else some (.checkbox ⟨decide (mark ≠ ' '), String.ofList label, p⟩)
  | .link => do
    let label := Text.trim (← Form.quotedText? content)
    if label = [] then none
    else some (.link
      { id := idFor "link" label p
        text := String.ofList label
        position := p
        align := (rule .link).align content p container
        properties := []
        actions := [] })
  | .emphasis => do
    let emphasised ← Form.emphasis? content
    some (.text ⟨String.ofList (Text.trim emphasised), p, true,
      (rule .emphasis).align content p container⟩)
  | .text => some (caption content p container)

/-- Recognizers in the order in which they are tried: by falling priority, those of equal priority
as given. -/
def inOrder (rs : List Recognizer) : List Recognizer :=
  sortBy (fun a b => decide (b.priority ≤ a.priority)) rs

/-- The element that several recognizers read together: that of the first one that does not refuse,
or plain text. -/
def readWith (rs : List Recognizer) (content : Line) (p : Position) (container : Bounds) :
    Element :=
  ((inOrder rs).findSome? (read content p container)).getD (caption content p container)

end Recognizer

end Wireframe
