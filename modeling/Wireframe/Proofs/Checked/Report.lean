import Mathlib.Data.List.Sort
import Wireframe.Proofs.Checked.Grid
import Wireframe.Proofs.Problems

/-!
# Problems are reported without a failure

A message looks up the details that its kind needs (`Kind.needs`), and it can be told exactly when
each of them is there and is what it has to be (`isOk_message`). Moving a problem keeps its details
under their names and what they are, so a problem that can be told can still be told after it was
moved (`Complete.shifted`). The problems that are found in a drawing are `Complete`. Reporting such
a problem takes no line that the text does not have (`excerpt_eq`).
-/

namespace Wireframe

/-! ## The details that a message needs -/

/-- What a detail has to be. -/
inductive Detail.Need where
  /-- Anything at all. -/
  | anything
  /-- A number. -/
  | number
  /-- A position. -/
  | position
  /-- An edge. -/
  | edge

/-- Whether a detail is what it has to be. -/
def Detail.Need.fits : Detail.Need → Detail → Bool
  | .anything, _ => true
  | .number, d => d.number?.isSome
  | .position, .position _ => true
  | .position, _ => false
  | .edge, .edge _ => true
  | .edge, _ => false

/-- A detail that is moved stays what it is. -/
theorem Detail.Need.fits_shifted (need : Detail.Need) (key : String) (rows : Int) (d : Detail) :
    need.fits (d.shifted key rows) = need.fits d := by
  cases d with
  | position p => cases need <;> rfl
  | bounds b => cases need <;> rfl
  | edge e => cases need <;> rfl
  | scalar s =>
    by_cases hkey : rowSuffix.isSuffixOf key.toList = true
    · -- What counts as a number is one after it was moved.
      cases s <;> cases need <;> simp [shifted, hkey, fits, Detail.number, number?,
        Scalar.numeric?]
    · rw [shifted, if_neg hkey]

/-- Whether a detail is no rectangle or one with its edges the right way round. -/
def Detail.upright : Detail → Bool
  | .bounds b => decide b.Valid
  | _ => true

/-- A detail that is moved stays upright. -/
theorem Detail.upright_shifted (key : String) (rows : Int) (d : Detail) :
    (d.shifted key rows).upright = d.upright := by
  cases d with
  | position p => rfl
  | bounds b => exact decide_eq_decide.2 (b.valid_shifted rows)
  | edge e => rfl
  | scalar s =>
    by_cases hkey : rowSuffix.isSuffixOf key.toList = true
    · cases s <;> simp [shifted, hkey, upright, Detail.number, Scalar.numeric?]
    · rw [shifted, if_neg hkey]

namespace Details

variable {details : Details} {key : String}

/-- Whether a detail is there and is what it has to be. -/
def meets (details : Details) (key : String) (need : Detail.Need) : Bool :=
  (details.lookup key).any need.fits

/-- Moved details are found under their names. -/
theorem lookup_shifted (details : Details) (key : String) (rows : Int) :
    (details.map fun (name, detail) => (name, detail.shifted name rows)).lookup key =
      (details.lookup key).map (·.shifted key rows) := by
  induction details with
  | nil => rfl
  | cons entry details ih =>
    obtain ⟨name, detail⟩ := entry
    rw [List.map_cons, List.lookup_cons, List.lookup_cons]
    by_cases hname : key = name
    · rw [hname, beq_self_eq_true]
      rfl
    · rw [beq_eq_false_iff_ne.2 hname]
      exact ih

/-- Moved details are what they were. -/
theorem meets_shifted (details : Details) (key : String) (need : Detail.Need) (rows : Int) :
    meets (details.map fun (name, detail) => (name, detail.shifted name rows)) key need =
      details.meets key need := by
  rw [meets, lookup_shifted, meets]
  cases details.lookup key with
  | none => rfl
  | some d => exact need.fits_shifted key rows d

/-- Any detail is found if it is there. -/
@[simp] theorem isOk_get : (details.get key).isOk = details.meets key .anything := by
  rw [get, meets]
  cases details.lookup key <;> rfl

/-- A number is found if it is there. -/
@[simp] theorem isOk_getNumber : (details.getNumber key).isOk = details.meets key .number := by
  rw [getNumber, meets]
  cases details.lookup key with
  | none => rfl
  | some d =>
    rw [Option.bind_some, Option.any_some, Detail.Need.fits]
    cases d.number? <;> rfl

/-- A position is found if it is there. -/
@[simp] theorem isOk_getPosition :
    (details.getPosition key).isOk = details.meets key .position := by
  rw [getPosition, meets]
  cases details.lookup key with
  | none => rfl
  | some d => cases d <;> rfl

/-- An edge is found if it is there. -/
@[simp] theorem isOk_getEdge : (details.getEdge key).isOk = details.meets key .edge := by
  rw [getEdge, meets]
  cases details.lookup key with
  | none => rfl
  | some d => cases d <;> rfl

end Details

namespace Diagnostic

/-- The details that the message of a kind needs, and what each of them has to be. -/
def Kind.needs : Diagnostic.Kind → List (String × Detail.Need)
  | .unclosedBox => [("direction", .edge)]
  | .mismatchedWidth => [("top_width", .anything), ("bottom_width", .anything)]
  | .misalignedPipe => [("expected_col", .number), ("actual_col", .number)]
  | .overlappingBoxes => [("box1", .anything), ("box2", .anything)]
  | .invalidElement => [("content", .anything)]
  | .unclosedBracket => [("content", .anything)]
  | .emptyButton => []
  | .invalidInteraction => [("message", .anything)]
  | .unknownElementId => [("element_id", .anything)]
  | .duplicateSceneId => [("first_position", .position), ("scene_id", .anything)]
  | .unusualSpacing => []
  | .deepNesting => [("depth", .anything), ("max_depth", .anything)]

/-- Steps after one another succeed if each of them does. -/
theorem isOk_bind {ε α β : Type} {x : Except ε α} {f : α → Except ε β} {c : Bool}
    (h : ∀ a, (f a).isOk = c) : (x >>= f).isOk = (x.isOk && c) := by
  cases x with
  | error e => rfl
  | ok a => exact (h a).trans (Bool.true_and c).symm

/-- A problem can be told exactly when all details are there that its kind needs. -/
theorem isOk_message (d : Diagnostic) :
    d.message.isOk = d.kind.needs.all fun (key, need) => d.details.meets key need := by
  have hone : ∀ {α : Type} (x : Except MissingDetail α) (text : α → String),
      (x >>= fun a => (pure (text a) : Except MissingDetail String)).isOk = x.isOk :=
    fun x text => by rw [isOk_bind (c := true) fun _ => rfl, Bool.and_true]
  have htwo : ∀ {α β : Type} (x : Except MissingDetail α) (y : Except MissingDetail β)
      (text : α → β → String), (x >>= fun a => y >>= fun b =>
        (pure (text a b) : Except MissingDetail String)).isOk = (x.isOk && y.isOk) :=
    fun x y text => isOk_bind fun a => hone y (text a)
  rw [message]
  cases d.kind with
  | emptyButton => rfl
  | unusualSpacing => rfl
  | _ =>
    simp only [hone, htwo, Kind.needs, Details.isOk_get, Details.isOk_getNumber,
      Details.isOk_getPosition, Details.isOk_getEdge, List.all_cons, List.all_nil, Bool.and_true]

/-- A problem with all details that its kind needs, and with rectangles whose edges stand the right
way round. -/
structure Complete (d : Diagnostic) : Prop where
  /-- Each detail that is needed is there and is what it has to be. -/
  meets : (d.kind.needs.all fun (key, need) => d.details.meets key need) = true
  /-- The rectangles among the details are rectangles. -/
  upright : (d.details.all fun (_, detail) => detail.upright) = true

variable {d : Diagnostic}

/-- A problem can be told if all details are there that its kind needs. -/
theorem exists_message (h : (d.kind.needs.all fun (key, need) => d.details.meets key need) = true) :
    ∃ message, d.message = .ok message := by
  have hok := d.isOk_message.trans h
  cases hmessage : d.message with
  | ok message => exact ⟨message, rfl⟩
  | error e =>
    rw [hmessage] at hok
    exact absurd hok Bool.false_ne_true

/-- Its report then begins with a line that tells the severity, the kind and the place. -/
theorem exists_header (h : (d.kind.needs.all fun (key, need) => d.details.meets key need) = true) :
    ∃ header, d.header = .ok header := by
  obtain ⟨message, hmessage⟩ := exists_message h
  unfold header
  rw [hmessage]
  exact ⟨_, rfl⟩

/-- A complete problem is complete after it was moved. -/
theorem Complete.shifted (h : d.Complete) (rows : Int) : (d.shifted rows).Complete := by
  rcases eq_or_ne rows 0 with rfl | hrows
  · rw [shifted_zero]
    exact h
  constructor
  · rw [kind_shifted, Diagnostic.shifted, if_neg hrows]
    simp only [Details.meets_shifted]
    exact h.meets
  · rw [Diagnostic.shifted, if_neg hrows, List.all_map]
    simp only [Function.comp_def, Detail.upright_shifted]
    exact h.upright

/-- Content that cannot be read is told completely. -/
theorem complete_syntaxError {kind : Diagnostic.Kind} (h : kind.ofContent = true) (p : Position)
    (content : String) : (syntaxError kind p content).Complete := by
  cases kind with
  | invalidElement | unclosedBracket | emptyButton => exact ⟨rfl, rfl⟩
  | _ => exact absurd h Bool.false_ne_true

end Diagnostic

/-! ## The problems of each stage -/

/-- Faults of a drawing are told completely. -/
theorem Grid.Fault.complete {g : Grid} {d : Diagnostic} (h : g.Fault d) : d.Complete := by
  cases h <;> exact ⟨rfl, rfl⟩

/-- Trees that are too deep are warned of completely. -/
theorem Nesting.complete_of_mem_depthWarnings {maxDepth : Nat} {nested : List Nested}
    {d : Diagnostic} (h : d ∈ depthWarnings maxDepth nested) : d.Complete := by
  obtain ⟨n, -, depth, -, rfl⟩ := exists_of_mem_depthWarnings h
  exact ⟨rfl, rfl⟩

/-- The problems of a block are told completely. -/
theorem BlockAnalysis.complete_of_mem_diagnostics {config : Config} {block : Scene.Block}
    {d : Diagnostic} (h : d ∈ (ofBlock config block).diagnostics) : d.Complete := by
  rcases mem_diagnostics_iff.1 h with ⟨e, he, rfl⟩ | ⟨e, he, rfl⟩ | hcontent
  · exact (Grid.fault_of_mem_detect he).complete.shifted _
  · exact (Nesting.complete_of_mem_depthWarnings he).shifted _
  · obtain ⟨box, -, row, -, hd⟩ := Reader.exists_row_of_mem_scene block hcontent
    obtain ⟨kind, k, content, hkind, -, -, rfl⟩ := Reader.exists_of_mem_row hd
    exact Diagnostic.complete_syntaxError hkind _ _

namespace Analysis

variable {d : Diagnostic}

/-- Tabs are told completely. -/
theorem complete_of_mem_tabsIn {lines : List Line} (h : d ∈ tabsIn lines) : d.Complete := by
  obtain ⟨⟨line, row⟩, -, htab⟩ := List.mem_filterMap.1 h
  dsimp only at htab
  unfold tabProblem? at htab
  split at htab
  · rw [← Option.some.inj htab]
    exact ⟨rfl, rfl⟩
  · simp at htab

/-- Repeated identifiers are told completely. -/
theorem complete_of_mem_repeatedIds {seen : List (String × Position)} {scenes : List Scene}
    (h : d ∈ repeatedIds seen scenes) : d.Complete := by
  induction scenes generalizing seen with
  | nil => simp [repeatedIds] at h
  | cons s rest ih =>
    rw [repeatedIds] at h
    split at h
    · rcases List.mem_cons.1 h with rfl | h
      · exact ⟨rfl, rfl⟩
      · exact ih h
    · exact ih h

/-- The problems of a text are told completely, those with interactions included. -/
theorem complete_of_mem_diagnostics {config : Config} {text : String}
    {interactions : Option (InteractionReader × String)}
    (h : d ∈ (ofText config text interactions).diagnostics) : d.Complete := by
  rcases mem_diagnostics_iff.1 h with htab | ⟨block, -, hd⟩ | hid | ⟨i, hi, hinteraction⟩
  · exact complete_of_mem_tabsIn htab
  · exact BlockAnalysis.complete_of_mem_diagnostics hd
  · exact complete_of_mem_repeatedIds hid
  · obtain ⟨given, -, rfl⟩ := Option.map_eq_some_iff.1 hi
    rcases hinteraction with hread | hmerge
    · dsimp only at hread
      rw [Interaction.readText] at hread
      split at hread
      · simp at hread
      · rw [List.mem_singleton.1 hread]
        exact ⟨rfl, rfl⟩
    · obtain ⟨i, -, rfl⟩ := List.mem_map.1 hmerge
      exact ⟨rfl, rfl⟩

end Analysis

/-! ## Reports -/

namespace Diagnostic

/-- The window holds the lines of the text that are at most `context` lines away. -/
theorem mem_window_iff {count i : Nat} {row context : Int} :
    i ∈ window count row context ↔ i < count ∧ row - context ≤ i ∧ i ≤ row + context := by
  unfold window
  rw [List.mem_filter, List.mem_range, Bool.and_eq_true, decide_eq_true_eq, decide_eq_true_eq]

/-- They come in order. -/
theorem pairwise_window (count : Nat) (row context : Int) :
    (window count row context).Pairwise (· < ·) :=
  List.pairwise_lt_range.filter _

/-- An excerpt shows the lines in its window, all of which the text has. -/
theorem excerpt_eq_flatMap (source : List Line) (position : Position) (context : Int) :
    excerpt source position context =
      (window source.length position.row context).flatMap fun i =>
        excerptLines (numberWidth source.length position.row context) position i
          (source[i]?.getD []) := by
  unfold excerpt
  refine List.flatMap_congr fun i hi => ?_
  rw [List.getElem?_eq_getElem (mem_window_iff.1 hi).1]
  rfl

end Diagnostic

namespace Checked

variable {d : Diagnostic}

/-- The lines of an excerpt, each taken out of the text. -/
def excerpt (source : List Line) (position : Position) (context : Int) :
    Except Failure (List Line) := do
  let first := max 0 (position.row - context)
  let stop := min (source.length : Int) (position.row + context + 1)
  let width := Diagnostic.numberWidth source.length position.row context
  let shown ← (List.range' first.toNat (stop - first).toNat).mapM fun i : Nat => do
    let line ← entry source (i : Int)
    return Diagnostic.excerptLines width position i line
  return shown.flatten

/-- The rows of an excerpt follow one another. -/
theorem window_eq_range' (count : Nat) (row context : Int) :
    Diagnostic.window count row context =
      List.range' (max 0 (row - context)).toNat
        (min (count : Int) (row + context + 1) - max 0 (row - context)).toNat := by
  -- Both are in order, so it is enough that they hold the same rows.
  refine (Diagnostic.pairwise_window count row context).eq_of_mem_iff
    (List.pairwise_lt_range' 1) fun i => ?_
  rw [Diagnostic.mem_window_iff, List.mem_range'_1]
  omega

/-- An excerpt takes no line that the text does not have. -/
theorem excerpt_eq (source : List Line) (position : Position) (context : Int) :
    excerpt source position context = .ok (Diagnostic.excerpt source position context) := by
  have hlines : ∀ i ∈ Diagnostic.window source.length position.row context,
      entry source (i : Int) = .ok (source[i]?.getD []) := by
    intro i hi
    apply entry_eq
    rw [List.getElem?_eq_getElem (Diagnostic.mem_window_iff.1 hi).1, Option.getD_some]
  rw [excerpt, ← window_eq_range', Diagnostic.excerpt_eq_flatMap, List.flatMap_def,
    mapM_eq_ok fun i hi => by rw [hlines i hi, ok_bind, pure_eq], ok_bind, pure_eq]

/-- A detail in a text that has `rows` more lines in front. -/
def shiftedDetail (key : String) (rows : Int) : Detail → Except Failure Detail
  | .bounds b => do
    let moved ← shiftedBounds rows b
    return .bounds moved
  | d => return d.shifted key rows

/-- A problem in a text that has `rows` more lines in front. -/
def shifted (rows : Int) (d : Diagnostic) : Except Failure Diagnostic := do
  if rows = 0 then return d
  else
    let details ← d.details.mapM fun (key, detail) => do
      let moved ← shiftedDetail key rows detail
      return (key, moved)
    return { d with position := d.position.shifted rows, details }

/-- A complete problem is moved without a failure. -/
theorem shifted_eq (h : d.Complete) (rows : Int) : shifted rows d = .ok (d.shifted rows) := by
  unfold shifted Diagnostic.shifted
  split
  · rfl
  · have hdetails : d.details.mapM (fun (key, detail) => do
        let moved ← shiftedDetail key rows detail
        return (key, moved)) =
          .ok (d.details.map fun (key, detail) => (key, detail.shifted key rows)) := by
      refine mapM_eq_ok fun entry hentry => ?_
      obtain ⟨key, detail⟩ := entry
      have hupright : detail.upright = true := List.all_eq_true.1 h.upright _ hentry
      cases detail with
      | bounds b =>
        dsimp only
        rw [shiftedDetail, shiftedBounds_eq (of_decide_eq_true hupright)]
        rfl
      | _ => rfl
    rw [hdetails, ok_bind, pure_eq]

/-- The report of a diagnostic. -/
def report (d : Diagnostic) (source : Option String) (context : Int) : Except Failure String := do
  let header ← d.header.mapError .detail
  match source with
  | none => match d.snippet with
    | none => return header
    | some snippet => return header ++ "\n    " ++ snippet
  | some source =>
    let lines := Text.lines (Text.unifyNewlines source.toList)
    if 0 ≤ d.position.row ∧ d.position.row < lines.length then
      let around ← excerpt lines d.position context
      return Text.block (header.toList :: around)
    else return header

end Checked

/-- The message of a problem and all of its reports are made without a failure. -/
structure Diagnostic.Renders (d : Diagnostic) : Prop where
  /-- The message finds the details that it needs. -/
  message : ∃ text, d.message = .ok text
  /-- So does every report, with any text and without one, and it finds the lines of the text. -/
  report : ∀ source context, ∃ text,
    d.report source context = .ok text ∧ Checked.report d source context = .ok text

/-- A complete problem is reported without a failure. -/
theorem Diagnostic.Complete.renders {d : Diagnostic} (h : d.Complete) : d.Renders := by
  obtain ⟨header, hheader⟩ := exists_header h.meets
  refine ⟨exists_message h.meets, fun source context => ?_⟩
  unfold report Checked.report
  rw [hheader]
  cases source with
  | none => cases d.snippet <;> exact ⟨_, rfl, rfl⟩
  | some source =>
    dsimp only
    rw [Except.mapError, Checked.ok_bind]
    split
    · rw [Checked.excerpt_eq]
      exact ⟨_, rfl, rfl⟩
    · exact ⟨_, rfl, rfl⟩

end Wireframe
