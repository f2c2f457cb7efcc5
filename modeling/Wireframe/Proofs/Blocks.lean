import Wireframe.Analysis

/-!
# Cutting a text into scene blocks

A text that is put together from two texts with a line of three dashes between them is cut into the
blocks of the first text and those of the second, the latter further down (`ofText_join`). A block
further down differs from the block itself in its offset and in the lines of its directives, and
neither of them has a say in what the scene is called or how it is shown.

What each line that is read keeps of a block holds of all blocks of a text (`forall_mem_ofText`). So
every block holds lines of the text at their place, those of directives left empty
(`cutFrom_of_mem_ofText`).
-/

namespace Wireframe

/-! ## Lines -/

namespace Text

/-- Two texts with a line feed between them have the lines of both. -/
theorem lines_append (cs ds : List Char) : lines (cs ++ '\n' :: ds) = lines cs ++ lines ds := by
  induction cs with
  | nil => exact lines_newline_cons ds
  | cons c cs ih =>
    by_cases hc : c = '\n'
    · rw [hc, List.cons_append, lines_newline_cons, lines_newline_cons, ih, List.cons_append]
    · cases hcs : lines cs with
      | nil => exact absurd hcs (lines_ne_nil cs)
      | cons line rest =>
        rw [lines_cons hc hcs, List.cons_append, List.cons_append]
        exact lines_cons hc (by rw [ih, hcs, List.cons_append])

/-- A text without carriage returns has its line ends unified. -/
theorem unifyNewlines_eq_self {cs : List Char} (h : '\r' ∉ cs) : unifyNewlines cs = cs := by
  induction cs with
  | nil => rfl
  | cons c cs ih =>
    rw [List.mem_cons, not_or] at h
    rw [unifyNewlines, if_neg fun hc => h.1 hc.1.symm, ih h.2]

/-- Of the rest of a text, the first line and what is behind it. -/
theorem next_of_drop {text rest : List Line} {number : Nat} {line : Line}
    (h : text.drop number = line :: rest) :
    text[number]? = some line ∧ text.drop (number + 1) = rest ∧ number < text.length := by
  have hhere : text[number]? = some line := by
    rw [← List.head?_drop, h, List.head?_cons]
  refine ⟨hhere, ?_, (List.getElem?_eq_some_iff.1 hhere).1⟩
  rw [← List.tail_drop, h, List.tail_cons]

/-- What holds of the entries of a list at their places, and of one more entry at the end, holds of
all of them. -/
theorem forall_getElem?_concat {α : Type} {xs : List α} {x : α} {P : Nat → α → Prop}
    (h : ∀ (i : Nat) (y : α), xs[i]? = some y → P i y) (hx : P xs.length x) (i : Nat) (y : α)
    (hy : (xs ++ [x])[i]? = some y) : P i y := by
  rcases Nat.lt_trichotomy i xs.length with hlt | rfl | hgt
  · rw [List.getElem?_append_left hlt] at hy
    exact h i y hy
  · rw [List.getElem?_concat_length, Option.some.injEq] at hy
    rw [← hy]
    exact hx
  · rw [List.getElem?_eq_none (by simp; omega)] at hy
    simp at hy

end Text

/-! ## Directives further down -/

namespace Directive

/-- The directive with more lines in front. -/
def shifted (rows : Nat) (d : Directive) : Directive := { d with line := d.line + rows }

/-- The number of a line has no say in what a directive on it says. -/
theorem ofLine?_add (number rows : Nat) (line : Line) :
    ofLine? (number + rows) line = (ofLine? number line).map (shifted rows) := by
  rw [ofLine?, ofLine?]
  split
  · rw [List.map_findSome?]
    simp [Function.comp_def, shifted]
  · rfl

end Directive

namespace Scene.Block

/-! ## Blocks further down -/

/-- The block with more lines in front. -/
def shifted (rows : Nat) (b : Scene.Block) : Scene.Block :=
  ⟨b.offset + rows, b.lines, b.directives.map (Directive.shifted rows)⟩

variable {b current : Scene.Block} {rows : Nat}

/-- The directive that counts is the same one, further down. -/
theorem directive?_shifted (key : DirectiveKey) :
    (b.shifted rows).directive? key = (b.directive? key).map (Directive.shifted rows) := by
  rw [directive?, directive?, shifted, ← List.map_reverse, List.find?_map]
  rfl

/-- What is said about a scene does not depend on where. -/
@[simp] theorem value?_shifted (key : DirectiveKey) :
    (b.shifted rows).value? key = b.value? key := by
  rw [value?, value?, directive?_shifted, Option.map_map]
  rfl

/-- The identifier of a scene does not depend on its place. -/
@[simp] theorem sceneId_shifted : (b.shifted rows).sceneId = b.sceneId := by simp [sceneId]

/-- The title of a scene does not depend on its place. -/
@[simp] theorem title_shifted : (b.shifted rows).title = b.title := by simp [title]

/-- The effect with which a scene comes in does not depend on its place. -/
@[simp] theorem transition_shifted : (b.shifted rows).transition = b.transition := by
  simp [transition]

/-- The device of a scene does not depend on its place. -/
@[simp] theorem device_shifted : (b.shifted rows).device = b.device := by simp [device]

/-- A block is as empty as it was. -/
@[simp] theorem isEmpty_shifted : (b.shifted rows).isEmpty = b.isEmpty := by
  simp [isEmpty, hasContent, shifted]

/-- A scene has begun in a block wherever the block stands. -/
@[simp] theorem isTaken_shifted : (b.shifted rows).isTaken = b.isTaken := by
  rw [isTaken, isTaken, directive?_shifted, Option.isSome_map]
  rfl

/-- The line that identifies a scene moves along. -/
@[simp] theorem sceneLine_shifted : (b.shifted rows).sceneLine = b.sceneLine + rows := by
  rw [sceneLine, sceneLine, directive?_shifted]
  cases b.directive? .scene <;> rfl

/-! ## Joined texts -/

/-- Lines with more lines in front are cut into the same blocks, further down. -/
theorem split_shifted (number rows : Nat) (lines : List Line) :
    split (current.shifted rows) (number + rows) lines =
      (split current number lines).map (shifted rows) := by
  induction lines generalizing current number with
  | nil => rfl
  | cons line lines ih =>
    have hnext : number + rows + 1 = number + 1 + rows := by omega
    have hline : (current.shifted rows).addLine line = (current.addLine line).shifted rows := rfl
    have hdirective : ∀ (c : Scene.Block) (d : Directive),
        (c.shifted rows).addDirective (d.shifted rows) = (c.addDirective d).shifted rows := by
      intro c d
      simp [addDirective, shifted]
    have hstart : ∀ k, startingAt (k + rows) = (startingAt k).shifted rows := fun _ => rfl
    simp only [split, Directive.ofLine?_add, isTaken_shifted]
    split
    · rw [hnext, hstart, ih, List.map_cons]
    · cases Directive.ofLine? number line with
      | none =>
        dsimp only [Option.map_none]
        rw [hline, hnext, ih]
      | some d =>
        dsimp only [Option.map_some]
        have hkey : (d.shifted rows).key = d.key := rfl
        rw [hkey, hstart, hdirective, hdirective, hnext, ih, ih]
        split
        · rw [List.map_cons]
        · rfl

/-- A line that separates scenes ends the blocks in front of it, and those behind it begin anew. -/
theorem split_append {separator : Line} (hseparator : isSeparator separator = true) (number : Nat)
    (before after : List Line) :
    split current number (before ++ separator :: after) =
      split current number before ++
        split (startingAt (number + before.length + 1)) (number + before.length + 1) after := by
  induction before generalizing current number with
  | nil => simp [split, hseparator]
  | cons line before ih =>
    have hnext : number + (line :: before).length + 1 = number + 1 + before.length + 1 := by
      simp only [List.length_cons]
      omega
    rw [List.cons_append, split, split, hnext]
    split
    · rw [ih, List.cons_append]
    · split
      · rw [ih]
      · split
        · rw [ih, List.cons_append]
        · rw [ih]

/-- Two texts with a separator between them are cut into the blocks of the first one and those of
the second one behind them. -/
theorem ofLines_append {separator : Line} (hseparator : isSeparator separator = true)
    (before after : List Line) :
    ofLines (before ++ separator :: after) =
      ofLines before ++ (ofLines after).map (shifted (before.length + 1)) := by
  have hshift : split ((startingAt 0).shifted (before.length + 1)) (0 + (before.length + 1)) after =
      (ofLines after).map (shifted (before.length + 1)) := split_shifted 0 _ after
  have hstart : (startingAt 0).shifted (before.length + 1) = startingAt (before.length + 1) := by
    simp [shifted, startingAt]
  rw [hstart, Nat.zero_add] at hshift
  rw [ofLines, split_append hseparator, Nat.zero_add, hshift]
  rfl

/-- The blocks of a text with something in it are its blocks that are not empty. -/
theorem ofText_eq_filter {text : List Char}
    (h : ∃ b ∈ ofLines (Text.lines text), b.isEmpty = false) :
    ofText text = (ofLines (Text.lines text)).filter fun b => !b.isEmpty := by
  obtain ⟨b, hb, hfilled⟩ := h
  rw [ofText]
  split
  · next hnone =>
    have hmem : b ∈ (ofLines (Text.lines text)).filter fun b => !b.isEmpty :=
      List.mem_filter.2 ⟨hb, by simp [hfilled]⟩
    rw [hnone] at hmem
    exact absurd hmem List.not_mem_nil
  · rfl

/-- Two texts with something in both of them and a separator in between have the blocks of the first
one and those of the second one behind them. -/
theorem ofText_join {first second : List Char}
    (hfirst : ∃ b ∈ ofLines (Text.lines first), b.isEmpty = false)
    (hsecond : ∃ b ∈ ofLines (Text.lines second), b.isEmpty = false) :
    ofText (first ++ '\n' :: ("---".toList ++ '\n' :: second)) =
      ofText first ++ (ofText second).map (shifted ((Text.lines first).length + 1)) := by
  have hlines : Text.lines (first ++ '\n' :: ("---".toList ++ '\n' :: second)) =
      Text.lines first ++ "---".toList :: Text.lines second := by
    rw [Text.lines_append, Text.lines_append_newline _ (by decide)]
  have hblocks : ofLines (Text.lines (first ++ '\n' :: ("---".toList ++ '\n' :: second))) =
      ofLines (Text.lines first) ++
        (ofLines (Text.lines second)).map (shifted ((Text.lines first).length + 1)) := by
    rw [hlines, ofLines_append (by decide)]
  have hjoined : ∃ b ∈ ofLines (Text.lines (first ++ '\n' :: ("---".toList ++ '\n' :: second))),
      b.isEmpty = false := by
    obtain ⟨b, hb, hfilled⟩ := hfirst
    rw [hblocks]
    exact ⟨b, List.mem_append_left _ hb, hfilled⟩
  rw [ofText_eq_filter hjoined, ofText_eq_filter hfirst, ofText_eq_filter hsecond, hblocks,
    List.filter_append, List.filter_map]
  congr 2
  exact List.filter_congr fun b _ => by simp

/-- Lines are cut into at least one block. -/
theorem split_ne_nil (current : Scene.Block) (number : Nat) (lines : List Line) :
    split current number lines ≠ [] := by
  induction lines generalizing current number with
  | nil => simp [split]
  | cons line rest ih =>
    rw [split]
    split
    · simp
    -- A line that is no separator starts a new block behind the current one or stays in it.
    · split
      · exact ih _ _
      · split
        · simp
        · exact ih _ _

/-! ## What holds of a block while it is read -/

/-- A line makes a block longer by one. -/
@[simp] theorem length_lines_addLine (b : Scene.Block) (line : Line) :
    (b.addLine line).lines.length = b.lines.length + 1 := by
  simp [addLine]

/-- A directive leaves one line behind. -/
@[simp] theorem length_lines_addDirective (b : Scene.Block) (d : Directive) :
    (b.addDirective d).lines.length = b.lines.length + 1 := by
  simp [addDirective]

/-- A block that ends in front of a line that is added to it ends behind that line. -/
theorem next_addLine {number : Nat} (h : b.offset + b.lines.length = number) (line : Line) :
    (b.addLine line).offset + (b.addLine line).lines.length = number + 1 := by
  rw [length_lines_addLine, ← h]
  rfl

/-- A block that ends in front of a directive that is added to it ends behind that directive. -/
theorem next_addDirective {number : Nat} (h : b.offset + b.lines.length = number)
    (d : Directive) :
    (b.addDirective d).offset + (b.addDirective d).lines.length = number + 1 := by
  rw [length_lines_addDirective, ← h]
  rfl

/-- What holds of blocks without lines, and is kept when a line or a directive is added, holds of
the blocks that are cut from the rest of a text if it holds of the one that is being read. -/
theorem forall_mem_split {text rest : List Line} {number : Nat} {P : Scene.Block → Prop}
    (hstart : ∀ k ≤ text.length, P (startingAt k))
    (hline : ∀ (c : Scene.Block) (line : Line), P c →
      text[c.offset + c.lines.length]? = some line →
        Directive.ofLine? (c.offset + c.lines.length) line = none → isSeparator line = false →
          P (c.addLine line))
    (hdirective : ∀ (c : Scene.Block) (line : Line) (d : Directive), P c →
      text[c.offset + c.lines.length]? = some line →
        Directive.ofLine? (c.offset + c.lines.length) line = some d →
          (d.key = .scene → c.isTaken = false) → P (c.addDirective d))
    (hrest : text.drop number = rest) (hnumber : current.offset + current.lines.length = number)
    (hcurrent : P current) : ∀ b ∈ split current number rest, P b := by
  induction rest generalizing current number with
  | nil =>
    intro b hb
    rw [List.mem_singleton.1 hb]
    exact hcurrent
  | cons line rest ih =>
    obtain ⟨hhere, hnext, hlt⟩ := Text.next_of_drop hrest
    have hnew : (startingAt number).offset + (startingAt number).lines.length = number := rfl
    intro b hb
    rw [split] at hb
    split at hb
    · rcases List.mem_cons.1 hb with rfl | hb
      · exact hcurrent
      · exact ih hnext rfl (hstart (number + 1) hlt) b hb
    · next hseparator =>
      split at hb
      · next hnone =>
        rw [← hnumber] at hhere hnone
        exact ih hnext (next_addLine hnumber line)
          (hline current line hcurrent hhere hnone (Bool.eq_false_iff.2 hseparator)) b hb
      · next d hsome =>
        split at hb
        · rcases List.mem_cons.1 hb with rfl | hb
          · exact hcurrent
          · -- Nothing was read of a block that the directive begins.
            rw [← hnew] at hhere hsome
            exact ih hnext (next_addDirective hnew d)
              (hdirective (startingAt number) line d (hstart number (Nat.le_of_lt hlt)) hhere hsome
                fun _ => rfl) b hb
        · next hfree =>
          rw [← hnumber] at hhere hsome
          refine ih hnext (next_addDirective hnumber d)
            (hdirective current line d hcurrent hhere hsome fun hkey => ?_) b hb
          exact Bool.eq_false_iff.2 fun htaken => hfree ⟨hkey, htaken⟩

/-- What holds of blocks without lines, and is kept when a line or a directive is added, holds of
all scene blocks of a text. -/
theorem forall_mem_ofText {text : List Char} {P : Scene.Block → Prop}
    (hstart : ∀ k ≤ (Text.lines text).length, P (startingAt k))
    (hline : ∀ (c : Scene.Block) (line : Line), P c →
      (Text.lines text)[c.offset + c.lines.length]? = some line →
        Directive.ofLine? (c.offset + c.lines.length) line = none → P (c.addLine line))
    (hdirective : ∀ (c : Scene.Block) (line : Line) (d : Directive), P c →
      (Text.lines text)[c.offset + c.lines.length]? = some line →
        Directive.ofLine? (c.offset + c.lines.length) line = some d →
          (d.key = .scene → c.isTaken = false) → P (c.addDirective d))
    (h : b ∈ ofText text) : P b := by
  have hall : b ∈ ofLines (Text.lines text) := by
    rw [ofText] at h
    split at h
    · exact List.mem_of_mem_take h
    · exact (List.mem_filter.1 h).1
  exact forall_mem_split hstart (fun c line hc hhere hnone _ => hline c line hc hhere hnone)
    hdirective rfl rfl (hstart 0 (Nat.zero_le _)) b hall

/-! ## Where the lines of a block come from -/

/-- The lines of the block stand in a text at their place, but for the directives. -/
def CutFrom (text : List Line) (b : Scene.Block) : Prop :=
  ∀ (i : Nat) (line : Line), b.lines[i]? = some line →
    line = [] ∨ text[b.offset + i]? = some line

/-- A block with one more line holds lines of a text if that line is empty or the next one. -/
theorem CutFrom.concat {text : List Line} {line : Line} (h : b.CutFrom text)
    (hline : line = [] ∨ text[b.offset + b.lines.length]? = some line) (ds : List Directive) :
    CutFrom text ⟨b.offset, b.lines ++ [line], ds⟩ := by
  exact Text.forall_getElem?_concat h hline

/-- The scene blocks of a text hold its lines at their place. -/
theorem cutFrom_of_mem_ofText {text : List Char} (h : b ∈ ofText text) :
    b.CutFrom (Text.lines text) := by
  refine forall_mem_ofText (fun k _ i line hline => ?_) (fun c line hc hhere _ => ?_)
    (fun c line d hc _ _ _ => ?_) h
  · simp [startingAt] at hline
  · exact hc.concat (.inr hhere) c.directives
  · exact hc.concat (.inl rfl) (c.directives ++ [d])

end Scene.Block

end Wireframe
