import Wireframe.Proofs.Compose
import Wireframe.Proofs.Places

/-!
# Drawing one box

A box with rows of text inside, all of one width, and maybe a name, is drawn as a text: a top edge
with the name, the rows between their sides, and a bottom edge (`Frame.text`). Every line is some
content between two equal characters (`fenced`), so that a drawing is looked up character by
character with `getElem?_fenced_iff`. The text is cut into its lines as they were drawn
(`linesOf_text`) and is one scene block, whatever stands in the rows (`blocksOf_text`).
-/

namespace Wireframe

/-- A line may be a row of a box of some width. -/
structure IsRow (width : Nat) (row : Line) : Prop where
  /-- It is as long as the box is wide. -/
  length : row.length = width
  /-- It holds no corner, no tab and no end of a line. -/
  plain : ∀ c ∈ row, c ∉ ['+', '\t', '\r', '\n']

/-- A line may be the name of a box of some width. -/
structure IsName (width : Nat) (name : Line) : Prop where
  /-- It is something. -/
  ne_nil : name ≠ []
  /-- There are no blanks at its ends. -/
  trimmed : Text.trim name = name
  /-- It holds nothing that ends a top edge, no tab and no end of a line. -/
  plain : ∀ c ∈ name, c ∉ ['+', '|', '=', '\t', '\r', '\n']
  /-- It fits into the top edge behind three dashes, with a blank on both sides. -/
  fits : name.length + 5 ≤ width

/-- Whether a line may be a row is decided by its characters. -/
instance (width : Nat) (row : Line) : Decidable (IsRow width row) :=
  decidable_of_iff
    (row.length = width ∧ (row.all fun c => decide (c ∉ ['+', '\t', '\r', '\n'])) = true) <| by
    simp only [List.all_eq_true, decide_eq_true_eq]
    exact ⟨fun ⟨hlength, hplain⟩ => ⟨hlength, hplain⟩, fun h => ⟨h.length, h.plain⟩⟩

/-- Whether a line may be a name is decided by its characters. -/
instance (width : Nat) (name : Line) : Decidable (IsName width name) :=
  decidable_of_iff
    ((name ≠ [] ∧ Text.trim name = name) ∧
      (name.all fun c => decide (c ∉ ['+', '|', '=', '\t', '\r', '\n'])) = true ∧
        name.length + 5 ≤ width) <| by
    simp only [List.all_eq_true, decide_eq_true_eq]
    exact ⟨fun ⟨⟨hfilled, htrimmed⟩, hplain, hfits⟩ => ⟨hfilled, htrimmed, hplain, hfits⟩,
      fun h => ⟨⟨h.ne_nil, h.trimmed⟩, h.plain, h.fits⟩⟩

/-- A box to be drawn. -/
structure Frame where
  /-- The number of columns inside. -/
  width : Nat
  /-- The rows inside, from top to bottom. -/
  rows : List Line
  /-- The name, if there is one. -/
  name : Option Line
  /-- There is a column inside. -/
  width_pos : 0 < width
  /-- There is a row inside. -/
  rows_ne_nil : rows ≠ []
  /-- The rows may be rows of the box. -/
  isRow : ∀ row ∈ rows, IsRow width row
  /-- The name may be the name of the box. -/
  isName : ∀ line, name = some line → IsName width line

/-- Content between two equal characters. -/
def fenced (c : Char) (content : Line) : Line := c :: (content ++ [c])

namespace Frame

/-- What is written into a top edge: the name between blanks, behind three dashes. -/
def label : Option Line → Line
  | none => []
  | some name => "---".toList ++ fenced ' ' name

/-- What stands between the corners of an edge: a label, and dashes behind it. -/
def edge (width : Nat) (label : Line) : Line := label.rightpad width '-'

variable (f : Frame)

/-- The lines of the drawing. -/
def lines : List Line :=
  fenced '+' (edge f.width (label f.name)) ::
    (f.rows.map (fenced '|') ++ [fenced '+' (edge f.width [])])

/-- The drawing. -/
def text : String := Text.block f.lines

/-- The rectangle that is drawn. -/
def bounds : Bounds := ⟨0, 0, f.rows.length + 1, f.width + 1⟩

/-- The box that is drawn. -/
def box : Box := ⟨f.bounds, f.name.map String.ofList⟩

end Frame

/-! ## Lines between two equal characters -/

section Fenced

variable {c d : Char} {content : Line} {k : Nat}

/-- A character of a fenced line is one of its ends or a character of the content. -/
theorem getElem?_fenced_iff :
    (fenced c content)[k]? = some d ↔
      ((k = 0 ∨ k = content.length + 1) ∧ d = c) ∨ ∃ j, k = j + 1 ∧ content[j]? = some d := by
  unfold fenced
  cases k with
  | zero => simp [eq_comm]
  | succ j =>
    rw [List.getElem?_cons_succ, List.getElem?_append]
    split
    · next hlt =>
      constructor
      · exact fun h => .inr ⟨j, rfl, h⟩
      · rintro (⟨hend, -⟩ | ⟨i, hi, h⟩)
        · omega
        · obtain rfl : j = i := by omega
          exact h
    · next hge =>
      constructor
      · intro h
        obtain ⟨hlast, hd⟩ := List.getElem?_eq_some_iff.1 h
        rw [List.length_singleton] at hlast
        simp only [List.getElem_singleton] at hd
        exact .inl ⟨.inr (by omega), hd.symm⟩
      · rintro (⟨hend, rfl⟩ | ⟨i, hi, h⟩)
        · obtain rfl : j = content.length := by omega
          simp
        · have hlt := (List.getElem?_eq_some_iff.1 h).1
          omega

/-- A fenced line holds its ends and its content. -/
theorem mem_fenced_iff : d ∈ fenced c content ↔ d = c ∨ d ∈ content := by
  simp [fenced, or_comm]

end Fenced

namespace Frame

variable {f : Frame} {label line : Line} {c : Char} {k : Nat}

/-- A row is something. -/
theorem row_ne_nil (h : line ∈ f.rows) : line ≠ [] := by
  have hpos := f.width_pos
  rw [← (f.isRow line h).length] at hpos
  exact List.length_pos_iff.1 hpos

/-! ## Edges -/

/-- An edge is as long as the box is wide. -/
theorem length_edge {width : Nat} (hfits : label.length ≤ width) :
    (edge width label).length = width := by
  unfold edge List.rightpad
  rw [List.length_append, List.length_replicate]
  omega

/-- A character of an edge is one of the label or a dash. -/
theorem mem_edge {width : Nat} (h : c ∈ edge width label) : c ∈ label ∨ c = '-' := by
  unfold edge List.rightpad at h
  rcases List.mem_append.1 h with h | h
  · exact .inl h
  · exact .inr (List.eq_of_mem_replicate h)

/-- The name fits into the top edge. -/
theorem length_label_le (f : Frame) : (Frame.label f.name).length ≤ f.width := by
  cases hname : f.name with
  | none => exact Nat.zero_le _
  | some name =>
    have hfits := (f.isName name hname).fits
    have hlength : (Frame.label (some name)).length = name.length + 5 := by
      simp [Frame.label, fenced]
    omega

/-- No character of a top edge ends it, is a tab or ends a line. -/
theorem plain_of_mem_edge (h : c ∈ edge f.width (Frame.label f.name)) :
    c ∉ ['+', '|', '=', '\t', '\r', '\n'] := by
  rcases mem_edge h with hlabel | rfl
  · cases hname : f.name with
    | none =>
      rw [hname] at hlabel
      simp [Frame.label] at hlabel
    | some name =>
      rw [hname] at hlabel
      unfold Frame.label at hlabel
      rw [List.mem_append, mem_fenced_iff] at hlabel
      rcases hlabel with hdash | rfl | hinside
      · obtain rfl : c = '-' := by simpa using hdash
        decide
      · decide
      · exact (f.isName name hname).plain c hinside
  · decide

/-- A top edge begins with a dash. -/
theorem head?_edge (f : Frame) : (edge f.width (Frame.label f.name)).head? = some '-' := by
  unfold edge List.rightpad
  cases f.name with
  | none =>
    obtain ⟨n, hn⟩ : ∃ n, f.width = n + 1 := ⟨f.width - 1, by have := f.width_pos; omega⟩
    simp [Frame.label, hn, List.replicate_succ]
  | some name => rfl

/-! ## Lines of the drawing -/

/-- What a line of a drawing is. -/
inductive LineAt (f : Frame) : Nat → Line → Prop where
  /-- The first line is the top edge. -/
  | top : LineAt f 0 (fenced '+' (edge f.width (Frame.label f.name)))
  /-- The rows follow, between their sides. -/
  | row (i : Nat) (row : Line) (hrow : f.rows[i]? = some row) : LineAt f (i + 1) (fenced '|' row)
  /-- The last line is the bottom edge. -/
  | bottom : LineAt f (f.rows.length + 1) (fenced '+' (edge f.width []))

/-- There is no line below the bottom edge. -/
theorem LineAt.le (h : f.LineAt k line) : k ≤ f.rows.length + 1 := by
  cases h with
  | top => omega
  | row i row hrow =>
    have hlt := (List.getElem?_eq_some_iff.1 hrow).1
    omega
  | bottom => omega

/-- The lines of a drawing are its edges and its rows. -/
theorem getElem?_lines_iff : f.lines[k]? = some line ↔ f.LineAt k line := by
  unfold lines
  constructor
  · intro h
    cases k with
    | zero =>
      rw [List.getElem?_cons_zero, Option.some.injEq] at h
      exact h ▸ .top
    | succ i =>
      rw [List.getElem?_cons_succ, List.getElem?_append, List.length_map] at h
      split at h
      · rw [List.getElem?_map, Option.map_eq_some_iff] at h
        obtain ⟨row, hrow, rfl⟩ := h
        exact .row i row hrow
      · next hge =>
        obtain ⟨hlast, hline⟩ := List.getElem?_eq_some_iff.1 h
        rw [List.length_singleton] at hlast
        simp only [List.getElem_singleton] at hline
        obtain rfl : i = f.rows.length := by omega
        exact hline ▸ .bottom
  · intro h
    cases h with
    | top => rfl
    | row i row hrow =>
      have hlt : i < (f.rows.map (fenced '|')).length := by
        rw [List.length_map]
        exact (List.getElem?_eq_some_iff.1 hrow).1
      rw [List.getElem?_cons_succ, List.getElem?_append_left hlt, List.getElem?_map, hrow]
      rfl
    | bottom => simp

/-- A line of a drawing is content between two corners or two sides, and the content is plain. -/
theorem exists_fenced_of_mem_lines (h : line ∈ f.lines) :
    ∃ c content, (c = '+' ∨ c = '|') ∧ line = fenced c content ∧
      ∀ d ∈ content, d ∉ ['\t', '\r', '\n'] := by
  obtain ⟨k, hk⟩ := List.mem_iff_getElem?.1 h
  cases getElem?_lines_iff.1 hk with
  | top =>
    refine ⟨'+', _, .inl rfl, rfl, fun d hd hmem => plain_of_mem_edge hd ?_⟩
    exact List.mem_cons_of_mem _ (List.mem_cons_of_mem _ (List.mem_cons_of_mem _ hmem))
  | row i row hrow =>
    refine ⟨'|', row, .inr rfl, rfl, fun d hd hmem => ?_⟩
    exact (f.isRow row (List.mem_of_getElem? hrow)).plain d hd (List.mem_cons_of_mem _ hmem)
  | bottom =>
    refine ⟨'+', _, .inl rfl, rfl, fun d hd => ?_⟩
    rcases mem_edge hd with hnone | rfl
    · simp at hnone
    · decide

/-- A drawing holds no tab, and its lines do not end early. -/
theorem not_mem_of_mem_lines (h : line ∈ f.lines) (hc : c ∈ ['\t', '\r', '\n']) : c ∉ line := by
  obtain ⟨d, content, hd, rfl, hplain⟩ := exists_fenced_of_mem_lines h
  rw [mem_fenced_iff]
  rintro (rfl | hcontent)
  · rcases hd with rfl | rfl <;> simp at hc
  · exact hplain c hcontent hc

end Frame

/-! ## The drawing as a text -/

/-- The first character that is not blank is where trimming begins. -/
theorem Text.trimLeft_cons {c : Char} (h : isBlank c = false) (line : Line) :
    trimLeft (c :: line) = c :: line := by
  simp [trimLeft, h]

/-- A line that begins with a character other than a dash separates nothing. -/
theorem Scene.Block.isSeparator_cons {c : Char} (hblank : Text.isBlank c = false) (hdash : c ≠ '-')
    (line : Line) : isSeparator (c :: line) = false := by
  obtain ⟨before, after, hline, hlength, -⟩ :=
    Reader.exists_blanks_trim (c :: line)
  rw [Text.trimLeft_cons hblank, Nat.sub_self, List.length_eq_zero_iff] at hlength
  rw [isSeparator, decide_eq_false_iff_not]
  intro htrim
  rw [hlength, htrim, List.nil_append, List.cons_append] at hline
  exact hdash (List.cons.inj hline).1

/-- A line that begins with a character other than an at sign is no directive. -/
theorem Directive.ofLine?_cons {c : Char} (hblank : Text.isBlank c = false) (hat : c ≠ '@')
    (number : Nat) (line : Line) : ofLine? number (c :: line) = none := by
  rw [ofLine?, Text.trimLeft_cons hblank]
  split
  · next rest heq => exact absurd (List.cons.inj heq).1 hat
  · rfl

/-- Lines among which there is neither a separator nor a directive belong to one block. -/
theorem Scene.Block.split_of_plain {lines : List Line}
    (h : ∀ line ∈ lines, isSeparator line = false ∧ ∀ number, Directive.ofLine? number line = none)
    (current : Scene.Block) (number : Nat) :
    split current number lines = [{ current with lines := current.lines ++ lines }] := by
  induction lines generalizing current number with
  | nil => simp [split]
  | cons line rest ih =>
    obtain ⟨hseparator, hdirective⟩ := h line List.mem_cons_self
    have hrest := ih fun l hl => h l (List.mem_cons_of_mem line hl)
    rw [split, if_neg (by simp [hseparator]), hdirective number]
    dsimp only
    rw [hrest]
    simp [addLine]

namespace Frame

variable (f : Frame)

/-- A drawing has no carriage return. -/
theorem return_not_mem_text : '\r' ∉ f.text.toList := by
  rw [text, Text.block, String.toList_ofList]
  intro h
  obtain ⟨line, hline, hc⟩ := (Text.mem_unlines_iff (by decide)).1 h
  exact not_mem_of_mem_lines hline (by simp) hc

/-- A drawing is cut into its lines. -/
theorem lines_text : Text.lines f.text.toList = f.lines :=
  Text.lines_block (List.cons_ne_nil _ _) fun _ hline => not_mem_of_mem_lines hline (by simp)

/-- A drawing is read line by line as it was drawn. -/
theorem linesOf_text : Analysis.linesOf f.text = f.lines := by
  rw [Analysis.linesOf_eq f.return_not_mem_text, lines_text]

/-- A drawing is one scene block, whatever stands in its rows. -/
theorem blocksOf_text : Analysis.blocksOf f.text = [⟨0, f.lines, []⟩] := by
  have hplain : ∀ line ∈ f.lines, Scene.Block.isSeparator line = false ∧
      ∀ number, Directive.ofLine? number line = none := by
    intro line hline
    obtain ⟨c, content, hc, rfl, -⟩ := exists_fenced_of_mem_lines hline
    have hfirst : Text.isBlank c = false ∧ c ≠ '-' ∧ c ≠ '@' := by
      rcases hc with rfl | rfl <;> decide
    exact ⟨Scene.Block.isSeparator_cons hfirst.1 hfirst.2.1 _, fun number =>
      Directive.ofLine?_cons hfirst.1 hfirst.2.2 number _⟩
  have hblock : Scene.Block.ofLines (Text.lines f.text.toList) = [⟨0, f.lines, []⟩] := by
    rw [lines_text, Scene.Block.ofLines, Scene.Block.split_of_plain hplain]
    rfl
  have hfilled : (⟨0, f.lines, []⟩ : Scene.Block).isEmpty = false := by
    have htop : Text.allBlank (fenced '+' (edge f.width (label f.name))) = false := by
      simp [fenced, Text.allBlank, show Text.isBlank '+' = false by decide]
    simp [Scene.Block.isEmpty, Scene.Block.hasContent, lines, htop]
  rw [Analysis.blocksOf_eq f.return_not_mem_text, Scene.Block.ofText_eq_filter, hblock]
  · simp [hfilled]
  · exact ⟨_, by rw [hblock]; exact List.mem_singleton_self _, hfilled⟩

/-- A drawing has no tabs to be told of. -/
theorem tabsIn_lines : Analysis.tabsIn f.lines = [] :=
  Analysis.tabsIn_eq_nil fun _ hline => not_mem_of_mem_lines hline (by simp)

end Frame

end Wireframe
