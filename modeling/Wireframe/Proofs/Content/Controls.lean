import Wireframe.Proofs.Content.Ticks

/-!
# Rows of controls

Labels in brackets and between quotation marks that are written on a row, with spaces around them,
are read as one row of buttons and links (`interiorRow_written`). The brackets and quotation marks
of a label end where it ends, whatever stands behind it, so the segments of the row are the labels
as they are written, each where it was written (`scan_written`).
-/

namespace Wireframe

/-- A label as it is written to be a button or a link. It is not blank, and it does not hold the
marks around it. -/
inductive Token where
  /-- A button: `[label]`. -/
  | button (label : Line) (hopening : '[' ∉ label) (hclosing : ']' ∉ label)
    (hfilled : Text.allBlank label = false)
  /-- A link: `"label"`. -/
  | link (label : Line) (hquote : '"' ∉ label) (hfilled : Text.allBlank label = false)

namespace Token

/-- The characters of a token. -/
def text : Token → Line
  | button label _ _ _ => '[' :: (label ++ [ ']'])
  | link label _ _ => '"' :: (label ++ [ '"'])

/-- Tokens as they are written on a row, each behind a number of spaces. -/
def written : List (Nat × Token) → Line
  | [] => []
  | (gap, t) :: rest => List.replicate gap ' ' ++ (t.text ++ written rest)

/-- The columns of the first characters of tokens that are written from a column on. -/
def placed (col : Nat) : List (Nat × Token) → List (Nat × Token)
  | [] => []
  | (gap, t) :: rest => (col + gap, t) :: placed (col + gap + t.text.length) rest

/-- A token is read as an element: a button or a link with its trimmed label at a position. -/
inductive ReadAs (p : Position) : Token → Element → Prop where
  /-- A label in brackets is read as a button. -/
  | button {label : Line} (hopening : '[' ∉ label) (hclosing : ']' ∉ label)
    (hfilled : Text.allBlank label = false) (b : Button)
    (htext : b.text = String.ofList (Text.trim label)) (hposition : b.position = p) :
    ReadAs p (.button label hopening hclosing hfilled) (.button b)
  /-- A label between quotation marks is read as a link. -/
  | link {label : Line} (hquote : '"' ∉ label) (hfilled : Text.allBlank label = false) (l : Link)
    (htext : l.text = String.ofList (Text.trim label)) (hposition : l.position = p) :
    ReadAs p (.link label hquote hfilled) (.link l)

/-- A token has characters. -/
theorem text_ne_nil (t : Token) : t.text ≠ [] := by
  cases t <;> exact List.cons_ne_nil _ _

/-! ## Segments -/

/-- Of a label and its closing mark, what is inside the marks is the label. -/
theorem takeWhile_label {label : Line} {closing : Char} {inside : Char → Bool} (rest : Line)
    (hlabel : ∀ c ∈ label, inside c = true) (hclosing : inside closing = false) :
    (label ++ closing :: rest).takeWhile inside = label := by
  rw [List.takeWhile_append_of_pos hlabel, List.takeWhile_cons, hclosing, if_neg Bool.false_ne_true,
    List.append_nil]

/-- The label of a button is what is inside its brackets. -/
theorem takeWhile_bracketed {label : Line} (hopening : '[' ∉ label) (hclosing : ']' ∉ label)
    (rest : Line) :
    ((label ++ ']' :: rest).takeWhile fun c => c != '[' && c != ']') = label := by
  refine takeWhile_label rest (fun c hc => ?_) (by decide)
  simpa using ⟨fun h => hopening (h ▸ hc), fun h => hclosing (h ▸ hc)⟩

/-- The label of a link is what is inside its quotation marks. -/
theorem takeWhile_quoted {label : Line} (hquote : '"' ∉ label) (rest : Line) :
    ((label ++ '"' :: rest).takeWhile fun c => c != '"') = label := by
  refine takeWhile_label rest (fun c hc => ?_) (by decide)
  simpa using fun h : c = '"' => hquote (h ▸ hc)

/-- A token is the segment at the start of any line that begins with it. -/
theorem lengthAt_text_append (t : Token) (rest : Line) :
    Segment.lengthAt (t.text ++ rest) = t.text.length := by
  cases t with
  | button label hopening hclosing hfilled =>
    simp [text, Segment.lengthAt, Segment.enclosed, takeWhile_bracketed hopening hclosing]
  | link label hquote hfilled =>
    simp [text, Segment.lengthAt, Segment.enclosed, takeWhile_quoted hquote]

end Token

/-- Spaces are blank. -/
theorem Text.allBlank_replicate_space (n : Nat) : allBlank (List.replicate n ' ') = true := by
  rw [allBlank, List.all_replicate, show isBlank ' ' = true by decide]
  split <;> rfl

namespace Segment

variable {cs rest : Line}

/-- What belongs to a segment that was found before is passed. -/
theorem scan_skip (passed skip : Nat) (cs : Line) :
    scan passed skip cs = scan (passed + skip) 0 (cs.drop skip) := by
  induction cs generalizing passed skip with
  | nil => rw [List.drop_nil, scan, scan]
  | cons c cs ih =>
    cases skip with
    | zero => rfl
    | succ skip =>
      have hnext : passed + 1 + skip = passed + (skip + 1) := by omega
      rw [scan, ih, List.drop_succ_cons, hnext]

/-- The segment at the start of a line is the first one, and the others are those of what stands
behind it. -/
theorem scan_of_lengthAt (passed : Nat) (hcs : cs ≠ [])
    (hlength : lengthAt (cs ++ rest) = cs.length) :
    scan passed 0 (cs ++ rest) = ⟨passed, cs⟩ :: scan (passed + cs.length) 0 rest := by
  obtain ⟨c, cs, rfl⟩ := List.exists_cons_of_ne_nil hcs
  rw [List.cons_append, List.length_cons] at hlength
  have hnext : passed + 1 + cs.length = passed + (c :: cs).length := by
    rw [List.length_cons]
    omega
  have htext : (c :: (cs ++ rest)).take (cs.length + 1) = c :: cs := by simp
  rw [List.cons_append, scan, hlength]
  dsimp only
  rw [htext, scan_skip, List.drop_left, hnext]

/-- The segments of a row of tokens are the tokens. -/
theorem scan_written (passed : Nat) (slots : List (Nat × Token)) :
    scan passed 0 (Token.written slots) =
      (Token.placed passed slots).map fun x => ⟨x.1, x.2.text⟩ := by
  induction slots generalizing passed with
  | nil => rfl
  | cons slot slots ih =>
    obtain ⟨gap, t⟩ := slot
    rw [Token.written, scan_blanks_append (Text.allBlank_replicate_space gap),
      List.length_replicate, scan_of_lengthAt _ t.text_ne_nil (t.lengthAt_text_append _), ih,
      Token.placed, List.map_cons]

end Segment

namespace Token

variable {t : Token} {p : Position} {slots : List (Nat × Token)} {e : Element}

/-! ## Reading a token -/

/-- A button is a bracketed form. -/
theorem bracketed?_button {label : Line} (hopening : '[' ∉ label) (hclosing : ']' ∉ label) :
    Form.bracketed? ('[' :: (label ++ [ ']'])) = some label := by
  simp [Form.bracketed?, takeWhile_bracketed hopening hclosing, Form.atEnd]

/-- A link is a quoted form. -/
theorem quotedText?_link {label : Line} (hquote : '"' ∉ label)
    (hfilled : Text.allBlank label = false) :
    Form.quotedText? ('"' :: (label ++ [ '"'])) = some label := by
  have hne : label ≠ [] := by
    rintro rfl
    exact absurd hfilled (by decide)
  simp [Form.quotedText?, takeWhile_quoted hquote, Form.atEnd, hne]

/-- A token begins as a control does. -/
theorem head?_text (t : Token) : t.text.head? = some '[' ∨ t.text.head? = some '"' := by
  cases t with
  | button => exact .inl rfl
  | link => exact .inr rfl

/-- There is nothing wrong with a token. -/
theorem syntaxProblem_text (t : Token) (p : Position) : Reader.syntaxProblem t.text p = [] := by
  cases t with
  | button label hopening hclosing hfilled =>
    simp [Reader.syntaxProblem, text, bracketed?_button hopening hclosing, hfilled]
  | link label hquote hfilled => simp [Reader.syntaxProblem, text, Form.bracketed?]

/-- All recognizers together read a token as a button or a link with its label. -/
theorem readAs_readWith_all (t : Token) (p : Position) (container : Bounds) :
    t.ReadAs p (Recognizer.readWith Recognizer.all t.text p container) := by
  have hlabel : ∀ {label : Line}, Text.allBlank label = false → Text.trim label ≠ [] := by
    intro label hfilled
    rw [Ne, Text.trim_eq_nil_iff, hfilled]
    decide
  unfold Recognizer.readWith
  rw [Recognizer.inOrder_all]
  cases t with
  | button label hopening hclosing hfilled =>
    obtain ⟨b, hread, htext, hposition⟩ : ∃ b : Button,
        Recognizer.button.read ('[' :: (label ++ [ ']'])) p container = some (.button b) ∧
          b.text = String.ofList (Text.trim label) ∧ b.position = p := by
      simp [Recognizer.read, bracketed?_button hopening hclosing, hlabel hfilled]
    rw [text, List.findSome?_cons, hread]
    exact .button hopening hclosing hfilled b htext hposition
  | link label hquote hfilled =>
    obtain ⟨l, hread, htext, hposition⟩ : ∃ l : Link,
        Recognizer.link.read ('"' :: (label ++ [ '"'])) p container = some (.link l) ∧
          l.text = String.ofList (Text.trim label) ∧ l.position = p := by
      simp [Recognizer.read, quotedText?_link hquote hfilled, hlabel hfilled]
    -- The forms that are tried before begin with other characters.
    have hrefused : ∀ rec ∈ [Recognizer.button, .input, .checkbox],
        rec.read ('"' :: (label ++ [ '"'])) p container = none := by
      simp [Recognizer.read, Form.bracketed?, Form.field?, Form.tickBox?]
    obtain ⟨hbutton, hrefused⟩ := List.forall_mem_cons.1 hrefused
    obtain ⟨hinput, hcheckbox⟩ := List.forall_mem_cons.1 hrefused
    rw [text, List.findSome?_cons, hbutton, List.findSome?_cons, hinput, List.findSome?_cons,
      List.forall_mem_singleton.1 hcheckbox, List.findSome?_cons, hread]
    exact .link hquote hfilled l htext hposition

/-- What a token is read as is a button or a link. -/
theorem ReadAs.isControl (h : t.ReadAs p e) : e.isControl = true := by
  cases h <;> rfl

/-- Further down a token is read as the same element, further down. -/
theorem ReadAs.shifted (h : t.ReadAs p e) (rows : Int) :
    t.ReadAs (p.shifted rows) (e.shifted rows) := by
  cases h with
  | button hopening hclosing hfilled b htext hposition =>
    exact .button hopening hclosing hfilled _ htext (congrArg (·.shifted rows) hposition)
  | link hquote hfilled l htext hposition =>
    exact .link hquote hfilled _ htext (congrArg (·.shifted rows) hposition)

/-! ## Where tokens stand -/

/-- A row of tokens is neither blank nor a divider. -/
theorem exists_mem_written (hne : slots ≠ []) :
    ∃ c ∈ written slots, c ≠ '=' ∧ Text.isBlank c = false := by
  obtain ⟨⟨gap, t⟩, rest, rfl⟩ := List.exists_cons_of_ne_nil hne
  have hmem : ∀ c, t.text.head? = some c → c ∈ written ((gap, t) :: rest) := fun c hc =>
    List.mem_append_right _ (List.mem_append_left _ (List.mem_of_head? hc))
  rcases t.head?_text with hopening | hquote
  · exact ⟨'[', hmem _ hopening, by decide⟩
  · exact ⟨'"', hmem _ hquote, by decide⟩

/-- Each of several tokens has a column. -/
theorem length_placed (col : Nat) (slots : List (Nat × Token)) :
    (placed col slots).length = slots.length := by
  induction slots generalizing col with
  | nil => rfl
  | cons slot slots ih => rw [placed, List.length_cons, List.length_cons, ih]

/-- Behind more characters, tokens stand further to the right. -/
theorem placed_add (before col : Nat) (slots : List (Nat × Token)) :
    placed (before + col) slots = (placed col slots).map fun x => (before + x.1, x.2) := by
  induction slots generalizing col with
  | nil => rfl
  | cons slot slots ih =>
    obtain ⟨gap, t⟩ := slot
    rw [placed, placed, List.map_cons, Nat.add_assoc, Nat.add_assoc, ih, Nat.add_assoc]

/-- Tokens stand in their columns. -/
theorem prefix_drop_of_mem_placed {before after : Line} {x : Nat × Token}
    (hx : x ∈ placed before.length slots) :
    x.2.text <+: (before ++ (written slots ++ after)).drop x.1 := by
  induction slots generalizing before with
  | nil => exact absurd hx List.not_mem_nil
  | cons slot slots ih =>
    obtain ⟨gap, t⟩ := slot
    have hsplit : before ++ (written ((gap, t) :: slots) ++ after) =
        (before ++ List.replicate gap ' ') ++ (t.text ++ (written slots ++ after)) := by
      simp only [written, List.append_assoc]
    have hcolumn : before.length + gap = (before ++ List.replicate gap ' ').length := by
      rw [List.length_append, List.length_replicate]
    rw [placed, List.mem_cons, hcolumn] at hx
    rw [hsplit]
    rcases hx with rfl | hx
    · rw [List.drop_left]
      exact List.prefix_append _ _
    · -- For the tokens behind it, the first one is part of what stands in front.
      rw [← List.length_append] at hx
      rw [← List.append_assoc]
      exact ih hx

end Token

/-- A part of a line without tabs is what the grid has in the columns of that part. -/
theorem Grid.rowChars_of_split {lines : List Line} {row : Nat} {before content after : Line}
    (hline : lines[row]? = some (before ++ (content ++ after))) (htabs : '\t' ∉ content) :
    (ofLines lines).rowChars row before.length
      (some ((before.length + content.length : Nat) : Int)) = content := by
  rw [rowChars_ofLines hline (by omega) (by simp), ← List.append_assoc, ← List.length_append,
    List.take_left, List.drop_left]
  exact Text.untab_of_not_mem htabs

namespace Reader

variable {row : Int} {b : Bounds} {slots : List (Nat × Token)}

/-- A row of several tokens is read as a row of buttons and links, and nothing is wrong with it. -/
theorem exists_contentRow_written (g : Grid) (offset row : Int) (b : Bounds)
    (hseveral : 2 ≤ slots.length) (spaces : Nat) :
    ∃ parts align, (⟨g, offset, Recognizer.all⟩ : Reader).contentRow row b
        (Token.written slots ++ List.replicate spaces ' ') = ⟨[.row parts align], []⟩ ∧
      List.Forall₂ (fun x e => x.2.ReadAs ⟨row + offset, b.left + 1 + x.1⟩ e)
        (Token.placed 0 slots) parts := by
  set r : Reader := ⟨g, offset, Recognizer.all⟩ with hr
  set text : Line := Token.written slots ++ List.replicate spaces ' ' with htext
  have hsegments : Segment.ofLine text =
      (Token.placed 0 slots).map fun x => ⟨x.1, x.2.text⟩ := by
    rw [htext, Segment.ofLine, Segment.scan_append (Text.allBlank_replicate_space spaces),
      Segment.scan_written]
  have hread : ∀ x : Nat × Token, x.2.ReadAs ⟨row + offset, b.left + 1 + x.1⟩
      (r.element x.2.text row (b.left + 1 + x.1) b) := fun x =>
    (x.2.readAs_readWith_all ⟨row, b.left + 1 + x.1⟩ b).shifted offset
  have hopens : 2 ≤ (Segment.ofLine text).length ∧
      (Segment.ofLine text).all Segment.opensControl = true := by
    rw [hsegments, List.length_map, Token.length_placed, List.all_map, List.all_eq_true]
    exact ⟨hseveral, fun x _ => Segment.opensControl_iff.2 x.2.head?_text⟩
  have hcontrols : ((Segment.ofLine text).map fun s =>
      r.element s.text row (b.left + 1 + s.start) b).all Element.isControl = true := by
    rw [hsegments, List.all_map, List.all_map, List.all_eq_true]
    exact fun x _ => (hread x).isControl
  have hproblems : ((Segment.ofLine text).flatMap fun s =>
      syntaxProblem s.text (r.place row (b.left + 1 + s.start))) = [] := by
    rw [hsegments, List.flatMap_map]
    exact List.flatMap_eq_nil_iff.2 fun x _ => x.2.syntaxProblem_text _
  unfold contentRow
  dsimp only
  rw [if_pos hopens, if_pos hcontrols, hproblems]
  refine ⟨_, _, rfl, ?_⟩
  rw [hsegments, List.map_map, List.forall₂_map_right_iff, List.forall₂_same]
  exact fun x _ => hread x

/-- Where no box inside covers a row with something else than divider pieces and blanks on it, the
row gives what its content gives. -/
theorem interiorRow_eq_contentRow {inner : List Inner} {text : Line} {c : Char} (r : Reader)
    (htext : r.grid.rowChars row (b.left + 1) (some b.right) = text) (hc : c ∈ text)
    (hmixed : c ≠ '=') (hfilled : Text.isBlank c = false)
    (hinner : ∀ i ∈ inner, i.bounds.bottom < row ∨ row < i.bounds.top)
    (hvalid : ∀ i ∈ inner, i.bounds.top ≤ i.bounds.bottom) :
    r.interiorRow b inner row = r.contentRow row b text := by
  have huncovered : (inner.any fun i =>
      decide (i.bounds.top ≤ row) && decide (row ≤ i.bounds.bottom)) = false := by
    rw [List.any_eq_false]
    intro i hi
    have := hinner i hi
    simp only [Bool.and_eq_true, decide_eq_true_eq]
    omega
  have hbegun : inner.filter (fun i => decide (i.bounds.top = row)) = [] := by
    rw [List.filter_eq_nil_iff]
    intro i hi
    have := hinner i hi
    have := hvalid i hi
    simp only [decide_eq_true_eq]
    omega
  have hdivider : r.grid.isDividerRow b row = false :=
    Grid.isDividerRow_eq_false (htext ▸ hc) hmixed
  have hblank : Text.allBlank text = false := by
    rw [Text.allBlank, List.all_eq_false]
    exact ⟨c, hc, by simp [hfilled]⟩
  unfold interiorRow
  dsimp only
  rw [huncovered, hbegun, hdivider, Reader.row, htext, hblank]
  simp [sortBy, Reading.concat, Reading.append, Reading.empty]

/-- Tokens that are written on a row of a box, with any number of spaces in front of each and behind
the last, are read as one row of buttons and links with their labels, each where it stands in the
text. Nothing is wrong with the row. -/
theorem interiorRow_written {lines : List Line} {row : Nat} {before after : Line}
    {inner : List Inner} (offset : Int) (spaces : Nat) (hseveral : 2 ≤ slots.length)
    (htabs : '\t' ∉ Token.written slots)
    (hline : lines[row]? =
      some (before ++ (Token.written slots ++ List.replicate spaces ' ' ++ after)))
    (hleft : b.left + 1 = before.length)
    (hright : b.right =
      before.length + (Token.written slots ++ List.replicate spaces ' ').length)
    (hinner : ∀ i ∈ inner, i.bounds.bottom < row ∨ row < i.bounds.top)
    (hvalid : ∀ i ∈ inner, i.bounds.top ≤ i.bounds.bottom) :
    ∃ parts align, (⟨Grid.ofLines lines, offset, Recognizer.all⟩ : Reader).interiorRow b inner row =
        ⟨[.row parts align], []⟩ ∧
      List.Forall₂ (fun x e => Text.StandsAt lines ⟨row, x.1⟩ x.2.text ∧
        x.2.ReadAs ⟨row + offset, x.1⟩ e) (Token.placed before.length slots) parts := by
  set content : Line := Token.written slots ++ List.replicate spaces ' ' with hcontent
  have hchars : (Grid.ofLines lines).rowChars row (b.left + 1) (some b.right) = content := by
    rw [hleft, hright]
    refine Grid.rowChars_of_split hline fun htab => ?_
    rcases List.mem_append.1 htab with htab | htab
    · exact htabs htab
    · exact absurd (List.eq_of_mem_replicate htab) (by decide)
  have hne : slots ≠ [] := List.ne_nil_of_length_pos (by omega)
  obtain ⟨c, hc, hmixed, hfilled⟩ := Token.exists_mem_written hne
  obtain ⟨parts, align, hread, hparts⟩ :=
    exists_contentRow_written (Grid.ofLines lines) offset row b hseveral spaces
  refine ⟨parts, align, ?_, ?_⟩
  · have hmem : c ∈ content := List.mem_append_left _ hc
    rw [interiorRow_eq_contentRow _ hchars hmem hmixed hfilled hinner hvalid]
    exact hread
  · rw [List.forall₂_and_left]
    refine ⟨fun x hx => ⟨row, x.1, _, rfl, hline, ?_⟩, ?_⟩
    · rw [hcontent, List.append_assoc]
      exact Token.prefix_drop_of_mem_placed hx
    · have hplaced := Token.placed_add before.length 0 slots
      rw [Nat.add_zero] at hplaced
      rw [hplaced, List.forall₂_map_left_iff]
      simpa only [hleft, Nat.cast_add] using hparts

/-- A button with a quotation mark in its label and a link with brackets in its text. -/
def buttonAndLink : List (Nat × Token) :=
  [(1, .button " say \"a".toList (by decide) (by decide) (by decide)),
    (2, .link "b [c]".toList (by decide) (by decide))]

/-- A drawing of a box with a button and a link on its row. -/
def buttonAndLinkLines : List Line :=
  ["+----------------------+".toList, "| [ say \"a]  \"b [c]\"   |".toList,
    "+----------------------+".toList]

/-- A button and a link are read though either has the marks of the other one in its label. -/
theorem interiorRow_written_button_and_link :
    ∃ parts align, (⟨Grid.ofLines buttonAndLinkLines, 4, Recognizer.all⟩ : Reader).interiorRow
        ⟨0, 0, 2, 23⟩ [] (1 : Nat) = ⟨[.row parts align], []⟩ ∧
      List.Forall₂ (fun x e => Text.StandsAt buttonAndLinkLines ⟨(1 : Nat), x.1⟩ x.2.text ∧
        x.2.ReadAs ⟨(1 : Nat) + 4, x.1⟩ e) (Token.placed 1 buttonAndLink) parts := by
  have hline : buttonAndLinkLines[1]? =
      some ([ '|'] ++ (Token.written buttonAndLink ++ List.replicate 3 ' ' ++ [ '|'])) := by
    decide +kernel
  exact interiorRow_written 4 3 (by decide) (by decide +kernel) hline (by decide)
    (by decide +kernel) (by decide) (by decide)

end Reader

end Wireframe
