import Wireframe.Proofs.Detection.Alarms
import Wireframe.Proofs.Frame.Draw
import Wireframe.Proofs.Places.Inside

/-!
# Finding the box that was drawn

In the drawing of a box the only corners are those of the box (`cellIs_corner_iff`), since neither a
row nor a name holds one. So the box is drawn and no other one is (`draws_iff`), its name is read
off the top edge as it was given (`nameOf_edge`), and it is all that is found (`boxes_detect`).
Nothing is reported either (`problems_detect`): the only other corner at which a box might begin is
the bottom left one, and there is nothing below it. What stands in the rows has no part in this.
-/

namespace Wireframe

/-! ## Cells of lines -/

/-- What is no corner, no piece of a vertical edge and no piece of a divider may stand in a top
edge. -/
theorem Cell.kind_ofChar_of_plain {c : Char} (h : c ∉ ['+', '|', '=']) :
    (ofChar c).kind = .horizontal ∨ (ofChar c).kind = .space ∨ (ofChar c).kind = .ordinary := by
  simp only [List.mem_cons, List.not_mem_nil, or_false, not_or] at h
  unfold ofChar
  split_ifs <;> simp_all [Cell.kind]

namespace Grid

variable {lines : List Line} {chars : Line} {row col : Nat}

/-- What a scan to the right passes in a line is a part of the line. -/
theorem chars_scan_ofLines {accept : Cell → Bool} (hline : lines[row]? = some chars)
    (hfits : col + ((ofLines lines).scan .right ⟨row, col⟩ accept).length ≤ chars.length) :
    (((ofLines lines).scan .right ⟨row, col⟩ accept).map fun placed => placed.2.toChar) =
      Text.untab ((chars.drop col).take
        ((ofLines lines).scan .right ⟨row, col⟩ accept).length) := by
  refine List.ext_getElem (by simp [Text.untab]; omega) fun i hi _ => ?_
  rw [List.length_map] at hi
  obtain ⟨hplace, hcell, -⟩ := walk_eq_map _ _ _ _ _ (List.getElem?_eq_getElem hi)
  have hchar : chars[col + i]? = some chars[col + i] := List.getElem?_eq_getElem (by omega)
  have hcell' := get?_ofLines hline hchar
  have hstep : (⟨row, col⟩ : Position).step .right i = ⟨row, (col + i : Nat)⟩ := by
    simp [Position.step, Position.right]
  rw [hplace, hstep, hcell', Option.some.injEq] at hcell
  simp only [List.getElem_map, Text.untab, List.getElem_take, List.getElem_drop]
  rw [← hcell, Cell.toChar_ofChar]

end Grid

/-! ## Trimming -/

namespace Text

variable {c d : Char}

/-- A line without tabs is drawn as it is. -/
theorem untab_of_not_mem {line : Line} (h : '\t' ∉ line) : untab line = line :=
  (List.map_congr_left fun d hd => if_neg fun (htab : d = '\t') => h (htab ▸ hd)).trans
    (List.map_id line)

/-- Trimming by a character stops at the ends of a line between two other characters. -/
theorem trimChar_fenced (hne : d ≠ c) (m n : Nat) (content : Line) :
    trimChar c (List.replicate m c ++ fenced d content ++ List.replicate n c) =
      fenced d content := by
  have hdashes : ∀ k, ∀ a ∈ List.replicate k c, (a == c) = true := by
    intro k a ha
    simp [List.eq_of_mem_replicate ha]
  have hstop : ∀ line rest : Line,
      (fenced d line ++ rest).dropWhile (· == c) = fenced d line ++ rest :=
    fun line rest => List.dropWhile_cons_of_neg (by simpa using hne)
  have hreverse : ∀ line : Line, (fenced d line).reverse = fenced d line.reverse := by
    intro line
    simp [fenced]
  rw [trimChar, List.append_assoc, List.dropWhile_append_of_pos (hdashes m), hstop,
    List.reverse_append, List.reverse_replicate, List.dropWhile_append_of_pos (hdashes n), hreverse,
    ← List.append_nil (fenced d content.reverse), hstop, List.append_nil, hreverse,
    List.reverse_reverse]

/-- A line between two blanks is trimmed like the line itself. -/
theorem trim_fenced (hblank : isBlank c = true) (content : Line) :
    trim (fenced c content) = trim content := by
  have hright : ∀ line : Line, trimRight (line ++ [c]) = trimRight line := by
    intro line
    simp [trimRight, hblank]
  have hleft : trimLeft (fenced c content) = trimLeft (content ++ [c]) := by
    simp [trimLeft, fenced, hblank]
  rw [trim, trim, hleft, trimLeft, List.dropWhile_append]
  split
  · next hempty =>
    -- Of a blank line nothing is left either way.
    rw [trimLeft, List.isEmpty_iff.1 hempty]
    simp [hblank]
  · exact hright _

end Text

namespace Frame

variable {f : Frame} {p : Position} {b : Bounds} {radius : Int}

/-! ## The cells of a drawing -/

/-- The corners in a drawing are those of the box. -/
theorem cellIs_corner_iff :
    (Grid.ofLines f.lines).cellIs p .corner = true ↔ f.bounds.HasCorner p := by
  rw [Grid.cellIs_ofLines_iff rfl]
  unfold Bounds.HasCorner bounds
  constructor
  · rintro ⟨row, col, chars, rfl, hline, hchar⟩
    cases getElem?_lines_iff.1 hline with
    | top =>
      rcases getElem?_fenced_iff.1 hchar with ⟨hend, -⟩ | ⟨j, -, hinside⟩
      · rw [length_edge f.length_label_le] at hend
        exact ⟨.inl rfl, by simp only; omega⟩
      · exact absurd (by simp) (plain_of_mem_edge (List.mem_of_getElem? hinside))
    | row i line hrow =>
      rcases getElem?_fenced_iff.1 hchar with ⟨-, hside⟩ | ⟨j, -, hinside⟩
      · simp at hside
      · have hplain := (f.isRow line (List.mem_of_getElem? hrow)).plain '+'
        exact absurd (by simp) (hplain (List.mem_of_getElem? hinside))
    | bottom =>
      rcases getElem?_fenced_iff.1 hchar with ⟨hend, -⟩ | ⟨j, -, hinside⟩
      · rw [length_edge (Nat.zero_le _)] at hend
        exact ⟨.inr (by simp), by simp only; omega⟩
      · rcases mem_edge (List.mem_of_getElem? hinside) with hnone | hdash
        · simp at hnone
        · simp at hdash
  · obtain ⟨row, col⟩ := p
    rintro ⟨hrow, hcol⟩
    simp only at hrow hcol
    have hcorner : ∀ {label : Line}, label.length ≤ f.width →
        (fenced '+' (edge f.width label))[col.toNat]? = some '+' := by
      intro label hfits
      refine getElem?_fenced_iff.2 (.inl ⟨?_, rfl⟩)
      rw [length_edge hfits]
      omega
    rcases hrow with rfl | rfl
    · exact ⟨0, col.toNat, _, Position.ext rfl (by simp only; omega), getElem?_lines_iff.2 .top,
        hcorner f.length_label_le⟩
    · exact ⟨f.rows.length + 1, col.toNat, _, Position.ext (by simp) (by simp only; omega),
        getElem?_lines_iff.2 .bottom, hcorner (Nat.zero_le _)⟩

/-- The sides of the box are drawn on all its rows. -/
theorem cellIs_side {row col : Int} (hcol : col = 0 ∨ col = f.width + 1) (htop : 0 < row)
    (hbottom : row < f.rows.length + 1) :
    (Grid.ofLines f.lines).cellIs ⟨row, col⟩ .vertical = true := by
  have hlt : (row - 1).toNat < f.rows.length := by omega
  have hrow := List.getElem?_eq_getElem hlt
  have hlength := (f.isRow _ (List.getElem_mem hlt)).length
  refine (Grid.cellIs_ofLines_iff rfl).2 ⟨(row - 1).toNat + 1, col.toNat, _,
    Position.ext (by simp only; omega) (by simp only; omega),
    getElem?_lines_iff.2 (.row _ _ hrow), getElem?_fenced_iff.2 (.inl ⟨?_, rfl⟩)⟩
  rw [hlength]
  omega

/-- What stands between the corners of an edge is what the edge was made of. -/
theorem exists_piece {row : Nat} {label : Line}
    (hline : f.LineAt row (fenced '+' (edge f.width label))) (hfits : label.length ≤ f.width)
    {col : Int} (hleft : 0 < col) (hright : col < f.width + 1) :
    ∃ c ∈ edge f.width label, ∀ kind,
      (Grid.ofLines f.lines).cellIs ⟨row, col⟩ kind = decide ((Cell.ofChar c).kind = kind) := by
  obtain ⟨j, rfl⟩ : ∃ j : Nat, col = (j + 1 : Nat) := ⟨(col - 1).toNat, by omega⟩
  have hj : j < (edge f.width label).length := by
    rw [length_edge hfits]
    omega
  refine ⟨_, List.getElem_mem hj, fun kind => ?_⟩
  exact Grid.cellIs_ofLines (getElem?_lines_iff.2 hline)
    (getElem?_fenced_iff.2 (.inr ⟨j, rfl, List.getElem?_eq_getElem hj⟩))

/-- The box is drawn. -/
theorem draws_bounds (f : Frame) : (Grid.ofLines f.lines).Draws f.bounds where
  top_lt_bottom := by
    have hrows := List.length_pos_iff.2 f.rows_ne_nil
    simp only [bounds]
    omega
  left_lt_right := by
    simp only [bounds]
    omega
  topEdge := by
    intro col hleft hright
    obtain ⟨c, hc, hcell⟩ := exists_piece .top f.length_label_le hleft hright
    have hplain : c ∉ ['+', '|', '='] := fun h =>
      plain_of_mem_edge hc (List.mem_append_left ['\t', '\r', '\n'] h)
    unfold Grid.TopPiece
    simp only [bounds, ← Int.natCast_zero, hcell, decide_eq_true_eq]
    exact Cell.kind_ofChar_of_plain hplain
  topRight := cellIs_corner_iff.2 ⟨.inl rfl, .inr rfl⟩
  rightEdge := fun _ => cellIs_side (.inr rfl)
  bottomRight := cellIs_corner_iff.2 ⟨.inr rfl, .inr rfl⟩
  bottomEdge := by
    intro col hleft hright
    obtain ⟨c, hc, hcell⟩ := exists_piece .bottom (Nat.zero_le _) hleft hright
    have hdash : c = '-' := (mem_edge hc).resolve_left (List.not_mem_nil)
    refine .inl ?_
    simp only [bounds, ← Int.natCast_succ, hcell, hdash]
    rfl
  bottomLeft := cellIs_corner_iff.2 ⟨.inr rfl, .inl rfl⟩
  leftEdge := fun _ => cellIs_side (.inl rfl)
  topLeft := cellIs_corner_iff.2 ⟨.inl rfl, .inl rfl⟩
  opening := by
    have hfirst := f.head?_edge
    rw [List.head?_eq_getElem?] at hfirst
    exact (Grid.cellIs_ofLines_iff rfl).2 ⟨0, 1, _, rfl, getElem?_lines_iff.2 .top,
      getElem?_fenced_iff.2 (.inr ⟨0, rfl, hfirst⟩)⟩

/-- No other box is drawn. -/
theorem draws_iff : (Grid.ofLines f.lines).Draws b ↔ b = f.bounds := by
  constructor
  · intro h
    obtain ⟨htop, hleft⟩ := cellIs_corner_iff.1 h.topLeft
    obtain ⟨hbottom, hright⟩ := cellIs_corner_iff.1 h.bottomRight
    have hrows := h.top_lt_bottom
    have hcols := h.left_lt_right
    simp only [bounds] at htop hleft hbottom hright
    refine Bounds.ext ?_ ?_ ?_ ?_ <;> simp only [bounds] <;> omega
  · rintro rfl
    exact f.draws_bounds

/-! ## The name -/

/-- The top edge is read as it was drawn. -/
theorem topName_eq (f : Frame) :
    (Grid.ofLines f.lines).topName f.bounds.topLeft =
      Outline.nameOf (edge f.width (label f.name)) := by
  have hlength := length_edge f.length_label_le
  have hend := f.draws_bounds.toCloses.topEnd_eq
  have hscan : ((Grid.ofLines f.lines).scan .right ⟨(0 : Nat), (1 : Nat)⟩
      Cell.isTopEdge).length = f.width := by
    simp only [Grid.topEnd, Bounds.topLeft, Position.right, bounds, Position.mk.injEq] at hend
    simpa using hend.2
  have htop : f.lines[0]? = some (fenced '+' (edge f.width (label f.name))) :=
    getElem?_lines_iff.2 .top
  have hfits : 1 + ((Grid.ofLines f.lines).scan .right ⟨(0 : Nat), (1 : Nat)⟩
      Cell.isTopEdge).length ≤ (fenced '+' (edge f.width (label f.name))).length := by
    rw [hscan, fenced, List.length_cons, List.length_append, hlength]
    simp
    omega
  have hchars := Grid.chars_scan_ofLines htop hfits
  have hedge : ((fenced '+' (edge f.width (label f.name))).drop 1).take f.width =
      edge f.width (label f.name) := by
    rw [fenced, List.drop_one, List.tail_cons]
    exact List.take_left' hlength
  have htabs : '\t' ∉ edge f.width (label f.name) := fun h => plain_of_mem_edge h (by simp)
  rw [hscan, hedge, Text.untab_of_not_mem htabs] at hchars
  exact congrArg Outline.nameOf hchars

/-- The name in an edge is the one that was written into it. -/
theorem nameOf_edge (f : Frame) :
    Outline.nameOf (edge f.width (label f.name)) = f.name.map String.ofList := by
  cases hname : f.name with
  | none =>
    have hdashes : Text.trimChar '-' (edge f.width (label none)) = [] := by
      simp [Text.trimChar, edge, label, List.rightpad]
    rw [Outline.nameOf, hdashes]
    rfl
  | some name =>
    obtain ⟨hfilled, htrimmed, -, -⟩ := f.isName name hname
    have hinside : Text.trimChar '-' (edge f.width (label (some name))) = fenced ' ' name := by
      exact Text.trimChar_fenced (by decide) 3 _ name
    rw [Outline.nameOf, hinside, Text.trim_fenced (by decide), htrimmed]
    cases name with
    | nil => exact absurd rfl hfilled
    | cons c cs => rfl

/-! ## What is found -/

/-- The box is found, with its name, and nothing else. -/
theorem boxes_detect (f : Frame) (radius : Int) :
    ((Grid.ofLines f.lines).detect radius).boxes = [f.box] := by
  have hbounds : ((Grid.ofLines f.lines).detect radius).boxes.map (·.bounds) = [f.bounds] := by
    refine List.perm_singleton.1 ((List.perm_ext_iff_of_nodup
      (Grid.nodup_bounds_detect _ radius) (List.nodup_singleton _)).2 fun b => ?_)
    rw [Grid.mem_bounds_detect_iff, draws_iff, List.mem_singleton]
  obtain ⟨box, hboxes, hbox⟩ := List.map_eq_singleton_iff.1 hbounds
  have hmem : box ∈ ((Grid.ofLines f.lines).detect radius).boxes := by
    rw [hboxes]
    exact List.mem_singleton_self box
  rw [Grid.boxes_detect] at hmem
  obtain ⟨p, hp, hok⟩ := List.mem_filterMap.1 hmem
  rw [Outline.box?_eq_some_iff] at hok
  obtain ⟨-, rfl⟩ := Grid.draws_of_outline_ok hp hok
  rw [hbox, f.draws_bounds.toCloses.outline_eq, topName_eq, nameOf_edge] at hok
  rw [hboxes, ← Except.ok.inj hok]
  rfl

/-- Nothing is reported. -/
theorem problems_detect (f : Frame) (hradius : 0 ≤ radius) :
    ((Grid.ofLines f.lines).detect radius).problems = [] := by
  refine (Grid.problems_eq_nil_iff hradius).2 ⟨fun p hp => ?_, fun p hmisread => ?_⟩
  · exact ⟨f.bounds, f.draws_bounds, cellIs_corner_iff.1 (Grid.mem_candidates_iff.1 hp).1⟩
  · obtain ⟨q, hto, -, col, hpiece, -⟩ := hmisread.goesBelow
    have hne := hmisread.not_topLeft f.bounds f.draws_bounds
    obtain ⟨hrow, hcol⟩ := cellIs_corner_iff.1 hmisread.corner
    obtain ⟨-, hcol'⟩ := cellIs_corner_iff.1 hto.2.2.2
    obtain ⟨hsame, hlt, -⟩ := hto
    obtain ⟨row, k, chars, hp, hline, -⟩ := (Grid.cellIs_ofLines_iff rfl).1 hpiece
    rw [Position.mk.injEq] at hp
    obtain ⟨prow, pcol⟩ := p
    simp only [bounds, Bounds.topLeft, ne_eq, Position.mk.injEq] at hrow hcol hcol' hsame hlt hne hp
    -- So `p` is the bottom left corner, and there is no line below it.
    have hle := (getElem?_lines_iff.1 hline).le
    omega

end Frame

end Wireframe
