import Wireframe.Proofs.Places.Problems
import Wireframe.Repair

/-!
# What problems say about the text

`Applies` lists, for each kind of problem that can be repaired, what stands in the text at the rows
and columns that the problem names. Every problem that is found when a text is read applies to that
text (`applies_of_mem_diagnostics`), whichever block it was found in: a tab stands on the line, a
piece of an edge stands in the wrong column and none in the right one, four corners stand where
mismatched edges end, and nothing closes an open bracket.

The places are those of the text as it is given, also where its line ends are not unified.
-/

namespace Wireframe

open Text (charAt?)

namespace Diagnostic

/-- Whether some strategy repairs problems of a kind. -/
def Kind.repairable : Diagnostic.Kind → Bool
  | .unusualSpacing => true
  | .misalignedPipe => true
  | .mismatchedWidth => true
  | .unclosedBracket => true
  | _ => false

/-- What the problem says about the characters of a text is so. -/
inductive Applies (lines : List Line) : Diagnostic → Prop where
  /-- A tab stands on the row. -/
  | tab (row col tabCol : Int) (line : String)
    (htab : charAt? lines ⟨row, tabCol⟩ = some '\t') :
    Applies lines (.unusualSpacing ⟨row, col⟩ line)
  /-- A piece of a vertical edge stands in one column of the row and none in the expected one. -/
  | pipe (row expected actual : Int) (hpiece : charAt? lines ⟨row, actual⟩ = some '|')
    (hmissing : charAt? lines ⟨row, expected⟩ ≠ some '|') (hexpected : 0 ≤ expected) :
    Applies lines (.misalignedPipe ⟨row, actual⟩ expected actual)
  /-- Corners stand at the four ends of the edges. -/
  | width (top left right bottom bottomLeft bottomRight topWidth bottomWidth : Int)
    (htopLeft : charAt? lines ⟨top, left⟩ = some '+')
    (htopRight : charAt? lines ⟨top, right⟩ = some '+')
    (hbottomLeft : charAt? lines ⟨bottom, bottomLeft⟩ = some '+')
    (hbottomRight : charAt? lines ⟨bottom, bottomRight⟩ = some '+') :
    Applies lines
      (.mismatchedWidth ⟨top, left⟩ topWidth bottomWidth right bottom bottomLeft bottomRight)
  /-- An edge stands behind the content, and no space with a closing bracket behind it follows it. -/
  | bracket (row col : Nat) (content : Line) (hcontent : content ≠ [])
    (hedge : ∃ edge : Nat, col + content.length ≤ edge ∧ charAt? lines ⟨row, edge⟩ = some '|')
    (hopen : ¬ (charAt? lines ⟨row, col + content.length⟩ = some ' ' ∧
      charAt? lines ⟨row, col + content.length + 1⟩ = some ']')) :
    Applies lines (.syntaxError .unclosedBracket ⟨row, col⟩ (String.ofList content))
  /-- Problems of other kinds cannot be repaired, and nothing is said here about them. -/
  | other (d : Diagnostic) (hkind : d.kind.repairable = false) : Applies lines d

/-- What is so when line ends are unified is so in the text as it was. -/
theorem Applies.of_unifyNewlines {cs : List Char} {d : Diagnostic}
    (h : d.Applies (Text.lines (Text.unifyNewlines cs))) : d.Applies (Text.lines cs) := by
  have hchar : ∀ (p : Position) (c : Char), c ≠ '\r' →
      (charAt? (Text.lines (Text.unifyNewlines cs)) p = some c ↔
        charAt? (Text.lines cs) p = some c) := fun p c hc => Text.charAt?_unifyNewlines hc cs p
  cases h with
  | tab row col tabCol line htab => exact .tab row col tabCol line ((hchar _ _ (by decide)).1 htab)
  | pipe row expected actual hpiece hmissing hexpected =>
    exact .pipe row expected actual ((hchar _ _ (by decide)).1 hpiece)
      (fun hthere => hmissing ((hchar _ _ (by decide)).2 hthere)) hexpected
  | width top left right bottom bottomLeft bottomRight topWidth bottomWidth h1 h2 h3 h4 =>
    have hplus := fun p => (hchar p '+' (by decide)).1
    exact .width _ _ _ _ _ _ _ _ (hplus _ h1) (hplus _ h2) (hplus _ h3) (hplus _ h4)
  | bracket row col content hcontent hedge hopen =>
    obtain ⟨edge, hbehind, hpipe⟩ := hedge
    exact .bracket row col content hcontent ⟨edge, hbehind, (hchar _ _ (by decide)).1 hpipe⟩
      fun ⟨hspace, hclose⟩ =>
        hopen ⟨(hchar _ _ (by decide)).2 hspace, (hchar _ _ (by decide)).2 hclose⟩
  | other _ hkind => exact .other _ hkind

end Diagnostic

/-! ## Places that problems point at -/

/-- A problem that points at what it names applies to the text, if it is not that of a bracket. -/
theorem Diagnostic.PointsAt.applies {lines : List Line} {blocks : List Scene.Block} {d : Diagnostic}
    (h : d.PointsAt lines blocks) (hkind : d.kind ≠ .unclosedBracket) : d.Applies lines := by
  cases h with
  | tab row before rest hline hfirst =>
    refine .tab row _ before.length _ ?_
    rw [Text.charAt?_of_line hline, List.getElem?_append_right (Nat.le_refl _), Nat.sub_self,
      List.getElem?_cons_zero]
  | pipe row expected actual hpiece hmissing hexpected =>
    exact .pipe row expected actual hpiece hmissing hexpected
  | width top left right bottom bottomLeft bottomRight topWidth bottomWidth h1 h2 h3 h4 =>
    exact .width _ _ _ _ _ _ _ _ h1 h2 h3 h4
  | unclosed edge p start hplace => exact .other _ rfl
  | deep p depth maxDepth hcorner => exact .other _ rfl
  | content kind p content hcontent hfilled hthere =>
    refine .other _ ?_
    change kind ≠ _ at hkind
    show kind.repairable = false
    cases kind <;> simp_all [Diagnostic.Kind.ofContent, Diagnostic.Kind.repairable]
  | sceneId earlier later repeated first row firstRow hblocks hfirst hrow hfirstRow =>
    exact .other _ rfl

/-! ## Content -/

/-- If no space with a closing bracket behind it follows the first `n` columns between the edges of
a box, none follows them on the line that the row was made of. -/
theorem not_closed_of_row {chars : Line} {left right n : Nat} (hcols : left < right)
    (hedge : chars[right]? = some '|')
    (hlength : n ≤ (Text.untab ((chars.take right).drop (left + 1))).length)
    (hopen : ¬ [' ', ']'] <+: (Text.untab ((chars.take right).drop (left + 1))).drop n) :
    ¬ (chars[left + 1 + n]? = some ' ' ∧ chars[left + 1 + n + 1]? = some ']') := by
  rintro ⟨hspace, hclose⟩
  have hend : right < chars.length := (List.getElem?_eq_some_iff.1 hedge).1
  rw [Text.untab, List.length_map, List.length_drop, List.length_take,
    Nat.min_eq_left hend.le] at hlength
  -- Neither of the two characters is the edge.
  have hne : left + 1 + n ≠ right := by
    rintro rfl
    rw [hedge] at hspace
    simp at hspace
  have hne' : left + 1 + n + 1 ≠ right := by
    rintro rfl
    rw [hedge] at hclose
    simp at hclose
  have hbefore : ∀ c i, chars[left + 1 + n + i]? = some c → left + 1 + n + i < right →
      ((Text.untab ((chars.take right).drop (left + 1))).drop n)[i]? =
        some (if c = '\t' then ' ' else c) := by
    intro c i hchar hlt
    rw [Text.untab, List.getElem?_drop, List.getElem?_map, List.getElem?_drop, ← Nat.add_assoc,
      List.getElem?_take_of_lt hlt, hchar]
    rfl
  refine hopen (List.prefix_iff_getElem?.2 fun i hi => ?_)
  obtain rfl | rfl : i = 0 ∨ i = 1 := by
    rw [List.length_cons, List.length_singleton] at hi
    omega
  · exact hbefore ' ' 0 hspace (by omega)
  · exact hbefore ']' 1 hclose (by omega)

/-- A bracket that is said to be open on a row inside a drawn box is not closed in the text. -/
theorem Reader.applies_of_mem_row {b : Scene.Block} {text : List Line} (hcut : b.CutFrom text)
    {recognizers : List Recognizer} {box : Bounds} (hdraws : (Grid.ofLines b.lines).Draws box)
    {row : Int} (hrow : row ∈ Grid.innerRows box) {d : Diagnostic}
    (h : d ∈ ((⟨Grid.ofLines b.lines, b.offset, recognizers⟩ : Reader).row row box).problems)
    (hkind : d.kind = .unclosedBracket) : d.Applies text := by
  obtain ⟨k, content, rfl, hcontent, hlength, hopen⟩ := unclosedBracket_of_mem_row h hkind
  obtain ⟨r, left, right, chars, rfl, hl, -, hcols, htext, hedge, hchars⟩ :=
    hcut.exists_innerRow hdraws hrow
  dsimp only at hlength hopen
  rw [hchars] at hlength hopen
  have hplace : (⟨Grid.ofLines b.lines, b.offset, recognizers⟩ : Reader).place r
      (box.left + 1 + k) = ⟨(b.offset + r : Nat), (left + 1 + k : Nat)⟩ := by
    simp only [place, hl]
    exact Position.ext (by simp only; omega) (by simp only; omega)
  have hbehind : left + 1 + k + content.length ≤ right := by
    rw [Text.untab, List.length_map, List.length_drop, List.length_take] at hlength
    omega
  rw [hplace]
  refine .bracket (b.offset + r) (left + 1 + k) content hcontent ⟨right, hbehind, ?_⟩ ?_
  · rw [Text.charAt?_of_line htext, hedge]
  have hcol : ((left + 1 + k : Nat) : Int) + content.length =
      (left + 1 + (k + content.length) : Nat) := by omega
  rw [hcol, ← Int.natCast_succ, Text.charAt?_of_line htext, Text.charAt?_of_line htext]
  exact not_closed_of_row (by omega) hedge hlength hopen

/-! ## Whole texts -/

/-- The problems of a block that was cut from a text apply to the text. -/
theorem BlockAnalysis.applies_of_mem_diagnostics {config : Config} {b : Scene.Block}
    {text : List Line} (hcut : b.CutFrom text) (hspan : b.SpanOf text) {d : Diagnostic}
    (h : d ∈ (ofBlock config b).diagnostics) : d.Applies text := by
  by_cases hbracket : d.kind = .unclosedBracket
  · -- Only content is said to have an open bracket.
    have hcontent : d ∈ (ofBlock config b).contentProblems := by
      rcases mem_diagnostics_iff.1 h with ⟨e, he, rfl⟩ | ⟨e, he, rfl⟩ | hcontent
      · have houtline := Grid.ofOutline_of_mem_detect he
        rw [← Diagnostic.kind_shifted, hbracket] at houtline
        simp [Diagnostic.Kind.ofOutline] at houtline
      · rw [Diagnostic.kind_shifted, Nesting.kind_of_mem_depthWarnings he] at hbracket
        simp at hbracket
      · exact hcontent
    obtain ⟨box, hbox, row, hrow, hd⟩ := Reader.exists_row_of_mem_scene b hcontent
    have hdraws := Grid.draws_of_mem_detect ((boxes_trees_perm config b).mem_iff.1 hbox)
    exact Reader.applies_of_mem_row hcut hdraws hrow hd hbracket
  · exact (pointsAt_of_mem_diagnostics hcut hspan h []).applies hbracket

/-- The problems that are found when a text is read apply to the text. -/
theorem Config.applies_of_mem_diagnostics {config : Config} {text : String} {d : Diagnostic}
    (h : d ∈ (config.parseText text).diagnostics) : d.Applies (Text.lines text.toList) := by
  refine Diagnostic.Applies.of_unifyNewlines ?_
  rcases Analysis.mem_diagnostics_iff.1 (Parsed.mem_diagnostics_iff.1 h) with
    htab | ⟨block, hblock, hfound⟩ | hid | ⟨i, hi, -⟩
  · refine (Analysis.pointsAt_of_mem_tabsIn htab []).applies ?_
    rw [Analysis.kind_of_mem_tabsIn htab]
    decide
  · exact BlockAnalysis.applies_of_mem_diagnostics (Scene.Block.cutFrom_of_mem_ofText hblock)
      (Scene.Block.spanOf_of_mem_ofText hblock) hfound
  · refine .other _ ?_
    rw [Analysis.kind_of_mem_repeatedIds hid]
    rfl
  · simp [Analysis.ofText] at hi

end Wireframe
