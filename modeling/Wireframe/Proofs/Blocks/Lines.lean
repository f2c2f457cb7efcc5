import Mathlib.Data.List.Pairwise
import Mathlib.Tactic.ByContra
import Wireframe.Proofs.Places.Blocks

/-!
# Which lines a block has

The scene blocks of a text share out its lines (`sharesOut_ofText`): every block holds the lines of
some range, those of directives left empty, the ranges come one behind the other, and what is in
none of them is a separator or blank. The last directive for a key is the one that counts, and
nothing is drawn in a block in front of the line that names its scene.

`Tiles` says how the blocks that are cut from a text follow one another: the next one begins right
behind the block or, if a separator ends it, one line further down. `Keeps` is what holds of a block
at any time while it is read.
-/

namespace Wireframe

/-! ## Directives -/

/-- What is left after trimming on the right is where the line begins. -/
theorem Text.trimRight_prefix (line : Line) : trimRight line <+: line := by
  rw [trimRight, ← List.reverse_suffix, List.reverse_reverse]
  exact List.dropWhile_suffix isBlank

namespace Directive

variable {number : Nat} {line : Line} {d : Directive}

/-- A directive begins with an at sign behind blanks. -/
theorem exists_trimLeft_of_ofLine? (h : ofLine? number line = some d) :
    ∃ rest, Text.trimLeft line = '@' :: rest := by
  obtain ⟨-, indent, gap, rest, hindent, -, -, rfl⟩ := ofLine?_eq_some_iff.1 h
  exact ⟨_, Text.trimLeft_append_cons hindent (by decide) _⟩

/-- A directive is not blank. -/
theorem allBlank_of_ofLine? (h : ofLine? number line = some d) : Text.allBlank line = false := by
  obtain ⟨rest, hrest⟩ := exists_trimLeft_of_ofLine? h
  rw [Bool.eq_false_iff, ne_eq, ← Text.trimLeft_eq_nil_iff, hrest]
  exact List.cons_ne_nil _ _

/-- A directive separates no scenes. -/
theorem isSeparator_of_ofLine? (h : ofLine? number line = some d) :
    Scene.Block.isSeparator line = false := by
  obtain ⟨rest, hrest⟩ := exists_trimLeft_of_ofLine? h
  rw [Scene.Block.isSeparator, decide_eq_false_iff_not]
  intro htrim
  have hprefix : Text.trim line <+: Text.trimLeft line := Text.trimRight_prefix _
  rw [htrim, hrest, List.cons_prefix_cons] at hprefix
  exact absurd hprefix.1 (by decide)

end Directive

namespace Scene.Block

variable {b current : Scene.Block} {text rest : List Line} {blocks : List Scene.Block}
variable {line : Line} {row number : Nat} {key : DirectiveKey} {d : Directive}

/-! ## How blocks follow one another -/

/-- The line is one of the lines of the block. -/
def Covers (b : Scene.Block) (row : Nat) : Prop :=
  b.offset ≤ row ∧ row < b.offset + b.lines.length

/-- The blocks lie one behind the other from a line of a text up to the end of the text, with a
single separator between them or nothing. -/
inductive Tiles (text : List Line) : Nat → List Scene.Block → Prop where
  /-- The last block ends with the text. -/
  | last (b : Scene.Block) (hend : b.offset + b.lines.length = text.length) :
    Tiles text b.offset [b]
  /-- A block ends at a separator. -/
  | separator (b : Scene.Block) (line : Line) (blocks : List Scene.Block)
    (hline : text[b.offset + b.lines.length]? = some line) (hseparator : isSeparator line = true)
    (hrest : Tiles text (b.offset + b.lines.length + 1) blocks) : Tiles text b.offset (b :: blocks)
  /-- A block ends in front of the directive that begins the next one. -/
  | directive (b : Scene.Block) (blocks : List Scene.Block)
    (hrest : Tiles text (b.offset + b.lines.length) blocks) : Tiles text b.offset (b :: blocks)

/-- The blocks that are cut from the rest of a text lie one behind the other. -/
theorem tiles_split (hrest : text.drop number = rest) (hwithin : number ≤ text.length)
    (hnumber : current.offset + current.lines.length = number) :
    Tiles text current.offset (split current number rest) := by
  induction rest generalizing current number with
  | nil =>
    refine .last current ?_
    have hend := List.drop_eq_nil_iff.1 hrest
    omega
  | cons line rest ih =>
    obtain ⟨hhere, hnext, hlt⟩ := Text.next_of_drop hrest
    have hnew : ∀ k, (startingAt k).offset + (startingAt k).lines.length = k := fun _ => rfl
    rw [split]
    split
    · next hseparator =>
      rw [← hnumber] at hhere
      refine .separator current line _ hhere hseparator ?_
      rw [hnumber]
      exact ih hnext hlt (hnew (number + 1))
    · split
      · exact ih hnext hlt (next_addLine hnumber line)
      · next d _ =>
        split
        · refine .directive current _ ?_
          rw [hnumber]
          exact ih hnext hlt (next_addDirective (hnew number) d)
        · exact ih hnext hlt (next_addDirective hnumber d)

variable {start : Nat}

/-- None of the blocks begins in front of the first one. -/
theorem Tiles.le_offset (h : Tiles text start blocks) : ∀ b ∈ blocks, start ≤ b.offset := by
  induction h with
  | last b hend => simp
  | separator b line blocks hline hseparator hrest ih =>
    refine List.forall_mem_cons.2 ⟨Nat.le_refl _, fun c hc => ?_⟩
    have hbehind := ih c hc
    omega
  | directive b blocks hrest ih =>
    refine List.forall_mem_cons.2 ⟨Nat.le_refl _, fun c hc => ?_⟩
    have hbehind := ih c hc
    omega

/-- Each block ends where those behind it begin or further up. -/
theorem Tiles.pairwise (h : Tiles text start blocks) :
    blocks.Pairwise fun b c => b.offset + b.lines.length ≤ c.offset := by
  induction h with
  | last b hend => exact List.pairwise_singleton _ b
  | separator b line blocks hline hseparator hrest ih =>
    refine List.pairwise_cons.2 ⟨fun c hc => ?_, ih⟩
    have hbehind := hrest.le_offset c hc
    omega
  | directive b blocks hrest ih => exact List.pairwise_cons.2 ⟨hrest.le_offset, ih⟩

/-- Every line but a separator is a line of some block. -/
theorem Tiles.exists_covers (h : Tiles text start blocks) (hstart : start ≤ row)
    (hline : text[row]? = some line) (hplain : isSeparator line = false) :
    ∃ b ∈ blocks, b.Covers row := by
  induction h with
  | last b hend =>
    have hlt : row < text.length := (List.getElem?_eq_some_iff.1 hline).1
    exact ⟨b, List.mem_singleton_self b, hstart, by omega⟩
  | separator b ending blocks hhere hseparator hrest ih =>
    rcases Nat.lt_trichotomy row (b.offset + b.lines.length) with hlt | rfl | hgt
    · exact ⟨b, List.mem_cons_self, hstart, hlt⟩
    · -- The line would be the separator.
      rw [hhere, Option.some.injEq] at hline
      rw [hline, hplain] at hseparator
      exact absurd hseparator Bool.false_ne_true
    · obtain ⟨c, hc, hcovers⟩ := ih hgt
      exact ⟨c, List.mem_cons_of_mem b hc, hcovers⟩
  | directive b blocks hrest ih =>
    rcases Nat.lt_or_ge row (b.offset + b.lines.length) with hlt | hge
    · exact ⟨b, List.mem_cons_self, hstart, hlt⟩
    · obtain ⟨c, hc, hcovers⟩ := ih hge
      exact ⟨c, List.mem_cons_of_mem b hc, hcovers⟩

/-- A line is a line of one block only, if each block ends in front of those behind it. -/
theorem eq_of_covers (hordered : blocks.Pairwise fun b c => b.offset + b.lines.length ≤ c.offset)
    {c : Scene.Block} (hb : b ∈ blocks) (hc : c ∈ blocks) (hbrow : b.Covers row)
    (hcrow : c.Covers row) : c = b := by
  by_contra hne
  obtain ⟨hbtop, hbend⟩ := hbrow
  obtain ⟨hctop, hcend⟩ := hcrow
  have hsymm : Std.Symm fun x y : Scene.Block =>
      x.offset + x.lines.length ≤ y.offset ∨ y.offset + y.lines.length ≤ x.offset :=
    ⟨fun _ _ => Or.symm⟩
  have hapart : blocks.Pairwise fun x y : Scene.Block =>
      x.offset + x.lines.length ≤ y.offset ∨ y.offset + y.lines.length ≤ x.offset :=
    hordered.imp Or.inl
  rcases hapart.forall hb hc (Ne.symm hne) with h | h <;> omega

/-! ## What a block keeps -/

/-- The directives on some lines of a text, from the line `first` on. -/
def directivesIn (text : List Line) (first count : Nat) : List Directive :=
  (List.range' first count).filterMap fun row => text[row]?.bind (Directive.ofLine? row)

/-- What holds of a block of a text whenever a line of it has been read. -/
structure Keeps (text : List Line) (b : Scene.Block) : Prop where
  /-- The lines of the block stand in the text at their place, but for those of directives, which
  are left empty. None of them is a separator. -/
  lines : ∀ (i : Nat) (line : Line), b.lines[i]? = some line → ∃ source,
    text[b.offset + i]? = some source ∧ isSeparator source = false ∧
      line = if (Directive.ofLine? (b.offset + i) source).isSome then [] else source
  /-- The directives are those on its lines. -/
  directives : b.directives = directivesIn text b.offset b.lines.length
  /-- Nothing is drawn in front of the line that names the scene. -/
  heading : ∀ d ∈ b.directives, d.key = .scene → ∀ (i : Nat) (line : Line),
    b.lines[i]? = some line → b.offset + i < d.line → Text.allBlank line = true

/-- A directive is among those on some lines if it stands on one of them. -/
theorem mem_directivesIn_iff {first count : Nat} :
    d ∈ directivesIn text first count ↔ (first ≤ d.line ∧ d.line < first + count) ∧
      ∃ line, text[d.line]? = some line ∧ Directive.ofLine? d.line line = some d := by
  simp only [directivesIn, List.mem_filterMap, List.mem_range'_1, Option.bind_eq_some_iff]
  constructor
  · rintro ⟨row, hrow, line, hline, hd⟩
    rw [Directive.line_of_ofLine? hd]
    exact ⟨hrow, line, hline, hd⟩
  · rintro ⟨hrow, line, hline, hd⟩
    exact ⟨d.line, hrow, line, hline, hd⟩

/-- Directives come in the order of their lines. -/
theorem pairwise_directivesIn (text : List Line) (first count : Nat) :
    (directivesIn text first count).Pairwise fun d e => d.line < e.line := by
  rw [directivesIn, List.pairwise_filterMap]
  refine (List.pairwise_lt_range' 1).imp fun {row later} hlt d hd e he => ?_
  obtain ⟨line, -, hd⟩ := Option.bind_eq_some_iff.1 hd
  obtain ⟨next, -, he⟩ := Option.bind_eq_some_iff.1 he
  rw [Directive.line_of_ofLine? hd, Directive.line_of_ofLine? he]
  exact hlt

/-- One more line adds the directive on it, if there is one. -/
theorem directivesIn_succ {first count : Nat} (hhere : text[first + count]? = some line) :
    directivesIn text first (count + 1) =
      directivesIn text first count ++ (Directive.ofLine? (first + count) line).toList := by
  rw [directivesIn, List.range'_1_concat, List.filterMap_append, List.filterMap_cons, hhere]
  cases hd : Directive.ofLine? (first + count) line <;> simp [directivesIn, hd]

/-- A block without lines keeps nothing. -/
theorem keeps_startingAt (text : List Line) (k : Nat) : (startingAt k).Keeps text where
  lines i line h := by simp [startingAt] at h
  directives := rfl
  heading d hd := absurd hd List.not_mem_nil

/-- A line that is no directive is kept as it is. -/
theorem Keeps.addLine (h : b.Keeps text) (hhere : text[b.offset + b.lines.length]? = some line)
    (hnone : Directive.ofLine? (b.offset + b.lines.length) line = none)
    (hplain : isSeparator line = false) : (b.addLine line).Keeps text where
  lines := by
    refine Text.forall_getElem?_concat h.lines ⟨line, hhere, hplain, ?_⟩
    change line = if (Directive.ofLine? (b.offset + b.lines.length) line).isSome then [] else line
    rw [hnone]
    rfl
  directives := by
    have hkept := directivesIn_succ hhere
    rw [hnone, Option.toList_none, List.append_nil, ← h.directives] at hkept
    rw [length_lines_addLine]
    exact hkept.symm
  heading d hd hkey := by
    refine Text.forall_getElem?_concat (h.heading d hd hkey) fun hlt => ?_
    -- The directives of the block stand in front of the new line.
    have hin : d ∈ directivesIn text b.offset b.lines.length := h.directives ▸ hd
    exact absurd hlt (Nat.lt_asymm (mem_directivesIn_iff.1 hin).1.2)

/-- A directive leaves an empty line behind, and names the scene only of a block that is empty so
far. -/
theorem Keeps.addDirective (h : b.Keeps text)
    (hhere : text[b.offset + b.lines.length]? = some line)
    (hsome : Directive.ofLine? (b.offset + b.lines.length) line = some d)
    (hfree : d.key = .scene → b.isTaken = false) : (b.addDirective d).Keeps text where
  lines := by
    refine Text.forall_getElem?_concat h.lines
      ⟨line, hhere, Directive.isSeparator_of_ofLine? hsome, ?_⟩
    change [] = if (Directive.ofLine? (b.offset + b.lines.length) line).isSome then [] else line
    rw [hsome]
    rfl
  directives := by
    have hkept := directivesIn_succ hhere
    rw [hsome, Option.toList_some, ← h.directives] at hkept
    rw [length_lines_addDirective]
    exact hkept.symm
  heading e he hkey := by
    refine Text.forall_getElem?_concat (fun i l hl hlt => ?_) fun _ => rfl
    rcases List.mem_append.1 he with he | he
    · exact h.heading e he hkey i l hl hlt
    · rw [List.mem_singleton.1 he] at hkey
      have htaken := hfree hkey
      rw [isTaken, Bool.or_eq_false_iff, hasContent, List.any_eq_false] at htaken
      simpa using htaken.2 l (List.mem_of_getElem? hl)

/-- All blocks of a text keep what they are cut from. -/
theorem keeps_of_mem_ofLines (h : b ∈ ofLines text) : b.Keeps text :=
  forall_mem_split (fun k _ => keeps_startingAt text k) (fun _ _ hc => hc.addLine)
    (fun _ _ _ hc => hc.addDirective) rfl rfl (keeps_startingAt text 0) b h

/-! ## What counts -/

/-- A directive with the key stands on the line, which is one of the block. -/
def SaidOn (text : List Line) (b : Scene.Block) (key : DirectiveKey) (row : Nat) : Prop :=
  b.Covers row ∧
    ∃ line d, text[row]? = some line ∧ Directive.ofLine? row line = some d ∧ d.key = key

/-- What a block says for a key. -/
inductive Says (text : List Line) (b : Scene.Block) (key : DirectiveKey) :
    Option Directive → Prop where
  /-- Nothing, if there is no directive with the key. -/
  | nothing (hnone : ∀ row, ¬ b.SaidOn text key row) : Says text b key none
  /-- What the last directive with the key says. -/
  | last (row : Nat) (line : Line) (value : String) (hrow : b.Covers row)
    (hline : text[row]? = some line)
    (hsaid : Directive.ofLine? row line = some ⟨key, value, row⟩)
    (hlast : ∀ later, b.SaidOn text key later → later ≤ row) :
    Says text b key (some ⟨key, value, row⟩)

/-- A directive with a key stands on the lines of those directives of the block that have it. -/
theorem Keeps.saidOn_iff (h : b.Keeps text) :
    b.SaidOn text key row ↔ ∃ d ∈ b.directives, d.key = key ∧ d.line = row := by
  simp only [h.directives, mem_directivesIn_iff, SaidOn, Covers]
  constructor
  · rintro ⟨hrow, line, d, hline, hd, hkey⟩
    obtain rfl := Directive.line_of_ofLine? hd
    exact ⟨d, ⟨hrow, line, hline, hd⟩, hkey, rfl⟩
  · rintro ⟨d, ⟨hrow, line, hline, hd⟩, hkey, rfl⟩
    exact ⟨hrow, line, d, hline, hd, hkey⟩

/-- A directive that counts for a key has the key, and none behind it does. -/
theorem exists_of_directive?_eq_some (h : b.directive? key = some d) :
    d.key = key ∧ ∃ before behind, b.directives = before ++ d :: behind ∧
      ∀ e ∈ behind, e.key ≠ key := by
  rw [directive?, List.find?_eq_some_iff_append] at h
  obtain ⟨hkey, behind, before, hreverse, hbehind⟩ := h
  refine ⟨of_decide_eq_true hkey, before.reverse, behind.reverse, ?_, fun e he => ?_⟩
  · rw [← List.reverse_reverse b.directives, hreverse, List.reverse_append, List.reverse_cons,
      List.append_assoc, List.singleton_append]
  · simpa using hbehind e (List.mem_reverse.1 he)

/-- The directive of a block that counts for a key is the last one on its lines. -/
theorem Keeps.counts (h : b.Keeps text) (key : DirectiveKey) :
    b.Says text key (b.directive? key) := by
  cases hcounts : b.directive? key with
  | none =>
    refine .nothing fun row hsaid => ?_
    obtain ⟨d, hd, hkey, -⟩ := h.saidOn_iff.1 hsaid
    exact directive?_eq_none_iff.1 hcounts d hd hkey
  | some d =>
    obtain ⟨rfl, before, behind, hall, hbehind⟩ := exists_of_directive?_eq_some hcounts
    have hd : d ∈ directivesIn text b.offset b.lines.length := by
      rw [← h.directives, hall]
      exact List.mem_append_right _ List.mem_cons_self
    obtain ⟨hrow, line, hline, hsaid⟩ := mem_directivesIn_iff.1 hd
    refine .last d.line line d.value hrow hline hsaid fun later hlater => ?_
    obtain ⟨e, he, hkey, rfl⟩ := h.saidOn_iff.1 hlater
    have hordered := pairwise_directivesIn text b.offset b.lines.length
    rw [← h.directives, hall, List.pairwise_append] at hordered
    rw [hall, List.mem_append, List.mem_cons] at he
    -- Behind the directive that counts, none has its key.
    rcases he with he | rfl | he
    · exact Nat.le_of_lt (hordered.2.2 e he d List.mem_cons_self)
    · exact Nat.le_refl _
    · exact absurd hkey (hbehind e he)

/-! ## How the lines of a text are shared out -/

/-- The line is drawn on: it is not blank, does not separate scenes and is no directive. -/
def Drawn (row : Nat) (line : Line) : Prop :=
  Text.allBlank line = false ∧ isSeparator line = false ∧ Directive.ofLine? row line = none

/-- Some blocks hold the lines of a text. Which lines are directives, and what they say, is told by
`Directive.ofLine?_eq_some_iff`. -/
structure SharesOut (text : List Line) (blocks : List Scene.Block) : Prop where
  /-- There is a block. -/
  ne_nil : blocks ≠ []
  /-- The blocks begin one below the other, and each one ends where those behind it begin or further
  up. -/
  ordered : blocks.Pairwise fun b c => b.offset < c.offset ∧ b.offset + b.lines.length ≤ c.offset
  /-- No block goes on behind the text. -/
  within : ∀ b ∈ blocks, b.offset + b.lines.length ≤ text.length
  /-- The lines of a block stand in the text at their place, but for those of directives, which are
  left empty. None of them is a separator. -/
  lines : ∀ b ∈ blocks, ∀ (i : Nat) (line : Line), b.lines[i]? = some line → ∃ source,
    text[b.offset + i]? = some source ∧ isSeparator source = false ∧
      line = if (Directive.ofLine? (b.offset + i) source).isSome then [] else source
  /-- A line that is drawn on is in one block only, at its place. -/
  drawn : ∀ (row : Nat) (line : Line), text[row]? = some line → Drawn row line →
    ∃ b ∈ blocks, b.lines[row - b.offset]? = some line ∧ b.Covers row ∧
      ∀ c ∈ blocks, c.Covers row → c = b
  /-- A directive is on a line of one block only. -/
  directive : ∀ (row : Nat) (line : Line), text[row]? = some line →
    (Directive.ofLine? row line).isSome = true →
      ∃ b ∈ blocks, b.Covers row ∧ ∀ c ∈ blocks, c.Covers row → c = b
  /-- Of the directives of a block for a key, the last one counts. -/
  counts : ∀ b ∈ blocks, ∀ key, b.Says text key (b.directive? key)
  /-- A block names its scene once. -/
  named : ∀ b ∈ blocks, ∀ row other, b.NamedOn text row → b.NamedOn text other → row = other
  /-- In front of the line that names its scene, a block has blank lines and directives only. -/
  heading : ∀ b ∈ blocks, ∀ row, b.NamedOn text row → ∀ (before : Nat) (line : Line),
    b.offset ≤ before → before < row → text[before]? = some line →
      Text.allBlank line = true ∨ (Directive.ofLine? before line).isSome = true

/-- A line of the text that a block covers is in it, or left empty if it is a directive. -/
theorem Keeps.getElem?_lines (h : b.Keeps text) (hrow : b.Covers row)
    (hline : text[row]? = some line) : b.lines[row - b.offset]? =
      some (if (Directive.ofLine? row line).isSome then [] else line) := by
  obtain ⟨htop, hend⟩ := hrow
  have hlt : row - b.offset < b.lines.length := by omega
  have hplace : b.offset + (row - b.offset) = row := Nat.add_sub_cancel' htop
  obtain ⟨source, hsource, -, hkept⟩ := h.lines _ _ (List.getElem?_eq_getElem hlt)
  rw [hplace] at hsource hkept
  rw [hline, Option.some.injEq] at hsource
  rw [List.getElem?_eq_getElem hlt, hkept, hsource]

/-- A block that covers a line with something on it is not empty. -/
theorem Keeps.isEmpty_eq_false (h : b.Keeps text) (hrow : b.Covers row)
    (hline : text[row]? = some line) (hfilled : Text.allBlank line = false) :
    b.isEmpty = false := by
  rw [isEmpty, Bool.and_eq_false_iff]
  cases hsaid : Directive.ofLine? row line with
  | none =>
    have hkept := h.getElem?_lines hrow hline
    rw [hsaid] at hkept
    refine .inr ?_
    rw [Bool.not_eq_false', hasContent, List.any_eq_true]
    exact ⟨line, List.mem_of_getElem? hkept, by simp [hfilled]⟩
  | some d =>
    have hd : d ∈ b.directives := by
      obtain rfl := Directive.line_of_ofLine? hsaid
      rw [h.directives]
      exact mem_directivesIn_iff.2 ⟨hrow, line, hline, hsaid⟩
    exact .inl (List.isEmpty_eq_false_iff_exists_mem.2 ⟨d, hd⟩)

/-- In front of the line that names its scene, a block has blank lines and directives only. -/
theorem Keeps.blank_or_directive (h : b.Keeps text) (hnamed : b.NamedOn text row) {before : Nat}
    (htop : b.offset ≤ before) (hlt : before < row) (hline : text[before]? = some line) :
    Text.allBlank line = true ∨ (Directive.ofLine? before line).isSome = true := by
  obtain ⟨d, hd, hkey, rfl⟩ := h.saidOn_iff.1 hnamed
  have hrow : b.Covers before := ⟨htop, Nat.lt_trans hlt hnamed.1.2⟩
  have hplace : b.offset + (before - b.offset) = before := Nat.add_sub_cancel' htop
  have hblank := h.heading d hd hkey _ _ (h.getElem?_lines hrow hline) (by omega)
  cases hsaid : (Directive.ofLine? before line).isSome with
  | true => exact .inr rfl
  | false =>
    rw [hsaid, if_neg Bool.false_ne_true] at hblank
    exact .inl hblank

variable {cs : List Char}

/-- The scene blocks of a text are some of all its blocks. -/
theorem ofText_sublist (cs : List Char) : (ofText cs).Sublist (ofLines (Text.lines cs)) := by
  rw [ofText]
  split
  · exact List.take_sublist 1 _
  · exact List.filter_sublist

/-- There is a scene in every text. -/
theorem ofText_ne_nil (cs : List Char) : ofText cs ≠ [] := by
  rw [ofText]
  split
  · have hall : ofLines (Text.lines cs) ≠ [] := split_ne_nil (startingAt 0) 0 (Text.lines cs)
    simpa using hall
  · next filled hfilled => exact hfilled

/-- All blocks of a text lie one behind the other. -/
theorem tiles_ofLines (text : List Line) : Tiles text 0 (ofLines text) :=
  have hnew : (startingAt 0).offset + (startingAt 0).lines.length = 0 := rfl
  tiles_split List.drop_zero (Nat.zero_le _) hnew

/-- The scene blocks of a text begin one below the other, and none of them overlaps another. -/
theorem pairwise_ofText (cs : List Char) : (ofText cs).Pairwise fun b c =>
    b.offset < c.offset ∧ b.offset + b.lines.length ≤ c.offset := by
  have hends := (tiles_ofLines (Text.lines cs)).pairwise.sublist (ofText_sublist cs)
  refine List.pairwise_iff_getElem.2 fun i j hi hj hij => ?_
  have hend := List.pairwise_iff_getElem.1 hends i j hi hj hij
  -- Of several blocks, none is empty.
  have hmem : (ofText cs)[i] ∈ ofText cs := List.getElem_mem hi
  have hfilled := isEmpty_of_mem_ofText (by omega) hmem
  have hpos := List.length_pos_iff.2 ((spanOf_of_mem_ofText hmem).lines_ne_nil hfilled)
  exact ⟨by omega, hend⟩

/-- A line with something on it that does not separate scenes is a line of one scene block only. -/
theorem exists_only_covers (hline : (Text.lines cs)[row]? = some line)
    (hfilled : Text.allBlank line = false) (hplain : isSeparator line = false) :
    ∃ b ∈ ofText cs, b.Covers row ∧ ∀ c ∈ ofText cs, c.Covers row → c = b := by
  obtain ⟨b, hb, hrow⟩ := (tiles_ofLines _).exists_covers (Nat.zero_le row) hline hplain
  have hne : b.isEmpty = false := (keeps_of_mem_ofLines hb).isEmpty_eq_false hrow hline hfilled
  have hmem : b ∈ ofText cs := by
    rw [ofText_eq_filter ⟨b, hb, hne⟩]
    exact List.mem_filter.2 ⟨hb, by simp [hne]⟩
  refine ⟨b, hmem, hrow, fun c hc hcrow => ?_⟩
  exact eq_of_covers ((pairwise_ofText cs).imp And.right) hmem hc hrow hcrow

/-- The scene blocks of a text share out its lines. -/
theorem sharesOut_ofText (text : List Char) : SharesOut (Text.lines text) (ofText text) := by
  have hkeeps : ∀ b ∈ ofText text, b.Keeps (Text.lines text) := fun b hb =>
    keeps_of_mem_ofLines ((ofText_sublist text).subset hb)
  exact {
    ne_nil := ofText_ne_nil text
    ordered := pairwise_ofText text
    within := fun b hb => (spanOf_of_mem_ofText hb).within
    lines := fun b hb => (hkeeps b hb).lines
    drawn := by
      rintro row line hline ⟨hfilled, hplain, hnone⟩
      obtain ⟨b, hb, hrow, honly⟩ := exists_only_covers hline hfilled hplain
      have hkept := (hkeeps b hb).getElem?_lines hrow hline
      rw [hnone] at hkept
      exact ⟨b, hb, hkept, hrow, honly⟩
    directive := by
      intro row line hline hsaid
      obtain ⟨d, hd⟩ := Option.isSome_iff_exists.1 hsaid
      exact exists_only_covers hline (Directive.allBlank_of_ofLine? hd)
        (Directive.isSeparator_of_ofLine? hd)
    counts := fun b hb key => (hkeeps b hb).counts key
    named := by
      intro b hb row other hrow hother
      have hspan := spanOf_of_mem_ofText hb
      obtain ⟨d, hd, hdkey, rfl⟩ := (hspan.named row).1 hrow
      obtain ⟨e, he, hekey, rfl⟩ := (hspan.named other).1 hother
      rw [hspan.once d hd hdkey e he hekey]
    heading := fun b hb row hnamed before line htop hlt hline =>
      (hkeeps b hb).blank_or_directive hnamed htop hlt hline }

/-- The name of a scene begins a block, and what is behind the separator is blank. -/
example : ofText "@title: A\nx\n@scene: b\n---\n ".toList =
    [⟨0, [[], [ 'x']], [⟨.title, "A", 0⟩]⟩, ⟨2, [[]], [⟨.scene, "b", 2⟩]⟩] := by
  decide +kernel

end Scene.Block

end Wireframe
