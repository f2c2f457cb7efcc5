import Wireframe.Proofs.Detection.Silence
import Wireframe.Proofs.Places
import Wireframe.Proofs.Scenes
import Wireframe.Session

/-!
# What a record tells

The record of a reading agrees with what was read (`Session.parse_tells`). Its attempts are made at
the corners that may begin a box, block by block and in reading order. What became of a corner is
worked out once more for the record, from its outline and from the corners whose failure is not
reported (`BlockAnalysis.Became`). A failure that is recorded is one whose problems are found, and
the other way round, so the reasons name the kinds of the errors (`exists_names_iff`); a box that is
recorded is one of the scene (`reasons_boxes_perm`). Reasons are written out, so one also needs that
different lists of kinds and different rectangles are written differently.
-/

namespace Wireframe

/-! ## Rectangles in writing -/

/-- What stands in front of the first of some characters can be read back. -/
theorem Text.append_cons_inj {c : Char} {as bs cs ds : Line} (ha : c ∉ as) (hb : c ∉ bs) :
    as ++ c :: cs = bs ++ c :: ds ↔ as = bs ∧ cs = ds := by
  refine ⟨fun h => ?_, fun ⟨hfront, hbehind⟩ => by rw [hfront, hbehind]⟩
  induction as generalizing bs with
  | nil =>
    cases bs with
    | nil => exact ⟨rfl, (List.cons.inj h).2⟩
    | cons b bs => exact absurd ((List.cons.inj h).1 ▸ List.mem_cons_self) hb
  | cons a as ih =>
    cases bs with
    | nil => exact absurd ((List.cons.inj h).1 ▸ List.mem_cons_self) ha
    | cons b bs =>
      obtain ⟨rfl, hrest⟩ := List.cons.inj h
      obtain ⟨rfl, hbehind⟩ := ih (fun hc => ha (List.mem_cons_of_mem a hc))
        (fun hc => hb (List.mem_cons_of_mem a hc)) hrest
      exact ⟨rfl, hbehind⟩

/-- A number in front of a character that is no part of a number can be read back. -/
theorem Text.digits_append_cons_inj {m n : Int} {c : Char} {cs ds : Line} (hsign : c ≠ '-')
    (hdigit : c.isDigit = false) :
    digits m ++ c :: cs = digits n ++ c :: ds ↔ m = n ∧ cs = ds := by
  have hnotMem : ∀ k : Int, c ∉ digits k := by
    intro k hc
    rcases eq_or_isDigit_of_mem_digits hc with rfl | hc
    · exact hsign rfl
    · rw [hdigit] at hc
      exact Bool.false_ne_true hc
  rw [append_cons_inj (hnotMem m) (hnotMem n), digits_inj]

/-- Different rectangles are written differently. -/
theorem Bounds.text_injective : Function.Injective Bounds.text := by
  intro a b h
  have hchars : ∀ c : Bounds, c.text.toList = '[' :: (Text.digits c.top ++ ',' ::
      (Text.digits c.left ++ ' ' :: ('.' :: '.' :: ' ' :: (Text.digits c.bottom ++ ',' ::
        (Text.digits c.right ++ ']' :: []))))) := by
    intro c
    simp [text, Text.decimal]
  have heq := congrArg String.toList h
  rw [hchars, hchars, List.cons_inj_right] at heq
  obtain ⟨htop, heq⟩ := (Text.digits_append_cons_inj (by decide) (by decide)).1 heq
  obtain ⟨hleft, heq⟩ := (Text.digits_append_cons_inj (by decide) (by decide)).1 heq
  rw [List.cons_inj_right, List.cons_inj_right, List.cons_inj_right] at heq
  obtain ⟨hbottom, heq⟩ := (Text.digits_append_cons_inj (by decide) (by decide)).1 heq
  obtain ⟨hright, -⟩ := (Text.digits_append_cons_inj (by decide) (by decide)).1 heq
  exact Bounds.ext htop hleft hbottom hright

/-! ## Kinds in writing -/

namespace Diagnostic.Kind

/-- Different kinds have different names. -/
theorem name_injective : Function.Injective name := by
  intro a b h
  cases a <;> cases b <;> first | rfl | exact absurd h (by decide)

/-- No comma is in the name of a kind. -/
theorem comma_not_mem_name (kind : Diagnostic.Kind) : ',' ∉ kind.name.toList := by
  cases kind <;> decide

/-- The names of several kinds, with commas in between. -/
def listed (kinds : List Diagnostic.Kind) : String :=
  String.intercalate ", " (kinds.map (·.name))

/-- In a list of kinds there is a comma behind the first name, if one is put at the end. -/
theorem listed_cons_append (kind : Diagnostic.Kind) (kinds : List Diagnostic.Kind) :
    (listed (kind :: kinds)).toList ++ [','] = kind.name.toList ++ ',' ::
      if kinds = [] then [] else ' ' :: ((listed kinds).toList ++ [',']) := by
  cases kinds with
  | nil => simp [listed]
  | cons other kinds =>
    rw [if_neg (List.cons_ne_nil _ _), listed, listed, String.toList_intercalate,
      String.toList_intercalate]
    simp [List.intercalate_cons_cons]

/-- A list with a kind in it is not empty in writing. -/
theorem listed_cons_ne (kind : Diagnostic.Kind) (kinds : List Diagnostic.Kind) :
    listed (kind :: kinds) ≠ listed [] := by
  intro h
  have hcomma := listed_cons_append kind kinds
  rw [h] at hcomma
  obtain ⟨hname, -⟩ := (Text.append_cons_inj List.not_mem_nil (comma_not_mem_name kind)).1 hcomma
  have hne : kind.name.toList ≠ [] := by
    cases kind <;> decide
  exact hne hname.symm

/-- Different lists of kinds are written differently. -/
theorem listed_injective : Function.Injective listed := by
  intro ks ls h
  induction ks generalizing ls with
  | nil =>
    cases ls with
    | nil => rfl
    | cons l ls => exact absurd h.symm (listed_cons_ne l ls)
  | cons k ks ih =>
    cases ls with
    | nil => exact absurd h (listed_cons_ne k ks)
    | cons l ls =>
      have hcomma : (listed (k :: ks)).toList ++ [','] = (listed (l :: ls)).toList ++ [','] := by
        rw [h]
      rw [listed_cons_append, listed_cons_append,
        Text.append_cons_inj (comma_not_mem_name k) (comma_not_mem_name l)] at hcomma
      obtain ⟨hname, hrest⟩ := hcomma
      rw [name_injective (String.toList_injective hname)]
      split at hrest
      · next hks =>
        split at hrest
        · next hls => rw [hks, hls]
        · exact absurd hrest (List.cons_ne_nil _ _).symm
      · split at hrest
        · exact absurd hrest (List.cons_ne_nil _ _)
        · rw [List.cons_inj_right, List.append_cancel_right_eq] at hrest
          rw [ih (String.toList_injective hrest)]

end Diagnostic.Kind

/-! ## Attempts -/

/-- The reason of an attempt names a kind of problem: it is a list of kinds, the kind among them. -/
def Trace.Attempt.Names (t : Attempt) (kind : Diagnostic.Kind) : Prop :=
  ∃ kinds, t.reason = Diagnostic.Kind.listed kinds ∧ kind ∈ kinds

/-- The reasons in the attempts that ended with a box. -/
def Trace.boxReasons (attempts : List Attempt) : List String :=
  (attempts.filter fun t => decide (t.outcome = "box")).map (·.reason)

namespace BlockAnalysis

variable {config : Config} {block : Scene.Block} {p : Position} {kind : Diagnostic.Kind}

/-- What became of the corner of an outline. -/
inductive Became (a : BlockAnalysis) (o : Outline) : Trace.Attempt → Prop where
  /-- It is the corner of a box. -/
  | box (box : Box) (hok : o.outcome = .ok box) :
    Became a o ⟨a.block.sceneId, o.start.row + a.block.offset, o.start.col, "box",
      (box.bounds.shifted a.block.offset).text⟩
  /-- It is the corner of no box, and this is not reported. -/
  | suppressed (hbox : o.box? = none) (hsilent : o.start ∈ a.detection.suppressed) :
    Became a o ⟨a.block.sceneId, o.start.row + a.block.offset, o.start.col, "suppressed",
      "corner belongs to another box"⟩
  /-- It is the corner of no box, for the reasons given. -/
  | error (hbox : o.box? = none) (hloud : o.start ∉ a.detection.suppressed) :
    Became a o ⟨a.block.sceneId, o.start.row + a.block.offset, o.start.col, "error",
      Diagnostic.Kind.listed (o.problems.map (·.kind))⟩

/-- An attempt records what became of the corner. -/
theorem became_attempt (a : BlockAnalysis) (o : Outline) : a.Became o (a.attempt o) := by
  unfold attempt
  dsimp only
  cases houtcome : o.outcome with
  | ok box => exact .box box houtcome
  | error problems =>
    have hbox : o.box? = none := by rw [Outline.box?, houtcome]
    have hproblems : o.problems = problems := by rw [Outline.problems, houtcome]
    dsimp only
    split
    · next hsilent => exact .suppressed hbox hsilent
    · next hloud =>
      have herror := Became.error hbox hloud
      rw [hproblems, Diagnostic.Kind.listed, List.map_map] at herror
      exact herror

/-- The attempts of a block are made at the candidates of its drawing. -/
theorem attempts_ofBlock (config : Config) (block : Scene.Block) :
    (ofBlock config block).attempts = (Grid.ofLines block.lines).candidates.map fun p =>
      (ofBlock config block).attempt ((Grid.ofLines block.lines).outline config.radius p) := by
  have houtlines : (ofBlock config block).detection.outlines =
      (Grid.ofLines block.lines).candidates.map
        ((Grid.ofLines block.lines).outline config.radius) :=
    Detection.outlines_ofOutlines _
  rw [attempts, houtlines, List.map_map]
  rfl

/-- An attempt of a block records what became of a candidate. -/
theorem exists_became {t : Trace.Attempt} (ht : t ∈ (ofBlock config block).attempts) :
    ∃ p ∈ (Grid.ofLines block.lines).candidates,
      (ofBlock config block).Became ((Grid.ofLines block.lines).outline config.radius p) t := by
  rw [attempts_ofBlock] at ht
  obtain ⟨p, hp, rfl⟩ := List.mem_map.1 ht
  exact ⟨p, hp, became_attempt _ _⟩

/-- A kind is named by the failures that are recorded when a problem of this kind is found. -/
theorem exists_names_iff :
    (∃ t ∈ (ofBlock config block).attempts, t.outcome = "error" ∧ t.Names kind) ↔
      ∃ d ∈ ((Grid.ofLines block.lines).detect config.radius).problems, d.kind = kind := by
  constructor
  · rintro ⟨t, ht, herror, kinds, hreason, hkind⟩
    obtain ⟨p, hp, hbecame⟩ := exists_became ht
    cases hbecame with
    | box box hok => exact absurd herror (by simp)
    | suppressed hbox hsilent => exact absurd herror (by simp)
    | error hbox hloud =>
      rw [← Diagnostic.Kind.listed_injective hreason] at hkind
      obtain ⟨d, hd, rfl⟩ := List.mem_map.1 hkind
      rw [Grid.start_outline] at hloud
      exact ⟨d, Grid.mem_problems_detect_of_not_mem_suppressed hp hloud hd, rfl⟩
  · rintro ⟨d, hd, rfl⟩
    obtain ⟨earlier, p, later, hsplit, hloud, hd⟩ := Grid.mem_problems_detect_iff.1 hd
    have hp : p ∈ (Grid.ofLines block.lines).candidates := by
      rw [hsplit]
      exact List.mem_append_right _ List.mem_cons_self
    have hbecame := became_attempt (ofBlock config block)
      ((Grid.ofLines block.lines).outline config.radius p)
    rw [attempts_ofBlock]
    refine ⟨_, List.mem_map_of_mem hp, ?_⟩
    generalize (ofBlock config block).attempt _ = t at hbecame ⊢
    cases hbecame with
    | box box hok =>
      rw [Outline.problems, hok] at hd
      exact absurd hd List.not_mem_nil
    | suppressed hbox hsilent =>
      rw [Grid.start_outline] at hsilent
      exact absurd ((Grid.mem_suppressed_iff_silences hsplit).1 hsilent) hloud
    | error hbox _ => exact ⟨rfl, _, rfl, List.mem_map_of_mem hd⟩

/-- A failure that is recorded names some kind. -/
theorem exists_names_of_error {t : Trace.Attempt} (ht : t ∈ (ofBlock config block).attempts)
    (herror : t.outcome = "error") : ∃ kind, t.Names kind := by
  obtain ⟨p, -, hbecame⟩ := exists_became ht
  cases hbecame with
  | box box hok => exact absurd herror (by simp)
  | suppressed hbox hsilent => exact absurd herror (by simp)
  | error hbox hloud =>
    obtain ⟨d, hd⟩ := Grid.exists_mem_problems hbox
    exact ⟨d.kind, _, rfl, List.mem_map_of_mem hd⟩

/-- The boxes that are recorded are those that are found. -/
theorem boxReasons_ofBlock (config : Config) (block : Scene.Block) :
    Trace.boxReasons (ofBlock config block).attempts =
      (ofBlock config block).detection.boxes.map fun box =>
        (box.bounds.shifted block.offset).text := by
  have hboxes : (ofBlock config block).detection.boxes =
      (Grid.ofLines block.lines).candidates.filterMap fun p =>
        ((Grid.ofLines block.lines).outline config.radius p).box? :=
    Grid.boxes_detect _ _
  rw [Trace.boxReasons, attempts_ofBlock, hboxes, List.filter_map, List.map_map, List.map_filterMap,
    ← List.filterMap_eq_map, List.filterMap_filter]
  refine List.filterMap_congr fun p _ => ?_
  have hbecame := became_attempt (ofBlock config block)
    ((Grid.ofLines block.lines).outline config.radius p)
  simp only [Function.comp_apply]
  generalize (ofBlock config block).attempt _ = t at hbecame ⊢
  cases hbecame with
  | box box hok =>
    rw [Outline.box?_eq_some_iff.2 hok]
    rfl
  | suppressed hbox hsilent =>
    rw [hbox]
    rfl
  | error hbox hloud =>
    rw [hbox]
    rfl

/-- The boxes that are recorded are those of the scene, each once. -/
theorem boxReasons_perm (config : Config) (block : Scene.Block) :
    (Trace.boxReasons (ofBlock config block).attempts).Perm
      ((Element.rectangles (ofBlock config block).scene.elements).map (·.text)) := by
  have hperm := (rectangles_scene config block).map (·.text)
  rw [List.map_map, List.map_map] at hperm
  rw [boxReasons_ofBlock]
  exact hperm.symm

/-- No box is recorded twice. -/
theorem nodup_boxReasons (config : Config) (block : Scene.Block) :
    (Trace.boxReasons (ofBlock config block).attempts).Nodup := by
  have hbounds : ((ofBlock config block).detection.boxes.map (·.bounds)).Nodup :=
    Grid.nodup_bounds_detect _ _
  have htexts := (hbounds.map (Bounds.shifted_injective block.offset)).map Bounds.text_injective
  rw [List.map_map, List.map_map] at htexts
  rw [boxReasons_ofBlock]
  exact htexts

end BlockAnalysis

/-! ## Places of attempts -/

/-- The attempts are made at the corners of a block that have a piece of a horizontal edge to their
right, each once and in reading order. They are placed in the whole text, given by its lines. -/
structure Trace.TriesCorners (lines : List Line) (block : Scene.Block) (attempts : List Attempt) :
    Prop where
  /-- They are recorded for the scene of the block. -/
  scene : ∀ t ∈ attempts, t.scene = block.sceneId
  /-- They come in reading order, and no two of them are at the same place. -/
  ordered : attempts.Pairwise fun t u => Position.Precedes ⟨t.row, t.col⟩ ⟨u.row, u.col⟩
  /-- There is one exactly where a line of the block has a corner with such a piece behind it. -/
  mem_iff : ∀ row col : Int, (∃ t ∈ attempts, t.row = row ∧ t.col = col) ↔
    ∃ (i j : Nat) (cs : Line), block.lines[i]? = some cs ∧ cs[j]? = some '+' ∧
      cs[j + 1]? = some '-' ∧ row = i + block.offset ∧ col = j
  /-- The text has both characters there. -/
  written : ∀ t ∈ attempts, Text.charAt? lines ⟨t.row, t.col⟩ = some '+' ∧
    Text.charAt? lines ⟨t.row, t.col + 1⟩ = some '-'

namespace BlockAnalysis

variable {config : Config} {block : Scene.Block}

/-- An attempt is recorded for the scene of its block, at the place of its corner in the text. -/
theorem place_attempt (a : BlockAnalysis) (o : Outline) :
    (a.attempt o).scene = a.block.sceneId ∧
      (a.attempt o).row = o.start.row + a.block.offset ∧ (a.attempt o).col = o.start.col := by
  have hbecame := became_attempt a o
  generalize a.attempt o = t at hbecame
  cases hbecame <;> exact ⟨rfl, rfl, rfl⟩

/-- A block of a text has its attempts at its corners. -/
theorem triesCorners_attempts (config : Config) {lines : List Line} (h : block.CutFrom lines) :
    Trace.TriesCorners lines block (ofBlock config block).attempts := by
  have hplace : ∀ p,
      let t := (ofBlock config block).attempt ((Grid.ofLines block.lines).outline config.radius p)
      t.scene = block.sceneId ∧ t.row = p.row + block.offset ∧ t.col = p.col := by
    intro p
    have := place_attempt (ofBlock config block)
      ((Grid.ofLines block.lines).outline config.radius p)
    rwa [Grid.start_outline] at this
  rw [attempts_ofBlock]
  refine ⟨?_, ?_, fun row col => ?_, ?_⟩
  · intro t ht
    obtain ⟨p, -, rfl⟩ := List.mem_map.1 ht
    exact (hplace p).1
  · refine List.pairwise_map.2 ((Grid.pairwise_candidates _).imp fun {p q} hpq => ?_)
    obtain ⟨-, hrow, hcol⟩ := hplace p
    obtain ⟨-, hrow', hcol'⟩ := hplace q
    unfold Position.Precedes at *
    dsimp only at *
    omega
  · constructor
    · rintro ⟨t, ht, rfl, rfl⟩
      obtain ⟨p, hp, rfl⟩ := List.mem_map.1 ht
      obtain ⟨hcorner, hopening⟩ := Grid.mem_candidates_iff.1 hp
      obtain ⟨i, j, cs, rfl, hline, hj⟩ := Grid.exists_line_of_cellIs rfl hcorner
      obtain ⟨i', j', cs', hright, hline', hj'⟩ := Grid.exists_line_of_cellIs rfl hopening
      -- The piece of the edge stands in the same line.
      simp only [Position.right, Position.mk.injEq] at hright
      obtain rfl : i' = i := by omega
      obtain rfl : j' = j + 1 := by omega
      rw [hline, Option.some.injEq] at hline'
      rw [← hline'] at hj'
      exact ⟨i', j, cs, hline, hj, hj', (hplace _).2.1, (hplace _).2.2⟩
    · rintro ⟨i, j, cs, hline, hj, hj', rfl, rfl⟩
      have hp : (⟨i, j⟩ : Position) ∈ (Grid.ofLines block.lines).candidates := by
        refine Grid.mem_candidates_iff.2 ⟨?_, ?_⟩
        · rw [Grid.cellIs_ofLines hline hj]
          rfl
        · exact (Grid.cellIs_ofLines hline hj').trans rfl
      exact ⟨_, List.mem_map_of_mem hp, (hplace _).2.1, (hplace _).2.2⟩
  · intro t ht
    obtain ⟨p, hp, rfl⟩ := List.mem_map.1 ht
    obtain ⟨-, hrow, hcol⟩ := hplace p
    obtain ⟨hcorner, hopening⟩ := Grid.mem_candidates_iff.1 hp
    rw [hrow, hcol]
    exact ⟨h.charAt? rfl hcorner, h.charAt? rfl hopening⟩

end BlockAnalysis

/-! ## Whole records -/

/-- The record agrees with what was read of a text. Its attempts are put together from `groups`, one
for each block. -/
structure Trace.Tells (t : Trace) (text : String) (result : Parsed) (groups : List (List Attempt)) :
    Prop where
  /-- The attempts are made block by block. -/
  attempts : t.attempts = groups.flatten
  /-- Those of a block are made at its corners. -/
  corners : List.Forall₂ (TriesCorners (Analysis.linesOf text)) (Analysis.blocksOf text) groups
  /-- A failure is recorded when there is a problem with an outline. -/
  error_iff : (∃ a ∈ t.attempts, a.outcome = "error") ↔
    ∃ d ∈ result.diagnostics, d.kind.ofOutline = true
  /-- The failures name those kinds of errors that are about outlines. -/
  names_iff : ∀ kind : Diagnostic.Kind, (∃ a ∈ t.attempts, a.outcome = "error" ∧ a.Names kind) ↔
    kind.ofOutline = true ∧ ∃ d ∈ result.errors, d.kind = kind
  /-- Of a document, the boxes of a scene are those that are recorded for its block, each once. -/
  boxes : result.success = true → ∃ document, result.document = some document ∧
    List.Forall₂ (fun (scene : Scene) group => (boxReasons group).Nodup ∧
        (boxReasons group).Perm ((Element.rectangles scene.elements).map (·.text)))
      document.scenes groups

/-- The errors of a result are the problems of the analysis that are errors. -/
theorem Parsed.mem_errors_iff {a : Analysis} {d : Diagnostic} :
    d ∈ (ofAnalysis a).errors ↔ d ∈ a.diagnostics ∧ d.isError = true :=
  List.mem_filter

namespace Analysis

variable (config : Config) (text : String) (interactions : Option (InteractionReader × String))

/-- The attempts of a record are those of the blocks. -/
theorem attempts_record : ((ofText config text interactions).record text).attempts =
    ((blocksOf text).map fun block => (BlockAnalysis.ofBlock config block).attempts).flatten := by
  rw [← List.flatMap_def]
  exact List.flatMap_map _ _ _

variable {config text interactions}

/-- What is recorded is recorded for a block. -/
theorem mem_attempts_record_iff {t : Trace.Attempt} :
    t ∈ ((ofText config text interactions).record text).attempts ↔
      ∃ block ∈ blocksOf text, t ∈ (BlockAnalysis.ofBlock config block).attempts := by
  rw [attempts_record, ← List.flatMap_def, List.mem_flatMap]

/-- The errors about outlines are the problems with outlines. -/
theorem mem_errors_ofOutline_iff {d : Diagnostic} :
    (d ∈ (Parsed.ofAnalysis (ofText config text interactions)).errors ∧ d.kind.ofOutline = true) ↔
      d ∈ (ofText config text interactions).diagnostics ∧ d.kind.ofOutline = true := by
  rw [Parsed.mem_errors_iff]
  exact ⟨fun ⟨⟨hd, _⟩, hkind⟩ => ⟨hd, hkind⟩,
    fun ⟨hd, hkind⟩ => ⟨⟨hd, Diagnostic.isError_of_ofOutline hkind⟩, hkind⟩⟩

/-- A kind is named by the failures that are recorded when it is the kind of an error about an
outline. -/
theorem exists_names_record_iff {kind : Diagnostic.Kind} :
    (∃ t ∈ ((ofText config text interactions).record text).attempts,
        t.outcome = "error" ∧ t.Names kind) ↔
      kind.ofOutline = true ∧
        ∃ d ∈ (Parsed.ofAnalysis (ofText config text interactions)).errors, d.kind = kind := by
  constructor
  · rintro ⟨t, ht, hnames⟩
    obtain ⟨block, hblock, ht⟩ := mem_attempts_record_iff.1 ht
    obtain ⟨e, he, rfl⟩ := BlockAnalysis.exists_names_iff.1 ⟨t, ht, hnames⟩
    have hfound : e.shifted block.offset ∈ (ofText config text interactions).diagnostics ∧
        (e.shifted block.offset).kind.ofOutline = true :=
      mem_outline_diagnostics_iff.2 ⟨block, hblock, e, he, rfl⟩
    obtain ⟨hd, hkind⟩ := mem_errors_ofOutline_iff.2 hfound
    rw [Diagnostic.kind_shifted] at hkind
    exact ⟨hkind, _, hd, Diagnostic.kind_shifted e block.offset⟩
  · rintro ⟨hkind, d, hd, rfl⟩
    obtain ⟨block, hblock, e, he, rfl⟩ :=
      mem_outline_diagnostics_iff.1 (mem_errors_ofOutline_iff.1 ⟨hd, hkind⟩)
    obtain ⟨t, ht, hnames⟩ := BlockAnalysis.exists_names_iff.2
      ⟨e, he, (Diagnostic.kind_shifted e block.offset).symm⟩
    exact ⟨t, mem_attempts_record_iff.2 ⟨block, hblock, ht⟩, hnames⟩

/-- A failure is recorded when there is a problem with an outline. -/
theorem exists_error_record_iff :
    (∃ t ∈ ((ofText config text interactions).record text).attempts, t.outcome = "error") ↔
      ∃ d ∈ (Parsed.ofAnalysis (ofText config text interactions)).diagnostics,
        d.kind.ofOutline = true := by
  constructor
  · rintro ⟨t, ht, herror⟩
    obtain ⟨block, -, hblock⟩ := mem_attempts_record_iff.1 ht
    obtain ⟨kind, hkind⟩ := BlockAnalysis.exists_names_of_error hblock herror
    obtain ⟨houtline, d, hd, rfl⟩ := exists_names_record_iff.1 ⟨t, ht, herror, hkind⟩
    exact ⟨d, List.mem_append_left _ hd, houtline⟩
  · rintro ⟨d, hd, houtline⟩
    have herror := (mem_errors_ofOutline_iff.2 ⟨Parsed.mem_diagnostics_iff.1 hd, houtline⟩).1
    obtain ⟨t, ht, herror, -⟩ := exists_names_record_iff.2 ⟨houtline, d, herror, rfl⟩
    exact ⟨t, ht, herror⟩

variable (config text interactions)

/-- The record of an analysis agrees with the result. -/
theorem record_tells :
    ((ofText config text interactions).record text).Tells text
      (.ofAnalysis (ofText config text interactions))
      ((blocksOf text).map fun block => (BlockAnalysis.ofBlock config block).attempts) where
  attempts := attempts_record config text interactions
  corners := List.forall₂_map_right_iff.2 (List.forall₂_same.2 fun block hblock =>
    BlockAnalysis.triesCorners_attempts config (Scene.Block.cutFrom_of_mem_ofText hblock))
  error_iff := exists_error_record_iff
  names_iff := fun _ => exists_names_record_iff
  boxes := by
    intro hsuccess
    refine ⟨(ofText config text interactions).document, if_pos (List.isEmpty_iff.1 hsuccess), ?_⟩
    have hscenes := (rectangles_document config text interactions).flip
    refine List.forall₂_map_right_iff.2 (hscenes.imp fun scene block hsame => ?_)
    refine ⟨BlockAnalysis.nodup_boxReasons config block, ?_⟩
    rw [hsame]
    exact BlockAnalysis.boxReasons_perm config block

end Analysis

namespace Session

/-- Every text can be read with a record, unless interactions are given that nothing can read. The
record agrees with what was read. -/
theorem parse_tells (s : Session) (text : String) (interactions : Option String)
    (hreader : s.config.interactions = none → interactions = none) :
    ∃ (result : Parsed) (s' : Session) (trace : Trace) (groups : List (List Trace.Attempt)),
      s.parse text interactions true = .ok (result, s') ∧ s'.trace = some trace ∧
        trace.Tells text result groups := by
  obtain ⟨given, hgiven⟩ : ∃ given, s.config.withReader interactions = .ok given := by
    cases interactions with
    | none => exact ⟨none, rfl⟩
    | some written =>
      cases hnone : s.config.interactions with
      | none => exact absurd (hreader hnone) (Option.some_ne_none written)
      | some reader => exact ⟨some (reader, written), by simp only [Config.withReader, hnone]⟩
  have htells := Analysis.record_tells s.config text given
  refine ⟨_, { s with trace := some ((Analysis.ofText s.config text given).record text) }, _, _,
    ?_, rfl, htells⟩
  rw [parse, Config.analyze, hgiven]
  rfl

/-- A box whose last row is too short and whose bottom edge is too wide, and two boxes that share a
side. -/
def sharedSideText : String := "+---+\n|   |\n|  |\n+----+\n---\n@scene: next\n+-+-+\n|a|b|\n+-+-+"

/-- The trace of this text tells what became of each corner. -/
theorem parse_tells_shared_side :
    ((start Config.default).config.interactions = none → (none : Option String) = none) ∧
      (∃ (result : Parsed) (s : Session) (trace : Trace) (groups : List (List Trace.Attempt)),
        (start Config.default).parse sharedSideText none true = .ok (result, s) ∧
        s.trace = some trace ∧ trace.Tells sharedSideText result groups) ∧
      ((start Config.default).parse sharedSideText none true).toOption.bind
          (fun read => read.2.trace.map (·.attempts)) =
        some [⟨"main", 0, 0, "error", "MisalignedPipe, MismatchedWidth"⟩,
          ⟨"main", 3, 0, "suppressed", "corner belongs to another box"⟩,
          ⟨"next", 6, 0, "box", "[6,0 .. 8,2]"⟩, ⟨"next", 6, 2, "box", "[6,2 .. 8,4]"⟩,
          ⟨"next", 8, 0, "suppressed", "corner belongs to another box"⟩,
          ⟨"next", 8, 2, "suppressed", "corner belongs to another box"⟩] :=
  ⟨fun _ => rfl, parse_tells (start Config.default) _ none fun _ => rfl, by decide +kernel⟩

end Session

end Wireframe
