import Wireframe.Proofs.Interaction.Accumulate
import Wireframe.Proofs.Places.Elements
import Wireframe.Proofs.Slug

/-!
# Identifiers are well-formed

Buttons and links are named by slugs, fields by names, so an identifier can be used wherever a word
may stand. A button or link without a word in its text is named by its kind and its place, which is
a slug too since no place of a drawing is negative (`isSlug_idFor`). What a recognizer reads is
well-named (`wellNamed_read`); a scene holds nothing else that carries an identifier
(`readOn_of_mem_scene`), and neither moving an element nor attaching interactions to it renames it.
The look-up by identifier then finds an element for each identifier that is collected and for no
other one (`isSome_element?_iff`).
-/

namespace Wireframe

/-! ## Names of fields -/

namespace Form

variable {content name : Line}

/-- The line is the name of a field: a letter or an underscore, and then letters, digits, underscores
and dashes. -/
inductive IsName : Line → Prop where
  /-- The first character and the others. -/
  | cons (c : Char) (cs : Line) (hstart : isNameStart c = true)
    (hrest : ∀ d ∈ cs, isNameChar d = true) : IsName (c :: cs)

/-- What is read as the name of a field is one. -/
theorem isName_of_field? {placeholder : Option Line}
    (h : field? content = some (name, placeholder)) : IsName name := by
  obtain ⟨c, cs, rfl, hstart, rfl⟩ := exists_name_of_field? h
  exact .cons c _ hstart (List.all_eq_true.1 List.all_takeWhile)

end Form

/-! ## Elements -/

namespace Element

/-- The identifier of the element is well-formed, if the element carries one. -/
def WellNamed : Element → Prop
  | .button b => IsSlug b.id.toList
  | .link l => IsSlug l.id.toList
  | .input i => Form.IsName i.id.toList
  | _ => True

variable {e : Element}

/-- Moving an element does not rename it. -/
theorem WellNamed.shifted (h : e.WellNamed) (rows : Int) : (e.shifted rows).WellNamed := by
  cases e with
  | button b => exact h
  | link l => exact h
  | input i => exact h
  | _ => trivial

/-- Attaching interactions to an element does not rename it. -/
theorem WellNamed.attach (h : e.WellNamed) (given : List Interaction) :
    (Interaction.attach given e).WellNamed := by
  cases e with
  | button b =>
    have hid : (Interaction.attachButton given b).id = b.id :=
      Option.some.inj (Interaction.id?_attach given (.button b))
    show IsSlug (Interaction.attachButton given b).id.toList
    rw [hid]
    exact h
  | link l => exact h
  | input i => exact h
  | _ => trivial

end Element

/-! ## Recognizers -/

namespace Recognizer

open Element

variable {rec : Recognizer} {content : Line} {p : Position} {container : Bounds} {e : Element}

/-- An element is named by the slug of its text, or by its kind and place, and both are slugs. -/
theorem isSlug_idFor {kind : String} (hkind : IsSlug kind.toList) (label : Line)
    (hrow : 0 ≤ p.row) (hcol : 0 ≤ p.col) : IsSlug (idFor kind label p).toList := by
  unfold idFor
  split
  · -- The text has no word.
    have hplace : IsSlug (Text.digits p.row ++ '-' :: Text.digits p.col) :=
      (isSlug_digits hrow).append (isSlug_digits hcol)
    have hname := hkind.append hplace
    simpa [Text.decimal] using hname
  · next hword =>
    rw [String.toList_ofList]
    exact isSlug_slugLine hword

/-- What a recognizer reads at a place of a drawing is well-named. -/
theorem wellNamed_read (hrow : 0 ≤ p.row) (hcol : 0 ≤ p.col)
    (h : rec.read content p container = some e) : e.WellNamed := by
  have hkind : ∀ kind : String, kind.toList ≠ [] → kind.toList.all isSlugChar = true →
      IsSlug kind.toList := fun _ hne hall => .word ⟨hne, List.all_eq_true.1 hall⟩
  cases reads_of_read h with
  | button inner hform hlabel =>
    exact isSlug_idFor (hkind "button" (by decide) (by decide)) _ hrow hcol
  | link inner hform hlabel =>
    exact isSlug_idFor (hkind "link" (by decide) (by decide)) _ hrow hcol
  | input name placeholder hform =>
    show Form.IsName (String.ofList name).toList
    rw [String.toList_ofList]
    exact Form.isName_of_field? hform
  | checkbox tick rest hform hlabel => trivial
  | emphasis emphasised hform => trivial
  | text => trivial

/-- What several recognizers read together at a place of a drawing is well-named. -/
theorem wellNamed_readWith (rs : List Recognizer) (content : Line) (container : Bounds)
    (hrow : 0 ≤ p.row) (hcol : 0 ≤ p.col) : (readWith rs content p container).WellNamed := by
  unfold readWith
  cases hread : (inOrder rs).findSome? (read content p container) with
  | none => trivial
  | some e =>
    obtain ⟨rec, -, hrec⟩ := List.exists_of_findSome?_eq_some hread
    exact wellNamed_read hrow hcol hrec

end Recognizer

/-! ## Scenes -/

section Scenes

variable {r : Reader} {b : Bounds} {row : Int} {e : Element}

/-- What is read on a row inside a drawn box is well-named. -/
theorem Reader.ReadOn.wellNamed (h : r.ReadOn row b e) (hdraws : r.grid.Draws b)
    (hrow : row ∈ Grid.innerRows b) : e.WellNamed := by
  cases h with
  | divider hdivider => trivial
  | spacer hblank => trivial
  | content k content hcontent hthere =>
    -- The corner of the box stands in the drawing, and the content below it and right of it.
    obtain ⟨htop, -, hleft, -⟩ := Grid.bounds_of_cellIs hdraws.topLeft
    have hbelow := (Reader.mem_innerRows_iff.1 hrow).1
    dsimp only at htop hleft
    refine (Recognizer.wellNamed_readWith r.recognizers content b ?_ ?_).shifted r.offset
    · show 0 ≤ row
      omega
    · show 0 ≤ b.left + 1 + (k : Int)
      omega

/-- The elements of a block's scene are boxes, rows, and what is read on the rows inside the drawn
boxes. -/
theorem BlockAnalysis.readOn_of_mem_scene {config : Config} {block : Scene.Block}
    (h : e ∈ Element.walkAll (ofBlock config block).scene.elements) :
    e.isLeaf = false ∨ ∃ row b, (Grid.ofLines block.lines).Draws b ∧ row ∈ Grid.innerRows b ∧
      (⟨Grid.ofLines block.lines, block.offset, config.recognizers⟩ : Reader).ReadOn row b e := by
  obtain ⟨l, hl, he⟩ := Element.mem_walkAll_iff.1 h
  rcases Reader.levels_scene hl with rfl | ⟨u, hu, rfl⟩
  · rcases Reader.mem_openedAll_roots he with ⟨t, ht, rfl⟩ | ⟨run, align, rfl, -⟩
    · exact .inl rfl
    · exact .inl rfl
  · cases Reader.holds_of_mem_opened he with
    | box c hc => exact .inl rfl
    | own _ row hrow hread =>
      exact .inr ⟨row, u.box.bounds, draws_of_mem_subtrees hu, hrow.mem, hread⟩
    | controls => exact .inl rfl
    | boxes => exact .inl rfl

/-- The elements of a block's scene are well-named. -/
theorem BlockAnalysis.wellNamed_of_mem_scene {config : Config} {block : Scene.Block}
    (h : e ∈ Element.walkAll (ofBlock config block).scene.elements) : e.WellNamed := by
  rcases readOn_of_mem_scene h with hinner | ⟨row, b, hdraws, hrow, hread⟩
  · cases e with
    | box bounds name children => trivial
    | row children align => trivial
    | _ => exact absurd hinner (by simp [Element.isLeaf])
  · exact hread.wellNamed hdraws hrow

end Scenes

/-! ## Documents -/

/-- The elements of a document are well-named, with or without interactions. -/
theorem Analysis.wellNamed_of_mem_elements {config : Config} {text : String}
    {interactions : Option (InteractionReader × String)} {e : Element}
    (h : e ∈ (ofText config text interactions).document.elements) : e.WellNamed := by
  obtain ⟨s, hs, he⟩ := List.mem_flatMap.1 h
  obtain ⟨block, -, helements | ⟨given, helements⟩⟩ := exists_block_of_mem_scenes hs
  · rw [helements] at he
    exact BlockAnalysis.wellNamed_of_mem_scene he
  · rw [helements, Interaction.walkAll_attachAll] at he
    obtain ⟨x, hx, rfl⟩ := List.mem_map.1 he
    exact (BlockAnalysis.wellNamed_of_mem_scene hx).attach given

/-- The look-up finds an element exactly for the identifiers that are collected. -/
theorem Document.isSome_element?_iff (d : Document) (id : String) :
    (d.element? id).isSome = true ↔ id ∈ d.elementIds := by
  unfold element? elementIds
  rw [List.find?_isSome, List.mem_filterMap]
  simp only [decide_eq_true_eq]

/-- The slug of a text is well-formed unless it is empty, which it is exactly when the text in lower
case has no small letter of the alphabet and no digit, and it is its own slug. When a text is read
without errors, under any settings and with any interactions, every button, link and field of the
document has a well-formed identifier, and the look-up by identifier finds an element exactly for
the identifiers that are collected. -/
theorem Config.document_wellNamed :
    (∀ s : String, (slug s = "" ∨ IsSlug (slug s).toList) ∧
      (slug s = "" ↔ ∀ c ∈ Text.lowerLine s.toList, isSlugChar c = false) ∧
      slug (slug s) = slug s) ∧
    ∀ (config : Config) (text : String) (interactions : Option String) (result : Parsed),
      config.parse text interactions = .ok result → result.success = true →
      ∃ document, result.document = some document ∧
        (∀ e ∈ document.elements, e.WellNamed) ∧
        ∀ id, (document.element? id).isSome = true ↔ id ∈ document.elementIds := by
  constructor
  · intro s
    refine ⟨?_, (slug_eq_empty_iff s).trans slugLine_eq_nil_iff, slug_slug s⟩
    by_cases hnil : slugLine s.toList = []
    · exact .inl ((slug_eq_empty_iff s).2 hnil)
    · right
      rw [toList_slug]
      exact isSlug_slugLine hnil
  · intro config text interactions result hparse hsuccess
    obtain ⟨given, rfl⟩ := exists_analysis hparse
    have hnone : (bySeverity (Analysis.ofText config text given).diagnostics).1 = [] :=
      List.isEmpty_iff.1 hsuccess
    exact ⟨(Analysis.ofText config text given).document, if_pos hnone,
      fun e he => Analysis.wellNamed_of_mem_elements he, fun id => Document.isSome_element?_iff _ id⟩

/-- Two controls, the first of them without a word in its label, a field, and a button with letters
that have their lower case in ASCII. -/
def controlsText : String :=
  "+-------------+\n|[!]  \"Log in\"|\n|#e-mail you  |\n|  [ \u0130\u212A ]     |\n" ++
    "+-------------+"

/-- The button without a word gets its place for an identifier, the others what their labels say. -/
theorem Config.document_wellNamed_every_kind :
    (∃ document, (default.parseText controlsText).document = some document ∧
      (∀ e ∈ document.elements, e.WellNamed) ∧
      ∀ id, (document.element? id).isSome = true ↔ id ∈ document.elementIds) ∧
    (default.parseText controlsText).document.map (·.elementIds) =
      some ["button-1-1", "log-in", "e-mail", "i-k"] := by
  have hsuccess : (default.parseText controlsText).success = true := by decide +kernel
  exact ⟨document_wellNamed.2 default _ none _ (parse_none default _) hsuccess, by decide +kernel⟩

end Wireframe
