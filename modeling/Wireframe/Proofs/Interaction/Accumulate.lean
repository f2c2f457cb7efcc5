import Wireframe.Proofs.Interaction.Merge

/-!
# Merging interactions one list after the other

Two lists of interactions are merged at once or one after the other. The problems are the same, and
so are all properties and actions; the documents may differ in the look of a button only
(`Document.merge_append`). A button takes its look from the property that it has in the end. When
the first list gives it a look and the second one a property that is no look, it has the look of the
first list after two merges and its old look after a single one (`Interaction.LosesLook`), and there
is no other difference.
-/

namespace Wireframe

namespace Interaction

open Element

variable {xs ys : List Interaction} {e : Element} {b : Button} {look : String}

/-- The value of a property of a button after interactions: the last one that they give it, or its
own. -/
def propertyAfter (given : List Interaction) (b : Button) (key : String) : Option Scalar :=
  ((propertiesFor given b.id).reverse.lookup key).or (b.properties.lookup key)

/-- A button has a new look after the first list, and the second list takes the property for it away
without naming another look. -/
structure LosesLook (xs ys : List Interaction) (b : Button) (look : String) : Prop where
  /-- The first list has interactions for the button. -/
  first : Targets xs b.id
  /-- So has the second list. -/
  second : Targets ys b.id
  /-- The first list leaves it with a look. -/
  isLook : look ∈ buttonVariants
  /-- The look is what the property says then. -/
  named : propertyAfter xs b "variant" = some (.text look)
  /-- The button did not have this look before. -/
  new : b.variant ≠ some look
  /-- In the end the property says no look. -/
  taken : ∀ other ∈ buttonVariants, propertyAfter (xs ++ ys) b "variant" ≠ some (.text other)

/-! ## Single elements -/

/-- The interactions for an identifier in two lists are those in each. -/
theorem targeting_append (xs ys : List Interaction) (id : String) :
    targeting (xs ++ ys) id = targeting xs id ++ targeting ys id := by
  simp [targeting]

/-- Two lists are for an element if one of them is. -/
theorem targets_append {id : String} : Targets (xs ++ ys) id ↔ Targets xs id ∨ Targets ys id := by
  simp [Targets, or_and_right, exists_or]

/-- Properties are merged one list after the other. -/
theorem mergeProperties_append (properties : Properties) (xs ys : List Interaction) :
    mergeProperties properties (xs ++ ys) = mergeProperties (mergeProperties properties xs) ys := by
  simp [mergeProperties]

/-- A property of a button after a merge. -/
theorem lookup_mergeProperties (given : List Interaction) (b : Button) (key : String) :
    (mergeProperties b.properties (targeting given b.id)).lookup key = propertyAfter given b key :=
  (overridden_mergeProperties b.properties given b.id).lookup key

/-- Properties that name a look give it. -/
theorem variantFor_of_named {properties : Properties} {old : Option String}
    (hlook : look ∈ buttonVariants) (hnamed : properties.lookup "variant" = some (.text look)) :
    variantFor properties old = some look := by
  simp [variantFor, hnamed, hlook]

/-- Properties that name no look leave the old one. -/
theorem variantFor_of_not_named {properties : Properties} {old : Option String}
    (h : ∀ look ∈ buttonVariants, properties.lookup "variant" ≠ some (.text look)) :
    variantFor properties old = old := by
  unfold variantFor
  split
  · next look hnamed => exact if_neg fun hlook => h look hlook hnamed
  · rfl

/-- A button after interactions, whether they are for it or not. -/
theorem attachButton_eq (given : List Interaction) (b : Button) :
    attachButton given b =
      { b with
        properties := mergeProperties b.properties (targeting given b.id)
        actions := b.actions ++ actionsFor given b.id
        variant := (attachButton given b).variant } := by
  unfold attachButton
  split
  · next hnil => simp [← flatMap_actions_targeting, hnil, mergeProperties]
  · rfl

/-- A button keeps its look if no interaction is for it. -/
theorem variant_attachButton_of_not_targets (h : ¬ Targets xs b.id) :
    (attachButton xs b).variant = b.variant := by
  rw [attachButton, targeting_eq_nil_iff.2 h]

/-- Two merges make the same of a button as a single one, except for its look. -/
theorem attachButton_attachButton (xs ys : List Interaction) (b : Button) :
    attachButton ys (attachButton xs b) =
      { attachButton (xs ++ ys) b with
        variant := (attachButton ys (attachButton xs b)).variant } := by
  have hid : (attachButton xs b).id = b.id := by rw [attachButton_eq xs b]
  rw [attachButton_eq ys, attachButton_eq (xs ++ ys), attachButton_eq xs b]
  simp [← flatMap_actions_targeting, targeting_append, mergeProperties_append]

/-- After a second list that is for a button, its look is what its properties name in the end, or
the one that the first list has left it with. -/
theorem variant_attachButton_attachButton (h : Targets ys b.id) :
    (attachButton ys (attachButton xs b)).variant =
      variantFor (mergeProperties b.properties (targeting (xs ++ ys) b.id))
        (attachButton xs b).variant := by
  have hid : (attachButton xs b).id = b.id := by rw [attachButton_eq xs b]
  have hproperties : (attachButton xs b).properties =
      mergeProperties b.properties (targeting xs b.id) := by rw [attachButton_eq xs b]
  rw [attachButton_of_targets (hid ▸ h), hid, hproperties, targeting_append,
    mergeProperties_append]

/-- A button that loses a look has its old one after a single merge and the lost one after two. -/
theorem LosesLook.variants (h : LosesLook xs ys b look) :
    (attachButton (xs ++ ys) b).variant = b.variant ∧
      (attachButton ys (attachButton xs b)).variant = some look := by
  have htaken : ∀ other ∈ buttonVariants,
      (mergeProperties b.properties (targeting (xs ++ ys) b.id)).lookup "variant" ≠
        some (.text other) := by
    intro other hother
    rw [lookup_mergeProperties]
    exact h.taken other hother
  constructor
  · rw [attachButton_of_targets (targets_append.2 (.inl h.first))]
    exact variantFor_of_not_named htaken
  · rw [variant_attachButton_attachButton h.second, variantFor_of_not_named htaken,
      attachButton_of_targets h.first]
    exact variantFor_of_named h.isLook (by rw [lookup_mergeProperties, h.named])

/-- A button that loses no look has the same one after a single merge and after two. -/
theorem variant_attachButton_append (h : ∀ look, ¬ LosesLook xs ys b look) :
    (attachButton ys (attachButton xs b)).variant = (attachButton (xs ++ ys) b).variant := by
  by_cases hys : Targets ys b.id
  · rw [variant_attachButton_attachButton hys,
      attachButton_of_targets (targets_append.2 (.inr hys))]
    by_cases hend : ∃ look ∈ buttonVariants,
        propertyAfter (xs ++ ys) b "variant" = some (.text look)
    · -- The look that is named in the end counts, whichever one was there before.
      obtain ⟨look, hlook, hnamed⟩ := hend
      rw [← lookup_mergeProperties] at hnamed
      rw [variantFor_of_named hlook hnamed, variantFor_of_named hlook hnamed]
    · -- Otherwise the look after the first list is the old one, or else it would be lost.
      have htaken : ∀ look ∈ buttonVariants,
          propertyAfter (xs ++ ys) b "variant" ≠ some (.text look) := fun look hlook heq =>
        hend ⟨look, hlook, heq⟩
      have hnone := htaken
      simp only [← lookup_mergeProperties] at hnone
      rw [variantFor_of_not_named hnone, variantFor_of_not_named hnone]
      by_cases hxs : Targets xs b.id
      · rw [attachButton_of_targets hxs]
        by_cases hfirst : ∃ look ∈ buttonVariants,
            propertyAfter xs b "variant" = some (.text look)
        · obtain ⟨look, hlook, hnamed⟩ := hfirst
          have hold : b.variant = some look := by
            by_contra hnew
            exact h look ⟨hxs, hys, hlook, hnamed, hnew, htaken⟩
          rw [← lookup_mergeProperties] at hnamed
          exact (variantFor_of_named hlook hnamed).trans hold.symm
        · refine variantFor_of_not_named fun look hlook heq => hfirst ⟨look, hlook, ?_⟩
          rw [← lookup_mergeProperties]
          exact heq
      · exact variant_attachButton_of_not_targets hxs
  · have hid : (attachButton xs b).id = b.id := by rw [attachButton_eq xs b]
    rw [variant_attachButton_of_not_targets (hid ▸ hys), attachButton, attachButton,
      targeting_append, targeting_eq_nil_iff.2 hys, List.append_nil]

/-- What stands at a place before two lists of interactions, after both at once, and after the one
and then the other. -/
inductive ReceivesTwice (xs ys : List Interaction) : Element → Element → Element → Prop where
  /-- A box stays, around as many elements as before. -/
  | box (b : Bounds) (name : Option String) (old one two : List Element)
    (hone : one.length = old.length) (htwo : two.length = old.length) :
    ReceivesTwice xs ys (.box b name old) (.box b name one) (.box b name two)
  /-- A row stays, around as many elements as before. -/
  | row (align : Alignment) (old one two : List Element) (hone : one.length = old.length)
    (htwo : two.length = old.length) :
    ReceivesTwice xs ys (.row old align) (.row one align) (.row two align)
  /-- Any other element is the same both ways, unless it is a button that loses a look. -/
  | same (old new : Element) (hleaf : old.isLeaf = true)
    (hkept : ∀ b look, old = .button b → ¬ LosesLook xs ys b look) :
    ReceivesTwice xs ys old new new
  /-- A button that loses a look has its old one after both lists at once, and the lost one after
  two merges. -/
  | button (b new : Button) (look : String) (hloses : LosesLook xs ys b look)
    (hold : new.variant = b.variant) :
    ReceivesTwice xs ys (.button b) (.button new) (.button { new with variant := some look })

/-- An element with nothing inside that loses no look is the same both ways. -/
theorem attach_append_of_isLeaf (hleaf : e.isLeaf = true)
    (hkept : ∀ b look, e = .button b → ¬ LosesLook xs ys b look) :
    attach (xs ++ ys) e = attach ys (attach xs e) := by
  cases e with
  | button b =>
    rw [attach, attach, attach, attachButton_attachButton,
      variant_attachButton_append fun look => hkept b look rfl]
  | input i =>
    simp [attach, attachInput, targeting_append, mergeProperties_append, mergeActions]
  | link l => simp [attach, attachLink, targeting_append, mergeProperties_append, mergeActions]
  | checkbox c => rfl
  | text t => rfl
  | divider p => rfl
  | spacer p => rfl
  | box b name children => simp [isLeaf] at hleaf
  | row children align => simp [isLeaf] at hleaf

/-- A button that loses a look is not the same both ways. -/
theorem LosesLook.attach_ne (h : LosesLook xs ys b look) :
    attach (xs ++ ys) (.button b) ≠ attach ys (attach xs (.button b)) := by
  obtain ⟨hone, htwo⟩ := h.variants
  intro heq
  have hbutton : attachButton (xs ++ ys) b = attachButton ys (attachButton xs b) :=
    Element.button.inj heq
  rw [hbutton, htwo] at hone
  exact h.new hone.symm

/-- Attaching two lists both ways makes of an element what it is to receive. -/
theorem receivesTwice_attach (xs ys : List Interaction) (e : Element) :
    ReceivesTwice xs ys e (attach (xs ++ ys) e) (attach ys (attach xs e)) := by
  by_cases hloses : ∃ b look, e = .button b ∧ LosesLook xs ys b look
  · obtain ⟨b, look, rfl, hloses⟩ := hloses
    obtain ⟨hone, htwo⟩ := hloses.variants
    have hbutton := attachButton_attachButton xs ys b
    rw [htwo] at hbutton
    rw [attach, attach, attach, hbutton]
    exact .button b _ look hloses hone
  · have hkept : ∀ b look, e = .button b → ¬ LosesLook xs ys b look := fun b look he h =>
      hloses ⟨b, look, he, h⟩
    cases hleaf : e.isLeaf with
    | true =>
      rw [attach_append_of_isLeaf hleaf hkept]
      exact .same e _ hleaf hkept
    | false =>
      cases e with
      | box b name children =>
        exact .box b name children _ _ (by simp [attachAll_eq_map]) (by simp [attachAll_eq_map])
      | row children align =>
        exact .row align children _ _ (by simp [attachAll_eq_map]) (by simp [attachAll_eq_map])
      | _ => simp [isLeaf] at hleaf

/-- Interactions leave the identifier of an element. -/
theorem id?_attach (given : List Interaction) (e : Element) : (attach given e).id? = e.id? := by
  cases e with
  | button b => rw [attach, attachButton_eq]; rfl
  | _ => rfl

end Interaction

/-! ## Documents -/

namespace Document

open Interaction

variable {d : Document}

/-- One function after another changes a document as both do together. -/
theorem map_map (F G : Element → Element) (d : Document) : (d.map F).map G = d.map (G ∘ F) := by
  simp [map, Function.comp_def]

/-- Merging leaves the identifiers that elements of the document have. -/
theorem carries_merge (given : List Interaction) (id : String) :
    (d.merge given).document.Carries id ↔ d.Carries id := by
  simp only [Carries, document_merge, at?_map (actsOnLeaves_attach given), Option.map_eq_some_iff]
  constructor
  · rintro ⟨scene, top, path, _, ⟨e, hat, rfl⟩, hid⟩
    exact ⟨scene, top, path, e, hat, id?_attach given e ▸ hid⟩
  · rintro ⟨scene, top, path, e, hat, hid⟩
    exact ⟨scene, top, path, _, ⟨e, hat, rfl⟩, (id?_attach given e).trans hid⟩

/-- What two lists of interactions make of a document, both at once and one after the other. -/
structure MergedTwice (d : Document) (xs ys : List Interaction) (one two : Document) : Prop where
  /-- The scenes are the same but for their elements. -/
  scenes : List.Forall₂ (fun s t : Scene => t = { s with elements := t.elements }) one.scenes
    two.scenes
  /-- The same places are taken as before, and what stands there has received what both lists give
  it. -/
  elements : ∀ scene top path,
    (d.at? scene top path = none ∧ one.at? scene top path = none ∧
      two.at? scene top path = none) ∨
    ∃ e e₁ e₂, d.at? scene top path = some e ∧ one.at? scene top path = some e₁ ∧
      two.at? scene top path = some e₂ ∧ ReceivesTwice xs ys e e₁ e₂

/-- Merging two lists of interactions both ways gives the same document exactly when no button of
the document loses its look. -/
theorem document_merge_append_iff (d : Document) (xs ys : List Interaction) :
    (d.merge (xs ++ ys)).document = ((d.merge xs).document.merge ys).document ↔
      ∀ scene top path b look, d.at? scene top path = some (.button b) →
        ¬ LosesLook xs ys b look := by
  rw [document_merge, document_merge, document_merge, map_map,
    map_eq_map_iff (actsOnLeaves_attach _) ((actsOnLeaves_attach ys).comp (actsOnLeaves_attach xs))]
  constructor
  · intro hsame scene top path b look hat hloses
    exact hloses.attach_ne (hsame scene top path _ hat rfl)
  · intro hkept scene top path e hat hleaf
    refine attach_append_of_isLeaf hleaf fun b look he => ?_
    exact hkept scene top path b look (he ▸ hat)

/-- Merging two lists of interactions at once gives the problems of the two merges one after the
other. It gives the same document too, but for the looks that buttons lose, and so the very same one
exactly when no button of the document loses its look. -/
theorem merge_append (d : Document) (xs ys : List Interaction) :
    (d.merge (xs ++ ys)).problems =
        (d.merge xs).problems ++ ((d.merge xs).document.merge ys).problems ∧
      d.MergedTwice xs ys (d.merge (xs ++ ys)).document ((d.merge xs).document.merge ys).document ∧
      ((d.merge (xs ++ ys)).document = ((d.merge xs).document.merge ys).document ↔
        ∀ scene top path b look, d.at? scene top path = some (.button b) →
          ¬ LosesLook xs ys b look) := by
  refine ⟨?_, ⟨?_, fun scene top path => ?_⟩, document_merge_append_iff d xs ys⟩
  · simp only [problems_merge, carries_merge, List.filter_append, List.map_append]
  · rw [document_merge, document_merge, document_merge, map_map, map, map,
      List.forall₂_map_left_iff, List.forall₂_map_right_iff]
    exact List.forall₂_same.2 fun s _ => rfl
  · rw [document_merge, document_merge, document_merge, map_map, at?_map (actsOnLeaves_attach _),
      at?_map ((actsOnLeaves_attach ys).comp (actsOnLeaves_attach xs))]
    cases d.at? scene top path with
    | none => exact .inl ⟨rfl, rfl, rfl⟩
    | some e => exact .inr ⟨e, _, _, rfl, rfl, rfl, receivesTwice_attach xs ys e⟩

/-- A button is given a look and then a word that is no look. -/
theorem not_forall_document_merge_append :
    ¬ ∀ (d : Document) (xs ys : List Interaction),
      (d.merge (xs ++ ys)).document = ((d.merge xs).document.merge ys).document := by
  intro h
  have hsame := h
    ⟨[⟨"main", "Main", "none", "desktop",
      [.button ⟨"go", "Go", ⟨1, 1⟩, .left, none, [], []⟩], 0⟩]⟩
    [⟨"go", [("variant", .text "primary")], [], 1⟩] [⟨"go", [("variant", .text "neon")], [], 1⟩]
  rw [document_merge_append_iff] at hsame
  refine hsame 0 0 [] _ "primary" rfl ?_
  exact {
    first := ⟨_, List.mem_singleton_self _, rfl⟩
    second := ⟨_, List.mem_singleton_self _, rfl⟩
    isLook := by decide
    named := by decide
    new := by decide
    taken := by decide }

end Document

end Wireframe
