import Wireframe.Proofs.Interaction.Paths

/-!
# Merging interactions changes what it is told to

`Interaction.Receives` says what stands at a place of a document after interactions, given what
stood there before: an element that interactions name has their properties and actions, a button the
look that its properties name, and everything else is as it was. Merging interactions into a
document makes this true of every place, keeps the scenes, and reports the interactions that name no
element of the document (`Document.merged_merge`).

Merging first looks for the identifiers and then attaches the interactions; both go through the same
elements (`Document.mem_elementIds_iff`), so that an interaction is either attached or reported
(`Document.document_merge`).
-/

namespace Wireframe

namespace Keyed

variable {κ α : Type} [DecidableEq κ]

/-- Entries are overridden by others, one after the other: the last value for a key counts, and new
keys stand behind the old ones in the order in which they came in. -/
structure Overridden (entries news result : List (κ × α)) : Prop where
  /-- Under a key is the last one of the new values, or the old value if there is no new one. -/
  lookup : ∀ key, result.lookup key = (news.reverse.lookup key).or (entries.lookup key)
  /-- Old keys stay in their places, and each new one is added once. -/
  keys : result.map Prod.fst = entries.map Prod.fst ++
    ((news.map Prod.fst).filter fun key => decide (key ∉ entries.map Prod.fst)).eraseDups

/-- Setting a key adds it behind the others unless it is there. -/
theorem keys_set (entries : List (κ × α)) (key : κ) (value : α) :
    (set entries key value).map Prod.fst =
      if key ∈ entries.map Prod.fst then entries.map Prod.fst
      else entries.map Prod.fst ++ [key] := by
  induction entries with
  | nil => simp [set]
  | cons entry entries ih =>
    obtain ⟨k, v⟩ := entry
    unfold set
    by_cases hk : k = key
    · simp [hk]
    · rw [if_neg hk, List.map_cons, ih]
      by_cases hmem : key ∈ entries.map Prod.fst
      · simp_all
      · simp_all [eq_comm]

/-- Updating overrides. -/
theorem overridden_update (entries news : List (κ × α)) :
    Overridden entries news (update entries news) := by
  induction news generalizing entries with
  | nil => exact ⟨fun key => by simp [update], by simp [update]⟩
  | cons new news ih =>
    obtain ⟨k, v⟩ := new
    -- What is left overrides the entries with the first key set.
    have hrest := ih (set entries k v)
    rw [show update entries ((k, v) :: news) = update (set entries k v) news from rfl]
    refine ⟨fun key => ?_, ?_⟩
    · rw [hrest.lookup, lookup_set, List.reverse_cons, List.lookup_append]
      by_cases hkey : key = k
      · simp [hkey]
      · have hbeq : (key == k) = false := by simpa using hkey
        simp [hkey, List.lookup_cons, hbeq]
    · rw [hrest.keys, keys_set]
      by_cases hmem : k ∈ entries.map Prod.fst
      · rw [List.map_cons, List.filter_cons_of_neg (by simpa using hmem)]
        simp only [if_pos hmem]
      · rw [List.map_cons, List.filter_cons_of_pos (by simpa using hmem), List.eraseDups_cons,
          List.filter_filter]
        simp only [if_neg hmem]
        rw [List.append_assoc, List.singleton_append]
        congr 3
        refine List.filter_congr fun key _ => ?_
        rw [Bool.eq_iff_iff]
        simp only [decide_eq_true_eq, Bool.and_eq_true, Bool.not_eq_true', beq_eq_false_iff_ne,
          List.mem_append, List.mem_singleton, not_or]
        exact and_comm

end Keyed

/-! ## Single elements -/

namespace Interaction

open Element

variable {given : List Interaction} {e : Element}

/-- The properties that interactions give to the element with an identifier, one after the other. -/
def propertiesFor (given : List Interaction) (id : String) : Properties :=
  (given.filter fun i => decide (i.elementId = id)).flatMap (·.properties)

/-- The actions that interactions give to the element with an identifier, one after the other. -/
def actionsFor (given : List Interaction) (id : String) : List Action :=
  (given.filter fun i => decide (i.elementId = id)).flatMap (·.actions)

/-- Some of the interactions are for the element with an identifier. -/
def Targets (given : List Interaction) (id : String) : Prop := ∃ i ∈ given, i.elementId = id

/-- The look of a button: the one that its properties name, or the old one if they name none of the
three. -/
inductive LookOf (properties : Properties) (old : Option String) : Option String → Prop where
  /-- The properties name a look. -/
  | named (look : String) (hlook : look ∈ ["primary", "secondary", "ghost"])
    (hnamed : properties.lookup "variant" = some (.text look)) : LookOf properties old (some look)
  /-- The properties name no look. -/
  | old (hnone : ∀ look ∈ ["primary", "secondary", "ghost"],
      properties.lookup "variant" ≠ some (.text look)) : LookOf properties old old

/-- What stands at a place before interactions and after them. -/
inductive Receives (given : List Interaction) : Element → Element → Prop where
  /-- A box stays, around as many elements as before. -/
  | box (b : Bounds) (name : Option String) (old new : List Element)
    (hcount : new.length = old.length) : Receives given (.box b name old) (.box b name new)
  /-- A row stays, around as many elements as before. -/
  | row (align : Alignment) (old new : List Element) (hcount : new.length = old.length) :
    Receives given (.row old align) (.row new align)
  /-- Any other element stays as it is if no interaction is for it. -/
  | kept (e : Element) (hleaf : e.isLeaf = true)
    (hfree : ∀ id, e.id? = some id → ¬ Targets given id) :
    Receives given e e
  /-- A button is given properties and actions, and maybe a look. -/
  | button (b : Button) (properties : Properties) (look : Option String)
    (htargets : Targets given b.id)
    (hproperties : Keyed.Overridden b.properties (propertiesFor given b.id) properties)
    (hlook : LookOf properties b.variant look) :
    Receives given (.button b)
      (.button { b with
        properties, actions := b.actions ++ actionsFor given b.id, variant := look })
  /-- A field is given properties and actions. -/
  | input (i : Input) (properties : Properties) (htargets : Targets given i.id)
    (hproperties : Keyed.Overridden i.properties (propertiesFor given i.id) properties) :
    Receives given (.input i)
      (.input { i with properties, actions := i.actions ++ actionsFor given i.id })
  /-- A link is given properties and actions. -/
  | link (l : Link) (properties : Properties) (htargets : Targets given l.id)
    (hproperties : Keyed.Overridden l.properties (propertiesFor given l.id) properties) :
    Receives given (.link l)
      (.link { l with properties, actions := l.actions ++ actionsFor given l.id })

/-- The properties given to an element are those of the interactions that are picked out for it. -/
theorem flatMap_properties_targeting (given : List Interaction) (id : String) :
    (targeting given id).flatMap (·.properties) = propertiesFor given id := rfl

/-- So are the actions. -/
theorem flatMap_actions_targeting (given : List Interaction) (id : String) :
    (targeting given id).flatMap (·.actions) = actionsFor given id := rfl

/-- There are interactions for an identifier unless none is left after the others are taken out. -/
theorem targeting_eq_nil_iff {id : String} : targeting given id = [] ↔ ¬ Targets given id := by
  simp [targeting, Targets, List.filter_eq_nil_iff]

/-- Merging properties overrides the old ones by all that the interactions give. -/
theorem mergeProperties_eq_update (properties : Properties) (given : List Interaction) :
    mergeProperties properties given = Keyed.update properties (given.flatMap (·.properties)) := by
  rw [mergeProperties, Keyed.update, List.foldl_flatMap]
  rfl

/-- Properties merged for an identifier are the old ones overridden. -/
theorem overridden_mergeProperties (properties : Properties) (given : List Interaction)
    (id : String) :
    Keyed.Overridden properties (propertiesFor given id)
      (mergeProperties properties (targeting given id)) := by
  rw [mergeProperties_eq_update, flatMap_properties_targeting]
  exact Keyed.overridden_update _ _

/-- The look is found as told. -/
theorem lookOf_variantFor (properties : Properties) (old : Option String) :
    LookOf properties old (variantFor properties old) := by
  unfold variantFor
  split
  · next look hnamed =>
    split
    · next hlook => exact .named look hlook hnamed
    · next hlook =>
      refine .old fun other hother heq => hlook ?_
      rw [hnamed, Option.some.injEq, Scalar.text.injEq] at heq
      exact heq ▸ hother
  · next hnot => exact .old fun look _ heq => hnot look heq

/-- A button that interactions are for, after them. -/
theorem attachButton_of_targets {b : Button} (h : Targets given b.id) :
    attachButton given b =
      { b with
        properties := mergeProperties b.properties (targeting given b.id)
        actions := b.actions ++ actionsFor given b.id
        variant :=
          variantFor (mergeProperties b.properties (targeting given b.id)) b.variant } := by
  unfold attachButton
  split
  · next hnil => exact absurd h (targeting_eq_nil_iff.1 hnil)
  · unfold mergeActions
    rw [flatMap_actions_targeting]

/-- An element with nothing inside stays as it is if no interaction is for it. -/
theorem attach_of_not_targets (hleaf : e.isLeaf = true)
    (h : ∀ id, e.id? = some id → ¬ Targets given id) : attach given e = e := by
  have hnil : ∀ id, e.id? = some id → targeting given id = [] := fun id hid =>
    targeting_eq_nil_iff.2 (h id hid)
  cases e with
  | button b => rw [attach, attachButton, hnil b.id rfl]
  | input i => simp [attach, attachInput, hnil i.id rfl, mergeProperties, mergeActions]
  | link l => simp [attach, attachLink, hnil l.id rfl, mergeProperties, mergeActions]
  | checkbox c => rfl
  | text t => rfl
  | divider p => rfl
  | spacer p => rfl
  | box b name children => simp [isLeaf] at hleaf
  | row children align => simp [isLeaf] at hleaf

/-- Attaching interactions to an element makes of it what it is to receive. -/
theorem receives_attach (given : List Interaction) (e : Element) :
    Receives given e (attach given e) := by
  by_cases htargets : ∃ id, e.id? = some id ∧ Targets given id
  · obtain ⟨id, hid, htargets⟩ := htargets
    cases e with
    | button b =>
      obtain rfl : b.id = id := Option.some.inj hid
      rw [attach, attachButton_of_targets htargets]
      exact .button b _ _ htargets (overridden_mergeProperties _ _ _) (lookOf_variantFor _ _)
    | input i =>
      obtain rfl : i.id = id := Option.some.inj hid
      exact .input i _ htargets (overridden_mergeProperties _ _ _)
    | link l =>
      obtain rfl : l.id = id := Option.some.inj hid
      exact .link l _ htargets (overridden_mergeProperties _ _ _)
    | _ => simp [id?] at hid
  · have hfree : ∀ id, e.id? = some id → ¬ Targets given id := fun id hid h =>
      htargets ⟨id, hid, h⟩
    cases hleaf : e.isLeaf with
    | true =>
      rw [attach_of_not_targets hleaf hfree]
      exact .kept e hleaf hfree
    | false =>
      cases e with
      | box b name children =>
        exact .box b name children _ (by rw [attachAll_eq_map, List.length_map])
      | row children align =>
        exact .row align children _ (by rw [attachAll_eq_map, List.length_map])
      | _ => simp [isLeaf] at hleaf

/-- What an element with nothing inside receives depends on the interactions for its identifier
only. -/
theorem attach_congr {others : List Interaction} (hleaf : e.isLeaf = true)
    (h : ∀ id, e.id? = some id → targeting given id = targeting others id) :
    attach given e = attach others e := by
  cases e with
  | button b => simp [attach, attachButton, h b.id rfl]
  | input i => simp [attach, attachInput, h i.id rfl]
  | link l => simp [attach, attachLink, h l.id rfl]
  | checkbox c => rfl
  | text t => rfl
  | divider p => rfl
  | spacer p => rfl
  | box b name children => simp [isLeaf] at hleaf
  | row children align => simp [isLeaf] at hleaf

end Interaction

/-! ## Documents -/

namespace Document

open Interaction

variable {d : Document} {id : String}

/-- Some button, field or link of the document has the identifier. -/
def Carries (d : Document) (id : String) : Prop :=
  ∃ scene top path e, d.at? scene top path = some e ∧ e.id? = some id

/-- The identifiers that are collected are those that elements have at some place. -/
theorem mem_elementIds_iff : id ∈ d.elementIds ↔ d.Carries id := by
  rw [elementIds, List.mem_filterMap]
  constructor
  · rintro ⟨e, he, hid⟩
    obtain ⟨scene, top, path, hat⟩ := mem_elements_iff.1 he
    exact ⟨scene, top, path, e, hat, hid⟩
  · rintro ⟨scene, top, path, e, hat, hid⟩
    exact ⟨e, mem_elements_iff.2 ⟨scene, top, path, hat⟩, hid⟩

/-- Identifiers are looked for among those that are collected. -/
instance (d : Document) (id : String) : Decidable (d.Carries id) :=
  decidable_of_iff (id ∈ d.elementIds) mem_elementIds_iff

/-- Merging attaches all interactions: those that name no element of the document are for none. -/
theorem document_merge (d : Document) (given : List Interaction) :
    (d.merge given).document = d.map (attach given) := by
  have hknown : (d.merge given).document =
      d.map (attach (given.filter fun i => decide (i.elementId ∈ d.elementIds))) := by
    simp only [merge, map, attachAll_eq_map]
  rw [hknown, map_eq_map_iff (actsOnLeaves_attach _) (actsOnLeaves_attach _)]
  intro scene top path e hat hleaf
  refine attach_congr hleaf fun id hid => ?_
  have hmem : id ∈ d.elementIds := mem_elementIds_iff.2 ⟨scene, top, path, e, hat, hid⟩
  rw [targeting, targeting, List.filter_filter]
  refine List.filter_congr fun i _ => ?_
  by_cases hi : i.elementId = id
  · simp [hi, hmem]
  · simp [hi]

/-- The problems of a merge are the interactions that name no element. -/
theorem problems_merge (d : Document) (given : List Interaction) :
    (d.merge given).problems =
      (given.filter fun i => decide (¬ d.Carries i.elementId)).map unknownTarget := by
  simp only [merge, mem_elementIds_iff]

/-- What merging interactions into a document gives. -/
structure Merged (d : Document) (given : List Interaction) (result : Merge) : Prop where
  /-- One problem for each interaction whose identifier no element has, in their order. -/
  problems : result.problems = (given.filter fun i => decide (¬ d.Carries i.elementId)).map fun i =>
    .unknownElementId i.elementId ⟨max (i.line - 1) 0, 0⟩
  /-- The scenes are the same but for their elements. -/
  scenes : List.Forall₂ (fun s t : Scene => t = { s with elements := t.elements }) d.scenes
    result.document.scenes
  /-- The same places are taken, and what stands there has received what it is given. -/
  elements : ∀ scene top path,
    Option.Rel (Receives given) (d.at? scene top path) (result.document.at? scene top path)

/-- Merging interactions into a document changes what it is told to and nothing else: every button,
field and link that interactions name, wherever it stands, and no other element. -/
theorem merged_merge (d : Document) (given : List Interaction) :
    d.Merged given (d.merge given) where
  problems := problems_merge d given
  scenes := by
    rw [document_merge, map, List.forall₂_map_right_iff]
    exact List.forall₂_same.2 fun s _ => rfl
  elements scene top path := by
    rw [document_merge, at?_map (actsOnLeaves_attach given)]
    cases d.at? scene top path with
    | none => exact .none
    | some e => exact .some (receives_attach given e)

end Document

end Wireframe
