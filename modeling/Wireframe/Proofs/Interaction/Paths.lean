import Wireframe.Proofs.Places.Elements

/-!
# Elements by their paths

An element of a document has a place: the number of its scene, its number among the elements at the
top, and a path that counts among the elements directly inside one another. The elements with a
place are the ones that a walk through the document meets (`Document.mem_elements_iff`).

A function that rebuilds boxes and rows around what it makes of the elements inside them
(`ActsOnLeaves`) keeps all places (`Document.at?_map`), and what it makes of a document follows from
what it makes of the elements with nothing inside (`Document.map_eq_map_iff`). Attaching
interactions is such a function, and so is attaching interactions twice.
-/

namespace Wireframe

namespace Element

variable {e x : Element} {F G : Element → Element}

/-- The elements directly inside an element. -/
def children : Element → List Element
  | .box _ _ children => children
  | .row children _ => children
  | _ => []

/-- A box or a row with other elements inside. -/
def withChildren : Element → List Element → Element
  | .box b name _, children => .box b name children
  | .row _ align, children => .row children align
  | e, _ => e

/-- The element that a path leads to. Each of its numbers counts among the elements directly inside
the one before. -/
def below? : Element → List Nat → Option Element
  | e, [] => some e
  | e, k :: path => (e.children[k]?).bind fun c => c.below? path

/-- What holds of every element when it holds of those directly inside, holds of all elements. -/
@[elab_as_elim]
theorem childInduction {motive : Element → Prop}
    (step : ∀ e : Element, (∀ c ∈ e.children, motive c) → motive e) (e : Element) : motive e := by
  induction e using inductionOn with
  | leaf e he => exact step e (by cases e <;> simp_all [isLeaf, children])
  | box b name children ih => exact step _ ih
  | row children align ih => exact step _ ih

/-- Nothing is inside an element that is no box and no row. -/
theorem children_of_isLeaf (h : e.isLeaf = true) : e.children = [] := by
  cases e <;> simp_all [isLeaf, children]

/-- A walk meets an element before those inside it. -/
theorem walk_eq_cons (e : Element) : walk e = e :: e.children.flatMap walk := by
  cases e <;> simp [walk, children, walkAll_eq_flatMap]

/-- A walk through an element meets what the paths lead to. -/
theorem mem_walk_iff : x ∈ walk e ↔ ∃ path, e.below? path = some x := by
  induction e using childInduction with
  | step e ih =>
    rw [walk_eq_cons, List.mem_cons, List.mem_flatMap]
    constructor
    · rintro (rfl | ⟨c, hc, hx⟩)
      · exact ⟨[], rfl⟩
      · obtain ⟨path, hpath⟩ := (ih c hc).1 hx
        obtain ⟨k, hk⟩ := List.mem_iff_getElem?.1 hc
        exact ⟨k :: path, by rw [below?, hk, Option.bind_some, hpath]⟩
    · rintro ⟨path, hpath⟩
      cases path with
      | nil => exact .inl (Option.some.inj hpath).symm
      | cons k path =>
        obtain ⟨c, hk, hx⟩ := Option.bind_eq_some_iff.1 hpath
        have hc : c ∈ e.children := List.mem_of_getElem? hk
        exact .inr ⟨c, hc, (ih c hc).2 ⟨path, hx⟩⟩

/-! ## Functions that keep the tree -/

/-- The function changes elements with nothing inside and rebuilds boxes and rows around what it
makes of the elements inside them. -/
structure ActsOnLeaves (F : Element → Element) : Prop where
  /-- It puts nothing into an element. -/
  leaf : ∀ e : Element, e.isLeaf = true → (F e).isLeaf = true
  /-- A box or a row stays the same around other elements. -/
  inner : ∀ e : Element, e.isLeaf = false → F e = e.withChildren (e.children.map F)

/-- The elements inside an element are changed one by one. -/
theorem ActsOnLeaves.children (h : ActsOnLeaves F) (e : Element) :
    (F e).children = e.children.map F := by
  cases hleaf : e.isLeaf with
  | true => rw [children_of_isLeaf (h.leaf e hleaf), children_of_isLeaf hleaf, List.map_nil]
  | false =>
    rw [h.inner e hleaf]
    cases e <;> simp_all [isLeaf, Element.children, withChildren]

/-- A path leads to what the function makes of the element that it led to. -/
theorem ActsOnLeaves.below? (h : ActsOnLeaves F) (e : Element) (path : List Nat) :
    (F e).below? path = (e.below? path).map F := by
  induction path generalizing e with
  | nil => rfl
  | cons k path ih =>
    rw [Element.below?, Element.below?, h.children, List.getElem?_map]
    cases e.children[k]? with
    | none => rfl
    | some c => exact ih c

/-- One such function after another is such a function. -/
theorem ActsOnLeaves.comp (hG : ActsOnLeaves G) (hF : ActsOnLeaves F) : ActsOnLeaves (G ∘ F) where
  leaf e he := hG.leaf _ (hF.leaf e he)
  inner e he := by
    rw [Function.comp_apply, hF.inner e he, hG.inner]
    · cases e <;> simp_all [isLeaf, Element.children, withChildren]
    · cases e <;> simp_all [isLeaf, withChildren]

/-- Two such functions make the same of an element if they make the same of all elements with
nothing inside that a walk through it meets. -/
theorem ActsOnLeaves.eq_of_leaves (hF : ActsOnLeaves F) (hG : ActsOnLeaves G)
    (h : ∀ x ∈ walk e, x.isLeaf = true → F x = G x) : F e = G e := by
  induction e using childInduction with
  | step e ih =>
    rw [walk_eq_cons] at h
    cases hleaf : e.isLeaf with
    | true => exact h e List.mem_cons_self hleaf
    | false =>
      have hchildren : e.children.map F = e.children.map G := List.map_congr_left fun c hc =>
        ih c hc fun x hx => h x (List.mem_cons_of_mem _ (List.mem_flatMap.2 ⟨c, hc, hx⟩))
      rw [hF.inner e hleaf, hG.inner e hleaf, hchildren]

end Element

/-! ## Documents -/

namespace Document

open Element

variable {d : Document} {F G : Element → Element}

/-- The element at a place: in a scene, from one of its elements along a path. -/
def at? (d : Document) (scene top : Nat) (path : List Nat) : Option Element :=
  (d.scenes[scene]?).bind fun s => (s.elements[top]?).bind fun e => e.below? path

/-- The elements of a document are those that have a place in it. -/
theorem mem_elements_iff {e : Element} :
    e ∈ d.elements ↔ ∃ scene top path, d.at? scene top path = some e := by
  simp only [elements, List.mem_flatMap, walkAll_eq_flatMap, mem_walk_iff, at?,
    Option.bind_eq_some_iff]
  constructor
  · rintro ⟨s, hs, x, hx, path, hpath⟩
    obtain ⟨scene, hscene⟩ := List.mem_iff_getElem?.1 hs
    obtain ⟨top, htop⟩ := List.mem_iff_getElem?.1 hx
    exact ⟨scene, top, path, s, hscene, x, htop, hpath⟩
  · rintro ⟨scene, top, path, s, hscene, x, htop, hpath⟩
    exact ⟨s, List.mem_of_getElem? hscene, x, List.mem_of_getElem? htop, path, hpath⟩

/-- The document with its elements at the top changed by a function. -/
def map (F : Element → Element) (d : Document) : Document :=
  ⟨d.scenes.map fun s => { s with elements := s.elements.map F }⟩

/-- At every place stands what the function makes of the element that stood there. -/
theorem at?_map (hF : ActsOnLeaves F) (d : Document) (scene top : Nat) (path : List Nat) :
    (d.map F).at? scene top path = (d.at? scene top path).map F := by
  simp only [at?, map, List.getElem?_map]
  cases d.scenes[scene]? with
  | none => rfl
  | some s =>
    simp only [Option.map_some, Option.bind_some, List.getElem?_map]
    cases s.elements[top]? with
    | none => rfl
    | some e => exact hF.below? e path

/-- Two functions make the same document exactly when they make the same of all of its elements with
nothing inside. -/
theorem map_eq_map_iff (hF : ActsOnLeaves F) (hG : ActsOnLeaves G) :
    d.map F = d.map G ↔ ∀ scene top path e, d.at? scene top path = some e → e.isLeaf = true →
      F e = G e := by
  constructor
  · intro h scene top path e hat _
    have hsame := congrArg (fun d : Document => d.at? scene top path) h
    simpa only [at?_map hF, at?_map hG, hat, Option.map_some, Option.some.injEq] using hsame
  · intro h
    have hscene : ∀ s ∈ d.scenes, s.elements.map F = s.elements.map G := by
      intro s hs
      refine List.map_congr_left fun e he => hF.eq_of_leaves hG fun x hx hleaf => ?_
      have hmem : x ∈ d.elements := List.mem_flatMap.2
        ⟨s, hs, by rw [walkAll_eq_flatMap]; exact List.mem_flatMap.2 ⟨e, he, hx⟩⟩
      obtain ⟨scene, top, path, hat⟩ := mem_elements_iff.1 hmem
      exact h scene top path x hat hleaf
    unfold map
    congr 1
    exact List.map_congr_left fun s hs => by rw [hscene s hs]

end Document

/-! ## Interactions -/

namespace Interaction

/-- Attaching interactions keeps the tree. -/
theorem actsOnLeaves_attach (interactions : List Interaction) :
    Element.ActsOnLeaves (attach interactions) where
  leaf e he := by rw [isLeaf_attach, he]
  inner e he := by
    cases e <;> simp_all [Element.isLeaf, attach, attachAll_eq_map, Element.withChildren,
      Element.children]

end Interaction

end Wireframe
