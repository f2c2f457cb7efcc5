import Wireframe.Proofs.Content.Read

/-!
# Recognizers in any order

What several recognizers read together does not depend on the order in which they are given, nor on
how often (`readWith_unordered`), since no content is read by two of them, plain text apart
(`eq_of_read`). Their forms begin with different characters, except those of a button and of a box
to tick. A bracketed form ends behind its bracket, where the label of a box to tick begins, and a
box to tick without a label is refused (`Form.trim_eq_nil_of_bracketed?`). Plain text has the lowest
priority, so it is tried last wherever it is given.
-/

namespace Wireframe

/-- A box to tick that is also a bracketed form has no label. -/
theorem Form.trim_eq_nil_of_bracketed? {content inner rest : Line} {mark : Char}
    (hbracket : bracketed? content = some inner) (htick : tickBox? content = some (mark, rest)) :
    Text.trim rest = [] := by
  unfold tickBox? at htick
  split at htick
  · next c after =>
    split at htick
    · next hform =>
      obtain ⟨hmark, hblank⟩ := hform
      obtain ⟨line, hline, heq⟩ := Option.map_eq_some_iff.1 htick
      obtain ⟨-, rfl⟩ := Prod.mk.inj heq
      -- The bracket closes behind the mark, so the content ends there.
      have hinside : c ≠ '[' ∧ c ≠ ']' := by
        rcases hmark with rfl | rfl | rfl <;> decide
      have hend : atEnd after = true := by
        by_contra hend
        simp [bracketed?, hinside.1, hinside.2, hend] at hbracket
      rcases of_decide_eq_true hend with rfl | rfl
      · simp at hblank
      · -- Only a line feed is left, which is skipped in front of the label.
        have hnone : Text.trimLeft ['\n'] = [] := by decide
        rw [hnone] at hline
        simp only [restOfLine?, List.takeWhile_nil, List.length_nil, List.drop_nil] at hline
        rw [if_pos (by decide), Option.some.injEq] at hline
        rw [← hline]
        decide
    · simp at htick
  · simp at htick

namespace Recognizer

variable {r r' : Recognizer} {content : Line} {p : Position} {container : Bounds} {e e' : Element}
  {rs rs' : List Recognizer}

/-! ## At most one of them reads -/

/-- The character that the form of a recognizer begins with. Plain text begins with anything. -/
def opening : Recognizer → Option Char
  | .button => some '['
  | .input => some '#'
  | .checkbox => some '['
  | .link => some '"'
  | .emphasis => some '*'
  | .text => none

/-- What is read begins with the character of its form. -/
theorem Reads.head?_eq (h : r.Reads content p container e) (hr : r ≠ .text) :
    content.head? = r.opening := by
  have hhead : ∀ {c : Char}, [c] <+: content → content.head? = some c := by
    rintro c ⟨rest, rfl⟩
    rfl
  cases h with
  | button inner hform hlabel => exact hhead (Form.prefix_of_bracketed? hform)
  | input name placeholder hform =>
    have hsign : ['#'] <+: '#' :: name := List.prefix_append ['#'] name
    exact hhead (hsign.trans (Form.prefix_of_field? hform).1)
  | checkbox mark rest hform hlabel => exact hhead (Form.prefix_of_tickBox? hform)
  | link inner hform hlabel => exact hhead (Form.prefix_of_quotedText? hform)
  | emphasis emphasised hform => exact hhead (Form.prefix_of_emphasis? hform)
  | text => exact absurd rfl hr

/-- Only the forms of a button and of a box to tick begin with the same character. -/
theorem eq_or_bracket_of_opening_eq (h : r.opening = r'.opening) :
    r = r' ∨ (r = .button ∧ r' = .checkbox) ∨ (r = .checkbox ∧ r' = .button) := by
  revert h
  cases r <;> cases r' <;> decide

/-- No content is read as a button and as a box to tick. -/
theorem Reads.not_checkbox (h : Reads content p container .button e)
    (h' : Reads content p container .checkbox e') : False := by
  cases h with
  | button inner hbracket =>
    cases h' with
    | checkbox mark rest htick hlabel => exact hlabel (Form.trim_eq_nil_of_bracketed? hbracket htick)

/-- No content is read by two recognizers, plain text apart. -/
theorem eq_of_read (hr : r ≠ .text) (hr' : r' ≠ .text) (h : r.read content p container = some e)
    (h' : r'.read content p container = some e') : r = r' := by
  have hreads := reads_of_read h
  have hreads' := reads_of_read h'
  have hopening : r.opening = r'.opening := (hreads.head?_eq hr).symm.trans (hreads'.head?_eq hr')
  rcases eq_or_bracket_of_opening_eq hopening with heq | ⟨rfl, rfl⟩ | ⟨rfl, rfl⟩
  · exact heq
  · exact (hreads.not_checkbox hreads').elim
  · exact (hreads'.not_checkbox hreads).elim

/-! ## All of them together -/

/-- Recognizers are tried by falling priority. -/
theorem pairwise_inOrder (rs : List Recognizer) :
    (inOrder rs).Pairwise fun a b => b.priority ≤ a.priority := by
  have hsorted : (inOrder rs).Pairwise fun a b => decide (b.priority ≤ a.priority) = true :=
    pairwise_sortBy (fun a b => by simp only [decide_eq_true_iff]; omega)
      (fun a b c => by simp only [decide_eq_true_iff]; omega) rs
  exact hsorted.imp of_decide_eq_true

/-- Plain text is tried behind all others. -/
theorem priority_text_lt (hr : r ≠ .text) : priority .text < r.priority := by
  revert hr
  cases r <;> decide

/-- What a recognizer among several reads is what they read together. -/
theorem readWith_of_read (hmem : r ∈ rs) (hr : r ≠ .text)
    (h : r.read content p container = some e) : readWith rs content p container = e := by
  unfold readWith
  cases hfind : (inOrder rs).findSome? (read content p container) with
  | none =>
    have hnone := List.findSome?_eq_none_iff.1 hfind r (mem_sortBy.2 hmem)
    rw [h] at hnone
    exact absurd hnone (Option.some_ne_none e)
  | some found =>
    obtain ⟨before, first, after, heq, hfirst, hbefore⟩ := List.findSome?_eq_some_iff.1 hfind
    rw [Option.getD_some]
    have hne : first ≠ .text := by
      rintro rfl
      -- The recognizer does not refuse, so it would be tried behind plain text.
      have hin : r ∈ before ++ .text :: after := heq ▸ mem_sortBy.2 hmem
      have hafter : r ∈ after := by
        rcases List.mem_append.1 hin with hin | hin
        · rw [hbefore r hin] at h
          exact absurd h.symm (Option.some_ne_none e)
        · exact (List.mem_cons.1 hin).resolve_left hr
      have hsorted := heq ▸ pairwise_inOrder rs
      have hle := (List.pairwise_cons.1 (List.pairwise_append.1 hsorted).2.1).1 r hafter
      exact absurd hle (Nat.not_le.2 (priority_text_lt hr))
    obtain rfl := eq_of_read hne hr hfirst h
    rw [hfirst] at h
    exact Option.some.inj h

/-- Content that no recognizer reads is plain text, whether plain text is among them or not. -/
theorem readWith_of_read_eq_none
    (h : ∀ r ∈ rs, r ≠ .text → r.read content p container = none) :
    readWith rs content p container = caption content p container := by
  unfold readWith
  cases hfind : (inOrder rs).findSome? (read content p container) with
  | none => rfl
  | some found =>
    obtain ⟨r, hr, hread⟩ := List.exists_of_findSome?_eq_some hfind
    by_cases htext : r = .text
    · rw [htext] at hread
      exact (Option.some.inj hread).symm
    · rw [h r (mem_sortBy.1 hr) htext] at hread
      exact absurd hread.symm (Option.some_ne_none found)

/-- A recognizer refuses what does not have its form, so asking for the form first changes nothing.
-/
theorem accepts_of_read (h : r.read content p container = some e) : r.accepts content = true := by
  cases reads_of_read h with
  | button inner hform => simp [accepts, hform]
  | input name placeholder hform => simp [accepts, hform]
  | checkbox mark rest hform => simp [accepts, hform]
  | link inner hform => simp [accepts, hform]
  | emphasis emphasised hform => simp [accepts, hform]
  | text => rfl

/-- Of all recognizers other than plain text, at most one reads a given content. Several recognizers
in any order and with any repetitions read together what the one among them reads that does not
refuse, and plain text with all of the content if all refuse. So only which recognizers are among
them matters. -/
theorem readWith_unordered (content : Line) (p : Position) (container : Bounds) :
    (∀ r r' : Recognizer, r ≠ .text → r' ≠ .text → (r.read content p container).isSome = true →
        (r'.read content p container).isSome = true → r = r') ∧
      (∀ rs : List Recognizer,
        (∀ r ∈ rs, r ≠ .text → ∀ e, r.read content p container = some e →
            r.accepts content = true ∧ readWith rs content p container = e) ∧
          ((∀ r ∈ rs, r ≠ .text → r.read content p container = none) →
            readWith rs content p container = .text ⟨String.ofList content, p, false, .left⟩)) ∧
      ∀ rs rs' : List Recognizer, rs ⊆ rs' → rs' ⊆ rs →
        readWith rs content p container = readWith rs' content p container := by
  refine ⟨fun r r' hr hr' h h' => ?_, fun rs => ⟨fun r hmem hr e h => ?_, fun h => ?_⟩,
    fun rs rs' hsub hsub' => ?_⟩
  · obtain ⟨e, he⟩ := Option.isSome_iff_exists.1 h
    obtain ⟨e', he'⟩ := Option.isSome_iff_exists.1 h'
    exact eq_of_read hr hr' he he'
  · exact ⟨accepts_of_read h, readWith_of_read hmem hr h⟩
  · rw [readWith_of_read_eq_none h]
    rfl
  · by_cases hread : ∃ r ∈ rs, r ≠ .text ∧ (r.read content p container).isSome = true
    · obtain ⟨r, hmem, hr, hsome⟩ := hread
      obtain ⟨e, he⟩ := Option.isSome_iff_exists.1 hsome
      rw [readWith_of_read hmem hr he, readWith_of_read (hsub hmem) hr he]
    · have hnone : ∀ r ∈ rs, r ≠ .text → r.read content p container = none := by
        intro r hmem hr
        rw [← Option.not_isSome_iff_eq_none]
        exact fun hsome => hread ⟨r, hmem, hr, hsome⟩
      rw [readWith_of_read_eq_none hnone,
        readWith_of_read_eq_none fun r hmem hr => hnone r (hsub' hmem) hr]

end Recognizer

end Wireframe
