import Mathlib.Data.List.Basic
import Wireframe.Slug
import Wireframe.Text.Decimal

/-!
# Slugs are well-formed

A slug is made of words of small letters and digits with a single dash between neighbours
(`IsSlug`). The slug of a line is one unless it is empty (`slugLine_eq_nil_or_isSlug`), which it is
exactly when the line in lower case has no character for it (`slugLine_eq_nil_iff`). A slug is its
own slug (`IsSlug.slugLine_eq`): its characters are in lower case already, and it falls into the
words that it was put together from.
-/

namespace Wireframe

/-! ## The form of a slug -/

/-- A word of a slug. -/
structure IsSlugWord (word : Line) : Prop where
  /-- It is not empty. -/
  ne_nil : word ≠ []
  /-- It holds small letters and digits only. -/
  chars : ∀ c ∈ word, isSlugChar c = true

/-- The line is a slug: one or more words with a single dash between neighbours. -/
inductive IsSlug : Line → Prop where
  /-- A single word. -/
  | word {word : Line} (hword : IsSlugWord word) : IsSlug word
  /-- A word and a dash in front of a slug. -/
  | dash {word rest : Line} (hword : IsSlugWord word) (hrest : IsSlug rest) :
    IsSlug (word ++ '-' :: rest)

variable {line s t : Line} {words : List Line} {c : Char}

/-- A slug is not empty. -/
theorem IsSlug.ne_nil (h : IsSlug s) : s ≠ [] := by
  cases h with
  | word hword => exact hword.ne_nil
  | dash hword hrest => exact List.append_ne_nil_of_right_ne_nil _ (List.cons_ne_nil _ _)

/-- In a slug there are small letters, digits and dashes only. -/
theorem IsSlug.chars (h : IsSlug s) : ∀ c ∈ s, isSlugChar c = true ∨ c = '-' := by
  induction h with
  | word hword => exact fun c hc => .inl (hword.chars c hc)
  | dash hword _ ih =>
    intro c hc
    rcases List.mem_append.1 hc with hc | hc
    · exact .inl (hword.chars c hc)
    · rcases List.mem_cons.1 hc with rfl | hc
      · exact .inr rfl
      · exact ih c hc

/-- Two slugs with a dash between them are a slug. -/
theorem IsSlug.append (hs : IsSlug s) (ht : IsSlug t) : IsSlug (s ++ '-' :: t) := by
  induction hs with
  | word hword => exact .dash hword ht
  | dash hword _ ih =>
    rw [List.append_assoc, List.cons_append]
    exact .dash hword ih

/-- Words put together with dashes are a slug. -/
theorem isSlug_hyphenate (hne : words ≠ []) (h : ∀ word ∈ words, IsSlugWord word) :
    IsSlug (hyphenate words) := by
  induction words with
  | nil => exact absurd rfl hne
  | cons word rest ih =>
    have hword : IsSlugWord word := h word List.mem_cons_self
    cases rest with
    | nil => exact .word hword
    | cons next rest =>
      have hrest := ih (List.cons_ne_nil next rest) fun w hw => h w (List.mem_cons_of_mem word hw)
      exact .dash hword hrest

/-! ## Slugs of lines -/

/-- The words of a line are words of a slug. -/
theorem isSlugWord_of_mem_slugWords {word : Line} (h : word ∈ slugWords line) :
    IsSlugWord word := by
  obtain ⟨hpiece, hfilled⟩ := List.mem_filter.1 h
  refine ⟨fun hnil => ?_, fun c hc => ?_⟩
  · rw [hnil] at hfilled
    exact absurd hfilled (by decide)
  · have hcut := Text.cut_eq_false_of_mem_pieces hpiece hc
    simpa using hcut

/-- A line has no words exactly when it has no character for one. -/
theorem slugWords_eq_nil_iff : slugWords line = [] ↔ ∀ c ∈ line, isSlugChar c = false := by
  have hpieces : ∀ {c : Char}, isSlugChar c = true →
      (c ∈ line ↔ ∃ piece ∈ Text.pieces (fun c => !isSlugChar c) line, c ∈ piece) := by
    intro c hc
    apply Text.mem_iff_exists_mem_pieces
    rw [hc]
    rfl
  constructor
  · intro hnil c hc
    by_contra hchar
    rw [Bool.not_eq_false] at hchar
    obtain ⟨piece, hpiece, hmem⟩ := (hpieces hchar).1 hc
    -- The piece with the character is a word.
    have hword : piece ∈ slugWords line :=
      List.mem_filter.2 ⟨hpiece, by simpa using List.ne_nil_of_mem hmem⟩
    rw [hnil] at hword
    exact absurd hword List.not_mem_nil
  · intro hnone
    apply List.eq_nil_iff_forall_not_mem.2
    intro word hword
    obtain ⟨c, hc⟩ := List.exists_mem_of_ne_nil word (isSlugWord_of_mem_slugWords hword).ne_nil
    have hchar := (isSlugWord_of_mem_slugWords hword).chars c hc
    have hline := (hpieces hchar).2 ⟨word, (List.mem_filter.1 hword).1, hc⟩
    rw [hnone c hline] at hchar
    exact absurd hchar (by decide)

/-- Only no words at all give an empty slug. -/
theorem slugLine_eq_nil_iff_slugWords :
    slugLine line = [] ↔ slugWords (Text.lowerLine line) = [] := by
  constructor
  · intro hnil
    by_contra hne
    exact (isSlug_hyphenate hne fun _ => isSlugWord_of_mem_slugWords).ne_nil hnil
  · intro hnil
    unfold slugLine
    rw [hnil]
    rfl

/-- The slug of a line is empty exactly when the line in lower case has no small letter of the
alphabet and no digit. -/
theorem slugLine_eq_nil_iff :
    slugLine line = [] ↔ ∀ c ∈ Text.lowerLine line, isSlugChar c = false :=
  slugLine_eq_nil_iff_slugWords.trans slugWords_eq_nil_iff

/-- The slug of a line is well-formed unless it is empty. -/
theorem isSlug_slugLine (h : slugLine line ≠ []) : IsSlug (slugLine line) := by
  apply isSlug_hyphenate
  · exact fun hnil => h (slugLine_eq_nil_iff_slugWords.2 hnil)
  · exact fun _ => isSlugWord_of_mem_slugWords

/-! ## Slugs of slugs -/

/-- The characters of slugs by their code points. -/
theorem isSlugChar_iff :
    isSlugChar c = true ↔ (97 ≤ c.toNat ∧ c.toNat ≤ 122) ∨ (48 ≤ c.toNat ∧ c.toNat ≤ 57) := by
  simp only [isSlugChar, Bool.or_eq_true, Bool.and_eq_true, decide_eq_true_eq, Char.le_def,
    UInt32.le_iff_toNat_le]
  exact Iff.rfl

/-- What stands in a slug is its own lower case. -/
theorem lower_eq (h : isSlugChar c = true ∨ c = '-') : Text.lower c = [c] := by
  -- It is in ASCII, and no capital letter.
  have hcode : c.toNat < 0x80 ∧ ¬ (65 ≤ c.toNat ∧ c.toNat ≤ 90) := by
    rcases h with h | rfl
    · have hrange := isSlugChar_iff.1 h
      omega
    · decide
  have hcapital : ¬ (c.val ≥ 'A'.val ∧ c.val ≤ 'Z'.val) := by
    rw [ge_iff_le, UInt32.le_iff_toNat_le, UInt32.le_iff_toNat_le]
    exact hcode.2
  unfold Text.lower Char.toLower
  rw [if_pos hcode.1, dif_neg hcapital]

/-- A slug is in lower case. -/
theorem IsSlug.lowerLine_eq (h : IsSlug s) : Text.lowerLine s = s := by
  calc Text.lowerLine s = s.flatMap fun c => [c] :=
        List.flatMap_congr fun c hc => lower_eq (h.chars c hc)
    _ = s := List.flatMap_singleton' s

/-- A word has no other words in it. -/
theorem slugWords_of_isSlugWord {word : Line} (h : IsSlugWord word) : slugWords word = [word] := by
  unfold slugWords
  rw [Text.pieces_of_forall fun c hc => by rw [h.chars c hc]; rfl]
  simp [h.ne_nil]

/-- A word in front of a dash is the first word. -/
theorem slugWords_append_dash {word : Line} (h : IsSlugWord word) (rest : Line) :
    slugWords (word ++ '-' :: rest) = word :: slugWords rest := by
  unfold slugWords
  rw [Text.pieces_append_cons (fun c hc => by rw [h.chars c hc]; rfl) (by decide)]
  simp [h.ne_nil]

/-- The words of a slug, put together with dashes, are the slug. -/
theorem IsSlug.hyphenate_slugWords (h : IsSlug s) : hyphenate (slugWords s) = s := by
  induction h with
  | word hword =>
    rw [slugWords_of_isSlugWord hword]
    rfl
  | @dash word rest hword hrest ih =>
    rw [slugWords_append_dash hword]
    cases hwords : slugWords rest with
    | nil =>
      -- A slug has words.
      rw [hwords] at ih
      exact absurd ih.symm hrest.ne_nil
    | cons next words =>
      rw [hwords] at ih
      show word ++ '-' :: hyphenate (next :: words) = word ++ '-' :: rest
      rw [ih]

/-- A slug is its own slug. -/
theorem IsSlug.slugLine_eq (h : IsSlug s) : slugLine s = s := by
  unfold slugLine
  rw [h.lowerLine_eq, h.hyphenate_slugWords]

/-- Making a slug twice gives what making it once does. -/
theorem slugLine_slugLine (line : Line) : slugLine (slugLine line) = slugLine line := by
  by_cases hnil : slugLine line = []
  · rw [hnil]
    rfl
  · exact (isSlug_slugLine hnil).slugLine_eq

/-! ## Slugs of texts -/

/-- The characters of the slug of a text are the slug of its characters. -/
@[simp] theorem toList_slug (text : String) : (slug text).toList = slugLine text.toList :=
  String.toList_ofList

/-- The slug of a text is empty if it has no characters. -/
theorem slug_eq_empty_iff (text : String) : slug text = "" ↔ slugLine text.toList = [] := by
  rw [← toList_slug, String.toList_eq_nil_iff]

/-- The slug of a slug is the slug. -/
theorem slug_slug (text : String) : slug (slug text) = slug text := by
  apply String.ext
  rw [toList_slug, toList_slug, slugLine_slugLine]

/-! ## Numbers -/

/-- Digits may stand in a slug. -/
theorem isSlugChar_of_isDigit (h : c.isDigit = true) : isSlugChar c = true := by
  unfold Char.isDigit at h
  rw [Bool.and_eq_true, decide_eq_true_eq, decide_eq_true_eq] at h
  unfold isSlugChar
  rw [Bool.or_eq_true, Bool.and_eq_true, Bool.and_eq_true]
  exact .inr ⟨decide_eq_true h.1, decide_eq_true h.2⟩

/-- The digits of a number that is not negative are a slug. -/
theorem isSlug_digits {n : Int} (h : 0 ≤ n) : IsSlug (Text.digits n) := by
  cases n with
  | ofNat n =>
    refine .word ⟨Nat.toDigits_ne_nil, fun c hc => isSlugChar_of_isDigit ?_⟩
    exact Nat.isDigit_of_mem_toDigits (by decide) (by decide) hc
  | negSucc n => exact absurd h (by omega)

end Wireframe
