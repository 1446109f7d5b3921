import StoryScript.Form

/-!
# Tokens of texts whose parts are known

Blanks in front of a text add no token. A word is a token of its own up to the next
blank, and a literal is one whatever it touches.
-/

namespace StoryScript

theorem tokens_blanks_append
    {blanks : List Char} (allBlanks : ∀ c ∈ blanks, isBlank c = true) (text : List Char) :
    tokens (blanks ++ text) = tokens text := by
  have skipped : (blanks ++ text).dropWhile isBlank = text.dropWhile isBlank :=
    List.dropWhile_append_of_pos allBlanks
  cases visible : text.dropWhile isBlank with
  | nil => rw [tokens_of_blank visible, tokens_of_blank (skipped.trans visible)]
  | cons first rest => rw [tokens_of_visible visible, tokens_of_visible (skipped.trans visible)]

theorem tokens_cons_of_visible
    {first : Char} (visible : isBlank first = false) (rest : List Char) :
    tokens (first :: rest) =
      String.ofList (cutToken first rest).1 :: tokens (cutToken first rest).2 := by
  apply tokens_of_visible
  rw [List.dropWhile_cons_of_neg (by simp [visible])]

theorem cutToken_of_not_literal
    {first : Char} {rest : List Char} (notLiteral : ¬ (first = '"' ∧ '"' ∈ rest)) :
    cutToken first rest =
      (first :: rest.takeWhile (!isBlank ·), rest.dropWhile (!isBlank ·)) :=
  if_neg notLiteral

/-- A run of visible characters is a token when a blank or the end follows, unless it begins
with a quote that is closed further on. -/
theorem tokens_run_append
    {first : Char} {more rest : List Char} (visible : ∀ c ∈ first :: more, isBlank c = false)
    (notLiteral : ¬ (first = '"' ∧ '"' ∈ more ++ rest))
    (stops : ∀ c ∈ rest.head?, isBlank c = true) :
    tokens (first :: (more ++ rest)) = String.ofList (first :: more) :: tokens rest := by
  obtain ⟨firstVisible, moreVisible⟩ := List.forall_mem_cons.mp visible
  have inRun : ∀ c ∈ more, (!isBlank c) = true := by
    intro c member
    rw [moreVisible c member]
    rfl
  have behindRun : ∀ c ∈ rest.head?, (!isBlank c) = false := by
    intro c next
    rw [stops c next]
    rfl
  rw [tokens_cons_of_visible firstVisible, cutToken_of_not_literal notLiteral,
    takeWhile_run inRun behindRun, dropWhile_run inRun behindRun]

theorem tokens_word_append
    {word rest : List Char} (nonempty : word ≠ [])
    (visible : word.any isBlank = false) (notQuote : word.head? ≠ some '"')
    (stops : ∀ c ∈ rest.head?, isBlank c = true) :
    tokens (word ++ rest) = String.ofList word :: tokens rest := by
  obtain ⟨first, more, rfl⟩ := List.exists_cons_of_ne_nil nonempty
  apply tokens_run_append _ _ stops
  · intro c member
    exact Bool.eq_false_iff.mpr (List.any_eq_false.mp visible c member)
  · rintro ⟨rfl, _⟩
    exact notQuote rfl

theorem tokens_literal_append
    {line : List Char} (noQuote : '"' ∉ line) (rest : List Char) :
    tokens ('"' :: (line ++ '"' :: rest)) =
      String.ofList ('"' :: (line ++ ['"'])) :: tokens rest := by
  have inLine : ∀ c ∈ line, decide (c ≠ '"') = true := by
    intro c member
    apply decide_eq_true
    rintro rfl
    exact noQuote member
  have atQuote : ∀ c ∈ ('"' :: rest).head?, decide (c ≠ '"') = false := by simp
  have cut : cutToken '"' (line ++ '"' :: rest) = ('"' :: (line ++ ['"']), rest) := by
    rw [cutToken, if_pos ⟨rfl, by simp⟩, takeWhile_run inLine atQuote,
      dropWhile_run inLine atQuote, List.tail_cons]
  rw [tokens_cons_of_visible (by decide), cut]

theorem ofContent?_eq_some_iff (content : List Char) (form : Form) :
    Form.ofContent? content = some form ↔ tokens content = form.keyword :: form.args := by
  unfold Form.ofContent?
  cases tokens content with
  | nil => simp
  | cons keyword args =>
      cases form
      simp

theorem literal?_eq_none_of_head
    {token : String} {c : Char} (first : token.toList.head? = some c) (notQuote : c ≠ '"') :
    literal? token = none := by
  obtain ⟨rest, characters⟩ := List.head?_eq_some_iff.mp first
  unfold literal?
  split
  · next quoted =>
    rw [characters] at quoted
    exact absurd (List.cons.inj quoted).1 notQuote
  · rfl

end StoryScript
