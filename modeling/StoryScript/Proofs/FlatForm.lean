import StoryScript.Proofs.Occurrences
import StoryScript.Proofs.Tokens
import StoryScript.Proofs.Visits

/-!
# Flat forms as they are written

A flat form has no other form inside. Its keyword and its arguments are words or
literals, and blanks stand in front of every argument. However many blanks these are
and whatever the literals say, the tokens of the content are the parts that were
written, and the searches for labels and starts see the keyword and the first argument.
-/

namespace StoryScript

/-- A text that can be read as one word. -/
structure Word where
  text : List Char
  nonempty : text ≠ [] := by decide
  visible : text.any isBlank = false := by decide
  plain : Plain text := by decide
  unquoted : '"' ∉ text := by decide

/-- What stands between the quotes of a literal, blanks and line ends included. -/
structure Line where
  text : List Char
  plain : Plain text := by decide
  unquoted : '"' ∉ text := by decide

inductive Argument where
  | bare (word : Word)
  | literal (line : Line)

structure Gap where
  text : List Char
  blank : allBlank text = true := by decide

structure Separator extends Gap where
  nonempty : text ≠ [] := by decide

/-- A keyword and its arguments, each with the blanks in front of it. Labels are not
literals. -/
structure FlatForm where
  keyword : Word
  args : List (Separator × Argument)
  labelled : keyword.text = "label".toList → ∀ a ∈ args.head?, ∃ word, a.2 = .bare word

/-- The first argument of a form with the given keyword. -/
def Form.firstOf? (k : Keyword) (form : Form) : Option String :=
  if form.keyword = k.name then form.args.head? else none

theorem Keyword.name_solid (k : Keyword) :
    ∀ c ∈ k.name.toList, (!isBlank c && c != ')') = true := by
  apply List.all_eq_true.mp
  cases k <;> decide

theorem plain_of_blank {c : Char} (blank : isBlank c = true) : c ≠ '(' ∧ c ≠ ')' := by
  constructor
  · rintro rfl
    exact absurd blank (by decide)
  · rintro rfl
    exact absurd blank (by decide)

theorem Gap.blank_of_mem (gap : Gap) : ∀ c ∈ gap.text, isBlank c = true :=
  (allBlank_iff gap.text).mp gap.blank

theorem Gap.plain (gap : Gap) : Plain gap.text := by
  intro c member
  exact plain_of_blank (gap.blank_of_mem c member)

theorem Word.solid (word : Word) : ∀ c ∈ word.text, (!isBlank c && c != ')') = true := by
  intro c member
  simp [List.any_eq_false.mp word.visible c member, (word.plain c member).2]

namespace Argument

def text : Argument → List Char
  | bare word => word.text
  | literal line => '"' :: (line.text ++ ['"'])

theorem plain (a : Argument) : Plain a.text := by
  cases a with
  | bare word => exact word.plain
  | literal line =>
      intro c member
      simp only [text, List.mem_cons, List.mem_append, List.not_mem_nil, or_false] at member
      rcases member with rfl | inLine | rfl
      · decide
      · exact line.plain c inLine
      · decide

theorem text_eq_cons (a : Argument) : ∃ c more, a.text = c :: more ∧ isBlank c = false := by
  cases a with
  | bare word =>
      obtain ⟨c, more, split⟩ := List.exists_cons_of_ne_nil word.nonempty
      have visible := word.visible
      rw [split] at visible
      exact ⟨c, more, split, (Bool.or_eq_false_iff.mp visible).1⟩
  | literal line => exact ⟨'"', line.text ++ ['"'], rfl, by decide⟩

theorem tokens_append
    (a : Argument) {rest : List Char} (stops : ∀ c ∈ rest.head?, isBlank c = true) :
    tokens (a.text ++ rest) = String.ofList a.text :: tokens rest := by
  cases a with
  | bare word =>
      apply tokens_word_append word.nonempty word.visible ?_ stops
      intro first
      exact word.unquoted (List.mem_of_mem_head? first)
  | literal line =>
      have read := tokens_literal_append line.unquoted rest
      simpa [text] using read

/-- The arguments of a form as they are written, with the blanks in front of them. -/
def written (args : List (Separator × Argument)) : List Char :=
  args.flatMap fun a => a.1.text ++ a.2.text

theorem written_cons (a : Separator × Argument) (args : List (Separator × Argument)) :
    written (a :: args) = a.1.text ++ (a.2.text ++ written args) := by
  rw [written, List.flatMap_cons, List.append_assoc, written]

theorem written_plain (args : List (Separator × Argument)) : Plain (written args) := by
  intro c member
  obtain ⟨a, _, member⟩ := List.mem_flatMap.mp member
  rcases List.mem_append.mp member with inSeparator | inArgument
  · exact a.1.plain c inSeparator
  · exact a.2.plain c inArgument

theorem blank_head_written (args : List (Separator × Argument)) :
    ∀ c ∈ (written args).head?, isBlank c = true := by
  cases args with
  | nil => simp [written]
  | cons a args =>
      intro c first
      rw [written_cons, List.head?_append_of_ne_nil _ a.1.nonempty] at first
      exact a.1.blank_of_mem c (List.mem_of_mem_head? first)

theorem solid_until_written (args : List (Separator × Argument)) (rest : List Char) :
    ∀ c ∈ (written args ++ ')' :: rest).head?, (!isBlank c && c != ')') = false := by
  intro c next
  cases text : written args with
  | nil =>
      rw [text, List.nil_append, List.head?_cons, Option.mem_some_iff] at next
      simp [← next]
  | cons first others =>
      rw [text, List.cons_append, List.head?_cons, Option.mem_some_iff] at next
      have blank := blank_head_written args first (by rw [text]; rfl)
      simp [← next, blank]

theorem tokens_written (args : List (Separator × Argument)) :
    tokens (written args) = args.map fun a => String.ofList a.2.text := by
  induction args with
  | nil => exact tokens_of_blank rfl
  | cons a args inductionHypothesis =>
      rw [written_cons, tokens_blanks_append a.1.blank_of_mem,
        tokens_append a.2 (blank_head_written args), inductionHypothesis, List.map_cons]

end Argument

namespace FlatForm

def content (f : FlatForm) : List Char := f.keyword.text ++ Argument.written f.args

def text (f : FlatForm) : List Char := '(' :: (f.content ++ [')'])

/-- The form that is meant. -/
def form (f : FlatForm) : Form :=
  ⟨String.ofList f.keyword.text, f.args.map fun a => String.ofList a.2.text⟩

theorem length_text (f : FlatForm) : f.text.length = f.content.length + 2 := by
  simp [text]

theorem content_plain (f : FlatForm) : Plain f.content := by
  intro c member
  rcases List.mem_append.mp member with inKeyword | inArgs
  · exact f.keyword.plain c inKeyword
  · exact Argument.written_plain f.args c inArgs

theorem balanced (f : FlatForm) : Balanced f.text := f.content_plain.balanced.enclose

theorem ofContent?_content (f : FlatForm) : Form.ofContent? f.content = some f.form := by
  apply (ofContent?_eq_some_iff _ _).mpr
  have keyword := Argument.tokens_append (.bare f.keyword) (Argument.blank_head_written f.args)
  rw [Argument.tokens_written] at keyword
  exact keyword

/-- The only form in the text of a flat form is the one that is meant. -/
theorem visits_text (f : FlatForm) :
    visits f.text = [⟨⟨0, f.content.length + 1⟩, f.form⟩] := by
  rw [text, visits_enclose f.content_plain.balanced, visits_of_plain f.content_plain,
    f.ofContent?_content]
  rfl

theorem text_append (f : FlatForm) (rest : List Char) :
    f.text ++ rest = '(' :: (f.keyword.text ++ (Argument.written f.args ++ ')' :: rest)) := by
  simp [text, content]

theorem firstOf?_form (f : FlatForm) (k : Keyword) :
    f.form.firstOf? k =
      if f.keyword.text = k.name.toList then f.args.head?.map fun a => String.ofList a.2.text
      else none := by
  have named : String.ofList f.keyword.text = k.name ↔ f.keyword.text = k.name.toList := by
    rw [← String.toList_inj, String.toList_ofList]
  simp only [Form.firstOf?, form, named, List.head?_map]

theorem opening_of_args
    (f : FlatForm) {s : Separator} {a : Argument} {more : List (Separator × Argument)}
    (args : f.args = (s, a) :: more) (rest : List Char) :
    Recognizer.opening f.keyword.text (f.text ++ rest) =
      some (1 + f.keyword.text.length + s.text.length,
        a.text ++ (Argument.written more ++ ')' :: rest)) := by
  apply (Recognizer.opening_eq_some_iff _ _ _ _).mpr
  refine ⟨s.text, ?_, s.nonempty, s.blank_of_mem, ?_, rfl⟩
  · simp [text_append, args, Argument.written_cons]
  · obtain ⟨first, others, split, visible⟩ := a.text_eq_cons
    intro c next
    rw [split, List.cons_append, List.head?_cons, Option.mem_some_iff] at next
    exact next ▸ visible

/-- An opening with a word in it has the keyword for that word, since both reach up to the
first blank or closer. -/
theorem keyword_of_opening
    (f : FlatForm) {word rest : List Char}
    (solid : ∀ c ∈ word, (!isBlank c && c != ')') = true)
    (opened : (Recognizer.opening word (f.text ++ rest)).isSome = true) :
    f.keyword.text = word ∧ f.args ≠ [] := by
  obtain ⟨c, more, split, blank⟩ := (Recognizer.opening_isSome_iff _ _).mp opened
  rw [text_append] at split
  have split := (List.cons.inj split).2
  have same : f.keyword.text = word := by
    rw [← takeWhile_run f.keyword.solid (Argument.solid_until_written f.args rest), split]
    apply takeWhile_run solid
    intro d next
    rw [List.head?_cons, Option.mem_some_iff] at next
    simp [← next, blank]
  refine ⟨same, ?_⟩
  intro noArgs
  rw [same, noArgs] at split
  have closer := (List.cons.inj (List.append_cancel_left split)).1
  rw [← closer] at blank
  exact absurd blank (by decide)

/-- The opening of a keyword is found in the forms that have the keyword and an argument. -/
theorem opening_cases (f : FlatForm) (k : Keyword) (rest : List Char) :
    (Recognizer.opening k.name.toList (f.text ++ rest) = none ∧ f.form.firstOf? k = none) ∨
    ∃ s a more,
      f.keyword.text = k.name.toList ∧ f.args = (s, a) :: more ∧
      f.form.firstOf? k = some (String.ofList a.text) ∧
      Recognizer.opening k.name.toList (f.text ++ rest) =
        some (1 + k.name.toList.length + s.text.length,
          a.text ++ (Argument.written more ++ ')' :: rest)) := by
  cases found : Recognizer.opening k.name.toList (f.text ++ rest) with
  | none =>
      refine .inl ⟨rfl, ?_⟩
      rw [firstOf?_form]
      split
      · next named =>
        cases args : f.args with
        | nil => rfl
        | cons first more =>
            have opened := f.opening_of_args args rest
            rw [named, found] at opened
            cases opened
      · rfl
  | some result =>
      obtain ⟨named, nonempty⟩ := f.keyword_of_opening k.name_solid (by rw [found]; rfl)
      obtain ⟨⟨s, a⟩, more, args⟩ := List.exists_cons_of_ne_nil nonempty
      have opened := f.opening_of_args args rest
      rw [named, found] at opened
      refine .inr ⟨s, a, more, named, args, ?_, opened⟩
      rw [firstOf?_form, if_pos named, args]
      rfl

theorem length_text_of_args
    (f : FlatForm) {s : Separator} {a : Argument} {more : List (Separator × Argument)}
    (args : f.args = (s, a) :: more) :
    1 + f.keyword.text.length + s.text.length + a.text.length ≤ f.text.length := by
  simp only [length_text, content, args, Argument.written_cons, List.length_append]
  omega

/-- The search for starts sees the forms with the keyword and an argument. -/
theorem start_text (f : FlatForm) (rest : List Char) :
    ∃ length ≤ f.text.length,
      Recognizer.start (f.text ++ rest) =
        ((f.form.firstOf? .start).map fun _ => ()).map (length, ·) := by
  have word : "start" = Keyword.start.name := rfl
  rcases f.opening_cases .start rest with
    ⟨unopened, none⟩ | ⟨s, a, more, named, args, first, opened⟩
  · refine ⟨0, Nat.zero_le _, ?_⟩
    rw [Recognizer.start, word, unopened, none]
    rfl
  · refine ⟨1 + f.keyword.text.length + s.text.length, ?_, ?_⟩
    · exact Nat.le_trans (Nat.le_add_right _ _) (f.length_text_of_args args)
    · rw [Recognizer.start, word, opened, first, named]
      rfl

/-- The search for labels reads the first argument of the forms with the keyword. -/
theorem label_text (f : FlatForm) (rest : List Char) :
    ∃ length ≤ f.text.length,
      Recognizer.label (f.text ++ rest) = (f.form.firstOf? .label).map (length, ·) := by
  have word : "label" = Keyword.label.name := rfl
  rcases f.opening_cases .label rest with
    ⟨unopened, none⟩ | ⟨s, a, more, named, args, first, opened⟩
  · refine ⟨0, Nat.zero_le _, ?_⟩
    rw [Recognizer.label, word, unopened, none]
    rfl
  · obtain ⟨name, rfl⟩ : ∃ name, a = .bare name := f.labelled named (s, a) (by rw [args]; rfl)
    refine ⟨_, f.length_text_of_args args, ?_⟩
    have cut := takeWhile_run name.solid (Argument.solid_until_written more rest)
    rw [Recognizer.label, word, opened, first, named]
    simp only [Argument.text, cut]
    rw [if_neg (by simpa using name.nonempty)]
    rfl

end FlatForm

end StoryScript
