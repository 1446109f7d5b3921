import StoryScript.Text.Blank

/-!
# Tokens

The inner text of a form splits into tokens. A token that begins with a double
quote and finds another one further on is a literal and reaches up to that quote,
blanks included; any other token is a run that reaches up to the next blank. A
literal may touch its neighbours, and a quote inside a run is an ordinary character.
-/

namespace StoryScript

/-- Cuts the token that starts with `first` off the text `first :: rest`. -/
def cutToken (first : Char) (rest : List Char) : List Char × List Char :=
  if first = '"' ∧ '"' ∈ rest then
    (first :: (rest.takeWhile (· ≠ '"') ++ ['"']), (rest.dropWhile (· ≠ '"')).tail)
  else
    (first :: rest.takeWhile (!isBlank ·), rest.dropWhile (!isBlank ·))

/-- A text that holds a quote is cut in two by its first one. -/
theorem takeWhile_quote_dropWhile {text : List Char} (h : '"' ∈ text) :
    text.takeWhile (· ≠ '"') ++ '"' :: (text.dropWhile (· ≠ '"')).tail = text := by
  induction text with
  | nil => simp at h
  | cons c rest inductionHypothesis =>
    by_cases hc : c = '"'
    · simp [hc]
    · have later : '"' ∈ rest := by simpa [Ne.symm hc] using h
      simpa [hc] using inductionHypothesis later

theorem cutToken_append (first : Char) (rest : List Char) :
    (cutToken first rest).1 ++ (cutToken first rest).2 = first :: rest := by
  unfold cutToken
  split
  case isTrue h => simpa using takeWhile_quote_dropWhile h.2
  case isFalse => simp

/-- What follows the first token of a text is shorter than the text. -/
theorem length_cutToken_lt {text rest : List Char} {first : Char}
    (visible : text.dropWhile isBlank = first :: rest) :
    (cutToken first rest).2.length < text.length := by
  have whole := congrArg List.length (cutToken_append first rest)
  have token : 0 < (cutToken first rest).1.length := by
    unfold cutToken
    split <;> simp
  have suffix := (List.dropWhile_suffix isBlank (l := text)).length_le
  rw [visible] at suffix
  simp only [List.length_append, List.length_cons] at whole suffix
  omega

/-- Adds the tokens of a text to those already found. -/
def tokensFrom (found : Array String) (text : List Char) : Array String :=
  match visible : text.dropWhile isBlank with
  | [] => found
  | first :: rest =>
    let cut := cutToken first rest
    have : cut.2.length < text.length := length_cutToken_lt visible
    tokensFrom (found.push (String.ofList cut.1)) cut.2
termination_by text.length

def tokens (text : List Char) : List String := (tokensFrom #[] text).toList

theorem tokensFrom_of_blank (found : Array String) {text : List Char}
    (blank : text.dropWhile isBlank = []) : tokensFrom found text = found := by
  rw [tokensFrom]
  split
  · rfl
  · simp_all

theorem tokensFrom_of_visible (found : Array String) {text rest : List Char} {first : Char}
    (visible : text.dropWhile isBlank = first :: rest) :
    tokensFrom found text =
      tokensFrom (found.push (String.ofList (cutToken first rest).1)) (cutToken first rest).2 := by
  rw [tokensFrom]
  split
  · simp_all
  · next h =>
    rw [visible] at h
    cases h
    rfl

/-- What has been found before stays in front and has no influence on the rest. -/
theorem toList_tokensFrom (found : Array String) (text : List Char) :
    (tokensFrom found text).toList = found.toList ++ tokens text := by
  induction h : text.length using Nat.strongRecOn generalizing found text with
  | ind length inductionHypothesis =>
    subst h
    unfold tokens
    cases visible : text.dropWhile isBlank with
    | nil => simp [tokensFrom_of_blank _ visible]
    | cons first rest =>
      have shorter := length_cutToken_lt visible
      rw [tokensFrom_of_visible _ visible, tokensFrom_of_visible _ visible,
        inductionHypothesis _ shorter _ _ rfl, inductionHypothesis _ shorter _ _ rfl]
      simp

/-- A blank text has no tokens. -/
theorem tokens_of_blank {text : List Char} (blank : text.dropWhile isBlank = []) :
    tokens text = [] := by
  rw [tokens, tokensFrom_of_blank _ blank]

/-- The first token of a text is cut off at its first visible character, and the others are
those of what follows. -/
theorem tokens_of_visible {text rest : List Char} {first : Char}
    (visible : text.dropWhile isBlank = first :: rest) :
    tokens text = String.ofList (cutToken first rest).1 :: tokens (cutToken first rest).2 := by
  rw [tokens, tokensFrom_of_visible _ visible, toList_tokensFrom]
  rfl

theorem tokens_eq_nil_iff (text : List Char) : tokens text = [] ↔ allBlank text = true := by
  rw [allBlank_iff_dropWhile]
  cases visible : text.dropWhile isBlank with
  | nil => simp [tokens_of_blank visible]
  | cons first rest => simp [tokens_of_visible visible]

/-- The text inside the quotes of a token that starts and ends with one. -/
def literal? (token : String) : Option String :=
  match token.toList with
  | '"' :: rest => if rest.getLast? = some '"' then some (String.ofList rest.dropLast) else none
  | _ => none

def isQuoted (token : String) : Bool := (literal? token).isSome

/-- A token without its enclosing quotes; one that is not quoted stays as it is. -/
def unquote (token : String) : String := (literal? token).getD token

end StoryScript
