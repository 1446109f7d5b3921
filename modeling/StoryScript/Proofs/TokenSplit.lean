import Mathlib.Data.List.TakeWhile
import StoryScript.Proofs.Tokens

/-!
# The one lossless split of a text into tokens

A text can be written as blanks, a token, blanks, a token, and so on. If every token is a literal
or a run that reaches up to the next blank, and a run that begins with a quote finds no other
quote behind it, there is only one way to do so, and the tokens of the text are those of that
split. So every visible character of a text is in exactly one token, in its place.
-/

namespace StoryScript

/-- A quote, a line without quotes, and another quote. -/
def IsLiteral (token : List Char) : Prop :=
  ∃ line, token = '"' :: (line ++ ['"']) ∧ '"' ∉ line

/-- A run of visible characters where `rest` follows: it stops at a blank or at the end, and if
it begins with a quote, no further quote comes behind that one. -/
structure IsRun (token rest : List Char) : Prop where
  nonempty : token ≠ []
  visible : ∀ c ∈ token, isBlank c = false
  stops : ∀ c ∈ rest.head?, isBlank c = true
  unclosed : ∀ more, token = '"' :: more → '"' ∉ more ++ rest

/-- What may be split off as a token where `rest` follows. -/
def IsToken (token rest : List Char) : Prop := IsLiteral token ∨ IsRun token rest

/-- A token and the blanks behind it. -/
structure Piece where
  token : String
  gap : List Char

def Piece.text (p : Piece) : List Char := p.token.toList ++ p.gap

/-- A text that is written as blanks and then the given tokens, each followed by blanks, where
each token may be split off in front of all that follows it. -/
def SplitsInto (content : List Char) (split : List String) : Prop :=
  ∃ (lead : List Char) (pieces : List Piece),
    content = lead ++ pieces.flatMap Piece.text ∧
    pieces.map (·.token) = split ∧
    (∀ c ∈ lead, isBlank c = true) ∧
    (∀ p ∈ pieces, ∀ c ∈ p.gap, isBlank c = true) ∧
    ∀ before p after, pieces = before ++ p :: after →
      IsToken p.token.toList (p.gap ++ after.flatMap Piece.text)

theorem splitsInto_nil_iff (content : List Char) :
    SplitsInto content [] ↔ ∀ c ∈ content, isBlank c = true := by
  constructor
  · rintro ⟨lead, pieces, rfl, none, blank, _⟩
    rw [List.map_eq_nil_iff] at none
    simpa [none] using blank
  · intro blank
    exact ⟨content, [], by simp, rfl, blank, by simp, by simp⟩

/-- A split begins with blanks and a token, and goes on with a split of what follows. -/
theorem splitsInto_cons_iff (content : List Char) (token : String) (split : List String) :
    SplitsInto content (token :: split) ↔
      ∃ lead rest, content = lead ++ (token.toList ++ rest) ∧
        (∀ c ∈ lead, isBlank c = true) ∧ IsToken token.toList rest ∧ SplitsInto rest split := by
  constructor
  · rintro ⟨lead, pieces, rfl, tokens, blank, gaps, areTokens⟩
    obtain ⟨p, pieces, rfl, rfl, rfl⟩ := List.map_eq_cons_iff.mp tokens
    refine ⟨lead, p.gap ++ pieces.flatMap Piece.text, ?_, blank, areTokens [] p pieces rfl, ?_⟩
    · simp [Piece.text]
    · refine ⟨p.gap, pieces, rfl, rfl, gaps p List.mem_cons_self, ?_, ?_⟩
      · intro q member
        exact gaps q (List.mem_cons_of_mem _ member)
      · intro before q after split
        exact areTokens (p :: before) q after (by rw [split, List.cons_append])
  · rintro ⟨lead, _, rfl, blank, isToken, gap, pieces, rfl, rfl, gapBlank, gaps, areTokens⟩
    refine ⟨lead, ⟨token, gap⟩ :: pieces, by simp [Piece.text], rfl, blank, ?_, ?_⟩
    · exact List.forall_mem_cons.mpr ⟨gapBlank, gaps⟩
    · intro before p after split
      cases before with
      | nil =>
          obtain ⟨rfl, rfl⟩ := List.cons.inj split
          exact isToken
      | cons first before =>
          exact areTokens before p after (List.cons.inj split).2

/-! ### Tokens that are split off -/

/-- A literal, or a run with its end in sight, is the first token. -/
theorem tokens_append_of_isToken {token rest : List Char} (isToken : IsToken token rest) :
    tokens (token ++ rest) = String.ofList token :: tokens rest := by
  rcases isToken with ⟨line, rfl, noQuote⟩ | run
  · rw [List.cons_append, List.append_assoc]
    exact tokens_literal_append noQuote rest
  · obtain ⟨first, more, rfl⟩ := List.exists_cons_of_ne_nil run.nonempty
    apply tokens_run_append run.visible _ run.stops
    rintro ⟨rfl, closed⟩
    exact run.unclosed more rfl closed

/-- What is cut off a text at a visible character may be split off there. -/
theorem isToken_cutToken {first : Char} (visible : isBlank first = false) (rest : List Char) :
    IsToken (cutToken first rest).1 (cutToken first rest).2 := by
  unfold cutToken
  split
  case isTrue closed =>
    left
    refine ⟨rest.takeWhile (· ≠ '"'), by rw [closed.1], ?_⟩
    intro member
    simpa using List.mem_takeWhile_imp member
  case isFalse notClosed =>
    right
    refine ⟨List.cons_ne_nil _ _, ?_, ?_, ?_⟩
    · intro c member
      rcases List.mem_cons.mp member with rfl | member
      · exact visible
      · simpa using List.mem_takeWhile_imp member
    · intro c next
      simpa using dropWhile_stops _ rest c next
    · intro more isQuote
      obtain ⟨rfl, rfl⟩ := List.cons.inj isQuote
      rw [List.takeWhile_append_dropWhile]
      exact fun later => notClosed ⟨rfl, later⟩

/-! ### The split of a text -/

theorem eq_tokens_of_splitsInto
    {content : List Char} {split : List String} (splits : SplitsInto content split) :
    split = tokens content := by
  induction split generalizing content with
  | nil =>
      have blank := (splitsInto_nil_iff content).mp splits
      exact ((tokens_eq_nil_iff content).mpr ((allBlank_iff content).mpr blank)).symm
  | cons token split inductionHypothesis =>
      obtain ⟨lead, rest, rfl, blank, isToken, splits⟩ := (splitsInto_cons_iff _ _ _).mp splits
      rw [tokens_blanks_append blank, tokens_append_of_isToken isToken, String.ofList_toList,
        inductionHypothesis splits]

/-- The tokens of a text split it: by induction over its length, since each token leaves less
of it. -/
theorem splitsInto_tokens (content : List Char) : SplitsInto content (tokens content) := by
  induction length : content.length using Nat.strongRecOn generalizing content with
  | ind n inductionHypothesis =>
      subst length
      cases visible : content.dropWhile isBlank with
      | nil =>
          rw [tokens_of_blank visible, splitsInto_nil_iff, ← allBlank_iff,
            allBlank_iff_dropWhile]
          exact visible
      | cons first rest =>
          have firstVisible : isBlank first = false :=
            dropWhile_stops isBlank content first (by rw [visible]; rfl)
          rw [tokens_of_visible visible, splitsInto_cons_iff]
          refine ⟨content.takeWhile isBlank, (cutToken first rest).2, ?_, ?_, ?_, ?_⟩
          · rw [String.toList_ofList, cutToken_append, ← visible,
              List.takeWhile_append_dropWhile]
          · intro c member
            exact List.mem_takeWhile_imp member
          · rw [String.toList_ofList]
            exact isToken_cutToken firstVisible rest
          · exact inductionHypothesis _ (length_cutToken_lt visible) _ rfl

theorem splitsInto_iff (content : List Char) (split : List String) :
    SplitsInto content split ↔ split = tokens content := by
  constructor
  · exact eq_tokens_of_splitsInto
  · rintro rfl
    exact splitsInto_tokens content

/-- A split keeps the visible characters, each once and in order. -/
theorem filter_visible_of_splitsInto
    {content : List Char} {split : List String} (splits : SplitsInto content split) :
    (split.flatMap String.toList).filter (!isBlank ·) = content.filter (!isBlank ·) := by
  have blankAway : ∀ {blanks : List Char}, (∀ c ∈ blanks, isBlank c = true) →
      blanks.filter (!isBlank ·) = [] := by
    intro blanks blank
    apply List.filter_eq_nil_iff.mpr
    intro c member
    simp [blank c member]
  induction split generalizing content with
  | nil =>
      rw [blankAway ((splitsInto_nil_iff content).mp splits)]
      rfl
  | cons token split inductionHypothesis =>
      obtain ⟨lead, rest, rfl, blank, _, splits⟩ := (splitsInto_cons_iff _ _ _).mp splits
      rw [List.flatMap_cons, List.filter_append, inductionHypothesis splits, List.filter_append,
        List.filter_append, blankAway blank, List.nil_append]

/-- Content is no form exactly when it is blank. Otherwise the keyword and the arguments are the
only tokens into which it can be split with nothing but blanks between them, so no visible
character is lost, repeated or moved. -/
theorem Form.ofContent?_only_split (content : List Char) :
    (Form.ofContent? content = none ↔ ∀ c ∈ content, isBlank c = true) ∧
    ∀ form, Form.ofContent? content = some form →
      (∀ split, SplitsInto content split ↔ split = form.keyword :: form.args) ∧
      ((form.keyword :: form.args).flatMap String.toList).filter (!isBlank ·) =
        content.filter (!isBlank ·) := by
  constructor
  · rw [Form.ofContent?_eq_none_iff, allBlank_iff]
  · intro form read
    rw [← (ofContent?_eq_some_iff content form).mp read]
    exact ⟨splitsInto_iff content, filter_visible_of_splitsInto (splitsInto_tokens content)⟩

/-- A literal with a blank inside touches the token behind it, and the last quote is never
closed. -/
theorem Form.ofContent?_only_split_touching :
    let content := "say \"a b\"c \"d\te".toList
    let form : Form := ⟨"say", ["\"a b\"", "c", "\"d", "e"]⟩
    Form.ofContent? content = some form ∧
    (∀ split, SplitsInto content split ↔ split = form.keyword :: form.args) ∧
    ((form.keyword :: form.args).flatMap String.toList).filter (!isBlank ·) =
      content.filter (!isBlank ·) := by
  intro content form
  have read : Form.ofContent? content = some form := by decide +kernel
  exact ⟨read, (Form.ofContent?_only_split content).2 form read⟩

end StoryScript
