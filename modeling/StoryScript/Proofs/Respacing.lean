import StoryScript.Proofs.FlatForm
import StoryScript.Proofs.TokenSplit

/-!
# Tokens that are written with other blanks

The tokens of a text may be written again with blanks of any choice between them, and they are
the tokens of what is written. A token looks at what follows it in two ways only: a run stops at
a blank, and a quote at its beginning is closed or not. The first is a matter of the next
character, and the second does not depend on blanks, because every quote of a text is in one of
its tokens.

Blanks around a text have no influence on its tokens either, so it makes no difference whether
the content of a form is trimmed before it is read.
-/

namespace StoryScript

/-! ### Splits with another rest -/

/-- A token may be split off in front of another rest, provided that a run still stops there and
no quote is new. -/
theorem IsToken.before_rest {token rest other : List Char} (isToken : IsToken token rest)
    (stops : (∀ c ∈ rest.head?, isBlank c = true) → ∀ c ∈ other.head?, isBlank c = true)
    (quotes : '"' ∈ other → '"' ∈ rest) : IsToken token other := by
  rcases isToken with literal | run
  · exact .inl literal
  · refine .inr ⟨run.nonempty, run.visible, stops run.stops, ?_⟩
    intro more isQuote member
    apply run.unclosed more isQuote
    rcases List.mem_append.mp member with inside | behind
    · exact List.mem_append_left _ inside
    · exact List.mem_append_right _ (quotes behind)

/-- Every visible character of a text is in one of the tokens into which the text is split. -/
theorem mem_iff_of_splitsInto
    {content : List Char} {split : List String} (splits : SplitsInto content split)
    {c : Char} (visible : isBlank c = false) :
    c ∈ content ↔ c ∈ split.flatMap String.toList := by
  have kept : ∀ text : List Char, c ∈ text.filter (!isBlank ·) ↔ c ∈ text := by simp [visible]
  rw [← kept content, ← filter_visible_of_splitsInto splits, kept]

/-- The first token of a split may be written in front of any other text that is split into the
same further tokens and begins with a blank. -/
theorem splitsInto_cons_of_rest
    {content lead text : List Char} {token : String} {split : List String}
    (splits : SplitsInto content (token :: split)) (blank : ∀ c ∈ lead, isBlank c = true)
    (blankHead : ∀ c ∈ text.head?, isBlank c = true) (further : SplitsInto text split) :
    SplitsInto (lead ++ (token.toList ++ text)) (token :: split) := by
  obtain ⟨_, rest, _, _, isToken, splits⟩ := (splitsInto_cons_iff _ _ _).mp splits
  have quotes : '"' ∈ text → '"' ∈ rest := by
    intro quote
    have inTokens := (mem_iff_of_splitsInto further (by decide)).mp quote
    exact (mem_iff_of_splitsInto splits (by decide)).mpr inTokens
  apply (splitsInto_cons_iff _ _ _).mpr
  exact ⟨lead, text, rfl, blank, isToken.before_rest (fun _ => blankHead) quotes, further⟩

/-! ### Tokens written anew -/

/-- Tokens as they are written behind another one: blanks in front of each of them, and blanks
at the end. -/
def spread (others : List (Separator × String)) (trail : Gap) : List Char :=
  (others.flatMap fun o => o.1.text ++ o.2.toList) ++ trail.text

theorem spread_cons (o : Separator × String) (others : List (Separator × String)) (trail : Gap) :
    spread (o :: others) trail = o.1.text ++ (o.2.toList ++ spread others trail) := by
  simp only [spread, List.flatMap_cons, List.append_assoc]

theorem blank_head_spread (others : List (Separator × String)) (trail : Gap) :
    ∀ c ∈ (spread others trail).head?, isBlank c = true := by
  cases others with
  | nil =>
      intro c first
      exact trail.blank_of_mem c (List.mem_of_mem_head? first)
  | cons o others =>
      intro c first
      rw [spread_cons, List.head?_append_of_ne_nil _ o.1.nonempty] at first
      exact o.1.blank_of_mem c (List.mem_of_mem_head? first)

/-- Tokens of a text that are spread out with other blanks split what is written. -/
theorem splitsInto_spread (others : List (Separator × String)) (trail : Gap)
    {content : List Char} (splits : SplitsInto content (others.map (·.2))) :
    SplitsInto (spread others trail) (others.map (·.2)) := by
  induction others generalizing content with
  | nil => exact (splitsInto_nil_iff _).mpr trail.blank_of_mem
  | cons o others inductionHypothesis =>
      rw [List.map_cons] at splits ⊢
      obtain ⟨_, rest, _, _, _, further⟩ := (splitsInto_cons_iff _ _ _).mp splits
      rw [spread_cons]
      exact splitsInto_cons_of_rest splits o.1.blank_of_mem (blank_head_spread others trail)
        (inductionHypothesis further)

/-! ### Blanks around a text -/

theorem splitsInto_append_blanks
    {content : List Char} {split : List String} (splits : SplitsInto content split)
    {blanks : List Char} (blank : ∀ c ∈ blanks, isBlank c = true) :
    SplitsInto (content ++ blanks) split := by
  induction split generalizing content with
  | nil =>
      have contentBlank := (splitsInto_nil_iff content).mp splits
      exact (splitsInto_nil_iff _).mpr (List.forall_mem_append.mpr ⟨contentBlank, blank⟩)
  | cons token split inductionHypothesis =>
      obtain ⟨lead, rest, rfl, leadBlank, isToken, further⟩ := (splitsInto_cons_iff _ _ _).mp splits
      -- A literal may touch what follows, so that the rest stops a run is known for runs only.
      have stops : (∀ c ∈ rest.head?, isBlank c = true) →
          ∀ c ∈ (rest ++ blanks).head?, isBlank c = true := by
        intro restStops c first
        cases rest with
        | nil => exact blank c (List.mem_of_mem_head? first)
        | cons d rest => exact restStops c first
      have quotes : '"' ∈ rest ++ blanks → '"' ∈ rest := by
        intro member
        rcases List.mem_append.mp member with inRest | inBlanks
        · exact inRest
        · exact absurd (blank _ inBlanks) (by decide)
      apply (splitsInto_cons_iff _ _ _).mpr
      refine ⟨lead, rest ++ blanks, ?_, leadBlank, isToken.before_rest stops quotes,
        inductionHypothesis further⟩
      simp only [List.append_assoc]

theorem tokens_append_blanks
    {blanks : List Char} (blank : ∀ c ∈ blanks, isBlank c = true) (content : List Char) :
    tokens (content ++ blanks) = tokens content :=
  (eq_tokens_of_splitsInto (splitsInto_append_blanks (splitsInto_tokens content) blank)).symm

/-- What is trimmed off a text is blank. -/
theorem exists_blanks_trim (content : List Char) :
    ∃ lead trail, content = lead ++ (trim isBlank content ++ trail) ∧
      (∀ c ∈ lead, isBlank c = true) ∧ ∀ c ∈ trail, isBlank c = true := by
  have front := List.takeWhile_append_dropWhile (p := isBlank) (l := content)
  have back := List.takeWhile_append_dropWhile (p := isBlank)
    (l := (content.dropWhile isBlank).reverse)
  refine ⟨content.takeWhile isBlank,
    ((content.dropWhile isBlank).reverse.takeWhile isBlank).reverse, ?_, ?_, ?_⟩
  · rw [trim, ← List.reverse_append, back, List.reverse_reverse, front]
  · intro c member
    exact List.mem_takeWhile_imp member
  · intro c member
    exact List.mem_takeWhile_imp (List.mem_reverse.mp member)

theorem tokens_trim (content : List Char) : tokens (trim isBlank content) = tokens content := by
  obtain ⟨lead, trail, whole, leadBlank, trailBlank⟩ := exists_blanks_trim content
  calc
    tokens (trim isBlank content) = tokens (trim isBlank content ++ trail) :=
      (tokens_append_blanks trailBlank _).symm
    _ = tokens (lead ++ (trim isBlank content ++ trail)) := (tokens_blanks_append leadBlank _).symm
    _ = tokens content := by rw [← whole]

theorem ofContent?_trim (content : List Char) :
    Form.ofContent? (trim isBlank content) = Form.ofContent? content := by
  rw [Form.ofContent?, tokens_trim, Form.ofContent?]

namespace Inspection

/-- Checks the form in a pair of parentheses as `visit` does, but trims the content before it is
read. -/
def visitTrimmed (text : Array Char) (offset : Int) (i : Inspection) (p : Pair) : Inspection :=
  match Form.ofContent? (trim isBlank (p.content text)) with
  | none => i
  | some form =>
    { i with
      collector := (form.findings i.labels).foldl
        (·.report (offset + p.opener) (offset + p.closer + 1)) i.collector
      formsSeen := i.formsSeen + 1 }

def windowTrimmed (i : Inspection) (text : List Char) (offset : Int := 0) : Inspection :=
  (pairs text).foldl (visitTrimmed text.toArray offset) i

theorem visitTrimmed_eq (text : Array Char) (offset : Int) :
    visitTrimmed text offset = visit text offset := by
  funext i p
  cases read : Form.ofContent? (p.content text) with
  | none => simp only [visitTrimmed, visit, ofContent?_trim, read]
  | some form => simp only [visitTrimmed, visit, ofContent?_trim, read]

theorem windowTrimmed_eq (i : Inspection) (text : List Char) (offset : Int) :
    i.windowTrimmed text offset = i.window text offset := by
  rw [windowTrimmed, visitTrimmed_eq, window]

end Inspection

/-- The keyword and the arguments of a form may be written again with blanks of any choice
between and around them, and the same form is read. Content gives the same form whether it is
trimmed before or not, so an inspection that trims it comes to the same result. -/
theorem Form.ofContent?_respaced (content : List Char) :
    (∀ form, ofContent? content = some form →
      ∀ (lead : Gap) (args : List (Separator × String)) (trail : Gap),
        args.map (·.2) = form.args →
        ofContent? (lead.text ++ (form.keyword.toList ++ spread args trail)) = some form) ∧
    ofContent? (trim isBlank content) = ofContent? content ∧
    ∀ (i : Inspection) (text : List Char) (offset : Int),
      i.windowTrimmed text offset = i.window text offset := by
  refine ⟨?_, ofContent?_trim content, Inspection.windowTrimmed_eq⟩
  intro form read lead args trail sameArgs
  have splits := splitsInto_tokens content
  rw [(ofContent?_eq_some_iff content form).mp read, ← sameArgs] at splits
  obtain ⟨_, rest, _, _, _, further⟩ := (splitsInto_cons_iff _ _ _).mp splits
  have spreads := splitsInto_spread args trail further
  have written := splitsInto_cons_of_rest splits lead.blank_of_mem (blank_head_spread args trail)
    spreads
  apply (ofContent?_eq_some_iff _ form).mpr
  rw [← eq_tokens_of_splitsInto written, sameArgs]

/-- A literal that touches its neighbour is moved away from it, and the quote that is never
closed stays unclosed. -/
theorem Form.ofContent?_respaced_touching :
    let content := "say \"a b\"c\"d \"e".toList
    let form : Form := ⟨"say", ["\"a b\"", "c\"d", "\"e"]⟩
    let wide : Separator := { text := "\t \r\n".toList }
    let args := [(wide, "\"a b\""), (wide, "c\"d"), (wide, "\"e")]
    ofContent? content = some form ∧ args.map (·.2) = form.args ∧
    ofContent? "\n say\t \r\n\"a b\"\t \r\nc\"d\t \r\n\"e ".toList = some form ∧
    ofContent? (trim isBlank content) = some form := by
  intro content form wide args
  let lead : Gap := { text := "\n ".toList }
  let trail : Gap := { text := " ".toList }
  have read : ofContent? content = some form := by decide +kernel
  have sameArgs : args.map (·.2) = form.args := rfl
  have written : lead.text ++ (form.keyword.toList ++ spread args trail) =
      "\n say\t \r\n\"a b\"\t \r\nc\"d\t \r\n\"e ".toList := by decide +kernel
  obtain ⟨respaced, trimmed, _⟩ := Form.ofContent?_respaced content
  refine ⟨read, sameArgs, ?_, trimmed.trans read⟩
  rw [← written]
  exact respaced form read lead args trail sameArgs

end StoryScript
