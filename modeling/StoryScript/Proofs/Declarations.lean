import Mathlib.Data.List.Perm.Subperm
import StoryScript.Proofs.Boundaries
import StoryScript.Proofs.FlatForm
import StoryScript.Proofs.Targets

/-!
# Declarations that are searched for and visited

Labels and starts are searched for in the text, while the forms that declare them are
visited between matched parentheses. The searches see an opener, the word and a blank; so
in a balanced text they find forms whose keyword stands directly behind the opener. For a
label the search reads a name up to the next blank or closer. That is the first argument of
the form where the argument is written like a name, and begins like it everywhere else. A
name may run over the opener of the next form, which is then not searched.
-/

namespace StoryScript

/-! ### Content that begins with a word -/

/-- Content that begins with its first token is that token up to the next blank. -/
theorem exists_of_tokens_word
    {content : List Char} {word : String} {args : List String}
    (notQuote : word.toList.head? ≠ some '"')
    (direct : ∀ c ∈ content.head?, isBlank c = false)
    (read : tokens content = word :: args) :
    ∃ more, content = word.toList ++ more ∧ (∀ c ∈ more.head?, isBlank c = true) ∧
      args = tokens more := by
  cases content with
  | nil =>
      rw [tokens_of_blank rfl] at read
      cases read
  | cons c rest =>
      rw [tokens_cons_of_visible (direct c rfl)] at read
      obtain ⟨rfl, rfl⟩ := List.cons.inj read
      have notLiteral : ¬ (c = '"' ∧ '"' ∈ rest) := by
        rintro literal
        apply notQuote
        rw [String.toList_ofList, cutToken, if_pos literal, literal.1]
        rfl
      rw [cutToken_of_not_literal notLiteral, String.toList_ofList]
      refine ⟨rest.dropWhile (!isBlank ·), ?_, ?_, rfl⟩
      · rw [List.cons_append, List.takeWhile_append_dropWhile]
      · intro d first
        simpa using dropWhile_stops (!isBlank ·) rest d first

namespace Keyword

theorem name_nonempty (k : Keyword) : k.name.toList ≠ [] := by
  cases k <;> decide

theorem name_visible (k : Keyword) : k.name.toList.any isBlank = false := by
  cases k <;> decide

theorem name_unquoted (k : Keyword) : k.name.toList.head? ≠ some '"' := by
  cases k <;> decide

theorem tokens_name_append
    (k : Keyword) {rest : List Char} (stops : ∀ c ∈ rest.head?, isBlank c = true) :
    tokens (k.name.toList ++ rest) = k.name :: tokens rest := by
  rw [tokens_word_append k.name_nonempty k.name_visible k.name_unquoted stops,
    String.ofList_toList]

theorem tokens_name (k : Keyword) : tokens k.name.toList = [k.name] := by
  have noRest : ∀ c ∈ ([] : List Char).head?, isBlank c = true := by simp
  have read := k.tokens_name_append noRest
  have none : tokens [] = [] := tokens_of_blank rfl
  rwa [List.append_nil, none] at read

theorem head_name_append (k : Keyword) (rest : List Char) :
    ∀ c ∈ (k.name.toList ++ rest).head?, isBlank c = false := by
  intro c first
  rw [List.head?_append_of_ne_nil _ k.name_nonempty] at first
  exact Bool.eq_false_iff.mpr (List.any_eq_false.mp k.name_visible c (List.mem_of_mem_head? first))

/-- The opening of a keyword is seen exactly where content begins with the keyword as its first
token and does not end there. -/
theorem opening_isSome_iff (k : Keyword) (content : List Char) :
    (Recognizer.opening k.name.toList ('(' :: content)).isSome = true ↔
      (∀ c ∈ content.head?, isBlank c = false) ∧ (tokens content).head? = some k.name ∧
        content ≠ k.name.toList := by
  rw [Recognizer.opening_isSome_iff]
  constructor
  · rintro ⟨c, more, split, blank⟩
    obtain rfl := (List.cons.inj split).2
    have stops : ∀ d ∈ (c :: more).head?, isBlank d = true := by simpa using blank
    refine ⟨k.head_name_append _, ?_, by simp⟩
    rw [k.tokens_name_append stops]
    rfl
  · rintro ⟨direct, first, goesOn⟩
    obtain ⟨args, read⟩ := List.head?_eq_some_iff.mp first
    obtain ⟨more, rfl, stops, _⟩ := exists_of_tokens_word k.name_unquoted direct read
    cases more with
    | nil => simp at goesOn
    | cons c more => exact ⟨c, more, rfl, stops c rfl⟩

end Keyword

/-! ### Names of labels -/

namespace Recognizer

/-- What is recognized as a label: the opening, and a name that ends at a blank, at a closer or
with the text. -/
theorem label_eq_some_iff {text : List Char} {length : Nat} {name : String} :
    label text = some (length, name) ↔
      ∃ blanks rest,
        text = "(label".toList ++ (blanks ++ (name.toList ++ rest)) ∧
        blanks ≠ [] ∧ (∀ c ∈ blanks, isBlank c = true) ∧
        name.toList ≠ [] ∧ (∀ c ∈ name.toList, isBlank c = false ∧ c ≠ ')') ∧
        (∀ c ∈ rest.head?, isBlank c = true ∨ c = ')') ∧
        length = "(label".toList.length + blanks.length + name.toList.length := by
  have inName : ∀ c, (!isBlank c && c != ')') = true ↔ isBlank c = false ∧ c ≠ ')' := by simp
  have behindName : ∀ c, (!isBlank c && c != ')') = false ↔ isBlank c = true ∨ c = ')' := by
    intro c
    cases isBlank c <;> simp
  constructor
  · intro recognized
    unfold label at recognized
    split at recognized
    case h_2 => simp at recognized
    case h_1 width tail opened =>
      obtain ⟨blanks, rfl, someBlank, allBlanks, stops, rfl⟩ :=
        (opening_eq_some_iff _ _ _ _).mp opened
      dsimp only at recognized
      split at recognized
      case isTrue => simp at recognized
      case isFalse nonempty =>
        simp only [Option.some.injEq, Prod.mk.injEq] at recognized
        obtain ⟨rfl, named⟩ := recognized
        have read : name.toList = tail.takeWhile fun c => !isBlank c && c != ')' := by
          rw [← named, String.toList_ofList]
        rw [← read] at nonempty ⊢
        refine ⟨blanks, tail.dropWhile fun c => !isBlank c && c != ')', ?_, someBlank, allBlanks,
          by simpa using nonempty, ?_, ?_, rfl⟩
        · rw [read, List.takeWhile_append_dropWhile]
          rfl
        · intro c member
          rw [read] at member
          exact (inName c).mp (List.all_eq_true.mp List.all_takeWhile c member)
        · exact fun c next => (behindName c).mp (dropWhile_stops _ tail c next)
  · rintro ⟨blanks, rest, rfl, someBlank, allBlanks, nonempty, solid, stops, rfl⟩
    have visible : ∀ c ∈ (name.toList ++ rest).head?, isBlank c = false := by
      intro c first
      rw [List.head?_append_of_ne_nil _ nonempty] at first
      exact (solid c (List.mem_of_mem_head? first)).1
    have opened : opening "label".toList ("(label".toList ++ (blanks ++ (name.toList ++ rest))) =
        some (1 + "label".toList.length + blanks.length, name.toList ++ rest) :=
      (opening_eq_some_iff _ _ _ _).mpr ⟨blanks, rfl, someBlank, allBlanks, visible, rfl⟩
    have read : ((name.toList ++ rest).takeWhile fun c => !isBlank c && c != ')') =
        name.toList :=
      takeWhile_run (fun c member => (inName c).mpr (solid c member))
        (fun c next => (behindName c).mpr (stops c next))
    rw [label, opened]
    dsimp only
    rw [read, if_neg (by simpa using nonempty), String.ofList_toList]
    rfl

end Recognizer

/-! ### Openers of balanced texts -/

theorem Recognizer.WithoutClosers.drop_opener
    {α : Type} {r : Recognizer α} (withoutClosers : r.WithoutClosers)
    {text : List Char} {p : Pair} (matched : p.MatchedIn text) :
    r (text.drop p.opener) = r ('(' :: p.content text.toArray) := by
  obtain ⟨before, inner, after, rfl, rfl, _⟩ := (Pair.matchedIn_iff_split _ _).mp matched
  rw [List.drop_left, Pair.content_split, ← List.cons_append, withoutClosers.beforeCloser]

theorem Recognizer.WithoutClosers.exists_pair
    {α : Type} {r : Recognizer α} (withoutClosers : r.WithoutClosers)
    {text : List Char} (nonePending : (Pairing.ofText text).pending = [])
    {place : Nat} (inside : place < text.length)
    (recognized : (r (text.drop place)).isSome = true) :
    ∃ p : Pair, p.MatchedIn text ∧ p.opener = place := by
  apply closed_of_nonePending nonePending
  rw [List.drop_eq_getElem_cons inside] at recognized
  rw [List.getElem?_eq_getElem inside, Option.some.injEq]
  by_contra notOpener
  rw [withoutClosers.atOpeners _ _ notOpener] at recognized
  cases recognized

/-- The keyword of a form stands directly behind its opener. -/
def Visit.direct (text : List Char) (v : Visit) : Bool :=
  (v.pair.content text.toArray).head?.all (!isBlank ·)

theorem Visit.direct_iff (text : List Char) (v : Visit) :
    v.direct text = true ↔
      ∀ c ∈ (v.pair.content text.toArray).head?, isBlank c = false := by
  unfold direct
  cases (v.pair.content text.toArray).head? <;> simp

/-- The first arguments of the forms with a keyword. -/
def arguments (k : Keyword) (visited : List Visit) : List String :=
  visited.filterMap (·.form.firstOf? k)

theorem Form.firstOf?_eq_some_iff (k : Keyword) (form : Form) (arg : String) :
    form.firstOf? k = some arg ↔ ∃ others, form = ⟨k.name, arg :: others⟩ := by
  obtain ⟨keyword, args⟩ := form
  unfold firstOf?
  split
  · next named =>
    subst named
    cases args <;> simp
  · next other => simp [other]

theorem Form.firstOf?_isSome_iff (k : Keyword) (form : Form) :
    (form.firstOf? k).isSome = true ↔ form.keyword = k.name ∧ form.args ≠ [] := by
  unfold firstOf?
  split
  · next named => cases args : form.args <;> simp [named]
  · next other => simp [other]

/-- Only forms with an argument count. -/
theorem arguments_filter (k : Keyword) (visited : List Visit) :
    arguments k (visited.filter fun v => (v.form.firstOf? k).isSome) = arguments k visited := by
  rw [arguments, arguments, List.filterMap_filter]
  congr
  funext v
  cases v.form.firstOf? k <;> rfl

theorem arguments_of_forall₂
    {k : Keyword} {visited : List Visit} {names : List String}
    (named : List.Forall₂ (fun v name => v.form.firstOf? k = some name) visited names) :
    arguments k visited = names := by
  induction named with
  | nil => rfl
  | cons first _ inductionHypothesis =>
      rw [arguments, List.filterMap_cons, first]
      exact congrArg _ inductionHypothesis

/-! ### Labels -/

namespace Visit

/-- A form writes a name if it begins with the word for a label and the name stands behind the
blanks after it, up to a blank, a closer or the end of the form. -/
def WritesName (text : List Char) (v : Visit) (name : String) : Prop :=
  ∃ blanks rest,
    v.pair.content text.toArray =
      Keyword.label.name.toList ++ (blanks ++ (name.toList ++ rest)) ∧
    blanks ≠ [] ∧ (∀ c ∈ blanks, isBlank c = true) ∧
    name.toList ≠ [] ∧ (∀ c ∈ name.toList, isBlank c = false ∧ c ≠ ')') ∧
    (∀ c ∈ rest.head?, isBlank c = true ∨ c = ')')

/-- No name that is listed runs over the opener of the form. -/
def Clear (text : List Char) (v : Visit) : Prop :=
  ∀ o ∈ Recognizer.label.occurrences text, o.start < v.pair.opener → o.stop ≤ v.pair.opener

/-- A form declares its first argument if it writes it as a name and is clear of other names. -/
structure Declares (text : List Char) (v : Visit) (name : String) : Prop where
  first : v.form.firstOf? .label = some name
  written : v.WritesName text name
  clear : v.Clear text

/-- A form can be listed under a name if it has a first argument that begins with the name or
the other way round, and that is the name if the form writes it as one. -/
def ListedAs (text : List Char) (v : Visit) (name : String) : Prop :=
  ∃ arg, v.form.firstOf? .label = some arg ∧
    (name.toList <+: arg.toList ∨ arg.toList <+: name.toList) ∧
    (v.WritesName text arg → name = arg)

variable {text : List Char} {v : Visit} {name : String}

theorem writesName_iff :
    v.WritesName text name ↔
      ∃ length, Recognizer.label ('(' :: v.pair.content text.toArray) = some (length, name) := by
  constructor
  · rintro ⟨blanks, rest, split, someBlank, allBlanks, nonempty, solid, stops⟩
    refine ⟨"(label".toList.length + blanks.length + name.toList.length,
      Recognizer.label_eq_some_iff.mpr ⟨blanks, rest, ?_, someBlank, allBlanks, nonempty, solid,
        stops, rfl⟩⟩
    rw [split]
    rfl
  · rintro ⟨_, recognized⟩
    obtain ⟨blanks, rest, split, someBlank, allBlanks, nonempty, solid, stops, _⟩ :=
      Recognizer.label_eq_some_iff.mp recognized
    exact ⟨blanks, rest, (List.cons.inj split).2, someBlank, allBlanks, nonempty, solid, stops⟩

instance : Decidable (v.WritesName text name) :=
  decidable_of_iff
    ((Recognizer.label ('(' :: v.pair.content text.toArray)).map Prod.snd = some name) <| by
    rw [writesName_iff]
    cases Recognizer.label ('(' :: v.pair.content text.toArray) <;> simp [Prod.ext_iff]

instance : Decidable (v.Clear text) :=
  inferInstanceAs (Decidable (∀ o ∈ Recognizer.label.occurrences text, _ → _))

instance : Decidable (v.Declares text name) :=
  decidable_of_iff (v.form.firstOf? .label = some name ∧ v.WritesName text name ∧ v.Clear text)
    ⟨fun ⟨first, written, clear⟩ => ⟨first, written, clear⟩,
      fun ⟨first, written, clear⟩ => ⟨first, written, clear⟩⟩

theorem WritesName.unique {other : String} (writes : v.WritesName text name)
    (writesOther : v.WritesName text other) : name = other := by
  obtain ⟨_, read⟩ := writesName_iff.mp writes
  obtain ⟨_, readOther⟩ := writesName_iff.mp writesOther
  rw [read] at readOther
  exact (Prod.mk.inj (Option.some.inj readOther)).2

/-- Content that a name is written in has a first argument, and one of the two begins with the
other. -/
theorem WritesName.exists_tokens (writes : v.WritesName text name) :
    ∃ arg others,
      tokens (v.pair.content text.toArray) = Keyword.label.name :: arg :: others ∧
      (name.toList <+: arg.toList ∨ arg.toList <+: name.toList) := by
  obtain ⟨blanks, rest, split, someBlank, allBlanks, nonempty, solid, _⟩ := writes
  obtain ⟨first, more, chars⟩ := List.exists_cons_of_ne_nil nonempty
  have visible : isBlank first = false := (solid first (by simp [chars])).1
  have read := tokens_cons_of_visible visible (more ++ rest)
  rw [← List.cons_append, ← chars] at read
  have blankHead : ∀ c ∈ (blanks ++ (name.toList ++ rest)).head?, isBlank c = true := by
    intro c head
    rw [List.head?_append_of_ne_nil _ someBlank] at head
    exact allBlanks c (List.mem_of_mem_head? head)
  have whole : tokens (v.pair.content text.toArray) =
      Keyword.label.name :: tokens (name.toList ++ rest) := by
    rw [split, Keyword.label.tokens_name_append blankHead, tokens_blanks_append allBlanks]
  have cut := cutToken_append first (more ++ rest)
  rw [← List.cons_append, ← chars] at cut
  rw [read] at whole
  refine ⟨_, _, whole, ?_⟩
  rw [String.toList_ofList]
  exact List.prefix_or_prefix_of_prefix (List.prefix_append _ rest)
    (cut ▸ List.prefix_append _ _)

end Visit

section Labels

variable {text : List Char}

/-- What the search for labels finds is visited, and its name stands for the first argument. -/
theorem exists_visit_of_label
    (nonePending : (Pairing.ofText text).pending = []) {o : Occurrence String}
    (listed : o ∈ Recognizer.label.occurrences text) :
    ∃ v ∈ visits text, v.pair.opener = o.start ∧ v.ListedAs text o.value := by
  obtain ⟨inside, recognized⟩ := Recognizer.label.recognized_of_mem_occurrences listed
  obtain ⟨p, matched, opener⟩ := Recognizer.label_withoutClosers.exists_pair nonePending inside
    (by rw [recognized]; rfl)
  rw [← opener, Recognizer.label_withoutClosers.drop_opener matched] at recognized
  have writes : ∀ form, Visit.WritesName text ⟨p, form⟩ o.value :=
    fun _ => Visit.writesName_iff.mpr ⟨_, recognized⟩
  obtain ⟨arg, others, read, alike⟩ := (writes default).exists_tokens
  refine ⟨⟨p, Keyword.label.name, arg :: others⟩, ?_, opener, arg, ?_, alike, ?_⟩
  · exact (mem_visits_iff _ _).mpr
      ⟨mem_pairs_of_matchedIn matched, (ofContent?_eq_some_iff _ _).mpr read⟩
  · exact (Form.firstOf?_eq_some_iff _ _ _).mpr ⟨others, rfl⟩
  · exact (writes _).unique

/-- A form that writes a name and is clear of other names is found by the search for labels. -/
theorem exists_label_of_writesName
    {v : Visit} (visited : v ∈ visits text) {name : String} (writes : v.WritesName text name)
    (clear : v.Clear text) :
    ∃ o ∈ Recognizer.label.occurrences text, o.start = v.pair.opener ∧ o.value = name := by
  have matched := matchedIn_of_mem_pairs ((mem_visits_iff _ _).mp visited).1
  obtain ⟨length, recognized⟩ := Visit.writesName_iff.mp writes
  rw [← Recognizer.label_withoutClosers.drop_opener matched] at recognized
  obtain ⟨o, listed, start | ⟨before, inside⟩⟩ :=
    Recognizer.label.exists_occurrence_around (Visit.opener_lt visited) (by rw [recognized]; rfl)
  · have same := (Recognizer.label.recognized_of_mem_occurrences listed).2
    rw [start, recognized] at same
    exact ⟨o, listed, start, (Prod.mk.inj (Option.some.inj same)).2.symm⟩
  · exact absurd inside (Nat.not_lt.mpr (clear o listed before))

/-- The listed names are those of different label forms, to which every form belongs that writes
a name and is clear of other names. -/
theorem exists_sources (nonePending : (Pairing.ofText text).pending = []) :
    ∃ sources : List Visit,
      sources.Subperm (visits text) ∧
      (∀ v ∈ visits text, ∀ name, v.WritesName text name → v.Clear text → v ∈ sources) ∧
      List.Forall₂ (Visit.ListedAs text) sources (declaredLabels text) := by
  have listedForm : ∀ o : { o // o ∈ Recognizer.label.occurrences text },
      ∃ v ∈ visits text, v.pair.opener = o.1.start ∧ v.ListedAs text o.1.value :=
    fun o => exists_visit_of_label nonePending o.2
  choose source visited opener listedAs using listedForm
  have apart : ((visits text).map (·.pair.opener)).Nodup :=
    List.pairwise_map.mpr (visits_pairwise_opener text)
  refine ⟨(Recognizer.label.occurrences text).attach.map source, ?_, ?_, ?_⟩
  · apply List.subperm_of_subset
    · have starts : ((Recognizer.label.occurrences text).attach.map fun o => o.1.start).Nodup := by
        rw [List.attach_map_val (f := Occurrence.start)]
        exact List.pairwise_map.mpr
          ((Recognizer.label.found_pairwise 0 0 text).imp Nat.ne_of_lt)
      apply List.Nodup.of_map (·.pair.opener)
      rw [List.map_map]
      exact (List.map_congr_left fun o _ => opener o) ▸ starts
    · intro v member
      obtain ⟨o, _, rfl⟩ := List.mem_map.mp member
      exact visited o
  · intro v isVisited name writes clear
    obtain ⟨o, listed, start, _⟩ := exists_label_of_writesName isVisited writes clear
    have same : source ⟨o, listed⟩ = v :=
      List.inj_on_of_nodup_map apart (visited _) isVisited ((opener _).trans start)
    rw [← same]
    exact List.mem_map_of_mem (List.mem_attach _ _)
  · have names : declaredLabels text =
        (Recognizer.label.occurrences text).attach.map fun o => o.1.value :=
      List.attach_map_val.symm
    rw [names, List.forall₂_map_left_iff, List.forall₂_map_right_iff, List.forall₂_same]
    exact fun o _ => listedAs o

/-- Where all label forms declare their first arguments, these are the listed names. -/
theorem declaredLabels_perm_of_declares
    (nonePending : (Pairing.ofText text).pending = [])
    (declare : ∀ v ∈ visits text, ∀ name ∈ v.form.firstOf? .label, v.Declares text name) :
    (declaredLabels text).Perm (arguments .label (visits text)) := by
  obtain ⟨sources, ⟨kept, same, sublist⟩, complete, listedAs⟩ := exists_sources nonePending
  have visited : ∀ v ∈ sources, v ∈ visits text :=
    fun v member => sublist.subset (same.symm.subset member)
  have distinct : (visits text).Nodup := (visits_pairwise_opener text).imp fun different same =>
    different (congrArg (·.pair.opener) same)
  have named : List.Forall₂ (fun v name => v.form.firstOf? .label = some name) sources
      (declaredLabels text) := by
    apply ((List.forall₂_and_left _ _).mpr ⟨visited, listedAs⟩).imp
    rintro v name ⟨isVisited, arg, first, _, whole⟩
    rw [whole (declare v isVisited arg first).written, first]
  have forms : (sources.filter fun v => (v.form.firstOf? .label).isSome).Perm
      ((visits text).filter fun v => (v.form.firstOf? .label).isSome) := by
    apply (List.perm_ext_iff_of_nodup ((same.nodup_iff.mp (distinct.sublist sublist)).filter _)
      (distinct.filter _)).mpr
    intro v
    simp only [List.mem_filter]
    constructor
    · exact fun ⟨member, hasArg⟩ => ⟨visited v member, hasArg⟩
    · rintro ⟨isVisited, hasArg⟩
      obtain ⟨name, first⟩ := Option.isSome_iff_exists.mp hasArg
      have declares := declare v isVisited name first
      exact ⟨complete v isVisited name declares.written declares.clear, hasArg⟩
  rw [← arguments_of_forall₂ named, ← arguments_filter, ← arguments_filter .label (visits text)]
  exact forms.filterMap _

/-- What a form declares is listed, so it is never reported as undefined. -/
theorem message_ne_undefined_of_declares
    {v : Visit} (visited : v ∈ visits text) {name : String} (declares : v.Declares text name)
    {f : Finding} (isUndefined : f ∈ Finding.undefined name)
    {document : Document} {source : String} {d : Diagnostic}
    (held : d ∈ validateInto text document [] source) : d.message ≠ f.message := by
  obtain ⟨o, listed, _, rfl⟩ :=
    exists_label_of_writesName visited declares.written declares.clear
  rw [validateInto_eq] at held
  exact message_ne_undefined_of_declared (List.mem_map_of_mem listed) isUndefined held

end Labels

/-! ### Starts -/

section Starts

variable {text : List Char}

/-- A start form with something behind its keyword: an argument, or nothing but blanks. -/
def Visit.opensStart (text : List Char) (v : Visit) : Bool :=
  v.form.keyword = Keyword.start.name &&
    (v.pair.content text.toArray).dropWhile isBlank ≠ Keyword.start.name.toList

theorem Visit.opensStart_iff (v : Visit) :
    v.opensStart text = true ↔
      v.form.keyword = Keyword.start.name ∧
        (v.pair.content text.toArray).dropWhile isBlank ≠ Keyword.start.name.toList := by
  simp only [opensStart, Bool.and_eq_true, decide_eq_true_eq]

theorem dropWhile_blank_of_visible
    {content : List Char} (visible : ∀ c ∈ content.head?, isBlank c = false) :
    content.dropWhile isBlank = content := by
  cases content with
  | nil => rfl
  | cons c rest => rw [List.dropWhile_cons_of_neg (by simp [visible c rfl])]

theorem start_drop_opener_isSome_iff {p : Pair} (matched : p.MatchedIn text) :
    (Recognizer.start (text.drop p.opener)).isSome = true ↔
      (∀ c ∈ (p.content text.toArray).head?, isBlank c = false) ∧
        (tokens (p.content text.toArray)).head? = some Keyword.start.name ∧
        p.content text.toArray ≠ Keyword.start.name.toList := by
  rw [Recognizer.start_withoutClosers.drop_opener matched, Recognizer.start_isSome]
  exact Keyword.start.opening_isSome_iff _

theorem starts_perm (nonePending : (Pairing.ofText text).pending = []) :
    ((Recognizer.start.occurrences text).map (·.start)).Perm
      (((visits text).filter fun v => v.direct text && v.opensStart text).map (·.pair.opener)) := by
  apply (List.perm_ext_iff_of_nodup ?_ ?_).mpr
  · intro place
    constructor
    · intro member
      obtain ⟨o, listed, rfl⟩ := List.mem_map.mp member
      obtain ⟨inside, recognized⟩ := Recognizer.start.recognized_of_mem_occurrences listed
      have isStart : (Recognizer.start (text.drop o.start)).isSome = true := by
        rw [recognized]
        rfl
      obtain ⟨p, matched, opener⟩ :=
        Recognizer.start_withoutClosers.exists_pair nonePending inside isStart
      rw [← opener] at isStart
      obtain ⟨direct, first, goesOn⟩ := (start_drop_opener_isSome_iff matched).mp isStart
      obtain ⟨args, read⟩ := List.head?_eq_some_iff.mp first
      have visited : ⟨p, Keyword.start.name, args⟩ ∈ visits text :=
        (mem_visits_iff _ _).mpr
          ⟨mem_pairs_of_matchedIn matched, (ofContent?_eq_some_iff _ _).mpr read⟩
      apply List.mem_map.mpr
      refine ⟨_, List.mem_filter.mpr ⟨visited, Bool.and_eq_true_iff.mpr ⟨?_, ?_⟩⟩, opener⟩
      · exact (Visit.direct_iff _ _).mpr direct
      · exact (Visit.opensStart_iff _).mpr ⟨rfl, by rwa [dropWhile_blank_of_visible direct]⟩
    · intro member
      obtain ⟨v, kept, rfl⟩ := List.mem_map.mp member
      obtain ⟨visited, opens⟩ := List.mem_filter.mp kept
      obtain ⟨isDirect, opens⟩ := Bool.and_eq_true_iff.mp opens
      have direct := (v.direct_iff text).mp isDirect
      obtain ⟨named, goesOn⟩ := v.opensStart_iff.mp opens
      rw [dropWhile_blank_of_visible direct] at goesOn
      obtain ⟨found, read⟩ := (mem_visits_iff _ _).mp visited
      apply (Recognizer.mem_starts_iff _ _).mpr
      apply (Recognizer.start_isSome_iff _ _).mp
      apply (start_drop_opener_isSome_iff (matchedIn_of_mem_pairs found)).mpr
      refine ⟨direct, ?_, goesOn⟩
      rw [(ofContent?_eq_some_iff _ _).mp read, named]
      rfl
  · apply List.pairwise_map.mpr
    exact (Recognizer.start.found_pairwise 0 0 text).imp Nat.ne_of_lt
  · apply List.pairwise_map.mpr
    exact (visits_pairwise_opener text).filter _

theorem starts_length (nonePending : (Pairing.ofText text).pending = []) :
    (Recognizer.start.occurrences text).length =
      (visits text).countP fun v => v.direct text && v.opensStart text := by
  have same := (starts_perm nonePending).length_eq
  rwa [List.length_map, List.length_map, ← List.countP_eq_length_filter] at same

theorem arguments_length (k : Keyword) (visited : List Visit) :
    (arguments k visited).length = visited.countP fun v => (v.form.firstOf? k).isSome :=
  List.length_filterMap_eq_countP

/-- A start form with an argument has it behind its keyword. -/
theorem opensStart_of_args
    {v : Visit} (visited : v ∈ visits text) (named : v.form.keyword = Keyword.start.name)
    (hasArgs : v.form.args ≠ []) : v.opensStart text = true := by
  refine v.opensStart_iff.mpr ⟨named, ?_⟩
  intro ends
  have read := (ofContent?_eq_some_iff _ _).mp ((mem_visits_iff _ _).mp visited).2
  have content := List.takeWhile_append_dropWhile (p := isBlank)
    (l := v.pair.content text.toArray)
  rw [← content, tokens_blanks_append (List.all_eq_true.mp List.all_takeWhile), ends,
    Keyword.start.tokens_name] at read
  exact hasArgs (List.cons.inj read).2.symm

/-- Where every start form that has something behind its keyword has an argument and no blanks in
front of the keyword, the search for starts counts the start forms with an argument. -/
theorem starts_length_eq
    (nonePending : (Pairing.ofText text).pending = [])
    (written : ∀ v ∈ visits text, v.opensStart text = true →
      v.direct text = true ∧ v.form.args ≠ []) :
    (Recognizer.start.occurrences text).length = (arguments .start (visits text)).length := by
  rw [arguments_length, starts_length nonePending]
  apply List.countP_congr
  intro v visited
  rw [Form.firstOf?_isSome_iff, Bool.and_eq_true]
  constructor
  · rintro ⟨_, opens⟩
    exact ⟨(v.opensStart_iff.mp opens).1, (written v visited opens).2⟩
  · rintro ⟨named, hasArgs⟩
    have opens := opensStart_of_args visited named hasArgs
    exact ⟨(written v visited opens).1, opens⟩

/-- The missing start is reported only when the search has found none. -/
theorem starts_eq_nil_of_missingStart
    {document : Document} {source : String} {d : Diagnostic}
    (held : d ∈ validateInto text document [] source)
    (missing : d.message = Finding.missingStart.message) :
    Recognizer.start.occurrences text = [] := by
  rw [validateInto_eq] at held
  obtain ⟨r, reported, rfl⟩ := Collector.exists_remark_of_mem_fresh held
  have lead : r.finding.lead = "Script must " := Finding.lead_eq_of_message_eq missing
  rw [remarks, firstRemarks, List.mem_append, List.mem_append, List.mem_append] at reported
  rcases reported with ((balance | window) | start) | dialogue
  · rw [lead_of_mem_balanceRemarks balance] at lead
    exact absurd lead (by decide)
  · have inLeads := lead_of_mem_windowRemarks window
    rw [lead] at inLeads
    exact absurd inLeads (by decide)
  · unfold startRemarks at start
    generalize Recognizer.start.occurrences text = found at start
    rcases found with _ | ⟨first, _ | ⟨second, more⟩⟩
    · rfl
    · exact absurd start List.not_mem_nil
    · rw [List.mem_singleton.mp start] at lead
      exact absurd lead (by simp [Finding.lead])
  · obtain ⟨o, _, rfl⟩ := List.mem_map.mp dialogue
    exact absurd lead (by simp [dialogueRemark, Finding.lead])

end Starts

/-- In a balanced text the searches agree with the visits form by form. The listed names belong
to different label forms that are visited. Every form that writes a name and is clear of the names
of others is among these. Each listed name begins like the first argument of its form at least,
and is that argument if the form writes it as a name. So the listed names are the first arguments
of all label forms if all of these declare them, and what a form declares is never reported as
undefined. The starts that are found are at least the start forms with something behind their
keyword and nothing in front of it, and at most all start forms with something behind their
keyword. So there are as many as start forms with an argument if none has blanks in front of its
keyword or only blanks behind it, and a missing start is reported only where no form of the first
kind is visited. -/
theorem searches_agree_with_visits {text : List Char} (balanced : Balanced text) :
    (∃ sources : List Visit,
      sources.Subperm (visits text) ∧
      (∀ v ∈ visits text, ∀ name, v.WritesName text name → v.Clear text → v ∈ sources) ∧
      List.Forall₂ (Visit.ListedAs text) sources (declaredLabels text)) ∧
    ((∀ v ∈ visits text, ∀ name ∈ v.form.firstOf? .label, v.Declares text name) →
      (declaredLabels text).Perm (arguments .label (visits text))) ∧
    (∀ v ∈ visits text, ∀ name, v.Declares text name → ∀ f ∈ Finding.undefined name,
      ∀ document source, ∀ d ∈ validateInto text document [] source, d.message ≠ f.message) ∧
    (visits text).countP (fun v => v.direct text && v.opensStart text) ≤
      (Recognizer.start.occurrences text).length ∧
    (Recognizer.start.occurrences text).length ≤ (visits text).countP (·.opensStart text) ∧
    ((∀ v ∈ visits text, v.opensStart text = true →
        v.direct text = true ∧ v.form.args ≠ []) →
      (Recognizer.start.occurrences text).length = (arguments .start (visits text)).length) ∧
    ∀ document source, ∀ d ∈ validateInto text document [] source,
      d.message = Finding.missingStart.message →
        ∀ v ∈ visits text, (v.direct text && v.opensStart text) = false := by
  have nonePending := balanced.nonePending
  refine ⟨exists_sources nonePending, declaredLabels_perm_of_declares nonePending, ?_,
    (starts_length nonePending).ge, ?_, starts_length_eq nonePending, ?_⟩
  · intro v visited name declares f isUndefined document source d held
    exact message_ne_undefined_of_declares visited declares isUndefined held
  · rw [starts_length nonePending]
    apply List.countP_mono_left
    exact fun v _ opens => (Bool.and_eq_true_iff.mp opens).2
  · intro document source d held missing
    have none := starts_length nonePending
    rw [starts_eq_nil_of_missingStart held missing, List.length_nil, eq_comm,
      List.countP_eq_zero] at none
    exact fun v visited => Bool.eq_false_iff.mpr (none v visited)

/-- A nested label with a quoted name, and forms of other keywords with a blank in front of them.
In a text whose first label is not written as a name, the others still count. -/
theorem searches_agree_with_visits_nested :
    let nested := "(choice (label \"a\") ( say b))\n(start\t\"a\")( jump \"a\")".toList
    let mixed := "(label \"x y\")(label x(say y))(label a)(start a)".toList
    Balanced nested ∧ (declaredLabels nested).Perm (arguments .label (visits nested)) ∧
    arguments .label (visits nested) = ["\"a\""] ∧
    (Recognizer.start.occurrences nested).length = (arguments .start (visits nested)).length ∧
    Balanced mixed ∧ declaredLabels mixed = ["\"x", "x(say", "a"] ∧
    ∀ name ∈ ["x(say", "a"], ∀ f ∈ Finding.undefined name,
      ∀ d ∈ validateInto mixed (Document.ofText mixed) [], d.message ≠ f.message := by
  intro nested mixed
  have balanced : Balanced nested := by decide +kernel
  have balancedMixed : Balanced mixed := by decide +kernel
  have declare : ∀ v ∈ visits nested, ∀ name ∈ v.form.firstOf? .label,
      v.Declares nested name := by decide +kernel
  have startsWritten : ∀ v ∈ visits nested, v.opensStart nested = true →
      v.direct nested = true ∧ v.form.args ≠ [] := by decide +kernel
  have others : ∀ name ∈ ["x(say", "a"], ∃ v ∈ visits mixed, v.Declares mixed name := by
    decide +kernel
  obtain ⟨_, labels, _, _, _, starts, _⟩ := searches_agree_with_visits balanced
  obtain ⟨_, _, defined, _⟩ := searches_agree_with_visits balancedMixed
  refine ⟨balanced, labels declare, by decide +kernel, starts startsWritten, balancedMixed,
    by decide +kernel, ?_⟩
  intro name member f isUndefined
  obtain ⟨v, visited, declares⟩ := others name member
  exact defined v visited name declares f isUndefined (Document.ofText mixed) _

/-- The searches and the visits do not agree about all balanced texts: not about a literal as
the name of a label, nor about a form inside the name, nor about a label that touches the name of
another one, nor about a start with nothing but blanks behind its keyword, nor about blanks in
front of a keyword. A label form that is visited can be reported as undefined, and a start that
is visited as missing. -/
theorem searches_differ_from_visits :
    let literal := "(label \"a b\")(start \"a b\")".toList
    let enclosing := "(label a(b))".toList
    let touching := "(label x(label a))".toList
    let blankStart := "(start )(start a)(label a)".toList
    let indented := "( label a)( start a)".toList
    (Balanced literal ∧ declaredLabels literal = ["\"a"] ∧
      arguments .label (visits literal) = ["\"a b\""] ∧
      (Finding.undefinedStart "\"a b\"").message ∈
        (validateInto literal (Document.ofText literal) []).map (·.message)) ∧
    (Balanced enclosing ∧ declaredLabels enclosing = ["a(b"] ∧
      arguments .label (visits enclosing) = ["a(b)"]) ∧
    (Balanced touching ∧ declaredLabels touching = ["x(label"] ∧
      arguments .label (visits touching) = ["a", "x(label"]) ∧
    (Balanced blankStart ∧ (Recognizer.start.occurrences blankStart).length = 2 ∧
      arguments .start (visits blankStart) = ["a"]) ∧
    (Balanced indented ∧ declaredLabels indented = [] ∧
      arguments .label (visits indented) = ["a"] ∧
      (Recognizer.start.occurrences indented).length = 0 ∧
      arguments .start (visits indented) = ["a"] ∧
      (validateInto indented (Document.ofText indented) []).map (·.message) =
        [(Finding.undefinedStart "a").message, Finding.missingStart.message]) := by
  intro literal enclosing touching blankStart indented
  refine ⟨?_, ?_, ?_, ?_, ?_⟩ <;> decide +kernel

end StoryScript
