import StoryScript.Proofs.JsonScalars

/-!
# Written values are read back

What a layout puts between the parts of a value is skipped when the text is read, so every
value is read back as itself from its text, whatever the layout. The induction follows the
value: an item or a member is read with what stands behind it as the rest, and the length of
the text bounds the depth that the reader needs.
-/

namespace StoryScript

namespace Json

/-- A layout that puts only space between the parts of a value. -/
structure Layout.Spaced (layout : Layout) : Prop where
  lineBreak : ∀ depth, ∀ c ∈ layout.lineBreak depth, isSpace c = true
  colon : ∃ gap, layout.colon = ':' :: gap ∧ ∀ c ∈ gap, isSpace c = true

theorem Layout.indented_spaced : Layout.indented.Spaced where
  lineBreak := by
    intro depth c member
    rcases List.mem_cons.mp member with rfl | member
    · decide
    · rw [List.eq_of_mem_replicate member]
      decide
  colon := ⟨[' '], rfl, by simp [isSpace]⟩

/-! ### One step of the reader -/

section Spaces

variable {gap : List Char} (blank : ∀ c ∈ gap, isSpace c = true) (fuel : Nat) (text : List Char)
include blank

theorem value_spaces : value fuel (gap ++ text) = value fuel text := by
  cases fuel with
  | zero => rfl
  | succ fuel => rw [value, value, List.dropWhile_append_of_pos blank]

theorem member_spaces : member fuel (gap ++ text) = member fuel text := by
  cases fuel with
  | zero => rfl
  | succ fuel => rw [member, member, List.dropWhile_append_of_pos blank]

theorem items_spaces (done : List Json) : items fuel done (gap ++ text) = items fuel done text := by
  cases fuel with
  | zero => rfl
  | succ fuel => rw [items, items, List.dropWhile_append_of_pos blank]

theorem members_spaces (done : List (String × Json)) :
    members fuel done (gap ++ text) = members fuel done text := by
  cases fuel with
  | zero => rfl
  | succ fuel => rw [members, members, List.dropWhile_append_of_pos blank]

end Spaces

theorem isSpace_cases {c : Char} (space : isSpace c = true) :
    c = ' ' ∨ c = '\n' ∨ c = '\r' ∨ c = '\t' := by
  simpa only [isSpace, Bool.or_eq_true, decide_eq_true_eq, or_assoc] using space

/-- Whether a number can start with a character. -/
def startsNumber (c : Char) : Bool := c.isDigit || c = '-'

theorem notSpace_of_startsNumber {c : Char} (start : startsNumber c = true) :
    isSpace c = false := by
  cases space : isSpace c with
  | false => rfl
  | true =>
      rcases isSpace_cases space with rfl | rfl | rfl | rfl
      all_goals exact absurd start (by decide)

/-- A number starts unlike any other value, and unlike the end of an array. -/
theorem ne_of_startsNumber {c : Char} (start : startsNumber c = true) :
    ∀ d ∈ ['n', 't', 'f', 'N', '"', '[', ']', '\x7b'], c ≠ d := by
  have others : ∀ d ∈ ['n', 't', 'f', 'N', '"', '[', ']', '\x7b'], startsNumber d = false := by
    simp [startsNumber, Char.isDigit]
  rintro d listed rfl
  rw [others c listed] at start
  contradiction

section Steps

variable {fuel : Nat} {rest more gap : List Char}

theorem value_string (s : String) :
    value (fuel + 1) (renderString s ++ rest) = some (.string s, rest) := by
  rw [renderString, List.cons_append, List.append_assoc, List.singleton_append, value.eq_def]
  simp [isSpace, stringBody_flatMap]

/-- A text that starts like a number is read as one. -/
theorem value_number {c : Char} (start : startsNumber c = true) :
    value (fuel + 1) (c :: more) = number (c :: more) := by
  have differs := ne_of_startsNumber start
  simp only [List.mem_cons, List.not_mem_nil, or_false, forall_eq_or_imp, forall_eq] at differs
  rw [value.eq_def]
  simp [notSpace_of_startsNumber start, differs]

/-- An array that has an item. -/
theorem value_array (blank : ∀ c ∈ gap, isSpace c = true) {c : Char}
    (notSpace : isSpace c = false) (notClose : c ≠ ']') {item : Json}
    (read : value fuel (c :: more) = some (item, rest)) :
    value (fuel + 1) ('[' :: (gap ++ c :: more)) = items fuel [item] rest := by
  have skipped : (gap ++ c :: more).dropWhile isSpace = c :: more :=
    dropWhile_run blank (by simpa using notSpace)
  rw [value.eq_def]
  simp [isSpace, skipped, notClose, read]

/-- An object that has a member. -/
theorem value_object (blank : ∀ c ∈ gap, isSpace c = true) {name : String} {m : String × Json}
    (read : member fuel (renderString name ++ more) = some (m, rest)) :
    value (fuel + 1) ('\x7b' :: (gap ++ (renderString name ++ more))) = members fuel [m] rest := by
  obtain ⟨text, quoted⟩ : ∃ text, renderString name ++ more = '"' :: text := ⟨_, rfl⟩
  rw [quoted] at read ⊢
  have skipped : (gap ++ '"' :: text).dropWhile isSpace = '"' :: text :=
    dropWhile_run blank (by simp [isSpace])
  rw [value.eq_def]
  simp [isSpace, skipped, read]

theorem member_read {layout : Layout} (spaced : layout.Spaced) (name : String) {v : Json}
    (read : value fuel more = some (v, rest)) :
    member (fuel + 1) (renderString name ++ (layout.colon ++ more)) = some ((name, v), rest) := by
  obtain ⟨gap, colon, blank⟩ := spaced.colon
  rw [colon, renderString, List.cons_append, List.append_assoc, List.singleton_append,
    member.eq_def]
  simp [isSpace, stringBody_flatMap, value_spaces blank, read]

theorem items_close (done : List Json) :
    items (fuel + 1) done (']' :: rest) = some (.array done.reverse, rest) := by
  simp [items, isSpace]

theorem items_more {done : List Json} {item : Json}
    (read : value fuel more = some (item, rest)) :
    items (fuel + 1) done (',' :: more) = items fuel (item :: done) rest := by
  simp [items, isSpace, read]

theorem members_close (done : List (String × Json)) :
    members (fuel + 1) done ('\x7d' :: rest) = some (.object done.reverse, rest) := by
  simp [members, isSpace]

theorem members_more {done : List (String × Json)} {m : String × Json}
    (read : member fuel more = some (m, rest)) :
    members (fuel + 1) done (',' :: more) = members fuel (m :: done) rest := by
  simp [members, isSpace, read]

end Steps

/-! ### What stands at the ends of a written value -/

theorem renderInt_start (n : Int) :
    ∃ c more, renderInt n = c :: more ∧ startsNumber c = true := by
  rcases renderInt_cases n with ⟨size, _, written⟩ | ⟨size, _, written⟩
  · obtain ⟨c, more, digits, digit⟩ := toDigits_eq_cons size
    exact ⟨c, more, written.trans digits, by simp [startsNumber, digit]⟩
  · exact ⟨'-', _, written, rfl⟩

/-- A text that starts with neither space nor a closing bracket. -/
def StartsValue (text : List Char) : Prop :=
  ∃ c more, text = c :: more ∧ isSpace c = false ∧ c ≠ ']'

theorem startsValue_renderInt_append (n : Int) (tail : List Char) :
    StartsValue (renderInt n ++ tail) := by
  obtain ⟨c, more, written, start⟩ := renderInt_start n
  refine ⟨c, more ++ tail, ?_, notSpace_of_startsNumber start,
    ne_of_startsNumber start ']' (by decide)⟩
  rw [written, List.cons_append]

theorem startsValue_render (layout : Layout) (depth : Nat) (v : Json) :
    StartsValue (render layout depth v) := by
  cases v with
  | null => exact ⟨'n', _, by rw [render]; rfl, by decide, by decide⟩
  | bool b =>
      cases b with
      | true => exact ⟨'t', _, by rw [render]; rfl, by decide, by decide⟩
      | false => exact ⟨'f', _, by rw [render]; rfl, by decide, by decide⟩
  | int n => simpa [render] using startsValue_renderInt_append n []
  | decimal d =>
      rw [render]
      exact startsValue_renderInt_append d.mantissa _
  | nonFinite => exact ⟨'N', _, by rw [render]; rfl, by decide, by decide⟩
  | string s => exact ⟨'"', _, by rw [render]; rfl, by decide, by decide⟩
  | array items =>
      cases items with
      | nil => exact ⟨'[', _, by rw [render], by decide, by decide⟩
      | cons item items => exact ⟨'[', _, by rw [render], by decide, by decide⟩
  | object members =>
      cases members with
      | nil => exact ⟨'\x7b', _, by rw [render], by decide, by decide⟩
      | cons m members => exact ⟨'\x7b', _, by rw [render], by decide, by decide⟩

section Ends

variable {gap rest : List Char}

theorem continuesNumber_of_isSpace {c : Char} (space : isSpace c = true) :
    continuesNumber c = false := by
  rcases isSpace_cases space with rfl | rfl | rfl | rfl
  all_goals decide

theorem endsNumber_cons {c : Char} (stops : continuesNumber c = false) :
    EndsNumber (c :: rest) := by
  simpa [EndsNumber] using stops

/-- Neither space nor what follows it continues a number. -/
theorem endsNumber_gap {c : Char} (blank : ∀ d ∈ gap, isSpace d = true)
    (stops : continuesNumber c = false) : EndsNumber (gap ++ c :: rest) := by
  cases gap with
  | nil => exact endsNumber_cons stops
  | cons d gap =>
      have space := blank d List.mem_cons_self
      exact endsNumber_cons (continuesNumber_of_isSpace space)

theorem endsNumber_renderItems (layout : Layout) (depth : Nat) (items : List Json)
    (ends : EndsNumber rest) : EndsNumber (renderItems layout depth items ++ rest) := by
  cases items with
  | nil =>
      rw [renderItems]
      exact ends
  | cons item items =>
      rw [renderItems]
      exact endsNumber_cons (by decide)

theorem endsNumber_renderMembers (layout : Layout) (depth : Nat) (members : List (String × Json))
    (ends : EndsNumber rest) : EndsNumber (renderMembers layout depth members ++ rest) := by
  cases members with
  | nil =>
      rw [renderMembers]
      exact ends
  | cons m members =>
      rw [renderMembers]
      exact endsNumber_cons (by decide)

end Ends

section RoundTrip

variable {layout : Layout}

theorem length_renderString (s : String) : 2 ≤ (renderString s).length := by
  simp [renderString]

theorem value_int (n : Int) {fuel : Nat} {rest : List Char} (ends : EndsNumber rest) :
    value (fuel + 1) (renderInt n ++ rest) = some (.int n, rest) := by
  obtain ⟨c, more, written, start⟩ := renderInt_start n
  rw [← number_renderInt n ends, written, List.cons_append, value_number start]

theorem value_decimal (d : Decimal) {fuel : Nat} {rest : List Char} (ends : EndsNumber rest) :
    value (fuel + 1) (renderDecimal d ++ rest) = some (.decimal d, rest) := by
  obtain ⟨c, more, written, start⟩ := renderInt_start d.mantissa
  rw [← number_renderDecimal d ends, renderDecimal, written, List.cons_append, List.cons_append,
    value_number start]

mutual

/-- Every value is read back from its text. -/
theorem value_render (spaced : layout.Spaced) :
    ∀ (v : Json) (depth fuel : Nat) (rest : List Char),
      (render layout depth v).length < fuel → EndsNumber rest →
      value fuel (render layout depth v ++ rest) = some (v, rest)
  | .null, depth, fuel + 1, rest, _, _ => by simp [render, value, isSpace]
  | .bool true, depth, fuel + 1, rest, _, _ => by simp [render, value, isSpace]
  | .bool false, depth, fuel + 1, rest, _, _ => by simp [render, value, isSpace]
  | .int n, depth, fuel + 1, rest, _, ends => by
      rw [render]
      exact value_int n ends
  | .decimal d, depth, fuel + 1, rest, _, ends => by
      rw [render]
      exact value_decimal d ends
  | .nonFinite, depth, fuel + 1, rest, _, _ => by simp [render, value, isSpace]
  | .string s, depth, fuel + 1, rest, _, _ => by
      rw [render]
      exact value_string s
  | .array [], depth, fuel + 1, rest, _, _ => by simp [render, value, isSpace]
  | .array (item :: others), depth, fuel + 1, rest, enough, _ => by
      rw [render] at enough ⊢
      simp only [List.length_cons, List.length_append] at enough
      simp only [List.cons_append, List.append_assoc, List.nil_append]
      have closing : EndsNumber (layout.lineBreak depth ++ ']' :: rest) :=
        endsNumber_gap (spaced.lineBreak depth) (by decide)
      have first := value_render spaced item (depth + 1) fuel _ (by omega)
        (endsNumber_renderItems layout (depth + 1) others closing)
      obtain ⟨c, more, start, notSpace, notClose⟩ := startsValue_render layout (depth + 1) item
      rw [start, List.cons_append] at first ⊢
      rw [value_array (spaced.lineBreak (depth + 1)) notSpace notClose first]
      exact items_renderItems spaced others (depth + 1) fuel [item] _ rest (by omega)
        (spaced.lineBreak depth)
  | .object [], depth, fuel + 1, rest, _, _ => by simp [render, value, isSpace]
  -- A member takes one step more than an item does; its brackets and quotes make up for it.
  | .object ((name, v) :: others), depth, fuel + 2, rest, enough, _ => by
      rw [render] at enough ⊢
      simp only [List.length_cons, List.length_append] at enough
      simp only [List.cons_append, List.append_assoc, List.nil_append]
      have closing : EndsNumber (layout.lineBreak depth ++ '\x7d' :: rest) :=
        endsNumber_gap (spaced.lineBreak depth) (by decide)
      have first := value_render spaced v (depth + 1) fuel _ (by omega)
        (endsNumber_renderMembers layout (depth + 1) others closing)
      rw [value_object (spaced.lineBreak (depth + 1)) (member_read spaced name first)]
      exact members_renderMembers spaced others (depth + 1) (fuel + 1) [(name, v)] _ rest (by omega)
        (spaced.lineBreak depth)

theorem items_renderItems (spaced : layout.Spaced) :
    ∀ (others : List Json) (depth fuel : Nat) (done : List Json) (gap rest : List Char),
      (renderItems layout depth others).length < fuel → (∀ c ∈ gap, isSpace c = true) →
      items fuel done (renderItems layout depth others ++ (gap ++ ']' :: rest)) =
        some (.array (done.reverse ++ others), rest)
  | [], depth, fuel + 1, done, gap, rest, _, blank => by
      rw [renderItems, List.nil_append, items_spaces blank, items_close, List.append_nil]
  | item :: others, depth, fuel + 1, done, gap, rest, enough, blank => by
      rw [renderItems] at enough ⊢
      simp only [List.length_cons, List.length_append] at enough
      simp only [List.cons_append, List.append_assoc]
      have closing : EndsNumber (gap ++ ']' :: rest) := endsNumber_gap blank (by decide)
      have next := value_render spaced item depth fuel _ (by omega)
        (endsNumber_renderItems layout depth others closing)
      rw [← value_spaces (spaced.lineBreak depth)] at next
      rw [items_more next, items_renderItems spaced others depth fuel _ gap rest (by omega) blank]
      simp

theorem members_renderMembers (spaced : layout.Spaced) :
    ∀ (others : List (String × Json)) (depth fuel : Nat) (done : List (String × Json))
      (gap rest : List Char),
      (renderMembers layout depth others).length < fuel → (∀ c ∈ gap, isSpace c = true) →
      members fuel done (renderMembers layout depth others ++ (gap ++ '\x7d' :: rest)) =
        some (.object (done.reverse ++ others), rest)
  | [], depth, fuel + 1, done, gap, rest, _, blank => by
      rw [renderMembers, List.nil_append, members_spaces blank, members_close, List.append_nil]
  | (name, v) :: others, depth, fuel + 2, done, gap, rest, enough, blank => by
      rw [renderMembers] at enough ⊢
      simp only [List.length_cons, List.length_append] at enough
      simp only [List.cons_append, List.append_assoc]
      have closing : EndsNumber (gap ++ '\x7d' :: rest) := endsNumber_gap blank (by decide)
      have quotes := length_renderString name
      have next := value_render spaced v depth fuel _ (by omega)
        (endsNumber_renderMembers layout depth others closing)
      have named := member_read spaced name next
      rw [← member_spaces (spaced.lineBreak depth)] at named
      rw [members_more named,
        members_renderMembers spaced others depth (fuel + 1) _ gap rest (by omega) blank]
      simp

end

/-- A printed value is parsed as itself. -/
theorem parse?_print (spaced : layout.Spaced) (v : Json) : parse? (print layout v) = some v := by
  have read := value_render spaced v 0 (2 * (render layout 0 v).length + 1) [] (by omega)
    (by simp [EndsNumber])
  rw [List.append_nil] at read
  simp [parse?, print, read]

end RoundTrip

/-! ### The characters of a written value -/

/-- Whatever a layout adds to a text is allowed, and so is printable ASCII. -/
structure Layout.Within (layout : Layout) (allowed : Char → Prop) : Prop where
  printable : ∀ c, PrintableAscii c → allowed c
  lineBreak : ∀ depth, ∀ c ∈ layout.lineBreak depth, allowed c
  colon : ∀ c ∈ layout.colon, allowed c

theorem Layout.indented_within : Layout.indented.Within fun c => c = '\n' ∨ PrintableAscii c where
  printable := fun c => .inr
  lineBreak := by
    intro depth c member
    rcases List.mem_cons.mp member with rfl | member
    · exact .inl rfl
    · rw [List.eq_of_mem_replicate member]
      exact .inr (by decide)
  colon := by simp [Layout.indented, PrintableAscii]

section Characters

variable {layout : Layout} {allowed : Char → Prop}

theorem Layout.Within.of_printable (within : layout.Within allowed) {text : List Char}
    (printable : ∀ c ∈ text, PrintableAscii c) : ∀ c ∈ text, allowed c :=
  fun c member => within.printable c (printable c member)

mutual

theorem allowed_render (within : layout.Within allowed) :
    ∀ (v : Json) (depth : Nat), ∀ c ∈ render layout depth v, allowed c
  | .null, depth => by
      rw [render]
      exact within.of_printable (by simp [PrintableAscii])
  | .bool true, depth => by
      rw [render]
      exact within.of_printable (by simp [PrintableAscii])
  | .bool false, depth => by
      rw [render]
      exact within.of_printable (by simp [PrintableAscii])
  | .int n, depth => by
      rw [render]
      exact within.of_printable (printable_renderInt n)
  | .decimal d, depth => by
      rw [render]
      exact within.of_printable (printable_renderDecimal d)
  | .nonFinite, depth => by
      rw [render]
      exact within.of_printable (by simp [PrintableAscii])
  | .string s, depth => by
      rw [render]
      exact within.of_printable (printable_renderString s)
  | .array [], depth => by
      rw [render]
      exact within.of_printable (by simp [PrintableAscii])
  | .array (item :: others), depth => by
      have inFirst := allowed_render within item (depth + 1)
      have inOthers := allowed_renderItems within others (depth + 1)
      rw [render]
      simp only [List.forall_mem_cons, List.forall_mem_append, and_assoc]
      exact ⟨within.printable _ (by decide), within.lineBreak _, inFirst, inOthers,
        within.lineBreak _, within.printable _ (by decide), List.forall_mem_nil _⟩
  | .object [], depth => by
      rw [render]
      exact within.of_printable (by simp [PrintableAscii])
  | .object ((name, v) :: others), depth => by
      have inName := within.of_printable (printable_renderString name)
      have inFirst := allowed_render within v (depth + 1)
      have inOthers := allowed_renderMembers within others (depth + 1)
      rw [render]
      simp only [List.forall_mem_cons, List.forall_mem_append, and_assoc]
      exact ⟨within.printable _ (by decide), within.lineBreak _, inName, within.colon, inFirst,
        inOthers, within.lineBreak _, within.printable _ (by decide), List.forall_mem_nil _⟩

theorem allowed_renderItems (within : layout.Within allowed) :
    ∀ (others : List Json) (depth : Nat), ∀ c ∈ renderItems layout depth others, allowed c
  | [], depth => by simp [renderItems]
  | item :: others, depth => by
      have inFirst := allowed_render within item depth
      have inOthers := allowed_renderItems within others depth
      rw [renderItems]
      simp only [List.forall_mem_cons, List.forall_mem_append, and_assoc]
      exact ⟨within.printable _ (by decide), within.lineBreak _, inFirst, inOthers⟩

theorem allowed_renderMembers (within : layout.Within allowed) :
    ∀ (others : List (String × Json)) (depth : Nat),
      ∀ c ∈ renderMembers layout depth others, allowed c
  | [], depth => by simp [renderMembers]
  | (name, v) :: others, depth => by
      have inName := within.of_printable (printable_renderString name)
      have inFirst := allowed_render within v depth
      have inOthers := allowed_renderMembers within others depth
      rw [renderMembers]
      simp only [List.forall_mem_cons, List.forall_mem_append, and_assoc]
      exact ⟨within.printable _ (by decide), within.lineBreak _, inName, within.colon, inFirst,
        inOthers⟩

end

end Characters

end Json

end StoryScript
