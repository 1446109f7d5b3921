import StoryScript.Proofs.Matching
import StoryScript.Proofs.Passes

/-!
# Which forms an inspection visits, and when

A closer takes the opener on top of the stack. It takes one exactly when the two are a
matched pair, whatever strays and pending openers surround them. Closers come one after the
other, so a pair is taken once and after all pairs inside it, and an inspection counts those
whose content has something visible.
-/

namespace StoryScript

/-- The closer of a pair finds the pair's opener on top of the stack. -/
def Pair.TakenIn (text : List Char) (p : Pair) : Prop :=
  text[p.closer]? = some ')' ∧
    (Pairing.ofText (text.take p.closer)).pending.head? = some p.opener

/-- The closer of a matched pair finds its opener, since the balanced content between them
leaves the stack as it was. -/
theorem Pair.MatchedIn.takenIn
    {text : List Char} {p : Pair} (matched : p.MatchedIn text) : p.TakenIn text := by
  obtain ⟨before, inner, after, rfl, rfl, balanced⟩ := (matchedIn_iff_split _ _).mp matched
  refine ⟨matched.closes, ?_⟩
  have read : (before ++ '(' :: (inner ++ ')' :: after)).take (before.length + 1 + inner.length) =
      before ++ '(' :: inner := by
    rw [← List.cons_append, ← List.append_assoc, List.take_left' (by simp; omega)]
  dsimp only
  rw [read, pending_opened before balanced, List.head?_cons]

theorem Pair.TakenIn.matchedIn
    {text : List Char} {p : Pair} (taken : p.TakenIn text) : p.MatchedIn text := by
  obtain ⟨closes, top⟩ := taken
  obtain ⟨inside, closes⟩ := List.getElem?_eq_some_iff.mp closes
  obtain ⟨others, pending⟩ := List.head?_eq_some_iff.mp top
  have found : p ∈ pairs (text.take p.closer ++ [')']) := by
    rw [pairs_closer pending, List.length_take_of_le inside.le]
    exact List.mem_append_right _ List.mem_cons_self
  have rest : text.take p.closer ++ [')'] ++ text.drop (p.closer + 1) = text := by
    rw [← closes, ← List.take_succ_eq_append_getElem inside, List.take_append_drop]
  rw [← rest]
  exact (matchedIn_of_mem_pairs found).append _

theorem Pair.takenIn_iff_matchedIn (text : List Char) (p : Pair) :
    p.TakenIn text ↔ p.MatchedIn text :=
  ⟨TakenIn.matchedIn, MatchedIn.takenIn⟩

/-- In a list of pairs in the order of their closers, what closes earlier stands earlier. -/
theorem mem_before_of_closer_lt
    {before after : List Pair} {p q : Pair}
    (ordered : (before ++ p :: after).Pairwise fun p q => p.closer < q.closer)
    (member : q ∈ before ++ p :: after) (earlier : q.closer < p.closer) : q ∈ before := by
  have later := (List.pairwise_cons.mp (List.pairwise_append.mp ordered).2.1).1
  rcases List.mem_append.mp member with inFront | behind
  · exact inFront
  · rcases List.mem_cons.mp behind with rfl | behind
    · exact absurd earlier (Nat.lt_irrefl _)
    · exact absurd earlier (Nat.lt_asymm (later q behind))

theorem visit?_isSome (text : List Char) (p : Pair) :
    (p.visit? text).isSome = (p.content text.toArray).any (!isBlank ·) := by
  have blank := Form.ofContent?_eq_none_iff (p.content text.toArray)
  rw [Pair.visit?, Option.isSome_map]
  cases read : Form.ofContent? (p.content text.toArray) with
  | none =>
      have allBlanks := blank.mp read
      rw [allBlank_iff] at allBlanks
      exact (List.any_eq_false.mpr fun c member => by simp [allBlanks c member]).symm
  | some form =>
      have visible : ¬ allBlank (p.content text.toArray) = true := by
        intro allBlanks
        rw [blank.mpr allBlanks] at read
        exact absurd read (by simp)
      simp only [allBlank_iff, not_forall] at visible
      obtain ⟨c, member, notBlank⟩ := visible
      exact (List.any_eq_true.mpr ⟨c, member, by simp [notBlank]⟩).symm

/-- A visit is made for each pair with something visible inside. -/
theorem length_visits (text : List Char) :
    (visits text).length =
      (pairs text).countP fun p => (p.content text.toArray).any (!isBlank ·) := by
  rw [visits, List.length_filterMap_eq_countP]
  exact List.countP_congr fun p _ => by rw [visit?_isSome]

/-- An inspection goes through the pairs at which a closer takes an opener. These are exactly
the openers and later closers with balanced text between them, each once and in the order of
their closers, so every pair comes after all pairs inside it. The number of forms seen grows
by the number of those whose content has something visible. -/
theorem Inspection.window_visits_matched (text : List Char) :
    (∀ p : Pair, p ∈ pairs text ↔ p.TakenIn text) ∧
    (∀ p : Pair, p.TakenIn text ↔
      p.opener < p.closer ∧ text[p.opener]? = some '(' ∧ text[p.closer]? = some ')' ∧
        Balanced (p.content text.toArray)) ∧
    (pairs text).Pairwise (fun p q => p.closer < q.closer) ∧
    (pairs text).Nodup ∧
    (∀ before p after, pairs text = before ++ p :: after →
      ∀ q ∈ pairs text, p.opener < q.opener → q.closer < p.closer → q ∈ before) ∧
    (∀ (i : Inspection) (offset : Int),
      i.window text offset = (pairs text).foldl (Inspection.visit text.toArray offset) i ∧
      (i.window text offset).formsSeen = i.formsSeen +
        (pairs text).countP fun p => (p.content text.toArray).any (!isBlank ·)) := by
  refine ⟨?_, ?_, pairs_pairwise text, ?_, ?_, ?_⟩
  · intro p
    rw [mem_pairs_iff, Pair.takenIn_iff_matchedIn]
  · intro p
    rw [Pair.takenIn_iff_matchedIn]
    exact ⟨fun matched => ⟨matched.ordered, matched.opens, matched.closes, matched.balanced⟩,
      fun ⟨ordered, opens, closes, balanced⟩ => ⟨ordered, opens, closes, balanced⟩⟩
  · apply (pairs_pairwise text).imp
    rintro p _ earlier rfl
    exact Nat.lt_irrefl _ earlier
  · intro before p after split q found _ inside
    have ordered := pairs_pairwise text
    rw [split] at ordered found
    exact mem_before_of_closer_lt ordered found inside
  · intro i offset
    refine ⟨rfl, ?_⟩
    rw [Inspection.window_eq, length_visits]

/-- A stray closer, an opener that is never closed, and a blank pair inside a form: two pairs
are taken, the inner one first, and one form is seen. -/
theorem Inspection.window_visits_matched_unbalanced :
    let text := ")((say ( ) x)".toList
    let i : Inspection := ⟨[], Collector.ofList (Document.ofText text), 0⟩
    pairs text = [⟨7, 9⟩] ++ ⟨2, 12⟩ :: [] ∧
    (⟨7, 9⟩ : Pair) ∈ pairs text ∧ (2 < 7 ∧ 9 < 12) ∧ (⟨7, 9⟩ : Pair) ∈ [(⟨7, 9⟩ : Pair)] ∧
    (i.window text).formsSeen = 1 := by
  intro text i
  have found : pairs text = [⟨7, 9⟩] ++ ⟨2, 12⟩ :: [] := by decide +kernel
  have inner : (⟨7, 9⟩ : Pair) ∈ pairs text := by decide +kernel
  have visible : ((pairs text).countP fun p => (p.content text.toArray).any (!isBlank ·)) = 1 := by
    decide +kernel
  obtain ⟨_, _, _, _, nestedBefore, counted⟩ := Inspection.window_visits_matched text
  refine ⟨found, inner, by decide, nestedBefore _ _ _ found _ inner (by decide) (by decide), ?_⟩
  rw [(counted i 0).2, visible]

end StoryScript
