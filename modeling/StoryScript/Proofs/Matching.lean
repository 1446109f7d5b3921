import Mathlib.Data.List.Sort
import StoryScript.Proofs.Balance

/-!
# Matched pairs

A pair of parentheses is matched when the text between the two is balanced. The pass
finds exactly the matched pairs, however many stray closers and pending openers
surround them, and lists them by their closers. An opener belongs to at most one of
them, and the pairs inside a matched pair are those of its content on its own.
-/

namespace StoryScript

/-- An opener and a later closer with balanced text between them. -/
structure Pair.MatchedIn (text : List Char) (p : Pair) : Prop where
  ordered : p.opener < p.closer
  opens : text[p.opener]? = some '('
  closes : text[p.closer]? = some ')'
  balanced : Balanced (p.content text.toArray)

namespace Pair

theorem content_split (before inner after : List Char) :
    content (before ++ '(' :: (inner ++ ')' :: after)).toArray
      ⟨before.length, before.length + 1 + inner.length⟩ = inner := by
  rw [content_toArray]
  dsimp only
  rw [List.drop_append, List.drop_of_length_le (by omega)]
  simp

/-- A matched pair cuts the text at its two parentheses. -/
theorem matchedIn_iff_split (text : List Char) (p : Pair) :
    p.MatchedIn text ↔
      ∃ before inner after,
        text = before ++ '(' :: (inner ++ ')' :: after) ∧
        p = ⟨before.length, before.length + 1 + inner.length⟩ ∧
        Balanced inner := by
  constructor
  · rintro ⟨ordered, opens, closes, balanced⟩
    obtain ⟨openerBound, opens⟩ := List.getElem?_eq_some_iff.mp opens
    obtain ⟨closerBound, closes⟩ := List.getElem?_eq_some_iff.mp closes
    refine ⟨text.take p.opener, p.content text.toArray, text.drop (p.closer + 1), ?_, ?_, balanced⟩
    · have rejoined : p.opener + 1 + (p.closer - (p.opener + 1)) = p.closer := by omega
      have fromCloser : text.drop p.closer = ')' :: text.drop (p.closer + 1) := by
        rw [List.drop_eq_getElem_cons closerBound, closes]
      have fromInside : text.drop (p.opener + 1) =
          p.content text.toArray ++ text.drop p.closer := by
        rw [content_toArray]
        calc
          text.drop (p.opener + 1) =
              (text.drop (p.opener + 1)).take (p.closer - (p.opener + 1)) ++
                (text.drop (p.opener + 1)).drop (p.closer - (p.opener + 1)) :=
            (List.take_append_drop _ _).symm
          _ = _ := by rw [List.drop_drop, rejoined]
      calc
        text = text.take p.opener ++ '(' :: text.drop (p.opener + 1) := by
          rw [← opens, ← List.drop_eq_getElem_cons openerBound, List.take_append_drop]
        _ = _ := by rw [fromInside, fromCloser]
    · have width : (p.content text.toArray).length = p.closer - (p.opener + 1) := by
        rw [content_toArray, List.length_take, List.length_drop]
        omega
      rw [width, List.length_take, Nat.min_eq_left (by omega)]
      cases p
      simp only [Pair.mk.injEq, true_and] at ordered ⊢
      omega
  · rintro ⟨before, inner, after, rfl, rfl, balanced⟩
    refine ⟨?_, ?_, ?_, ?_⟩
    · dsimp only
      omega
    · simp
    · dsimp only
      rw [Nat.add_assoc, List.getElem?_append_right (by omega), Nat.add_sub_cancel_left,
        Nat.add_comm 1, List.getElem?_cons_succ, List.getElem?_append_right (by omega)]
      simp
    · rw [content_split]
      exact balanced

theorem MatchedIn.closer_lt {text : List Char} {p : Pair} (matched : p.MatchedIn text) :
    p.closer < text.length :=
  (List.getElem?_eq_some_iff.mp matched.closes).1

/-- An opener has at most one closer. -/
theorem MatchedIn.eq_of_opener
    {text : List Char} {p q : Pair}
    (first : p.MatchedIn text) (second : q.MatchedIn text) (same : p.opener = q.opener) :
    p = q := by
  obtain ⟨before, inner, after, rfl, rfl, balanced⟩ := (matchedIn_iff_split _ _).mp first
  obtain ⟨before', inner', after', split, rfl, balanced'⟩ := (matchedIn_iff_split _ _).mp second
  obtain ⟨rfl, tails⟩ := List.append_inj split same
  -- One content is a beginning of the other, and a closer stands where it stops.
  rcases List.append_eq_append_iff.mp (List.cons.inj tails).2 with
    ⟨more, longer, rest⟩ | ⟨more, longer, rest⟩
  · cases more with
    | nil => simp [longer]
    | cons c more =>
        rw [List.cons_append] at rest
        obtain ⟨rfl, _⟩ := List.cons.inj rest
        rw [longer] at balanced'
        exact absurd balanced' balanced.not_closer_inside
  · cases more with
    | nil => simp [longer]
    | cons c more =>
        rw [List.cons_append] at rest
        obtain ⟨rfl, _⟩ := List.cons.inj rest
        rw [longer] at balanced
        exact absurd balanced balanced'.not_closer_inside

/-- A part of a text has its own content wherever it stands. -/
theorem content_window
    (front inner back : List Char) {p : Pair} (inside : p.closer ≤ inner.length) :
    (p.shift front.length).content (front ++ (inner ++ back)).toArray =
      p.content inner.toArray := by
  rw [content_toArray, content_toArray, shift]
  dsimp only
  rw [Nat.add_assoc, ← List.drop_drop, List.drop_left, Nat.add_sub_add_left, List.drop_append]
  rw [List.take_append_of_le_length (by rw [List.length_drop]; omega)]

/-- A pair is matched in a part of a text exactly when it is matched in the whole, at
shifted indices, and closes inside the part. -/
theorem matchedIn_window_iff (front inner back : List Char) (p : Pair) :
    p.MatchedIn inner ↔
      (p.shift front.length).MatchedIn (front ++ (inner ++ back)) ∧
        p.closer < inner.length := by
  have same : ∀ {index : Nat}, index < inner.length →
      (front ++ (inner ++ back))[front.length + index]? = inner[index]? := by
    intro index inside
    rw [List.getElem?_append_right (by omega), Nat.add_sub_cancel_left,
      List.getElem?_append_left inside]
  constructor
  · intro matched
    have inside := matched.closer_lt
    have ordered := matched.ordered
    refine ⟨⟨?_, ?_, ?_, ?_⟩, inside⟩
    · exact Nat.add_lt_add_left ordered _
    · exact (same (by omega)).trans matched.opens
    · exact (same inside).trans matched.closes
    · rw [content_window front inner back inside.le]
      exact matched.balanced
  · rintro ⟨matched, inside⟩
    have ordered : p.opener < p.closer := Nat.lt_of_add_lt_add_left matched.ordered
    refine ⟨ordered, ?_, ?_, ?_⟩
    · exact (same (by omega)).symm.trans matched.opens
    · exact (same inside).symm.trans matched.closes
    · rw [← content_window front inner back inside.le]
      exact matched.balanced

theorem MatchedIn.append
    {text : List Char} {p : Pair} (matched : p.MatchedIn text) (more : List Char) :
    p.MatchedIn (text ++ more) := by
  have inWhole := ((matchedIn_window_iff [] text more p).mp matched).1
  simpa [shift] using inWhole

end Pair

theorem pairs_nil : pairs [] = [] := rfl

theorem pairs_opener (text : List Char) : pairs (text ++ ['(']) = pairs text := by
  rw [pairs, Pairing.ofText_opener, pairs]

theorem pairs_stray {text : List Char} (nonePending : (Pairing.ofText text).pending = []) :
    pairs (text ++ [')']) = pairs text := by
  rw [pairs, Pairing.ofText_stray nonePending, pairs]

theorem pairs_closer
    {text : List Char} {top : Nat} {others : List Nat}
    (pending : (Pairing.ofText text).pending = top :: others) :
    pairs (text ++ [')']) = pairs text ++ [⟨top, text.length⟩] := by
  rw [pairs, Pairing.ofText_closer pending, Array.toList_push, pairs]

theorem pairs_other
    (text : List Char) {c : Char} (notOpener : c ≠ '(') (notCloser : c ≠ ')') :
    pairs (text ++ [c]) = pairs text := by
  rw [pairs, Pairing.ofText_other text notOpener notCloser, pairs]

/-- The pairs of two texts are found one after the other unless a closer of the second one
takes an opener of the first. -/
theorem pairs_append
    {first second : List Char}
    (undisturbed : (Pairing.ofText second).strays = 0 ∨ (Pairing.ofText first).pending = []) :
    pairs (first ++ second) = pairs first ++ (pairs second).map (Pair.shift first.length) := by
  rw [pairs, Pairing.ofText, Pairing.scan_append, ← Pairing.ofText,
    Pairing.scan_eq_shift _ second undisturbed, Pairing.index_ofText]
  simp [pairs]

/-- Balanced text leaves the opener before it on top of the stack. -/
theorem pending_opened
    (before : List Char) {inner : List Char} (balanced : Balanced inner) :
    (Pairing.ofText (before ++ '(' :: inner)).pending =
      before.length :: (Pairing.ofText before).pending := by
  obtain ⟨noStrays, nonePending⟩ := (Pairing.balanced_iff inner).mp balanced
  rw [List.append_cons, Pairing.ofText, Pairing.scan_append, ← Pairing.ofText,
    Pairing.ofText_opener, Pairing.scan_eq_shift _ inner (.inl noStrays), nonePending]
  rfl

/-- The pairs of an enclosed text are its own ones and then the parentheses around it. -/
theorem pairs_enclose {inner : List Char} (balanced : Balanced inner) :
    pairs ('(' :: (inner ++ [')'])) =
      (pairs inner).map (Pair.shift 1) ++ [⟨0, inner.length + 1⟩] := by
  have noStrays := ((Pairing.balanced_iff inner).mp balanced).1
  have opened : pairs (['('] ++ inner) = pairs ['('] ++ (pairs inner).map (Pair.shift 1) :=
    pairs_append (.inl noStrays)
  have closed : pairs ('(' :: inner ++ [')']) = pairs ('(' :: inner) ++ [⟨0, inner.length + 1⟩] :=
    pairs_closer (pending_opened [] balanced)
  rw [← List.cons_append, closed, ← List.singleton_append, opened]
  rfl

/-- What the pass finds is matched: by induction over the text read so far, since the
opener on top of the stack is followed by balanced text. -/
theorem matchedIn_of_mem_pairs
    {text : List Char} {p : Pair} (found : p ∈ pairs text) : p.MatchedIn text := by
  induction text using Pairing.textInduction with
  | nil => simp [pairs_nil] at found
  | opener text inductionHypothesis =>
      rw [pairs_opener] at found
      exact (inductionHypothesis found).append _
  | stray text pending inductionHypothesis =>
      rw [pairs_stray pending] at found
      exact (inductionHypothesis found).append _
  | closer text top others pending inductionHypothesis =>
      rw [pairs_closer pending, List.mem_append, List.mem_singleton] at found
      rcases found with found | rfl
      · exact (inductionHypothesis found).append _
      · have waiting := Pairing.waiting_pending text
        rw [pending] at waiting
        cases waiting with
        | @push before inner _ waiting balanced =>
            apply (Pair.matchedIn_iff_split _ _).mpr
            refine ⟨before, inner, [], by simp, ?_, balanced⟩
            simp only [List.length_append, List.length_cons, Pair.mk.injEq, true_and]
            omega
  | other text c notOpener notCloser inductionHypothesis =>
      rw [pairs_other text notOpener notCloser] at found
      exact (inductionHypothesis found).append _

/-- What is matched is found: the balanced content leaves the opener on top of the
stack, where the closer takes it. -/
theorem mem_pairs_of_matchedIn
    {text : List Char} {p : Pair} (matched : p.MatchedIn text) : p ∈ pairs text := by
  obtain ⟨before, inner, after, rfl, rfl, balanced⟩ := (Pair.matchedIn_iff_split _ _).mp matched
  have top := pending_opened before balanced
  have closed : ⟨before.length, before.length + 1 + inner.length⟩ ∈
      (Pairing.ofText (before ++ '(' :: inner ++ [')'])).pairs := by
    rw [Pairing.ofText_closer top]
    simp
    omega
  have whole : before ++ '(' :: (inner ++ ')' :: after) =
      before ++ '(' :: inner ++ [')'] ++ after := by simp
  rw [whole, pairs, Array.mem_toList_iff, Pairing.ofText, Pairing.scan_append]
  exact Pairing.mem_pairs_scan closed after

theorem pairs_of_plain {text : List Char} (plain : Plain text) : pairs text = [] := by
  apply List.eq_nil_iff_forall_not_mem.mpr
  intro p found
  have opens := (matchedIn_of_mem_pairs found).opens
  exact plain.not_mem_opener (List.mem_of_getElem? opens)

theorem mem_pairs_iff (text : List Char) (p : Pair) : p ∈ pairs text ↔ p.MatchedIn text :=
  ⟨matchedIn_of_mem_pairs, mem_pairs_of_matchedIn⟩

/-- Pairs are found in the order of their closers. -/
theorem pairs_pairwise (text : List Char) :
    (pairs text).Pairwise fun p q => p.closer < q.closer := by
  induction text using Pairing.textInduction with
  | nil => simp [pairs_nil]
  | opener text inductionHypothesis =>
      rw [pairs_opener]
      exact inductionHypothesis
  | stray text pending inductionHypothesis =>
      rw [pairs_stray pending]
      exact inductionHypothesis
  | closer text top others pending inductionHypothesis =>
      rw [pairs_closer pending]
      apply List.pairwise_append.mpr
      refine ⟨inductionHypothesis, by simp, ?_⟩
      intro p found q last
      rw [List.mem_singleton.mp last]
      exact (matchedIn_of_mem_pairs found).closer_lt
  | other text c notOpener notCloser inductionHypothesis =>
      rw [pairs_other text notOpener notCloser]
      exact inductionHypothesis

/-- Two lists of pairs in the order of their closers are equal when they have the same
members. -/
theorem eq_of_closers_pairwise
    {first second : List Pair}
    (firstOrdered : first.Pairwise fun p q => p.closer < q.closer)
    (secondOrdered : second.Pairwise fun p q => p.closer < q.closer)
    (same : ∀ p, p ∈ first ↔ p ∈ second) : first = second := by
  have : Std.Irrefl fun p q : Pair => p.closer < q.closer := ⟨fun p => Nat.lt_irrefl _⟩
  have : Std.Antisymm fun p q : Pair => p.closer < q.closer :=
    ⟨fun p q before after => absurd before (Nat.lt_asymm after)⟩
  exact firstOrdered.eq_of_mem_iff secondOrdered same

/-- The pairs of the content of a matched pair are the pairs strictly inside it. -/
theorem pairs_content
    {text : List Char} {p : Pair} (matched : p.MatchedIn text) :
    (pairs (p.content text.toArray)).map (Pair.shift (p.opener + 1)) =
      (pairs text).filter fun q => p.opener < q.opener ∧ q.closer < p.closer := by
  obtain ⟨before, inner, after, rfl, rfl, balanced⟩ := (Pair.matchedIn_iff_split _ _).mp matched
  have window : ∀ q : Pair, q.MatchedIn inner ↔
      (q.shift (before.length + 1)).MatchedIn (before ++ '(' :: (inner ++ ')' :: after)) ∧
        q.closer < inner.length := by
    intro q
    have shifted := Pair.matchedIn_window_iff (before ++ ['(']) inner (')' :: after) q
    simpa using shifted
  rw [Pair.content_split]
  apply eq_of_closers_pairwise
  · apply List.pairwise_map.mpr
    exact (pairs_pairwise inner).imp fun earlier => Nat.add_lt_add_left earlier _
  · exact (pairs_pairwise _).filter _
  · intro q
    simp only [List.mem_map, List.mem_filter, mem_pairs_iff, decide_eq_true_eq, window]
    constructor
    · rintro ⟨q, ⟨inWhole, inside⟩, rfl⟩
      simp only [Pair.shift]
      exact ⟨inWhole, by omega, by omega⟩
    · rintro ⟨inWhole, afterOpener, beforeCloser⟩
      have ordered := inWhole.ordered
      have restored : Pair.shift (before.length + 1)
          ⟨q.opener - (before.length + 1), q.closer - (before.length + 1)⟩ = q := by
        cases q
        simp only [Pair.shift, Pair.mk.injEq] at *
        omega
      refine ⟨_, ⟨?_, ?_⟩, restored⟩
      · rw [restored]
        exact inWhole
      · dsimp only
        omega

/-- The opener at an index is matched by some closer. -/
def Closed (text : List Char) (opener : Nat) : Prop :=
  ∃ p : Pair, p.MatchedIn text ∧ p.opener = opener

theorem closed_iff_mem (text : List Char) (opener : Nat) :
    Closed text opener ↔ opener ∈ (pairs text).map (·.opener) := by
  simp only [Closed, List.mem_map, mem_pairs_iff]

instance (text : List Char) (opener : Nat) : Decidable (Closed text opener) :=
  decidable_of_iff _ (closed_iff_mem text opener).symm

/-- In a text that leaves no opener pending every opener is matched. -/
theorem closed_of_nonePending
    {text : List Char} (nonePending : (Pairing.ofText text).pending = [])
    {index : Nat} (opens : text[index]? = some '(') : Closed text index := by
  rcases Pairing.pending_or_paired opens with pending | ⟨p, found, rfl⟩
  · rw [nonePending] at pending
    exact absurd pending List.not_mem_nil
  · exact ⟨p, matchedIn_of_mem_pairs (Array.mem_toList_iff.mpr found), rfl⟩

end StoryScript
