import Mathlib.Data.List.Induction
import StoryScript.Pairing

/-!
# Balanced texts and the pairing pass

A text is balanced when it has as many openers as closers and no beginning of it has
more closers than openers. The pass that pairs parentheses leaves nothing over exactly
on the balanced texts.

The pass over a text without strays leaves everything that was pending before it
untouched. This is what makes pairing local: inside a pair of parentheses it is the
pairing of the content on its own, at shifted indices.
-/

namespace StoryScript

/-- As many openers as closers, and no beginning with more closers than openers. -/
def Balanced (text : List Char) : Prop :=
  text.count '(' = text.count ')' ∧
    ∀ n, (text.take n).count ')' ≤ (text.take n).count '('

theorem balanced_nil : Balanced [] := by
  simp [Balanced]

theorem Balanced.append
    {first second : List Char}
    (firstBalanced : Balanced first) (secondBalanced : Balanced second) :
    Balanced (first ++ second) := by
  refine ⟨?_, fun n => ?_⟩
  · have firstCounts := firstBalanced.1
    have secondCounts := secondBalanced.1
    simp only [List.count_append]
    omega
  · have inFirst := firstBalanced.2 n
    have inSecond := secondBalanced.2 (n - first.length)
    simp only [List.take_append, List.count_append]
    omega

theorem Balanced.enclose
    {text : List Char} (balanced : Balanced text) :
    Balanced ('(' :: (text ++ [')'])) := by
  refine ⟨?_, fun n => ?_⟩
  · have counts := balanced.1
    simp [List.count_append]
    omega
  · cases n with
    | zero => simp
    | succ n =>
        have inside := balanced.2 n
        have closer : ([')'].take (n - text.length)).count ')' ≤ 1 :=
          (List.take_sublist _ _).count_le ')'
        simp [List.take_append, List.count_append]
        omega

theorem balanced_singleton {c : Char} (notOpener : c ≠ '(') (notCloser : c ≠ ')') :
    Balanced [c] := by
  refine ⟨?_, fun n => ?_⟩
  · simp [notOpener, notCloser]
  · cases n <;> simp [notOpener, notCloser]

/-- A text without parentheses. -/
def Plain (text : List Char) : Prop := ∀ c ∈ text, c ≠ '(' ∧ c ≠ ')'

instance (text : List Char) : Decidable (Plain text) :=
  List.decidableBAll _ text

theorem Plain.not_mem_opener {text : List Char} (plain : Plain text) : '(' ∉ text :=
  fun member => (plain _ member).1 rfl

theorem Plain.balanced {text : List Char} (plain : Plain text) : Balanced text := by
  induction text with
  | nil => exact balanced_nil
  | cons c rest inductionHypothesis =>
      have head := plain c (by simp)
      have tail := inductionHypothesis fun d member => plain d (by simp [member])
      exact (balanced_singleton head.1 head.2).append tail

/-- A balanced text is never continued by a closer inside another balanced text, so an
opener has at most one closer. -/
theorem Balanced.not_closer_inside
    {text rest : List Char} (balanced : Balanced text) :
    ¬ Balanced (text ++ ')' :: rest) := by
  intro longer
  have counts := balanced.1
  have covered := longer.2 (text.length + 1)
  rw [List.take_append, List.take_of_length_le (by omega)] at covered
  simp [List.count_append] at covered
  omega

theorem covered_beginning
    {first second : List Char}
    (covered : ∀ n, ((first ++ second).take n).count ')' ≤ ((first ++ second).take n).count '(')
    (n : Nat) : (first.take n).count ')' ≤ (first.take n).count '(' := by
  have shorter := covered (min n first.length)
  rw [List.take_append_of_le_length (Nat.min_le_right _ _), ← List.take_eq_take_min] at shorter
  exact shorter

/-- The pair at indices that are counted from `n` characters further to the left. -/
def Pair.shift (n : Nat) (p : Pair) : Pair := ⟨n + p.opener, n + p.closer⟩

namespace Pairing

theorem step_opener (s : Pairing) :
    s.step '(' = ⟨s.index + 1, s.index :: s.pending, s.strays, s.pairs⟩ := rfl

theorem step_stray {s : Pairing} (nonePending : s.pending = []) :
    s.step ')' = ⟨s.index + 1, [], s.strays + 1, s.pairs⟩ := by
  cases s
  simp_all [step]

theorem step_closer {s : Pairing} {opener : Nat} {others : List Nat}
    (top : s.pending = opener :: others) :
    s.step ')' = ⟨s.index + 1, others, s.strays, s.pairs.push ⟨opener, s.index⟩⟩ := by
  cases s
  simp_all [step]

theorem step_other (s : Pairing) {c : Char} (notOpener : c ≠ '(') (notCloser : c ≠ ')') :
    s.step c = ⟨s.index + 1, s.pending, s.strays, s.pairs⟩ := by
  simp [step, notOpener, notCloser]

/-- Everything that one character can do to the pass. -/
theorem step_cases (s : Pairing) (c : Char) :
    (c = '(' ∧ s.step c = ⟨s.index + 1, s.index :: s.pending, s.strays, s.pairs⟩) ∨
    (c = ')' ∧ s.pending = [] ∧ s.step c = ⟨s.index + 1, [], s.strays + 1, s.pairs⟩) ∨
    (∃ opener others, c = ')' ∧ s.pending = opener :: others ∧
      s.step c = ⟨s.index + 1, others, s.strays, s.pairs.push ⟨opener, s.index⟩⟩) ∨
    (c ≠ '(' ∧ c ≠ ')' ∧ s.step c = ⟨s.index + 1, s.pending, s.strays, s.pairs⟩) := by
  by_cases isOpener : c = '('
  · subst c
    exact .inl ⟨rfl, s.step_opener⟩
  by_cases isCloser : c = ')'
  · subst c
    cases pending : s.pending with
    | nil => exact .inr (.inl ⟨rfl, rfl, step_stray pending⟩)
    | cons opener others =>
        exact .inr (.inr (.inl ⟨opener, others, rfl, rfl, step_closer pending⟩))
  · exact .inr (.inr (.inr ⟨isOpener, isCloser, s.step_other isOpener isCloser⟩))

theorem ofText_concat (text : List Char) (c : Char) :
    ofText (text ++ [c]) = (ofText text).step c := by
  rw [ofText, scan_append]
  rfl

@[simp]
theorem index_ofText (text : List Char) : (ofText text).index = text.length := by
  rw [ofText, index_scan, Nat.zero_add]

/-- Texts grow by one character at a time, and what the pass does with it depends on
the character and on whether an opener is pending. -/
@[elab_as_elim]
theorem textInduction
    {motive : List Char → Prop}
    (nil : motive [])
    (opener : ∀ text, motive text → motive (text ++ ['(']))
    (stray : ∀ text, (ofText text).pending = [] → motive text → motive (text ++ [')']))
    (closer : ∀ text top others, (ofText text).pending = top :: others →
      motive text → motive (text ++ [')']))
    (other : ∀ text c, c ≠ '(' → c ≠ ')' → motive text → motive (text ++ [c]))
    (text : List Char) : motive text := by
  induction text using List.reverseRecOn with
  | nil => exact nil
  | append_singleton text c inductionHypothesis =>
      rcases (ofText text).step_cases c with
        ⟨rfl, _⟩ | ⟨rfl, pending, _⟩ | ⟨top, others, rfl, pending, _⟩ | ⟨isOpener, isCloser, _⟩
      · exact opener text inductionHypothesis
      · exact stray text pending inductionHypothesis
      · exact closer text top others pending inductionHypothesis
      · exact other text c isOpener isCloser inductionHypothesis

theorem ofText_opener (text : List Char) :
    ofText (text ++ ['(']) =
      ⟨text.length + 1, text.length :: (ofText text).pending, (ofText text).strays,
        (ofText text).pairs⟩ := by
  rw [ofText_concat, step_opener, index_ofText]

theorem ofText_stray {text : List Char} (nonePending : (ofText text).pending = []) :
    ofText (text ++ [')']) =
      ⟨text.length + 1, [], (ofText text).strays + 1, (ofText text).pairs⟩ := by
  rw [ofText_concat, step_stray nonePending, index_ofText]

theorem ofText_closer
    {text : List Char} {top : Nat} {others : List Nat}
    (pending : (ofText text).pending = top :: others) :
    ofText (text ++ [')']) =
      ⟨text.length + 1, others, (ofText text).strays,
        (ofText text).pairs.push ⟨top, text.length⟩⟩ := by
  rw [ofText_concat, step_closer pending, index_ofText]

theorem ofText_other
    (text : List Char) {c : Char} (notOpener : c ≠ '(') (notCloser : c ≠ ')') :
    ofText (text ++ [c]) =
      ⟨text.length + 1, (ofText text).pending, (ofText text).strays,
        (ofText text).pairs⟩ := by
  rw [ofText_concat, step_other _ notOpener notCloser, index_ofText]

/-- Every opener is pending or paired. -/
theorem count_opener (text : List Char) :
    text.count '(' = (ofText text).pending.length + (ofText text).pairs.size := by
  induction text using textInduction with
  | nil => rfl
  | opener text inductionHypothesis =>
      rw [ofText_opener, List.count_append, inductionHypothesis]
      simp only [List.count_singleton_self, List.length_cons]
      omega
  | stray text pending inductionHypothesis =>
      rw [ofText_stray pending, List.count_append, inductionHypothesis, pending]
      simp
  | closer text top others pending inductionHypothesis =>
      rw [ofText_closer pending, List.count_append, inductionHypothesis, pending]
      simp [Array.size_push]
      omega
  | other text c notOpener notCloser inductionHypothesis =>
      rw [ofText_other text notOpener notCloser, List.count_append, inductionHypothesis]
      simp [notOpener]

/-- Every closer is a stray or paired. -/
theorem count_closer (text : List Char) :
    text.count ')' = (ofText text).strays + (ofText text).pairs.size := by
  induction text using textInduction with
  | nil => rfl
  | opener text inductionHypothesis =>
      rw [ofText_opener, List.count_append, inductionHypothesis]
      simp
  | stray text pending inductionHypothesis =>
      rw [ofText_stray pending, List.count_append, inductionHypothesis]
      simp only [List.count_singleton_self]
      omega
  | closer text top others pending inductionHypothesis =>
      rw [ofText_closer pending, List.count_append, inductionHypothesis]
      simp only [List.count_singleton_self, Array.size_push]
      omega
  | other text c notOpener notCloser inductionHypothesis =>
      rw [ofText_other text notOpener notCloser, List.count_append, inductionHypothesis]
      simp [notCloser]

theorem strays_le_step (s : Pairing) (c : Char) : s.strays ≤ (s.step c).strays := by
  rcases s.step_cases c with
    ⟨_, result⟩ | ⟨_, _, result⟩ | ⟨_, _, _, _, result⟩ | ⟨_, _, result⟩ <;>
    simp [result]

theorem strays_le_append (first second : List Char) :
    (ofText first).strays ≤ (ofText (first ++ second)).strays := by
  induction second using List.reverseRecOn with
  | nil => simp
  | append_singleton second c inductionHypothesis =>
      rw [← List.append_assoc, ofText_concat]
      exact Nat.le_trans inductionHypothesis (strays_le_step _ c)

/-- There are no strays exactly when no beginning has more closers than openers. -/
theorem strays_eq_zero_iff (text : List Char) :
    (ofText text).strays = 0 ↔
      ∀ n, (text.take n).count ')' ≤ (text.take n).count '(' := by
  constructor
  · intro noStrays n
    have beginning := strays_le_append (text.take n) (text.drop n)
    rw [List.take_append_drop, noStrays] at beginning
    rw [count_opener, count_closer]
    omega
  · intro covered
    induction text using textInduction with
    | nil => rfl
    | opener text inductionHypothesis =>
        rw [ofText_opener]
        exact inductionHypothesis (covered_beginning covered)
    | stray text pending inductionHypothesis =>
        have opening := count_opener text
        have closing := count_closer text
        have whole := covered (text.length + 1)
        rw [List.take_of_length_le (by simp)] at whole
        rw [pending, List.length_nil] at opening
        simp [List.count_append] at whole
        omega
    | closer text top others pending inductionHypothesis =>
        rw [ofText_closer pending]
        exact inductionHypothesis (covered_beginning covered)
    | other text c notOpener notCloser inductionHypothesis =>
        rw [ofText_other text notOpener notCloser]
        exact inductionHypothesis (covered_beginning covered)

/-- A text is balanced exactly when the pass over it leaves nothing over. -/
theorem balanced_iff (text : List Char) :
    Balanced text ↔ (ofText text).strays = 0 ∧ (ofText text).pending = [] := by
  rw [Balanced, ← strays_eq_zero_iff, count_opener, count_closer, ← List.length_eq_zero_iff]
  constructor
  · rintro ⟨counts, noStrays⟩
    omega
  · rintro ⟨noStrays, nonePending⟩
    omega

instance (text : List Char) : Decidable (Balanced text) :=
  decidable_of_iff _ (balanced_iff text).symm

/-- The pass over a text that closes nothing pending before, or before which nothing is
pending, does what it does from the very beginning, at indices that are shifted. -/
theorem scan_eq_shift
    (s : Pairing) (text : List Char)
    (undisturbed : (ofText text).strays = 0 ∨ s.pending = []) :
    s.scan text =
      ⟨s.index + text.length, (ofText text).pending.map (s.index + ·) ++ s.pending,
        s.strays + (ofText text).strays,
        s.pairs ++ (ofText text).pairs.map (Pair.shift s.index)⟩ := by
  induction text using textInduction with
  | nil => simp [ofText]
  | opener text inductionHypothesis =>
      rw [ofText_opener] at undisturbed ⊢
      rw [scan_append, inductionHypothesis undisturbed, scan_cons, scan_nil, step_opener]
      simp [Nat.add_assoc]
  | stray text pending inductionHypothesis =>
      rw [ofText_stray pending] at undisturbed ⊢
      have nonePending : s.pending = [] := undisturbed.resolve_left (Nat.succ_ne_zero _)
      rw [scan_append, inductionHypothesis (.inr nonePending), scan_cons, scan_nil,
        step_stray (by simp [pending, nonePending])]
      simp [nonePending, Nat.add_assoc]
  | closer text top others pending inductionHypothesis =>
      rw [ofText_closer pending] at undisturbed ⊢
      have onTop : (ofText text).pending.map (s.index + ·) ++ s.pending =
          (s.index + top) :: (others.map (s.index + ·) ++ s.pending) := by simp [pending]
      rw [scan_append, inductionHypothesis undisturbed, scan_cons, scan_nil, step_closer onTop]
      simp [Nat.add_assoc, Pair.shift]
  | other text c notOpener notCloser inductionHypothesis =>
      rw [ofText_other text notOpener notCloser] at undisturbed ⊢
      rw [scan_append, inductionHypothesis undisturbed, scan_cons, scan_nil,
        step_other _ notOpener notCloser]
      simp [Nat.add_assoc]

/-- Each pending opener, from the most recent one on, is followed by balanced text up
to the next pending one or to the end. -/
inductive Waiting : List Char → List Nat → Prop
  | bottom (text : List Char) : Waiting text []
  | push {before inner : List Char} {others : List Nat} :
      Waiting before others → Balanced inner →
      Waiting (before ++ '(' :: inner) (before.length :: others)

theorem Waiting.extend
    {text more : List Char} {pending : List Nat}
    (waiting : Waiting text pending) (balanced : Balanced more) :
    Waiting (text ++ more) pending := by
  cases waiting with
  | bottom => exact .bottom _
  | @push before inner others waiting innerBalanced =>
      rw [List.append_assoc, List.cons_append]
      exact .push waiting (innerBalanced.append balanced)

theorem waiting_pending (text : List Char) : Waiting text (ofText text).pending := by
  induction text using textInduction with
  | nil => exact .bottom _
  | opener text inductionHypothesis =>
      rw [ofText_opener]
      exact .push inductionHypothesis balanced_nil
  | stray text pending inductionHypothesis =>
      rw [ofText_stray pending]
      exact .bottom _
  | closer text top others pending inductionHypothesis =>
      rw [ofText_closer pending]
      rw [pending] at inductionHypothesis
      cases inductionHypothesis with
      | @push before inner _ waiting balanced =>
          have extended := waiting.extend balanced.enclose
          simpa using extended
  | other text c notOpener notCloser inductionHypothesis =>
      rw [ofText_other text notOpener notCloser]
      exact inductionHypothesis.extend (balanced_singleton notOpener notCloser)

theorem mem_pairs_step {s : Pairing} {p : Pair} (found : p ∈ s.pairs) (c : Char) :
    p ∈ (s.step c).pairs := by
  rcases s.step_cases c with
    ⟨_, result⟩ | ⟨_, _, result⟩ | ⟨_, _, _, _, result⟩ | ⟨_, _, result⟩ <;>
    simp [result, found]

/-- Pairs that were found stay found. -/
theorem mem_pairs_scan {s : Pairing} {p : Pair} (found : p ∈ s.pairs) (text : List Char) :
    p ∈ (s.scan text).pairs := by
  induction text generalizing s with
  | nil => exact found
  | cons c rest inductionHypothesis => exact inductionHypothesis (mem_pairs_step found c)

theorem pending_or_paired_step
    {s : Pairing} {index : Nat}
    (opened : index ∈ s.pending ∨ ∃ p ∈ s.pairs, p.opener = index) (c : Char) :
    index ∈ (s.step c).pending ∨ ∃ p ∈ (s.step c).pairs, p.opener = index := by
  rcases opened with waiting | ⟨p, found, opener⟩
  · rcases s.step_cases c with
      ⟨_, result⟩ | ⟨_, pending, _⟩ | ⟨top, others, _, pending, result⟩ | ⟨_, _, result⟩
    · rw [result]
      exact .inl (List.mem_cons_of_mem _ waiting)
    · rw [pending] at waiting
      exact absurd waiting List.not_mem_nil
    · rw [result]
      rw [pending] at waiting
      rcases List.mem_cons.mp waiting with rfl | waiting
      · exact .inr ⟨_, Array.mem_push_self, rfl⟩
      · exact .inl waiting
    · rw [result]
      exact .inl waiting
  · exact .inr ⟨p, mem_pairs_step found c, opener⟩

theorem pending_or_paired_scan
    {s : Pairing} {index : Nat}
    (opened : index ∈ s.pending ∨ ∃ p ∈ s.pairs, p.opener = index) (text : List Char) :
    index ∈ (s.scan text).pending ∨ ∃ p ∈ (s.scan text).pairs, p.opener = index := by
  induction text generalizing s with
  | nil => exact opened
  | cons c rest inductionHypothesis =>
      exact inductionHypothesis (pending_or_paired_step opened c)

/-- An opener stays pending until it is paired. -/
theorem pending_or_paired
    {text : List Char} {index : Nat} (opens : text[index]? = some '(') :
    index ∈ (ofText text).pending ∨ ∃ p ∈ (ofText text).pairs, p.opener = index := by
  obtain ⟨inside, opens⟩ := List.getElem?_eq_some_iff.mp opens
  have split : text.take index ++ ['('] ++ text.drop (index + 1) = text := by
    rw [List.append_assoc, List.singleton_append, ← opens, ← List.drop_eq_getElem_cons inside,
      List.take_append_drop]
  have waiting : index ∈ (ofText (text.take index ++ ['('])).pending := by
    rw [ofText_opener, List.length_take, Nat.min_eq_left (Nat.le_of_lt inside)]
    exact List.mem_cons_self
  rw [← split, ofText, scan_append]
  exact pending_or_paired_scan (.inl waiting) _

end Pairing

theorem Balanced.nonePending {text : List Char} (balanced : Balanced text) :
    (Pairing.ofText text).pending = [] :=
  ((Pairing.balanced_iff text).mp balanced).2

end StoryScript
