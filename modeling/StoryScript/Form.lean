import StoryScript.Token

/-!
# Forms

A form is the content of a pair of parentheses: a keyword and its arguments, in
the order in which they are written.
-/

namespace StoryScript

structure Form where
  keyword : String
  args : List String
  deriving DecidableEq, Repr, Inhabited

namespace Form

/-- Reads the inner text of a form; blank content is no form. -/
def ofContent? (content : List Char) : Option Form :=
  match tokens content with
  | [] => none
  | keyword :: args => some ⟨keyword, args⟩

theorem ofContent?_eq_none_iff (content : List Char) :
    ofContent? content = none ↔ allBlank content = true := by
  rw [← tokens_eq_nil_iff]
  unfold ofContent?
  split <;> simp_all

/-- The argument at an index, empty when the form has fewer. -/
def arg (form : Form) (index : Nat) : String := form.args.getD index ""

/-- Why there is no argument at a signed index. -/
inductive IndexFault where
  | outOfRange
  | notAnIndex
  deriving DecidableEq, Repr

/-- The argument at a signed index: a negative one counts from the end, where −1 is the last
argument. Beyond the first argument it fails, and below the signed 64-bit range it is no index. -/
def argAt (form : Form) : Int → Except IndexFault String
  | .ofNat index => .ok (form.arg index)
  | .negSucc back =>
    match form.args.reverse[back]? with
    | some value => .ok value
    | none => .error (if back < Nat.pow 2 63 then .outOfRange else .notAnIndex)

end Form

end StoryScript
