import StoryScript.Json.Basic
import StoryScript.Json.Nearest
import StoryScript.Text.Numeral

/-!
# Decoding data

Data from outside is decoded field by field. Decoding goes on after a fault, so the
result is either a value or all faults, each with its path from the outermost value.
-/

namespace StoryScript

/-- What can be wrong with a value. -/
inductive Problem where
  | notObject
  | missing
  | notList
  | notString
  | notInteger
  | fractional
  | notFinite
  | badNumeral
  | outOfRange
  | notSeverity
  deriving DecidableEq, Repr

/-- One step of the way to a value. -/
inductive PathStep where
  | field (name : String)
  | index (position : Nat)
  deriving DecidableEq, Repr

def PathStep.text : PathStep → String
  | .field name => name
  | .index position => position.repr

structure Fault where
  path : List PathStep
  problem : Problem
  deriving DecidableEq, Repr

abbrev Decoded (α : Type) := Except (List Fault) α

namespace Decoded

def fail {α : Type} (p : Problem) : Decoded α := .error [⟨[], p⟩]

/-- Puts a step in front of the paths of all faults. -/
def under {α : Type} (step : PathStep) : Decoded α → Decoded α
  | .ok a => .ok a
  | .error faults => .error (faults.map fun f => { f with path := step :: f.path })

/-- Both values, or the faults of both sides. -/
def both {α β : Type} : Decoded α → Decoded β → Decoded (α × β)
  | .ok a, .ok b => .ok (a, b)
  | .ok _, .error faults => .error faults
  | .error faults, .ok _ => .error faults
  | .error faults, .error more => .error (faults ++ more)

def map {α β : Type} (f : α → β) : Decoded α → Decoded β
  | .ok a => .ok (f a)
  | .error faults => .error faults

theorem both_eq_ok_iff {α β : Type} {x : Decoded α} {y : Decoded β} {p : α × β} :
    x.both y = .ok p ↔ x = .ok p.1 ∧ y = .ok p.2 := by
  obtain ⟨a, b⟩ := p
  cases x <;> cases y <;> simp [both]

theorem map_eq_ok_iff {α β : Type} {f : α → β} {x : Decoded α} {b : β} :
    x.map f = .ok b ↔ ∃ a, x = .ok a ∧ f a = b := by
  cases x <;> simp [map]

end Decoded

namespace Json

/-- Decodes each item of a list; faults are found under the item's index. -/
def decodeItems {α : Type} (decode : Json → Decoded α) (index : Nat) :
    List Json → Decoded (List α)
  | [] => .ok []
  | item :: items =>
    (((decode item).under (.index index)).both (decodeItems decode (index + 1) items)).map
      fun (a, rest) => a :: rest

def toList {α : Type} (decode : Json → Decoded α) : Json → Decoded (List α)
  | .array items => decodeItems decode 0 items
  | _ => Decoded.fail .notList

def toText : Json → Decoded String
  | .string s => .ok s
  | _ => Decoded.fail .notString

/-- Integers are also read from booleans, from numbers without a fraction that lie strictly
between the ends of the signed 64-bit range, and from text that spells one. -/
def toInteger : Json → Decoded Int
  | .int n => .ok n
  | .bool b => .ok (if b then 1 else 0)
  | .decimal d =>
    match d.nearest with
    | .infinite => Decoded.fail .notFinite
    | .fractional => Decoded.fail .fractional
    | .whole n => if n.natAbs < Nat.pow 2 63 then .ok n else Decoded.fail .outOfRange
  | .nonFinite => Decoded.fail .notFinite
  | .string s =>
    match readInteger s with
    | .ok n => .ok n
    | .error .malformed => Decoded.fail .badNumeral
    | .error .tooLong => Decoded.fail .outOfRange
  | _ => Decoded.fail .notInteger

/-- Decodes a member that has to be there. -/
def required {α : Type} (members : List (String × Json)) (name : String)
    (decode : Json → Decoded α) : Decoded α :=
  (match member? members name with
    | some value => decode value
    | none => Decoded.fail .missing).under (.field name)

/-- Decodes a member that has a default. -/
def optional {α : Type} (members : List (String × Json)) (name : String)
    (default : α) (decode : Json → Decoded α) : Decoded α :=
  match member? members name with
  | some value => (decode value).under (.field name)
  | none => .ok default

end Json

end StoryScript
