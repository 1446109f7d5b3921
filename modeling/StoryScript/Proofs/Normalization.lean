import Mathlib.Data.List.Forall2
import Mathlib.Tactic.NormNum.Inv
import StoryScript.Proofs.SpelledIntegers
import StoryScript.Proofs.WholeDecimals
import StoryScript.Proofs.WrittenReport

/-!
# Data is normalized once

The same position, span, diagnostic or report may be given as data in many ways: integers are
spelled, written with a fraction or as booleans, members are left out or added. Whatever way is
chosen, decoding leads to the one value that is given, and this value is decoded from its own
dump again, unchanged. The dump is the canonical form of the data.
-/

namespace StoryScript

/-! ### What data gives -/

namespace Json

/-- The integer that data gives: an integer itself, a boolean, a number with a fraction or an
exponent that is held as a whole one, or a text that spells the integer. -/
inductive GivesInteger : Json → Int → Prop where
  | int (n : Int) : GivesInteger (.int n) n
  | bool (b : Bool) : GivesInteger (.bool b) (if b then 1 else 0)
  | whole {d : Decimal} {n : Int} (nearest : NearestHeld d.value n)
      (inRange : n.natAbs < 2 ^ 63) : GivesInteger (.decimal d) n
  | spelled {text : String} (s : NumeralSpelling) (written : text.toList = s.text)
      (short : s.significant.length ≤ maxNumeralDigits) : GivesInteger (.string text) s.value

def GivesText (data : Json) (text : String) : Prop := data = .string text

def GivesSeverity (data : Json) (s : Severity) : Prop := data.GivesInteger s.code

section Members

variable {α : Type} (members : List (String × Json)) (name : String)

/-- A member that has to be there. Other members do not matter. -/
def GivesRequired (gives : Json → α → Prop) (a : α) : Prop :=
  ∃ data, member? members name = some data ∧ gives data a

/-- A member that may be missing, in place of a default. -/
def GivesOptional (default : α) (gives : Json → α → Prop) (a : α) : Prop :=
  (member? members name = none ∧ a = default) ∨ GivesRequired members name gives a

end Members

def GivesPosition : Json → Position → Prop
  | .object members, p =>
    GivesRequired members "line" GivesInteger p.line ∧
    GivesRequired members "character" GivesInteger p.character
  | _, _ => False

def GivesSpan : Json → Span → Prop
  | .object members, s =>
    GivesRequired members "start" GivesPosition s.start ∧
    GivesRequired members "end" GivesPosition s.stop
  | _, _ => False

def GivesDiagnostic : Json → Diagnostic → Prop
  | .object members, d =>
    GivesRequired members "severity" GivesSeverity d.severity ∧
    GivesRequired members "range" GivesSpan d.span ∧
    GivesRequired members "message" GivesText d.message ∧
    GivesOptional members "source" Diagnostic.defaultSource GivesText d.source
  | _, _ => False

/-- The items of a list give its elements, one by one. -/
def GivesList {α : Type} (gives : Json → α → Prop) (data : Json) (elements : List α) : Prop :=
  ∃ items, data = .array items ∧ List.Forall₂ gives items elements

def GivesReport : Json → Report → Prop
  | .object members, r =>
    GivesOptional members "diagnostics" [] (GivesList GivesDiagnostic) r.diagnostics
  | _, _ => False

end Json

/-- Data that gives a value is decoded to it. -/
def DecodesGiven {α : Type} (ofJson : Json → Decoded α) (gives : Json → α → Prop) : Prop :=
  ∀ data a, gives data a → ofJson data = .ok a

/-- Decoding arrives at the value that data gives. What it arrives at, from whatever data, it
reaches again from the dump, and every value is reached from its own dump. -/
structure Normalizes {α : Type} (toJson : α → Json) (ofJson : Json → Decoded α)
    (gives : Json → α → Prop) : Prop where
  given : DecodesGiven ofJson gives
  again : ∀ data a, ofJson data = .ok a → ofJson (toJson a) = .ok a
  reached : ∀ a, ofJson (toJson a) = .ok a

theorem Normalizes.of_reached {α : Type} {toJson : α → Json} {ofJson : Json → Decoded α}
    {gives : Json → α → Prop} (given : DecodesGiven ofJson gives)
    (reached : ∀ a, ofJson (toJson a) = .ok a) : Normalizes toJson ofJson gives :=
  ⟨given, fun _ a _ => reached a, reached⟩

/-! ### What data gives is decoded -/

namespace Json

theorem decodesGiven_integer : DecodesGiven toInteger GivesInteger := by
  intro data n given
  cases given with
  | int n => rfl
  | bool b => rfl
  | whole nearest inRange =>
      rw [toInteger, Decimal.nearest_of_nearestHeld nearest inRange]
      exact if_pos inRange
  | @spelled text s written short =>
      have read := s.readInteger_text short
      rw [← written, String.ofList_toList] at read
      rw [toInteger, read]

theorem decodesGiven_text : DecodesGiven toText GivesText := by
  rintro data text rfl
  rfl

theorem decodesGiven_severity : DecodesGiven Severity.ofJson GivesSeverity := by
  intro data s given
  rw [Severity.ofJson, decodesGiven_integer data _ given]
  simp

section Members

variable {α : Type} {members : List (String × Json)} {name : String} {a : α}
  {decode : Json → Decoded α} {gives : Json → α → Prop} (decodes : DecodesGiven decode gives)
include decodes

theorem required_of_gives (given : GivesRequired members name gives a) :
    required members name decode = .ok a := by
  obtain ⟨data, found, given⟩ := given
  simp only [required, found, decodes data a given, Decoded.under_ok]

theorem optional_of_gives {default : α} (given : GivesOptional members name default gives a) :
    optional members name default decode = .ok a := by
  rcases given with ⟨missing, rfl⟩ | ⟨data, found, given⟩
  · simp only [optional, missing]
  · simp only [optional, found, decodes data a given, Decoded.under_ok]

theorem decodeItems_of_gives {items : List Json} {elements : List α}
    (given : List.Forall₂ gives items elements) (index : Nat) :
    decodeItems decode index items = .ok elements := by
  induction given generalizing index with
  | nil => rfl
  | cons first others inductionHypothesis =>
      simp only [decodeItems, decodes _ _ first, inductionHypothesis, Decoded.under_ok,
        Decoded.both_ok, Decoded.map_ok]

theorem decodesGiven_list : DecodesGiven (toList decode) (GivesList gives) := by
  rintro data elements ⟨items, rfl, given⟩
  exact decodeItems_of_gives decodes given 0

end Members

theorem decodesGiven_position : DecodesGiven Position.ofJson GivesPosition := by
  intro data p given
  cases data with
  | object members =>
      obtain ⟨line, character⟩ := given
      simp only [Position.ofJson, required_of_gives decodesGiven_integer line,
        required_of_gives decodesGiven_integer character, Decoded.both_ok, Decoded.map_ok]
  | _ => cases given

theorem decodesGiven_span : DecodesGiven Span.ofJson GivesSpan := by
  intro data s given
  cases data with
  | object members =>
      obtain ⟨start, stop⟩ := given
      simp only [Span.ofJson, required_of_gives decodesGiven_position start,
        required_of_gives decodesGiven_position stop, Decoded.both_ok, Decoded.map_ok]
  | _ => cases given

theorem decodesGiven_diagnostic : DecodesGiven Diagnostic.ofJson GivesDiagnostic := by
  intro data d given
  cases data with
  | object members =>
      obtain ⟨severity, span, message, source⟩ := given
      simp only [Diagnostic.ofJson, required_of_gives decodesGiven_severity severity,
        required_of_gives decodesGiven_span span, required_of_gives decodesGiven_text message,
        optional_of_gives decodesGiven_text source, Decoded.both_ok, Decoded.map_ok]
  | _ => cases given

theorem decodesGiven_report : DecodesGiven Report.ofJson GivesReport := by
  intro data r given
  cases data with
  | object members =>
      simp only [Report.ofJson, optional_of_gives (decodesGiven_list decodesGiven_diagnostic) given,
        Decoded.map_ok]
  | _ => cases given

end Json

/-! ### Dumps -/

theorem Diagnostic.toList_map_toJson (diagnostics : List Diagnostic) :
    Json.toList ofJson (.array (diagnostics.map toJson)) = .ok diagnostics := by
  have dumped : DecodesGiven ofJson fun data d => data = d.toJson := by
    rintro data d rfl
    exact ofJson_toJson d
  apply Json.decodesGiven_list dumped
  refine ⟨_, rfl, ?_⟩
  rw [List.forall₂_map_left_iff, List.forall₂_same]
  exact fun d _ => rfl

theorem Report.ofJson_toJson (r : Report) : ofJson r.toJson = .ok r := by
  simp [toJson, ofJson, Json.optional, Json.member?, Diagnostic.toList_map_toJson]

/-- Positions, spans, diagnostics and reports are normalized by decoding them once: whatever data
gives a value is decoded to it, the dump of what was decoded is decoded to the same value, and
every value is decoded from its dump. A report decoded from the dump has the same errors and
warnings. -/
theorem decoding_normalizes_once :
    Normalizes Position.toJson Position.ofJson Json.GivesPosition ∧
    Normalizes Span.toJson Span.ofJson Json.GivesSpan ∧
    Normalizes Diagnostic.toJson Diagnostic.ofJson Json.GivesDiagnostic ∧
    Normalizes Report.toJson Report.ofJson Json.GivesReport ∧
    ∀ (data : Json) (r : Report), Report.ofJson data = .ok r →
      ∃ again, Report.ofJson r.toJson = .ok again ∧
        again.errors = r.errors ∧ again.warnings = r.warnings := by
  refine ⟨.of_reached Json.decodesGiven_position Position.ofJson_toJson,
    .of_reached Json.decodesGiven_span Span.ofJson_toJson,
    .of_reached Json.decodesGiven_diagnostic Diagnostic.ofJson_toJson,
    .of_reached Json.decodesGiven_report Report.ofJson_toJson, ?_⟩
  intro data r _
  exact ⟨r, r.ofJson_toJson, rfl, rfl⟩

/-- A report with a spelled severity, a whole number with a fraction, a boolean, a large integer,
an integer with a sign, an underscore and a fraction, no source and members that nobody asked
for. -/
theorem decoding_normalizes_once_lax :
    let data : Json := .object [("seen", .bool true), ("diagnostics", .array [.object
      [("severity", .string "\u00a0+0_1.0"), ("note", .null),
        ("range", .object
          [("start", .object [("line", .decimal ⟨30, -1⟩), ("character", .bool true)]),
            ("end", .object [("line", .string "-1_000.00"), ("character", .int (10 ^ 30))])]),
        ("message", .string "m")]])]
    let r : Report := ⟨[⟨.error, ⟨⟨3, 1⟩, ⟨-1000, 10 ^ 30⟩⟩, "m", "vnscript"⟩]⟩
    Json.GivesReport data r ∧ Report.ofJson data = .ok r ∧ Report.ofJson r.toJson = .ok r ∧
      ∃ again, Report.ofJson r.toJson = .ok again ∧
        again.errors = r.errors ∧ again.warnings = [] := by
  intro data r
  have severity : Json.GivesInteger (.string "\u00a0+0_1.0") 1 :=
    .spelled ⟨['\u00a0'], .plus, '0', [(true, '1')], 1, [], List.all_eq_true.mp (by decide),
      List.all_eq_true.mp (by decide)⟩ (by decide) (by decide)
  have value : (⟨30, -1⟩ : Decimal).value = (3 : Int) := by norm_num [Decimal.value]
  have startLine : Json.GivesInteger (.decimal ⟨30, -1⟩) 3 := by
    refine .whole ?_ (by decide)
    rw [value]
    exact nearestHeld_self (held_natCast (n := 3) (by decide))
  have stopLine : Json.GivesInteger (.string "-1_000.00") (-1000) :=
    .spelled ⟨[], .minus, '1', [(true, '0'), (false, '0'), (false, '0')], 2, [],
      List.all_eq_true.mp (by decide), List.all_eq_true.mp (by decide)⟩ (by decide) (by decide)
  have start : Json.GivesPosition
      (.object [("line", .decimal ⟨30, -1⟩), ("character", .bool true)]) ⟨3, 1⟩ :=
    ⟨⟨_, rfl, startLine⟩, ⟨_, rfl, .bool true⟩⟩
  have stop : Json.GivesPosition
      (.object [("line", .string "-1_000.00"), ("character", .int (10 ^ 30))])
      ⟨-1000, 10 ^ 30⟩ :=
    ⟨⟨_, rfl, stopLine⟩, ⟨_, rfl, .int _⟩⟩
  have given : Json.GivesReport data r :=
    .inr ⟨_, rfl, _, rfl, .cons ⟨⟨_, rfl, severity⟩, ⟨_, rfl, ⟨_, rfl, start⟩, ⟨_, rfl, stop⟩⟩,
      ⟨_, rfl, rfl⟩, .inl ⟨rfl, rfl⟩⟩ .nil⟩
  obtain ⟨_, _, _, reports, views⟩ := decoding_normalizes_once
  have decoded := reports.given data r given
  exact ⟨given, decoded, reports.again data r decoded, views data r decoded⟩

end StoryScript
