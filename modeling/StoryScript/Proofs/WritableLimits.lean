import StoryScript.Proofs.SizeLimit
import StoryScript.Server

/-!
# Limits that a server reads

A server reads its size limit from variables and from a file, where an integer is a text. A text
with more digits than may be written out is not read, so the limit of a server can be written out
again. Its rejections are raised with the message that it logs.
-/

namespace StoryScript

/-! ### Integers that are spelled -/

theorem pow_ten_mono {few many : Nat} (le : few ≤ many) : Nat.pow 10 few ≤ Nat.pow 10 many :=
  Nat.pow_le_pow_right (by decide) le

theorem ofDigitChars_lt {digits : List Char} (isDigits : ∀ c ∈ digits, c.isDigit = true) :
    Nat.ofDigitChars 10 digits 0 < Nat.pow 10 digits.length := by
  -- Each further digit multiplies what has been read before it by ten.
  have bound : ∀ value,
      Nat.ofDigitChars 10 digits value < (value + 1) * Nat.pow 10 digits.length := by
    induction digits with
    | nil =>
        intro value
        exact Nat.lt_of_lt_of_eq (Nat.lt_succ_self value) (Nat.mul_one _).symm
    | cons c rest inductionHypothesis =>
        intro value
        rw [List.forall_mem_cons] at isDigits
        have digit : c.toNat - '0'.toNat < 10 := by
          have range := Char.isDigit_iff_toNat.mp isDigits.1
          have ends : '0'.toNat = 48 ∧ '9'.toNat = 57 := by decide
          omega
        have longer : Nat.pow 10 (c :: rest).length = 10 * Nat.pow 10 rest.length := Nat.pow_succ'
        rw [Nat.ofDigitChars_cons, longer, ← Nat.mul_assoc]
        apply Nat.lt_of_lt_of_le (inductionHypothesis isDigits.2 _)
        exact Nat.mul_le_mul_right _ (by omega)
  simpa using bound 0

theorem lt_of_readUnsigned {text : List Char} {n : Nat} (read : readUnsigned text = .ok n) :
    n < Nat.pow 10 maxNumeralDigits := by
  unfold readUnsigned at read
  split at read
  · cases read
  · split at read
    · obtain rfl := Except.ok.inj read
      exact pow_ten_pos _
    · cases read
  · split at read
    · cases read
    · next short =>
      split at read
      · obtain rfl := Except.ok.inj read
        apply Nat.lt_of_lt_of_le (ofDigitChars_lt (List.all_eq_true.mp List.all_takeWhile))
        exact pow_ten_mono (Nat.le_of_not_lt short)
      · cases read

namespace DigitBound

theorem standard_allows_iff (n : Int) :
    standard.allows n = true ↔ n.natAbs < Nat.pow 10 maxNumeralDigits :=
  allows_some_iff (by decide) n

theorem standard_allows_of_readPlain {text : List Char} {n : Int} (read : readPlain text = .ok n) :
    standard.allows n = true := by
  rw [standard_allows_iff]
  unfold readPlain at read
  split at read
  · next digits =>
    cases unsigned : readUnsigned digits with
    | error fault =>
        rw [unsigned] at read
        cases read
    | ok size =>
        rw [unsigned] at read
        obtain rfl := Except.ok.inj read
        rw [Int.natAbs_neg]
        exact lt_of_readUnsigned unsigned
  · cases unsigned : readUnsigned text with
    | error fault =>
        rw [unsigned] at read
        cases read
    | ok size =>
        rw [unsigned] at read
        obtain rfl := Except.ok.inj read
        exact lt_of_readUnsigned unsigned

theorem standard_allows_of_readInteger {text : String} {n : Int} (read : readInteger text = .ok n) :
    standard.allows n = true := by
  unfold readInteger at read
  split at read
  · unfold readSimplified at read
    split at read
    · next simple =>
      obtain rfl := Except.ok.inj read
      obtain ⟨numeral, _, plain⟩ := Option.map_eq_some_iff.mp simple
      exact standard_allows_of_readPlain plain
    · cases read
  · exact standard_allows_of_readPlain read

end DigitBound

/-! ### Settings without values from a caller -/

namespace SettingSources

variable {sources : SettingSources} (noneGiven : sources.given = [])

include noneGiven

theorem exists_string_of_value? {name : String} {value : Json}
    (found : sources.value? name = some value) : ∃ text, value = .string text := by
  rw [value?, given?, noneGiven, List.find?_nil, Option.map_none] at found
  obtain ⟨text, _, rfl⟩ := Option.map_eq_some_iff.mp found
  exact ⟨text, rfl⟩

theorem standard_allows_of_setting {name : String} {default n : Int}
    (defaultAllowed : DigitBound.standard.allows default = true)
    (read : sources.setting name default Json.toInteger = .ok n) :
    DigitBound.standard.allows n = true := by
  unfold setting at read
  split at read
  · next value found =>
    obtain ⟨text, rfl⟩ := exists_string_of_value? noneGiven found
    rw [Json.toInteger] at read
    split at read
    · next spelled =>
      obtain rfl := Except.ok.inj read
      exact DigitBound.standard_allows_of_readInteger spelled
    · cases read
    · cases read
  · obtain rfl := Except.ok.inj read
    exact defaultAllowed

theorem standard_allows_maxScriptSize {settings : Settings}
    (loaded : Settings.load sources = .ok settings) :
    DigitBound.standard.allows settings.maxScriptSize = true := by
  obtain ⟨⟨logLevel, diagnosticSource, maxScriptSize, rest⟩, values, rfl⟩ :=
    Decoded.map_eq_ok_iff.mp loaded
  simp only [Decoded.both_eq_ok_iff] at values
  apply standard_allows_of_setting noneGiven ?_ values.2.2.1
  decide

end SettingSources

/-! ### Rejections of a server -/

theorem Checker.limit_of_rejected
    {checker : Checker} {script : String} {rejection : Rejection}
    (rejected : (checker.check script).value = .error rejection) :
    rejection.limit = checker.maxScriptSize := by
  by_cases tooLong : checker.maxScriptSize < script.length
  · rw [checker.check_of_tooLong script _ tooLong] at rejected
    obtain rfl := Except.error.inj rejected
    rfl
  · obtain ⟨report, checked⟩ := checker.check_of_within script Document.defaultUri tooLong
    rw [rejected] at checked
    cases checked

namespace Server

theorem exists_settings_of_launch
    {sources : SettingSources} {started : Logged Server} (launched : launch sources = .ok started) :
    ∃ settings, Settings.load sources = .ok settings ∧
      started.value.checker = settings.checker := by
  unfold launch at launched
  split at launched
  · cases launched
  · next settings loaded =>
    dsimp only at launched
    split at launched
    · cases launched
    · obtain rfl := Except.ok.inj launched
      exact ⟨settings, loaded, rfl⟩

def rejectionRecord (rejection : Rejection) : LogRecord :=
  ⟨.warning, .server, "script rejected: " ++ rejection.message⟩

theorem runTool_rejected
    {server : Server} {tool script : String} {write : Report → String} {rejection : Rejection}
    (rejected : (server.runTool tool script write).value = .error rejection) :
    (server.checker.check script).value = .error rejection ∧
      rejectionRecord rejection ∈ (server.runTool tool script write).records := by
  unfold runTool at rejected ⊢
  cases checked : server.checker.check script with
  | mk records value =>
      rw [checked] at rejected
      cases value with
      | ok report => cases rejected
      | error other =>
          obtain rfl := Except.error.inj rejected
          exact ⟨rfl, List.mem_append_right _ (List.mem_singleton_self _)⟩

/-- A server that is launched from variables and a file alone can write the message of each of
its rejections, and that message is the one it logs. -/
theorem raised_of_rejected
    {sources : SettingSources} (noneGiven : sources.given = []) {started : Logged Server}
    (launched : launch sources = .ok started) {call : Call} {rejection : Rejection}
    (rejected : (started.value.answer call).value = .error rejection)
    (lengthWritable : DigitBound.standard.allows rejection.length = true) :
    rejection.raised .standard = .safety rejection.message ∧
      rejectionRecord rejection ∈ (started.value.answer call).records := by
  obtain ⟨settings, loaded, sameChecker⟩ := exists_settings_of_launch launched
  have limitWritable := SettingSources.standard_allows_maxScriptSize noneGiven loaded
  have ofTool : ∀ tool script write,
      (started.value.runTool tool script write).value = .error rejection →
      rejection.raised .standard = .safety rejection.message ∧
        rejectionRecord rejection ∈ (started.value.runTool tool script write).records := by
    intro tool script write rejected
    obtain ⟨checked, logged⟩ := runTool_rejected rejected
    have limit := Checker.limit_of_rejected checked
    rw [sameChecker] at limit
    refine ⟨?_, logged⟩
    rw [Rejection.raised_eq, limit, if_pos ⟨lengthWritable, limitWritable⟩]
  cases call with
  | validateScript script => exact ofTool _ script _ rejected
  | validateScriptJson script => exact ofTool _ script _ rejected
  | _ => cases rejected

end Server

end StoryScript
