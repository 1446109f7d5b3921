import StoryScript.Proofs.ClosedForm

/-!
# How many starts a script has

A script should have exactly one start. The search for starts skips what it has found, but a
start cannot hide another one, so the search lists all places where a start stands, whatever
forms surround it and whether it is closed or not. A check speaks about starts at most once: of
a missing start if there is no such place, and of the second place if there are several. No
other finding is worded like these two, so neither of them is lost or repeated.
-/

namespace StoryScript

instance (text : List Char) (place : Nat) : Decidable (StartsAt text place) :=
  decidable_of_iff
    ((text.drop place).take 6 = "(start".toList ∧ (text[place + 6]?).any isBlank = true) (by
      simp only [StartsAt, Option.any_eq_true])

/-- All places of a text where a start stands, in increasing order. -/
def startPlaces (text : List Char) : List Nat :=
  (List.range text.length).filter fun place => StartsAt text place

theorem startPlaces_pairwise (text : List Char) : (startPlaces text).Pairwise (· < ·) :=
  List.pairwise_lt_range.filter _

theorem mem_startPlaces_iff (text : List Char) (place : Nat) :
    place ∈ startPlaces text ↔ StartsAt text place := by
  simp only [startPlaces, List.mem_filter, List.mem_range, decide_eq_true_iff,
    and_iff_right_iff_imp]
  intro starts
  obtain ⟨o, listed, rfl⟩ := List.mem_map.mp ((Recognizer.mem_starts_iff text place).mpr starts)
  exact (Recognizer.start.recognized_of_mem_occurrences listed).1

/-- The search for starts misses none of them. -/
theorem startPlaces_eq (text : List Char) :
    startPlaces text = (Recognizer.start.occurrences text).map (·.start) := by
  have increasing : ((Recognizer.start.occurrences text).map (·.start)).Pairwise (· < ·) :=
    List.pairwise_map.mpr (Recognizer.start.found_pairwise 0 0 text)
  apply (startPlaces_pairwise text).eq_of_mem_iff increasing
  intro place
  rw [mem_startPlaces_iff, Recognizer.mem_starts_iff]

theorem startRemarks_eq (text : List Char) :
    startRemarks text = startRemarksAt text.length (startPlaces text) := by
  rw [startRemarks, startPlaces_eq]

/-! ### What a check says about starts -/

theorem filter_worded_eq_nil
    {remarks : List Remark} {f : Finding} (different : ∀ r ∈ remarks, r.finding.lead ≠ f.lead) :
    remarks.filter (·.finding.message = f.message) = [] := by
  apply List.filter_eq_nil_iff.mpr
  intro r member worded
  exact different r member (Finding.lead_eq_of_message_eq (of_decide_eq_true worded))

/-- What a check keeps in the words of a finding about starts comes from the search for them. -/
theorem filter_worded_keptRemarks
    (text : List Char) {f : Finding} (aboutStarts : f.lead ∈ ["Script must ", "Multiple sta"]) :
    (keptRemarks text).filter (·.finding.message = f.message) =
      (startRemarks text).filter (·.finding.message = f.message) := by
  have noBalance : ∀ r ∈ balanceRemarks text, r.finding.lead ≠ f.lead := by
    intro r reported same
    rw [lead_of_mem_balanceRemarks reported] at same
    exact absurd (same ▸ aboutStarts) (by decide)
  have noForm : ∀ r ∈ windowRemarks (declaredLabels text) text, r.finding.lead ≠ f.lead := by
    intro r reported same
    have apart : ∀ lead ∈ ["Script must ", "Multiple sta"], lead ∉ Form.leads := by decide
    exact apart _ aboutStarts (same ▸ lead_of_mem_windowRemarks reported)
  have noDialogue : ∀ r ∈ (unclosedDialogue text).map dialogueRemark,
      r.finding.lead ≠ f.lead := by
    intro r reported same
    obtain ⟨o, _, rfl⟩ := List.mem_map.mp reported
    rw [← same] at aboutStarts
    simp [dialogueRemark, Finding.lead] at aboutStarts
  simp only [keptRemarks, firstRemarks, List.filter_append, filter_worded_eq_nil noBalance,
    filter_worded_eq_nil noForm, filter_worded_eq_nil noDialogue, List.nil_append,
    List.append_nil]

theorem message_missingStart_ne :
    Finding.missingStart.message ≠ Finding.repeatedStart.message := by decide

theorem filter_missing_startRemarksAt (length : Nat) (places : List Nat) :
    (startRemarksAt length places).filter
        (·.finding.message = Finding.missingStart.message) =
      if places = [] then [⟨0, 1, .missingStart⟩] else [] := by
  match places with
  | [] => simp [startRemarksAt]
  | [_] => simp [startRemarksAt]
  | _ :: _ :: _ => simp [startRemarksAt, message_missingStart_ne.symm]

theorem filter_repeated_startRemarksAt (length : Nat) (places : List Nat) :
    (startRemarksAt length places).filter
        (·.finding.message = Finding.repeatedStart.message) =
      (places[1]?).toList.map fun second : Nat =>
        ⟨second, (min (second + startMarkWidth) length : Nat), .repeatedStart⟩ := by
  match places with
  | [] => simp [startRemarksAt, message_missingStart_ne]
  | [_] => rfl
  | _ :: _ :: _ => simp [startRemarksAt]

/-- The diagnostics of a check in the words of a finding about starts. -/
theorem Checker.filter_worded_check
    (checker : Checker) (script uri : String)
    (withinLimit : (script.toList.length : Int) ≤ checker.maxScriptSize) :
    ∃ report, (checker.check script uri).value = .ok report ∧
      ∀ f : Finding, f.lead ∈ ["Script must ", "Multiple sta"] →
        report.diagnostics.filter (·.message = f.message) =
          ((startRemarksAt script.toList.length (startPlaces script.toList)).filter
            (·.finding.message = f.message)).map
            (Remark.diagnostic (Document.ofText script.toList uri) checker.source) := by
  refine ⟨_, checker.check_eq script uri withinLimit, ?_⟩
  intro f aboutStarts
  rw [toList_reportAll_remarks, List.filter_map, ← startRemarks_eq,
    ← filter_worded_keptRemarks _ aboutStarts]
  rfl

theorem Document.positionAt_min_length (text : List Char) (uri : String) (offset : Nat) :
    (ofText text uri).positionAt (min offset text.length : Nat) =
      (ofText text uri).positionAt offset := by
  rw [positionAt_eq_iff]
  simp only [clamp, ofText, Int.toNat_natCast, Nat.min_assoc, Nat.min_self]

/-- Let `places` be all places where a start stands, in increasing order. A check of a script
within the size limit reports a missing start exactly when there are none, once and at the first
character, and a repeated start exactly when there are two or more, once and at the second one.
It reports neither exactly when there is one. -/
theorem Checker.check_start_count
    (checker : Checker) (script uri : String)
    (withinLimit : (script.toList.length : Int) ≤ checker.maxScriptSize) :
    let text := script.toList
    let document := Document.ofText text uri
    let places := startPlaces text
    (∀ place, place ∈ places ↔ StartsAt text place) ∧ places.Pairwise (· < ·) ∧
    ∃ report, (checker.check script uri).value = .ok report ∧
      let missing := report.diagnostics.filter (·.message = "Script must contain a start")
      let repeated := report.diagnostics.filter (·.message = "Multiple start keywords found")
      (missing ≠ [] ↔ places = []) ∧
      (places = [] → missing =
        [⟨.error, ⟨document.positionAt 0, document.positionAt (min 1 text.length : Nat)⟩,
          "Script must contain a start", checker.source⟩]) ∧
      (repeated ≠ [] ↔ 2 ≤ places.length) ∧
      (∀ second : Nat, places[1]? = some second → repeated =
        [⟨.error, ⟨document.positionAt second,
            document.positionAt (min (second + 10) text.length : Nat)⟩,
          "Multiple start keywords found", checker.source⟩]) ∧
      (missing = [] ∧ repeated = [] ↔ places.length = 1) := by
  intro text document places
  refine ⟨mem_startPlaces_iff text, startPlaces_pairwise text, ?_⟩
  obtain ⟨report, checked, worded⟩ := checker.filter_worded_check script uri withinLimit
  refine ⟨report, checked, ?_⟩
  intro missing repeated
  have missing_eq : missing = (if places = [] then [⟨0, 1, .missingStart⟩] else []).map
      (Remark.diagnostic document checker.source) := by
    rw [← filter_missing_startRemarksAt text.length]
    exact worded .missingStart (by decide)
  have repeated_eq : repeated = ((places[1]?).toList.map fun second : Nat =>
      ⟨second, (min (second + startMarkWidth) text.length : Nat), .repeatedStart⟩).map
      (Remark.diagnostic document checker.source) := by
    rw [← filter_repeated_startRemarksAt text.length]
    exact worded .repeatedStart (by decide)
  have noneMissing : missing = [] ↔ 0 < places.length := by
    rw [missing_eq, List.map_eq_nil_iff, List.length_pos_iff]
    simp
  have noneRepeated : repeated = [] ↔ places.length ≤ 1 := by
    rw [repeated_eq]
    simp
  refine ⟨?_, ?_, ?_, ?_, ?_⟩
  · rw [Ne, noneMissing, Nat.not_lt, Nat.le_zero, List.length_eq_zero_iff]
  · intro none
    rw [missing_eq, if_pos none, Document.positionAt_min_length text uri 1]
    rfl
  · rw [Ne, noneRepeated, Nat.not_le]
    rfl
  · intro second isSecond
    rw [repeated_eq, isSecond]
    rfl
  · rw [noneMissing, noneRepeated]
    omega

/-- Of two starts inside a form that is never closed the second one is marked, up to the end of
the script. The empty script has no start, and no character that could be marked for it. -/
theorem Checker.check_start_count_unclosed :
    let script := "(say\n(start\ta)(start b"
    let checker : Checker := {}
    (script.toList.length : Int) ≤ checker.maxScriptSize ∧
    startPlaces script.toList = [5, 14] ∧ startPlaces "".toList = [] ∧
    (∃ report, (checker.check script "x").value = .ok report ∧
      report.diagnostics.filter (·.message = "Multiple start keywords found") =
        [⟨.error, ⟨⟨1, 9⟩, ⟨1, 17⟩⟩, "Multiple start keywords found", "vnscript"⟩]) ∧
    ∃ report, (checker.check "" "x").value = .ok report ∧
      report.diagnostics.filter (·.message = "Script must contain a start") =
        [⟨.error, ⟨⟨0, 0⟩, ⟨0, 0⟩⟩, "Script must contain a start", "vnscript"⟩] := by
  intro script checker
  have withinLimit : (script.toList.length : Int) ≤ checker.maxScriptSize := by decide
  have places : startPlaces script.toList = [5, 14] := by decide +kernel
  have noPlaces : startPlaces "".toList = [] := by decide +kernel
  refine ⟨withinLimit, places, noPlaces, ?_, ?_⟩
  · obtain ⟨_, _, report, checked, _, _, _, repeated, _⟩ :=
      Checker.check_start_count checker script "x" withinLimit
    refine ⟨report, checked, ?_⟩
    rw [repeated 14 (by rw [places]; rfl)]
    decide +kernel
  · obtain ⟨_, _, report, checked, _, missing, _⟩ :=
      Checker.check_start_count checker "" "x" (by decide)
    refine ⟨report, checked, ?_⟩
    rw [missing noPlaces]
    decide +kernel

end StoryScript
