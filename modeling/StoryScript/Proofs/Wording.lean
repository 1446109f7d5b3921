import Mathlib.Data.List.Nodup
import StoryScript.Rule

/-!
# Wording of findings

A collector tells issues apart by their place and their message alone. This is enough,
because the first words of a message already tell what kind of finding it is: findings
of different severity never have the same message, a form has at most one finding of
each kind, and none of them is worded like a finding about the whole script.
-/

namespace StoryScript

namespace Finding

/-- The first twelve characters of every message of a kind. -/
def lead : Finding → String
  | .unbalanced .. => "Mismatched p"
  | .unknownKeyword _ => "Unknown keyw"
  | .tooFewArgs _ => "Too few args"
  | .tooManyArgs _ => "Too many arg"
  | .duplicateLabel _ => "Duplicate la"
  | .invalidLabelName _ => "Invalid labe"
  | .unquotedDialogue => "Dialogue mus"
  | .emptyDialogue => "Empty dialog"
  | .misplacedSpeaker => "Dialogue wit"
  | .missingSpeaker => "Speaker name"
  | .unknownAction _ => "Unknown afte"
  | .undefinedJump _ => "Jump referen"
  | .undefinedStart _ => "Start refere"
  | .invalidVariableName _ => "Invalid vari"
  | .missingStart => "Script must "
  | .repeatedStart => "Multiple sta"

theorem starts_append {front whole : String} (starts : front.toList <+: whole.toList)
    (more : String) : front.toList <+: (whole ++ more).toList := by
  rw [String.toList_append]
  exact starts.trans (List.prefix_append _ _)

theorem lead_starts_message (f : Finding) : f.lead.toList <+: f.message.toList := by
  cases f
  case unquotedDialogue | emptyDialogue | misplacedSpeaker | missingSpeaker | missingStart |
    repeatedStart => decide +kernel
  case unbalanced =>
    apply starts_append
    apply starts_append
    apply starts_append
    apply starts_append
    dsimp only [lead]
    decide +kernel
  all_goals
    apply starts_append
    apply starts_append
    dsimp only [lead]
    decide +kernel

theorem length_lead (f : Finding) : f.lead.toList.length = 12 := by
  cases f <;> dsimp only [lead] <;> decide +kernel

theorem lead_eq_of_message_eq {f g : Finding} (same : f.message = g.message) :
    f.lead = g.lead := by
  apply String.toList_injective
  have first := List.prefix_iff_eq_take.mp f.lead_starts_message
  have second := List.prefix_iff_eq_take.mp g.lead_starts_message
  rw [first, second, length_lead, length_lead, same]

theorem severity_eq_lead (f : Finding) :
    f.severity =
      if f.lead ∈ ["Too many arg", "Invalid labe", "Empty dialog"] then .warning else .error := by
  cases f <;> rfl

/-- A warning never takes the place of an error. -/
theorem severity_eq_of_message_eq {f g : Finding} (same : f.message = g.message) :
    f.severity = g.severity := by
  rw [severity_eq_lead, severity_eq_lead, lead_eq_of_message_eq same]

theorem leads_when_sublist (condition : Prop) [Decidable condition] (f : Finding) :
    ((when condition f).map lead).Sublist [f.lead] := by
  unfold when
  split
  · exact .refl _
  · exact List.nil_sublist _

end Finding

namespace Rule

theorem leads_label (labels args : List String) :
    ((label labels args).map Finding.lead).Sublist ["Duplicate la", "Invalid labe"] := by
  rw [label, List.map_append]
  exact (Finding.leads_when_sublist _ _).append (Finding.leads_when_sublist _ _)

theorem leads_dialogue (labels args : List String) :
    ((dialogue labels args).map Finding.lead).Sublist
      ["Dialogue mus", "Empty dialog", "Dialogue wit", "Speaker name"] := by
  unfold dialogue
  split
  · exact List.singleton_sublist.mpr (by simp [Finding.lead])
  · apply List.Sublist.cons
    rw [List.map_append]
    apply (Finding.leads_when_sublist _ _).append
    split
    · rw [List.map_append]
      exact (Finding.leads_when_sublist _ _).append (Finding.leads_when_sublist _ _)
    · exact List.nil_sublist _

theorem leads_after (labels args : List String) :
    ((after labels args).map Finding.lead).Sublist ["Unknown afte"] :=
  Finding.leads_when_sublist _ _

theorem leads_jump (labels args : List String) :
    ((jump labels args).map Finding.lead).Sublist ["Jump referen"] := by
  cases args with
  | nil => exact List.nil_sublist _
  | cons target rest => exact Finding.leads_when_sublist _ _

theorem leads_start (labels args : List String) :
    ((start labels args).map Finding.lead).Sublist ["Start refere"] := by
  cases args with
  | nil => exact List.nil_sublist _
  | cons target rest => exact Finding.leads_when_sublist _ _

theorem leads_assign (labels args : List String) :
    ((assign labels args).map Finding.lead).Sublist ["Invalid vari"] :=
  Finding.leads_when_sublist _ _

/-- The kinds of findings that rules have, in the order in which a rule reports them. -/
def leads : List String :=
  ["Duplicate la", "Invalid labe", "Dialogue mus", "Empty dialog", "Dialogue wit",
    "Speaker name", "Unknown afte", "Jump referen", "Start refere", "Invalid vari"]

end Rule

theorem Keyword.leads_rule {k : Keyword} {rule : Rule} (has : k.rule? = some rule)
    (labels args : List String) : ((rule labels args).map Finding.lead).Sublist Rule.leads := by
  cases k <;> simp only [Keyword.rule?, Option.some.injEq, reduceCtorEq] at has <;> subst has
  · exact (Rule.leads_label labels args).trans (by decide)
  · exact (Rule.leads_dialogue labels args).trans (by decide)
  · exact (Rule.leads_after labels args).trans (by decide)
  · exact (Rule.leads_jump labels args).trans (by decide)
  · exact (Rule.leads_start labels args).trans (by decide)
  · exact (Rule.leads_assign labels args).trans (by decide)

namespace Form

/-- The kinds of findings that forms have, in the order in which they are reported. -/
def leads : List String := "Unknown keyw" :: "Too few args" :: "Too many arg" :: Rule.leads

theorem leads_findings (labels : List String) (form : Form) :
    ((form.findings labels).map Finding.lead).Sublist leads := by
  unfold findings
  split
  · next k _ =>
    apply List.Sublist.cons
    unfold keywordFindings
    rw [List.map_append, List.map_append, List.append_assoc]
    apply (Finding.leads_when_sublist _ _).append
    apply (Finding.leads_when_sublist _ _).append
    split
    · next rule has => exact k.leads_rule has labels form.args
    · exact List.nil_sublist _
  · apply (Finding.leads_when_sublist _ _).trans
    exact List.singleton_sublist.mpr List.mem_cons_self

/-- The findings of a form have different messages. -/
theorem findings_messages_nodup (labels : List String) (form : Form) :
    ((form.findings labels).map Finding.message).Nodup := by
  have kinds : ((form.findings labels).map Finding.lead).Nodup :=
    (form.leads_findings labels).nodup (by decide)
  apply List.pairwise_map.mpr
  apply (List.pairwise_map.mp kinds).imp
  intro f g different same
  exact different (Finding.lead_eq_of_message_eq same)

end Form

end StoryScript
