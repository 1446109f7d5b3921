import StoryScript.Main
import StoryScript.Proofs.Balance
import StoryScript.Proofs.Matching
import StoryScript.Proofs.Remarks
import StoryScript.Proofs.Wording
import StoryScript.Proofs.NestedInspection
import StoryScript.Proofs.Occurrences
import StoryScript.Proofs.ClosedForm
import StoryScript.Proofs.Validity
import StoryScript.Proofs.FlatForm
import StoryScript.Proofs.FlatScript
import StoryScript.Proofs.Seeding
import StoryScript.Proofs.Boundaries
import StoryScript.Proofs.Arrangement
import StoryScript.Proofs.Declarations
import StoryScript.Proofs.Requests
import StoryScript.Proofs.VisitOrder
import StoryScript.Proofs.LineTable
import StoryScript.Proofs.Spans
import StoryScript.Proofs.JsonRoundTrip
import StoryScript.Proofs.WrittenReport
import StoryScript.Proofs.Accounting
import StoryScript.Proofs.LineBreaks
import StoryScript.Proofs.TokenSplit
import StoryScript.Proofs.LeftmostLabels
import StoryScript.Proofs.Quoting
import StoryScript.Proofs.Respacing
import StoryScript.Proofs.StartCount
import StoryScript.Proofs.JoinedTexts
import StoryScript.Proofs.QuotedLines
import StoryScript.Proofs.ReportLines
import StoryScript.Proofs.UnclosedDialogue
import StoryScript.Proofs.Normalization
import StoryScript.Proofs.SizeLimit
import StoryScript.Proofs.WritableLimits
