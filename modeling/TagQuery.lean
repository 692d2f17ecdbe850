import TagQuery.Annotation
import TagQuery.ByteReader
import TagQuery.Config.Run
import TagQuery.Config.Setting
import TagQuery.Expr.Nesting
import TagQuery.Expr.Recorder
import TagQuery.Expr.Rules
import TagQuery.Json.Structure
import TagQuery.Language.Acceptance
import TagQuery.Language.Derivation
import TagQuery.Language.Renaming
import TagQuery.Language.Textbook
import TagQuery.Proofs.Bytes.Reader
import TagQuery.Proofs.Config.Environment
import TagQuery.Proofs.Config.Saving
import TagQuery.Proofs.Depth.Levels
import TagQuery.Proofs.Depth.Overrun
import TagQuery.Proofs.Depth.Record
import TagQuery.Proofs.Depth.Threshold
import TagQuery.Proofs.Explanation.Coverage
import TagQuery.Proofs.Explanation.Decisive
import TagQuery.Proofs.Explanation.Lookahead
import TagQuery.Proofs.Explanation.Truth
import TagQuery.Proofs.Explanation.Wording
import TagQuery.Proofs.Json.Literal
import TagQuery.Proofs.Json.RoundTrip
import TagQuery.Proofs.Json.Wire
import TagQuery.Proofs.Language.Beginning
import TagQuery.Proofs.Language.Canonical
import TagQuery.Proofs.Language.Completeness
import TagQuery.Proofs.Language.Limit
import TagQuery.Proofs.Language.Link
import TagQuery.Proofs.Language.Measures
import TagQuery.Proofs.Language.Occurrence
import TagQuery.Proofs.Language.Passage
import TagQuery.Proofs.Language.Progress
import TagQuery.Proofs.Language.Recognition
import TagQuery.Proofs.Language.RoundTrip
import TagQuery.Proofs.Language.Soundness
import TagQuery.Proofs.Language.Spelling
import TagQuery.Proofs.Log
import TagQuery.Proofs.Parser.Alike
import TagQuery.Proofs.Parser.Composed
import TagQuery.Proofs.Parser.Expects
import TagQuery.Proofs.Parser.Trace
import TagQuery.Proofs.Parser.Tracks
import TagQuery.Proofs.Renaming.Reader
import TagQuery.Proofs.Renaming.Text
import TagQuery.Proofs.Textbook.Follows
import TagQuery.Proofs.Textbook.Rules
import TagQuery.Proofs.Textbook.SinglePass
import TagQuery.Session
import TagQuery.Text.Offset
