import MonkeyLang.Main
import MonkeyLang.Session.Course
import MonkeyLang.Token.Stream
import MonkeyLang.Proofs.Grammar.Acceptance
import MonkeyLang.Proofs.Syntax.RoundTrip
import MonkeyLang.Proofs.Evaluation.Rendering
import MonkeyLang.Proofs.Evaluation.Halting
import MonkeyLang.Proofs.Evaluation.Confinement
import MonkeyLang.Proofs.Evaluation.NonInterference
import MonkeyLang.Proofs.Evaluation.Repetition
import MonkeyLang.Proofs.Session.Effects
import MonkeyLang.Proofs.Session.Independence
import MonkeyLang.Proofs.Session.Copies
import MonkeyLang.Proofs.Evaluation.FullSink
import MonkeyLang.Proofs.Grammar.Activations
import MonkeyLang.Proofs.Grammar.Agreement
import MonkeyLang.Proofs.Grammar.Lockstep
import MonkeyLang.Proofs.Grammar.Online
import MonkeyLang.Proofs.Evaluation.DepthLimit
import MonkeyLang.Proofs.Grammar.Unplaced
import MonkeyLang.Proofs.Grammar.Joined
import MonkeyLang.Proofs.Evaluation.Tokens
import MonkeyLang.Proofs.Evaluation.Piecewise
import MonkeyLang.Proofs.Syntax.Terse
import MonkeyLang.Proofs.Grammar.Yield
import MonkeyLang.Proofs.Token.Spans
import MonkeyLang.Proofs.Token.Spacing
import MonkeyLang.Proofs.Evaluation.Arithmetic
import MonkeyLang.Proofs.Evaluation.ScopeChains
import MonkeyLang.Proofs.Session.Texts
import MonkeyLang.Proofs.Evaluation.Recasting
import MonkeyLang.Proofs.Evaluation.RecastRuns
import MonkeyLang.Proofs.Evaluation.Renaming
import MonkeyLang.Proofs.Evaluation.Returns
import MonkeyLang.Proofs.Evaluation.Underway
import MonkeyLang.Proofs.Evaluation.Identity
import MonkeyLang.Proofs.Grammar.Orderly
import MonkeyLang.Proofs.Grammar.Successive
import MonkeyLang.Proofs.Grammar.SourceOrder
import MonkeyLang.Proofs.Token.Requests
import MonkeyLang.Proofs.Grammar.RulePaths
import MonkeyLang.Proofs.Grammar.Tally
import MonkeyLang.Proofs.Grammar.Exhaustion
import MonkeyLang.Proofs.Evaluation.FrameListing
import MonkeyLang.Proofs.Text.Lines
import MonkeyLang.Proofs.Text.Bytes
import MonkeyLang.Proofs.Token.Recovery
import MonkeyLang.Proofs.Session.TypedLines
