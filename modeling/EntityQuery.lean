import EntityQuery.Session.Action
import EntityQuery.Expr.Preorder
import EntityQuery.Proofs.Types.Equality
import EntityQuery.Proofs.Types.Promotion
import EntityQuery.Proofs.Types.Standard
import EntityQuery.Proofs.Expr.Acceptance
import EntityQuery.Proofs.Builder.Acceptance
import EntityQuery.Proofs.Session.Held
import EntityQuery.Proofs.Builder.Built
import EntityQuery.Proofs.Command.Acceptance
import EntityQuery.Proofs.Session.Construction
import EntityQuery.Proofs.Typing.Judgment
import EntityQuery.Proofs.Typing.Soundness
import EntityQuery.Proofs.Command.ParameterContract
import EntityQuery.Proofs.Builder.Substitution
import EntityQuery.Proofs.Expr.Layout
import EntityQuery.Proofs.Rebuild.Likeness
import EntityQuery.Proofs.Rebuild.Basic
import EntityQuery.Proofs.Rebuild.Identity
import EntityQuery.Proofs.Typing.Coherence
import EntityQuery.Proofs.Builder.Widening
import EntityQuery.Proofs.Command.Precedence
import EntityQuery.Proofs.Session.Widening
import EntityQuery.Proofs.Builder.Comparison
import EntityQuery.Proofs.Lifetime.Requests
import EntityQuery.Proofs.Lifetime.Declaring
import EntityQuery.Proofs.Typing.RelatedEntities
import EntityQuery.Proofs.Types.Inheritance
import EntityQuery.Proofs.Expr.Entries
import EntityQuery.Proofs.Builder.Positional
import EntityQuery.Proofs.Builder.Conditions
import EntityQuery.Proofs.Builder.PositionalCall
import EntityQuery.Proofs.Builder.Rejections
import EntityQuery.Proofs.Builder.Navigation
import EntityQuery.Literal.Reading
import EntityQuery.Proofs.Literal.Reading
import EntityQuery.Proofs.Types.BaseChain
import EntityQuery.Proofs.Command.FunctionParameters
import EntityQuery.Proofs.Builder.Rows
import EntityQuery.Proofs.Types.Shortcuts
import EntityQuery.Proofs.Types.Strictness
import EntityQuery.Proofs.Text.Lines
import EntityQuery.Proofs.Expr.WrittenTexts
import EntityQuery.Proofs.Expr.Lines
