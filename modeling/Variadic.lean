import Variadic.Expansion
import Variadic.Token.Reader
import Variadic.Main
import Variadic.Proofs.Invocations
import Variadic.Proofs.Staging
import Variadic.Proofs.Manifests
import Variadic.Proofs.PackageMetadata
import Variadic.Proofs.Settings
import Variadic.Proofs.Defects
import Variadic.Proofs.Leading
import Variadic.Proofs.PositionalForms
import Variadic.Proofs.Counting
import Variadic.Proofs.Emptiness
import Variadic.Proofs.Ceilings
import Variadic.Proofs.Tracing
import Variadic.Proofs.WorkspaceRoot
import Variadic.Proofs.Interception
import Variadic.Proofs.Causes
import Variadic.Proofs.TestedOperands
import Variadic.Proofs.IntegerLiterals
import Variadic.Proofs.Literals
import Variadic.Proofs.TemplatePaths
import Variadic.Proofs.Transparency
import Variadic.Proofs.RedundantParentheses
