import ScriptEngine.Main
import ScriptEngine.Number.Binary64
import ScriptEngine.Tree.Outline
import ScriptEngine.Text.Age
import ScriptEngine.Text.Boundary
import ScriptEngine.Proofs.DepthLimit
import ScriptEngine.Proofs.Equality
import ScriptEngine.Proofs.Escapes
import ScriptEngine.Proofs.ObjectContexts
import ScriptEngine.Proofs.ReadOnlyPrograms
import ScriptEngine.Proofs.RecentCompilations
import ScriptEngine.Proofs.RelaxedRuns
import ScriptEngine.Proofs.Resolution
import ScriptEngine.Proofs.RoundTrip
import ScriptEngine.Proofs.RunPolicy
import ScriptEngine.Proofs.Sandbox
import ScriptEngine.Proofs.Termination
import ScriptEngine.Proofs.Tiling
import ScriptEngine.Proofs.Currying
import ScriptEngine.Proofs.Precedence
import ScriptEngine.Proofs.CheckedExpressions
import ScriptEngine.Proofs.CheckedPrograms
import ScriptEngine.Proofs.LexicalChecks
import ScriptEngine.Proofs.SourceSpans
import ScriptEngine.Proofs.ShownNumbers
import ScriptEngine.Proofs.ErrorPlaces
import ScriptEngine.Proofs.Concatenation
import ScriptEngine.Proofs.Elision
import ScriptEngine.Proofs.Ordering
import ScriptEngine.Proofs.WordOperators
import ScriptEngine.Proofs.Ranges
import ScriptEngine.Proofs.BuiltinEffects
import ScriptEngine.Proofs.ArrayIndices
import ScriptEngine.Proofs.ArrayMethods
import ScriptEngine.Proofs.MapHistories
import ScriptEngine.Proofs.TextMethods
import ScriptEngine.Proofs.StepForms
import ScriptEngine.Proofs.SetLiterals
import ScriptEngine.Proofs.Overloads
import ScriptEngine.Proofs.TokenTexts
import ScriptEngine.Proofs.LambdaHeads
import ScriptEngine.Proofs.ReadingProgress
import ScriptEngine.Proofs.ScriptRoundTrip
