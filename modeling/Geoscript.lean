import Geoscript.Catalog.Builtin
import Geoscript.Imagery.Operations
import Geoscript.Proofs.Imagery.BandLabels
import Geoscript.Proofs.Imagery.IndexSelection
import Geoscript.Proofs.Imagery.Regridding
import Geoscript.Proofs.River.PatternMarks
import Geoscript.Proofs.Script.AlignedCalls
import Geoscript.Proofs.Script.AttributeLines
import Geoscript.Proofs.Script.BareBodies
import Geoscript.Proofs.Script.BlockComment
import Geoscript.Proofs.Script.Braces
import Geoscript.Proofs.Script.ConditionalExpression
import Geoscript.Proofs.Script.CutOut
import Geoscript.Proofs.Script.DotLines
import Geoscript.Proofs.Script.FlatConversion
import Geoscript.Proofs.Script.Helper
import Geoscript.Proofs.Script.KeywordArguments
import Geoscript.Proofs.Script.LineBlocks
import Geoscript.Proofs.Script.LineCover
import Geoscript.Proofs.Script.ListReceiver
import Geoscript.Proofs.Script.Literal
import Geoscript.Proofs.Script.LoopIndent
import Geoscript.Proofs.Script.MatchingParen
import Geoscript.Proofs.Script.NamedFunction
import Geoscript.Proofs.Script.Negation
import Geoscript.Proofs.Script.Neighbours
import Geoscript.Proofs.Script.ObjectKeys
import Geoscript.Proofs.Script.Regrouping
import Geoscript.Proofs.Script.ReservedWord
import Geoscript.Proofs.Script.SteppedLoop
import Geoscript.Proofs.Script.StringLiteral
import Geoscript.Proofs.Script.Typeof
import Geoscript.Proofs.Script.WhileHeader
import Geoscript.Proofs.Store.Agreement
import Geoscript.Proofs.Store.Download
import Geoscript.Proofs.Store.Inlining
import Geoscript.Proofs.Store.SharedFile
import Geoscript.Proofs.Text.BestMatches
import Geoscript.River.Operations
import Geoscript.Script.Layout
