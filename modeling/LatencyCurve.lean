import LatencyCurve.Main
import LatencyCurve.Proofs.Extraction
import LatencyCurve.Proofs.Distribution
import LatencyCurve.Proofs.LineOrder
import LatencyCurve.Proofs.ImagePath
import LatencyCurve.Proofs.Resolution
import LatencyCurve.Proofs.LogKept
import LatencyCurve.Proofs.Decoding
import LatencyCurve.Proofs.Lines
import LatencyCurve.Proofs.Concatenation
import LatencyCurve.Proofs.Outcome
import LatencyCurve.Proofs.ImageContent
import LatencyCurve.Proofs.SummaryLines
import LatencyCurve.Proofs.Verbosity
import LatencyCurve.Proofs.Decoration
import LatencyCurve.Proofs.RunningOperation
import LatencyCurve.Proofs.Bracket
import LatencyCurve.Proofs.ChartFont
import LatencyCurve.Proofs.ExitCode
import LatencyCurve.Proofs.Forms
import LatencyCurve.Proofs.Percentiles
import LatencyCurve.Proofs.PercentileShare
import LatencyCurve.Proofs.StepPath
import LatencyCurve.Proofs.Moments
import LatencyCurve.Proofs.LineEnds
import LatencyCurve.Proofs.RecognizerOrder
import LatencyCurve.Proofs.AxisRange
import LatencyCurve.Proofs.Spelling
import LatencyCurve.Proofs.SameFile
import LatencyCurve.Proofs.RunningTimers
import LatencyCurve.Proofs.Precedence
import LatencyCurve.Proofs.SummaryTable
import LatencyCurve.Proofs.Damage
import LatencyCurve.Proofs.DefaultImage
import LatencyCurve.Proofs.Sizes
import LatencyCurve.Proofs.JsonNumbers
import LatencyCurve.Proofs.JsonText
import LatencyCurve.Proofs.JsonLines
import LatencyCurve.Proofs.Documents
