import TracerConfig.Agent
import TracerConfig.Json.Reader
import TracerConfig.Proofs.Published
import TracerConfig.Proofs.FixedPoint
import TracerConfig.Proofs.Replace
import TracerConfig.Proofs.Masking
import TracerConfig.Proofs.Sanitize
import TracerConfig.Proofs.Filter
import TracerConfig.Proofs.Guarantees
import TracerConfig.Proofs.Independence
import TracerConfig.Proofs.Json
import TracerConfig.Proofs.Spec
import TracerConfig.Proofs.Difference
import TracerConfig.Proofs.ResolutionLog
import TracerConfig.Step
import TracerConfig.Proofs.HandleRun
import TracerConfig.Proofs.Process
import TracerConfig.Proofs.Threshold
import TracerConfig.Proofs.Trace
import TracerConfig.Proofs.BuilderRun
import TracerConfig.Proofs.Refusal
import TracerConfig.Proofs.SuppliedKey
import TracerConfig.Proofs.UnusableFile
import TracerConfig.Proofs.DocumentValue
import TracerConfig.Proofs.PlainScalar
import TracerConfig.Proofs.FreeText
import TracerConfig.Proofs.KeyOrder
import TracerConfig.Proofs.QuotedText
import TracerConfig.Proofs.FlowScan
import TracerConfig.Proofs.FlowNode
import TracerConfig.Proofs.SpecDocument
import TracerConfig.Proofs.Sampling
import TracerConfig.Proofs.StartupReport
import TracerConfig.Proofs.ReportLines
import TracerConfig.Proofs.Mask
import TracerConfig.Proofs.Normalization
import TracerConfig.Proofs.Flattening
import TracerConfig.Proofs.PatternCounts
import TracerConfig.Proofs.PatternSearch
import TracerConfig.Proofs.FilterDecision
import TracerConfig.Log.Thread
import TracerConfig.Proofs.Endpoint
import TracerConfig.Proofs.RecorderRun
import TracerConfig.Proofs.FirstReadable
import TracerConfig.Proofs.CodeSet
