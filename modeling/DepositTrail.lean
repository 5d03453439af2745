import DepositTrail.Config.Topic
import DepositTrail.Main
import DepositTrail.Proofs.Checkpoint
import DepositTrail.Proofs.PageLines
import DepositTrail.Proofs.WindowTiling
import DepositTrail.Proofs.WindowCourse
import DepositTrail.Proofs.Settings
import DepositTrail.Proofs.WindowSweep
import DepositTrail.Proofs.Cursor
import DepositTrail.Proofs.Output
import DepositTrail.Proofs.Completeness
import DepositTrail.Proofs.SteadyExplorers
import DepositTrail.Proofs.Resumption
import DepositTrail.Proofs.ScanSeries
import DepositTrail.Proofs.CheckpointAdvance
import DepositTrail.Proofs.GrowingChain
import DepositTrail.Proofs.QuestionOrder
import DepositTrail.Proofs.ScansAbreast
import DepositTrail.Proofs.TransientFailures
import DepositTrail.Proofs.SinkCapacity
import DepositTrail.Proofs.Secrecy
import DepositTrail.Proofs.HexDigits
import DepositTrail.Proofs.AbiLayout
import DepositTrail.Proofs.AbiRoundTrip
import DepositTrail.Proofs.LastWrite
import DepositTrail.Proofs.Isolation
import DepositTrail.Proofs.JournalAccount
import DepositTrail.Proofs.WindowCover
import DepositTrail.Proofs.DepositLines
import DepositTrail.Proofs.QueryRetries
import DepositTrail.Proofs.JsonTokens
import DepositTrail.Proofs.JsonLines
import DepositTrail.Proofs.LogSelection
import DepositTrail.Proofs.ConfigRendering
import DepositTrail.Proofs.FormReadBack
import DepositTrail.Proofs.JsonSpelling
import DepositTrail.Proofs.SkippedValues
import DepositTrail.Proofs.JsonTexts
import DepositTrail.Proofs.ObjectMembers
import DepositTrail.Proofs.EnvelopeBodies
import DepositTrail.Proofs.IdealExplorer
