import AlterRelay.Json.Settings
import AlterRelay.Proofs.Relay.Composition
import AlterRelay.Proofs.Relay.Confinement
import AlterRelay.Proofs.Sql.FormStatement
import AlterRelay.Proofs.Relay.Accounting
import AlterRelay.Proofs.Relay.ReadStatement
import AlterRelay.Proofs.Column.LiteralToken
import AlterRelay.Proofs.Column.OptionLookup
import AlterRelay.Proofs.Doris.ParsedChange
import AlterRelay.Proofs.Sql.Lossless
import AlterRelay.Proofs.Relay.Respaced
import AlterRelay.Proofs.Relay.LogStory
import AlterRelay.Proofs.Relay.KeptDefault
import AlterRelay.Proofs.Source.SizedType
import AlterRelay.Proofs.Source.CreatableType
import AlterRelay.Proofs.Sql.WordCase
import AlterRelay.Proofs.Checked.Engine
import AlterRelay.Proofs.Relay.SignPlacement
import AlterRelay.Proofs.Relay.DeclaredSizes
import AlterRelay.Proofs.Doris.TableReference
import AlterRelay.Proofs.Source.DigitRange
import AlterRelay.Proofs.Relay.UnrelatedSpecs
import AlterRelay.Proofs.Relay.Switches
import AlterRelay.Proofs.Sql.RoundTrip
import AlterRelay.Proofs.Sql.BalancedRun
import AlterRelay.Proofs.Sql.JoinedLines
