import RelayProbe.Main
import RelayProbe.Proofs.Log
import RelayProbe.Proofs.Program
import RelayProbe.Proofs.Request.Host
import RelayProbe.Proofs.Request.Lines
import RelayProbe.Proofs.Session.Account
import RelayProbe.Proofs.Session.Buffer
import RelayProbe.Proofs.Session.Consumed
import RelayProbe.Proofs.Session.Delivery
import RelayProbe.Proofs.Session.Fragments
import RelayProbe.Proofs.Session.Limit
import RelayProbe.Proofs.Session.Lines
import RelayProbe.Proofs.Session.Order
import RelayProbe.Proofs.Session.Records
import RelayProbe.Proofs.Session.Recovery
import RelayProbe.Proofs.Session.Stepwise
import RelayProbe.Proofs.Session.Verdict
import RelayProbe.Proofs.Settings.Load
import RelayProbe.Proofs.Settings.Types
import RelayProbe.Proofs.Toml.Standing
