import FizzRs.LabelledSystem
import FizzRs.ByteChain
import FizzRs.ReadSide
import FizzRs.ReadStreamIntegrity
import FizzRs.ReadLockDiscipline
import FizzRs.ReadWakeUp
import FizzRs.WriteSide
import FizzRs.WriteOrder
import FizzRs.Connection
import FizzRs.CloseRepeatable
import FizzRs.ShutdownDelivery
import FizzRs.AfterClose
import FizzRs.ConnectionSetup
import FizzRs.SetupBalance
import FizzRs.ContextLifetime
import FizzRs.HexCodec
import FizzRs.StrToInt
import FizzRs.DelegatedCredential
import FizzRs.ClientHandshake
import FizzRs.ClientAuthentication
import FizzRs.CredentialIssuance
import FizzRs.PollReadReadiness
import FizzRs.ConnectionTeardown
import FizzRs.TeardownOrder
import FizzRs.DropClosesTransport
import FizzRs.RecordVisitor
import FizzRs.WireFormat
import FizzRs.JsonText
import FizzRs.JsonSpelling
import FizzRs.JsonDump
import FizzRs.SerdeRecords
import FizzRs.SerdeRoundTrip
import FizzRs.RecordAcceptance
import FizzRs.VerificationInfoJson
import FizzRs.CredentialVerification
import FizzRs.SelfVerification
import FizzRs.HexAgreement
import FizzRs.StrictHex
import FizzRs.PemText
import FizzRs.CertificateLoading
import FizzRs.PemSeam
import FizzRs.ServerContext
import FizzRs.AlpnSettings
import FizzRs.EchoSession
import FizzRs.EchoOutcome
import FizzRs.EchoCounts
import FizzRs.EchoConversation
import FizzRs.CompletionGate
import FizzRs.BenchCompletion
import FizzRs.BenchRun
import FizzRs.BenchExit
import FizzRs.FifoPipe
import FizzRs.Duplex
import FizzRs.DuplexStreams
import FizzRs.DuplexDelivery
import FizzRs.DuplexDrop
import FizzRs.ClientEstablishment
import FizzRs.ServerHandshake
import FizzRs.ServerEstablishment
import FizzRs.SidecarHandover
import FizzRs.AblationEcho
import FizzRs.AblationCompletion
import FizzRs.AblationRun
import FizzRs.AblationOutcome
