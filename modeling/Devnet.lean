import Devnet.Account.RoleReader
import Devnet.Assertion
import Devnet.Main
import Devnet.Proofs.AddressReading
import Devnet.Proofs.CommandResult
import Devnet.Proofs.ConfigChoice
import Devnet.Proofs.ConfigExtent
import Devnet.Proofs.ConfigNumbers
import Devnet.Proofs.ConfigRoundTrip
import Devnet.Proofs.Conformance
import Devnet.Proofs.ConversationView
import Devnet.Proofs.ErrorLog
import Devnet.Proofs.FirstDeviation
import Devnet.Proofs.Independence
import Devnet.Proofs.JudgedTransfer
import Devnet.Proofs.KeySecrecy
import Devnet.Proofs.LongerWait
import Devnet.Proofs.Rpc.ChainWidth
import Devnet.Proofs.Rpc.ConnectOrder
import Devnet.Proofs.Rpc.QuantityReading
import Devnet.Proofs.Rpc.Refusal
import Devnet.Proofs.Rpc.ReportedChain
import Devnet.Proofs.Rpc.RequestReading
import Devnet.Proofs.Rpc.RlpReading
import Devnet.Proofs.Rpc.SignedReading
import Devnet.Proofs.Rpc.Steps
import Devnet.Proofs.Rpc.SubmittedTransfer
import Devnet.Proofs.Rpc.WalletOrder
import Devnet.Proofs.RunParts
import Devnet.Proofs.TransferProtocol
import Devnet.Proofs.WaitBounds
import Devnet.Proofs.WaitSchedule
import Devnet.Script
