import Canopen.Main
import Canopen.Proofs.Coupling
import Canopen.Proofs.Delivery
import Canopen.Proofs.Provenance
import Canopen.Proofs.Rights
import Canopen.Proofs.Renewal
import Canopen.Proofs.Replies
import Canopen.Proofs.Conversation
import Canopen.Proofs.Uploads
import Canopen.Proofs.Downloads
import Canopen.Proofs.ReadBack
import Canopen.Proofs.Bursts
import Canopen.Proofs.Aborted
import Canopen.Proofs.Losses
import Canopen.Proofs.Copies
import Canopen.Proofs.Cuttings
import Canopen.Proofs.Snapshot
import Canopen.Proofs.Numerals
import Canopen.Proofs.Reports
import Canopen.Proofs.Traffic
import Canopen.Proofs.Echoes
import Canopen.Proofs.Words
import Canopen.Proofs.Spellings
import Canopen.Proofs.Orders
import Canopen.Proofs.Registers
import Canopen.Proofs.Lines
import Canopen.Proofs.Endings
import Canopen.Proofs.Commands
import Canopen.Proofs.Escapes
import Canopen.Proofs.Sendings
import Canopen.Proofs.Repeats
import Canopen.Proofs.Intake
import Canopen.Proofs.Catalogue
import Canopen.Proofs.Histories
import Canopen.Proofs.Limits
import Canopen.Proofs.Pieces
import Canopen.Proofs.Wire
import Canopen.Proofs.Acceptance
import Canopen.Proofs.NodeIds
import Canopen.Proofs.Alternation
import Canopen.Proofs.Outcomes
