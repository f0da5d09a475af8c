import Reconcile.Main
import Reconcile.Proofs.Coherence
import Reconcile.Proofs.Merging
import Reconcile.Proofs.Blocks
import Reconcile.Proofs.LineEnds
import Reconcile.Proofs.Places
import Reconcile.Proofs.KeptRounds
import Reconcile.Proofs.Chunks
import Reconcile.Proofs.Ties
import Reconcile.Proofs.Repeats
import Reconcile.Proofs.Frames
import Reconcile.Proofs.Agenda
import Reconcile.Proofs.Drafts
import Reconcile.Proofs.Lineage
import Reconcile.Proofs.Succession
import Reconcile.Proofs.Healing
import Reconcile.Proofs.Refusals
import Reconcile.Proofs.Disposal
import Reconcile.Proofs.Layers
import Reconcile.Proofs.Payloads
import Reconcile.Proofs.Completion
import Reconcile.Proofs.Grammar
import Reconcile.Proofs.Faults
import Reconcile.Proofs.Submissions
import Reconcile.Proofs.Removal
import Reconcile.Proofs.Wordings
import Reconcile.Proofs.Normalization
import Reconcile.Proofs.Styling
import Reconcile.Proofs.Returns
import Reconcile.Proofs.Spellings
import Reconcile.Proofs.Agreement
import Reconcile.Proofs.Inheritance
import Reconcile.Proofs.Precedence
import Reconcile.Proofs.Separators
import Reconcile.Proofs.Accounts
