import Fieldwork.Form.Submission
import Fieldwork.Main
import Fieldwork.Proofs.Session.Keys
import Fieldwork.Proofs.Session.InPlace
import Fieldwork.Proofs.Service.Visit
import Fieldwork.Proofs.Service.ExactlyOnce
import Fieldwork.Proofs.Service.Recovery
import Fieldwork.Proofs.Service.Delivery
import Fieldwork.Proofs.Service.Copies
import Fieldwork.Proofs.Store.Acceptance
import Fieldwork.Proofs.Store.Journal
import Fieldwork.Proofs.Store.InPlace
import Fieldwork.Proofs.Store.Order
import Fieldwork.Proofs.Store.Reentry
import Fieldwork.Proofs.Store.Landing
import Fieldwork.Proofs.Store.AuthoredJumps
import Fieldwork.Proofs.Task.Recording
import Fieldwork.Proofs.Task.Stored
import Fieldwork.Proofs.Service.Overtaking
import Fieldwork.Proofs.Form.Hidden
import Fieldwork.Proofs.Form.Payload
import Fieldwork.Proofs.Form.Reopening
import Fieldwork.Proofs.Form.Stored
import Fieldwork.Proofs.Form.Comparing
import Fieldwork.Proofs.Form.Integers
import Fieldwork.Proofs.Form.Problems
import Fieldwork.Proofs.Form.Constraints
import Fieldwork.Proofs.Store.Times
import Fieldwork.Proofs.Store.Independence
import Fieldwork.Proofs.Store.Effect
import Fieldwork.Proofs.Task.Choosing
import Fieldwork.Proofs.Task.Rules
import Fieldwork.Proofs.Task.Offering
import Fieldwork.Proofs.Service.JumpAhead
import Fieldwork.Proofs.Form.Addresses
import Fieldwork.Proofs.Form.Locality
import Fieldwork.Proofs.Task.Share
import Fieldwork.Proofs.Form.Checking
import Fieldwork.Proofs.Form.Index
import Fieldwork.Proofs.Service.Addressing
import Fieldwork.Proofs.Task.Moves
import Fieldwork.Proofs.Task.Numbers
import Fieldwork.Proofs.Runner.Settings
import Fieldwork.Proofs.Runner.Command
