import Clearance.Allowance.Rule
import Clearance.Contact.Script
import Clearance.Engine.Exact
import Clearance.Engine.Script
import Clearance.Json.Printer
import Clearance.Json.Reader
import Clearance.Judgement.Search
import Clearance.Number.Fixed
import Clearance.Proofs.Allowance.LastWord
import Clearance.Proofs.Body.Custody
import Clearance.Proofs.Engine.Sightings
import Clearance.Proofs.Json.Layout
import Clearance.Proofs.Judgement.Calls
import Clearance.Proofs.Judgement.CheckedCounts
import Clearance.Proofs.Judgement.Countdown
import Clearance.Proofs.Judgement.Ending
import Clearance.Proofs.Judgement.Growth
import Clearance.Proofs.Judgement.Harvest
import Clearance.Proofs.Judgement.Logbook
import Clearance.Proofs.Judgement.LookUps
import Clearance.Proofs.Judgement.Mirror
import Clearance.Proofs.Judgement.Quiet
import Clearance.Proofs.Judgement.Verdict
import Clearance.Proofs.Scene.AllPairs
import Clearance.Proofs.Scene.Partners
import Clearance.Proofs.Scene.StaleHandles
import Clearance.Proofs.Shape.Denotation
import Clearance.Proofs.Shape.Finite
import Clearance.Proofs.Shape.Padding
import Clearance.Proofs.Wire.Invariants
import Clearance.Proofs.Wire.Reading
import Clearance.Proofs.Wire.RoundTrip
import Clearance.Text.Padded
import Clearance.Wire.Judgement
