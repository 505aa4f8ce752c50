import CivilTime.GivenTime
import CivilTime.Report
import CivilTime.ZoneStore
import CivilTime.ZoneTable
import CivilTime.Proofs.Calendar
import CivilTime.Proofs.Succession
import CivilTime.Proofs.WallTime
import CivilTime.Proofs.Timeline
import CivilTime.Proofs.Candidates
import CivilTime.Proofs.Changes
import CivilTime.Proofs.Completeness
import CivilTime.Proofs.Order
import CivilTime.Proofs.Limits
import CivilTime.Proofs.Time
import CivilTime.Proofs.Tellable
import CivilTime.Proofs.Reachable
import CivilTime.Proofs.Moving
import CivilTime.Proofs.Distance
import CivilTime.Proofs.ArrayForm
import CivilTime.Proofs.Cycles
import CivilTime.Proofs.LookupRange
import CivilTime.Proofs.Places
import CivilTime.Proofs.Normalizing
import CivilTime.Proofs.ReadingOrder
import CivilTime.Proofs.Outcomes
import CivilTime.Proofs.Loading
import CivilTime.Proofs.Present
import CivilTime.Proofs.StoreRuns
import CivilTime.Proofs.Agreement
import CivilTime.Proofs.Identity
import CivilTime.Proofs.Classification
import CivilTime.Proofs.Rebuilding
import CivilTime.Proofs.YearDay
import CivilTime.Proofs.SignedForm
import CivilTime.Proofs.RoundTrip
import CivilTime.Proofs.LocalZone
import CivilTime.Proofs.Reading
import CivilTime.Proofs.DayTable
