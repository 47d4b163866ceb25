import SqlFilter.Declared
import SqlFilter.Main
import SqlFilter.Proofs.CaseLoss
import SqlFilter.Proofs.Merge
import SqlFilter.Proofs.Offence
import SqlFilter.Proofs.Placeholders
import SqlFilter.Proofs.Reference
import SqlFilter.Proofs.ValueIndependence
import SqlFilter.Proofs.ScopeTables
import SqlFilter.Proofs.HeldFilters
import SqlFilter.Proofs.Inlining
import SqlFilter.Proofs.Session
import SqlFilter.Proofs.Descent
import SqlFilter.Proofs.Omission
import SqlFilter.Proofs.FieldOrder
import SqlFilter.Proofs.TagText
import SqlFilter.Proofs.RowCount
import SqlFilter.Proofs.SegmentOrder
import SqlFilter.Proofs.RepeatedJoins
import SqlFilter.Proofs.CheckAgreement
import SqlFilter.Proofs.OrderNormalForm
import SqlFilter.Proofs.Faults
import SqlFilter.Proofs.EmptyFilter
import SqlFilter.Proofs.Chronology
import SqlFilter.Proofs.Paging
