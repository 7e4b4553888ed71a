import RecordFile.Main
import RecordFile.Model.Comparison
import RecordFile.Proofs.Store.Opening
import RecordFile.Proofs.Store.Runs
import RecordFile.Proofs.Store.Export
import RecordFile.Proofs.Store.Reload
import RecordFile.Proofs.Session.Registry
import RecordFile.Proofs.Model.Stores
import RecordFile.Proofs.Model.Traces
import RecordFile.Proofs.Session.Calls
import RecordFile.Proofs.Session.Failures
import RecordFile.Proofs.Session.Issuing
import RecordFile.Proofs.Session.Isolation
import RecordFile.Proofs.Session.Current
import RecordFile.Proofs.Files.Paths
import RecordFile.Proofs.Files.Creation
import RecordFile.Proofs.Tool.Copying
import RecordFile.Proofs.HeaderForms
import RecordFile.Proofs.Store.Loading
import RecordFile.Proofs.Store.Rendering
import RecordFile.Proofs.Store.Described
import RecordFile.Proofs.Store.Lookups
import RecordFile.Proofs.Files.Reading
import RecordFile.Proofs.Tool.CopyResults
import RecordFile.Proofs.Store.Shifts
import RecordFile.Proofs.Text.HexReading
import RecordFile.Proofs.Store.Cursors
import RecordFile.Proofs.Session.Cursors
import RecordFile.Proofs.Session.Scans
import RecordFile.Proofs.Store.Reordering
import RecordFile.Proofs.Store.Descriptors
import RecordFile.Proofs.Store.Keys
import RecordFile.Proofs.Session.Previous
import RecordFile.Proofs.Text.HexSpelling
import RecordFile.Proofs.Text.Lines
import RecordFile.Proofs.Tool.Listings
import RecordFile.Proofs.Files.Logs
import RecordFile.Proofs.Session.InPlace
