import TimeSeries.Floating.Reading
import TimeSeries.Floating.Style
import TimeSeries.Keyed
import TimeSeries.Ranged
import TimeSeries.Text.Alphanumeric
import TimeSeries.Text.Blank
import TimeSeries.Text.Hidden
import TimeSeries.DataType
import TimeSeries.Path
import TimeSeries.Text.Quoted
import TimeSeries.Text.Utf8
import TimeSeries.Coercion
import TimeSeries.Schema.Registry
import TimeSeries.Store.Basic
import TimeSeries.Tablet
import TimeSeries.Endpoint
import TimeSeries.Message.Form.Exchange
import TimeSeries.Message.PreparedPeer
import TimeSeries.Session.Config
import TimeSeries.Server.Answer
import TimeSeries.Session.Basic
import TimeSeries.Json.Real
import TimeSeries.Proofs.StoreLedger
import TimeSeries.Proofs.TabletWrites
import TimeSeries.Proofs.SchemaAgreement
import TimeSeries.Proofs.AcknowledgedPoints
import TimeSeries.Proofs.SchemaTree
import TimeSeries.Proofs.AtomicRequests
import TimeSeries.Proofs.IndexedSeries
import TimeSeries.Proofs.IndexedStore
import TimeSeries.Proofs.SessionLifecycle
import TimeSeries.Proofs.LocalChecks
import TimeSeries.Proofs.SessionTable
import TimeSeries.Proofs.Locks
import TimeSeries.Proofs.InternalFailures
import TimeSeries.Proofs.JsonText
import TimeSeries.Proofs.JsonForms
import TimeSeries.Proofs.JsonMessages
import TimeSeries.Proofs.Retention
import TimeSeries.Proofs.StoreShape
import TimeSeries.Proofs.AcceptedTimes
import TimeSeries.Proofs.GridWindow
import TimeSeries.Proofs.StoreIdentity
import TimeSeries.Proofs.TabletRows
import TimeSeries.Proofs.FinalRefusals
import TimeSeries.Proofs.NamedPaths
import TimeSeries.Proofs.DataDeletion
import TimeSeries.Proofs.ByteOrder
import TimeSeries.Proofs.SchemaListing
import TimeSeries.Proofs.TabletOrder
import TimeSeries.Proofs.ArrivalOrder
import TimeSeries.Proofs.WindowVerdicts
import TimeSeries.Proofs.ScopedWork
import TimeSeries.Proofs.TextSpelling
import TimeSeries.Proofs.CoercedValues
import TimeSeries.Proofs.PathGrammar
import TimeSeries.Proofs.PathChildren
import TimeSeries.Proofs.SlotTiling
import TimeSeries.Proofs.SortedSeries
