import Dossier.Bson.Same
import Dossier.Bson.Text
import Dossier.Condition.Structured
import Dossier.Condition.Tagged
import Dossier.Json.Reader
import Dossier.Json.Writer
import Dossier.Proofs.Condition.Documents
import Dossier.Proofs.Condition.Tagged
import Dossier.Proofs.Converter.Addressing
import Dossier.Proofs.Converter.Caching
import Dossier.Proofs.Converter.Declared
import Dossier.Proofs.Converter.Mismatch
import Dossier.Proofs.Converter.Rewriting
import Dossier.Proofs.Filter.DefaultKeys
import Dossier.Proofs.Filter.Reading
import Dossier.Proofs.Filter.Writing
import Dossier.Proofs.Query.Order
import Dossier.Proofs.Query.Plain
import Dossier.Proofs.Query.Rejection
import Dossier.Proofs.Query.Search
import Dossier.Proofs.Record.Canonical
import Dossier.Proofs.Record.Sharing
import Dossier.Proofs.Repository.Deleting
import Dossier.Proofs.Repository.Paging
import Dossier.Proofs.Repository.Simulation
import Dossier.Proofs.Rule.Dates
import Dossier.Proofs.Store.Frame
import Dossier.Proofs.Store.IdentityQuery
import Dossier.Proofs.Store.Repeating
import Dossier.Repository.Basic
import Dossier.Settings
