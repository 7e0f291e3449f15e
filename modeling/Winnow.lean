import Winnow.Http.Site
import Winnow.Query.Recorder
import Winnow.Sample.Bulk
import Winnow.Sample.Shop
import Winnow.Sample.Site
import Winnow.Store.Statement
import Winnow.Proofs.Store.Gathering
import Winnow.Proofs.Store.Scope
import Winnow.Proofs.Filter.Conjunction
import Winnow.Proofs.Store.Chain
import Winnow.Proofs.Filter.Path
import Winnow.Proofs.Filter.Blank
import Winnow.Proofs.Store.Answer
import Winnow.Proofs.Store.Ordering
import Winnow.Proofs.Query.Paginator
import Winnow.Proofs.Service.Pages
import Winnow.Proofs.Request.BracketKey
import Winnow.Proofs.Request.Params
import Winnow.Proofs.Request.RoundTrip
import Winnow.Proofs.Request.Heads
import Winnow.Proofs.Store.Coercion
import Winnow.Proofs.Filter.Period
import Winnow.Proofs.Filter.Document
import Winnow.Proofs.Store.Sorted
import Winnow.Proofs.Service.Projection
import Winnow.Proofs.Service.Actions
import Winnow.Proofs.Csv
import Winnow.Proofs.Service.Records
import Winnow.Proofs.Store.Agreement
import Winnow.Proofs.Filter.Avoidance
import Winnow.Proofs.Service.Hidden
import Winnow.Proofs.Store.Argument
import Winnow.Proofs.Store.Mishap
import Winnow.Proofs.Filter.Mishap
import Winnow.Proofs.Store.Run
import Winnow.Proofs.Number.Rounding
import Winnow.Proofs.Service.Account
import Winnow.Proofs.Store.Place
import Winnow.Proofs.Filter.Comparison
import Winnow.Proofs.Filter.Union
import Winnow.Proofs.Filter.Complement
import Winnow.Proofs.Filter.Days
import Winnow.Proofs.Filter.Search
import Winnow.Proofs.Query.Reuse
import Winnow.Proofs.Query.Sort
import Winnow.Proofs.Filter.ListForms
import Winnow.Proofs.Filter.NormalForm
import Winnow.Proofs.Value.Plain
import Winnow.Proofs.Store.Settled
import Winnow.Proofs.Store.Reading
import Winnow.Proofs.Text.CamelCase
