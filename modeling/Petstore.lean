import Petstore.Text.Blank
import Petstore.Text.Urlencoded
import Petstore.Text.Quoted
import Petstore.Text.Integer
import Petstore.Decimal.Shortest
import Petstore.Json.Scan
import Petstore.Json.Skip
import Petstore.Json.Record
import Petstore.Model.Encoding
import Petstore.Model.Decoding
import Petstore.Http.Headers
import Petstore.Routing.Router
import Petstore.Api.Dispatch
import Petstore.Store.Controllers
import Petstore.Api.Recording
import Petstore.Http.App
import Petstore.Config.Loading
import Petstore.Shutdown
import Petstore.Service
import Petstore.Startup
import Petstore.Main
import Petstore.Proofs.Outcomes
import Petstore.Proofs.Text.Utf8
import Petstore.Proofs.Text.Percent
import Petstore.Proofs.Text.Decimals
import Petstore.Proofs.Text.Separators
import Petstore.Proofs.Text.Trimming
import Petstore.Proofs.Text.Urlencoded
import Petstore.Proofs.Json.Members
import Petstore.Proofs.Json.Texts
import Petstore.Proofs.Json.Scanning
import Petstore.Proofs.Json.Reading
import Petstore.Proofs.Json.Records
import Petstore.Proofs.Json.Entries
import Petstore.Proofs.Json.Phrases
import Petstore.Proofs.Json.Tokens
import Petstore.Proofs.Json.Spellings
import Petstore.Proofs.Json.Skipping
import Petstore.Proofs.Json.Meanings
import Petstore.Proofs.Json.Objects
import Petstore.Proofs.Json.Rearranging
import Petstore.Proofs.Model.RoundTrip
import Petstore.Proofs.Model.Rearranging
import Petstore.Proofs.Routing.Template
import Petstore.Proofs.Routing.Resolution
import Petstore.Proofs.Routing.Mounting
import Petstore.Proofs.Routing.Methods
import Petstore.Proofs.Routing.Composition
import Petstore.Proofs.Routing.MountOrder
import Petstore.Proofs.Routing.Covering
import Petstore.Proofs.Routing.Shapes
import Petstore.Proofs.Routing.Declarations
import Petstore.Proofs.Routing.Captures
import Petstore.Proofs.Routing.Grammar
import Petstore.Proofs.Routing.Precedence
import Petstore.Proofs.Api.Calls
import Petstore.Proofs.Api.Routes
import Petstore.Proofs.Api.Inputs
import Petstore.Proofs.Api.Replies
import Petstore.Proofs.Api.Binding
import Petstore.Proofs.Api.Requests
import Petstore.Proofs.Api.ListParameters
import Petstore.Proofs.Api.Forms
import Petstore.Proofs.Http.Allow
import Petstore.Proofs.Http.Bodies
import Petstore.Proofs.Http.Stripping
import Petstore.Proofs.Http.BasePath
import Petstore.Proofs.Store.Action
import Petstore.Proofs.Store.Atomicity
import Petstore.Proofs.Store.Steps
import Petstore.Proofs.Store.Runs
import Petstore.Proofs.Store.PetIds
import Petstore.Proofs.Store.PetNames
import Petstore.Proofs.Store.Persistence
import Petstore.Proofs.Store.Searches
import Petstore.Proofs.Store.Inventory
import Petstore.Proofs.Store.Batches
import Petstore.Proofs.Store.UserSteps
import Petstore.Proofs.Store.UserPersistence
import Petstore.Proofs.Store.UserUpdates
import Petstore.Proofs.Store.UserNames
import Petstore.Proofs.Store.OrderIds
import Petstore.Proofs.Store.Repetition
import Petstore.Proofs.Store.Footprint
import Petstore.Proofs.Store.Independence
import Petstore.Proofs.Http.Target
import Petstore.Proofs.Http.Handling
import Petstore.Proofs.Http.BodyLimit
import Petstore.Proofs.Http.Counts
import Petstore.Proofs.Http.Resemblance
import Petstore.Proofs.Http.Head
import Petstore.Proofs.Http.Opacity
import Petstore.Proofs.Command.Listing
import Petstore.Proofs.Routing.Covering
