import CatalogClient.Binary64.Basic
import CatalogClient.Binary64.Arithmetic
import CatalogClient.Binary64.Decimal
import CatalogClient.Binary64.Shortest
import CatalogClient.Text.Hex
import CatalogClient.Text.Octets
import CatalogClient.Text.Percent
import CatalogClient.Text.Invisible
import CatalogClient.Text.Inspect
import CatalogClient.Text.Parts
import CatalogClient.Text.Base64
import CatalogClient.Text.CodeTable
import CatalogClient.Text.CombiningClass
import CatalogClient.Text.Composition
import CatalogClient.Text.NormalForm
import CatalogClient.Text.Joining
import CatalogClient.Text.Direction
import CatalogClient.Json.Fields
import CatalogClient.Json.Basic
import CatalogClient.Json.Datum
import CatalogClient.Json.Writer
import CatalogClient.Json.Fault
import CatalogClient.Json.Message
import CatalogClient.Json.Scanner
import CatalogClient.Json.Structure
import CatalogClient.Json.Reader
import CatalogClient.Json.Format
import CatalogClient.Options
import CatalogClient.Shape
import CatalogClient.Status
import CatalogClient.Request.Basic
import CatalogClient.Request.Form
import CatalogClient.Request.Encoding
import CatalogClient.Url.Punycode
import CatalogClient.Url.Domain.Letters
import CatalogClient.Url.Domain
import CatalogClient.Url.Host
import CatalogClient.Url.Path
import CatalogClient.Url.Credentials
import CatalogClient.Url.Basic
import CatalogClient.Header
import CatalogClient.Error
import CatalogClient.Response
import CatalogClient.Retry
import CatalogClient.Busy
import CatalogClient.Inspect
import CatalogClient.World
import CatalogClient.Client.Basic
import CatalogClient.Client.Calls
import CatalogClient.Client.Reaction
import CatalogClient.Client.Flight
import CatalogClient.Catalog
import CatalogClient.Main
import CatalogClient.Proofs.Activity
import CatalogClient.Proofs.Attempts
import CatalogClient.Proofs.Run
import CatalogClient.Proofs.Budget
import CatalogClient.Proofs.Flight
import CatalogClient.Proofs.Calls
import CatalogClient.Proofs.ManualRetry
import CatalogClient.Proofs.Busy
import CatalogClient.Proofs.Traffic
import CatalogClient.Proofs.Form
import CatalogClient.Proofs.Json.Tokens
import CatalogClient.Proofs.Json.ReadBack
import CatalogClient.Proofs.Prepare
import CatalogClient.Proofs.Document
import CatalogClient.Proofs.Splice
import CatalogClient.Proofs.Query
import CatalogClient.Proofs.Delivery
import CatalogClient.Proofs.Classification
import CatalogClient.Proofs.Wire
import CatalogClient.Proofs.Awaited
import CatalogClient.Proofs.Json.Skipped
import CatalogClient.Proofs.Json.Written
import CatalogClient.Proofs.Json.FieldOrder
import CatalogClient.Proofs.Json.TwoPaths
import CatalogClient.Proofs.Decoding
import CatalogClient.Proofs.Encoding
import CatalogClient.Proofs.Families
import CatalogClient.Proofs.Host
import CatalogClient.Proofs.GivenUrl
import CatalogClient.Proofs.Past
import CatalogClient.Proofs.Refusal
import CatalogClient.Proofs.Headers
import CatalogClient.Proofs.Beginning
import CatalogClient.Proofs.LargerBudget
import CatalogClient.Proofs.Binary64.Rounding
import CatalogClient.Proofs.Binary64.Height
import CatalogClient.Proofs.Backoff
import CatalogClient.Proofs.Delays
import CatalogClient.Proofs.ResponseText
import CatalogClient.Proofs.Log
import CatalogClient.Proofs.Outline
import CatalogClient.Proofs.Json.Grammar
import CatalogClient.Proofs.Json.WellFormed
import CatalogClient.Proofs.Json.Numbers
import CatalogClient.Proofs.Json.Spelled
import CatalogClient.Proofs.PartialOptions
