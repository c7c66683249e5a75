import Outreach.Api.Action
import Outreach.Api.Application
import Outreach.Api.Content
import Outreach.Api.Environment
import Outreach.Api.Perform
import Outreach.Api.Route
import Outreach.Audience.Estimate
import Outreach.Audience.Membership
import Outreach.Audience.Scan
import Outreach.Calendar.Date
import Outreach.Calendar.Instant
import Outreach.Calendar.Iso
import Outreach.Calendar.Moment
import Outreach.Campaign.Basic
import Outreach.Campaign.Catalogue
import Outreach.Campaign.Sending
import Outreach.Campaign.View
import Outreach.Customer.Basic
import Outreach.Customer.Directory
import Outreach.Customer.Profile
import Outreach.Customer.View
import Outreach.Delivery.Log
import Outreach.Delivery.Message
import Outreach.Delivery.Metrics
import Outreach.Delivery.Status
import Outreach.Delivery.Tracking
import Outreach.Delivery.Trial
import Outreach.Delivery.View
import Outreach.Digest.Keyed
import Outreach.Digest.Sha256
import Outreach.Digest.Sha512
import Outreach.Domain.Direction
import Outreach.Domain.Folding
import Outreach.Domain.Label
import Outreach.Domain.Letter
import Outreach.Domain.Punycode
import Outreach.Email.Address
import Outreach.Email.Character
import Outreach.Email.Flaw
import Outreach.Email.Host
import Outreach.Email.Mailbox
import Outreach.Email.Parts
import Outreach.Form.Encoding
import Outreach.Http.Cookie
import Outreach.Http.Cors
import Outreach.Http.Message
import Outreach.Http.Target
import Outreach.Json.Reader
import Outreach.Json.Writer
import Outreach.Number.Binary64
import Outreach.Number.Decimal
import Outreach.Number.Shortest
import Outreach.Order.Basic
import Outreach.Order.Intake
import Outreach.Order.View
import Outreach.Problem.Detail
import Outreach.Problem.Draft
import Outreach.Problem.Refusal
import Outreach.Proofs.Api.Body
import Outreach.Proofs.Api.Hardened
import Outreach.Proofs.Api.Paged
import Outreach.Proofs.Api.Readable
import Outreach.Proofs.Api.References
import Outreach.Proofs.Api.Refused
import Outreach.Proofs.Api.Shown
import Outreach.Proofs.Api.Step
import Outreach.Proofs.Api.Stranger
import Outreach.Proofs.Api.Write
import Outreach.Proofs.Audience.Agreement
import Outreach.Proofs.Audience.Estimates
import Outreach.Proofs.Audience.Members
import Outreach.Proofs.Audience.Scan
import Outreach.Proofs.Audience.Stream
import Outreach.Proofs.Calendar.Epoch
import Outreach.Proofs.Calendar.Exchange
import Outreach.Proofs.Calendar.Iso
import Outreach.Proofs.Campaign.Messages
import Outreach.Proofs.Campaign.Once
import Outreach.Proofs.Campaign.Ready
import Outreach.Proofs.Campaign.Sending
import Outreach.Proofs.Campaign.Shown
import Outreach.Proofs.Customer.Address
import Outreach.Proofs.Customer.Forms
import Outreach.Proofs.Customer.Imported
import Outreach.Proofs.Customer.Search
import Outreach.Proofs.Customer.Shown
import Outreach.Proofs.Customer.Sorted
import Outreach.Proofs.Customer.Spend
import Outreach.Proofs.Delivery.Census
import Outreach.Proofs.Delivery.Journey
import Outreach.Proofs.Delivery.Moves
import Outreach.Proofs.Delivery.Placeholders
import Outreach.Proofs.Email.Plain
import Outreach.Proofs.Email.Whole
import Outreach.Proofs.Form.RoundTrip
import Outreach.Proofs.Http.Cookie
import Outreach.Proofs.Json.Document
import Outreach.Proofs.Json.Identity
import Outreach.Proofs.Json.Numeral
import Outreach.Proofs.Json.Tree
import Outreach.Proofs.Json.Written
import Outreach.Proofs.Number.Compared
import Outreach.Proofs.Number.Exact
import Outreach.Proofs.Number.Quotient
import Outreach.Proofs.Order.RollUp
import Outreach.Proofs.Order.Shown
import Outreach.Proofs.Outcome
import Outreach.Proofs.Problem.Told
import Outreach.Proofs.Rule.Complement
import Outreach.Proofs.Rule.Cycle
import Outreach.Proofs.Rule.Declared
import Outreach.Proofs.Rule.Dependence
import Outreach.Proofs.Rule.Dual
import Outreach.Proofs.Rule.Evaluation
import Outreach.Proofs.Rule.Exact
import Outreach.Proofs.Rule.Fault
import Outreach.Proofs.Rule.Grammar
import Outreach.Proofs.Rule.Instants
import Outreach.Proofs.Rule.Offence
import Outreach.Proofs.Rule.Quoted
import Outreach.Proofs.Rule.Reading
import Outreach.Proofs.Rule.Renamed
import Outreach.Proofs.Rule.Reordered
import Outreach.Proofs.Rule.Resembling
import Outreach.Proofs.Rule.RoundTrip
import Outreach.Proofs.Rule.Unfolded
import Outreach.Proofs.Rule.Uniform
import Outreach.Proofs.Rule.Written
import Outreach.Proofs.Schema.Accepted
import Outreach.Proofs.Schema.Again
import Outreach.Proofs.Segment.Changed
import Outreach.Proofs.Segment.Counted
import Outreach.Proofs.Segment.Shown
import Outreach.Proofs.Segment.Stored
import Outreach.Proofs.Session.Issued
import Outreach.Proofs.Session.Lifetime
import Outreach.Proofs.SignIn.Callback
import Outreach.Proofs.SignIn.Completion
import Outreach.Proofs.SignIn.Consent
import Outreach.Proofs.SignIn.Session
import Outreach.Proofs.Store.Listing
import Outreach.Proofs.Store.Table
import Outreach.Proofs.Text.Base64
import Outreach.Proofs.Text.Integer
import Outreach.Proofs.Text.Replacement
import Outreach.Proofs.Text.Utf8
import Outreach.Proofs.User.Stored
import Outreach.Proofs.Value.Sameness
import Outreach.Proofs.Value.Substitution
import Outreach.Rule.Basic
import Outreach.Rule.Error
import Outreach.Rule.Evaluation
import Outreach.Rule.Field
import Outreach.Rule.NormalForm
import Outreach.Rule.Operator
import Outreach.Rule.Parser
import Outreach.Schema.Catalogue
import Outreach.Schema.Checked
import Outreach.Schema.Dump
import Outreach.Schema.Instant
import Outreach.Schema.Issue
import Outreach.Schema.Number
import Outreach.Schema.Vocabulary
import Outreach.Segment.Basic
import Outreach.Segment.Catalogue
import Outreach.Segment.View
import Outreach.Session.Token
import Outreach.Settings
import Outreach.SignIn.Callback
import Outreach.SignIn.Exchange
import Outreach.Store.Column
import Outreach.Store.Database
import Outreach.Store.Insertion
import Outreach.Store.Listing
import Outreach.Store.Outcome
import Outreach.Store.Stamp
import Outreach.Store.Table
import Outreach.Text.Alphanumeric
import Outreach.Text.Base64
import Outreach.Text.CharacterName
import Outreach.Text.Codes
import Outreach.Text.Composition
import Outreach.Text.Digit
import Outreach.Text.Half
import Outreach.Text.Hex
import Outreach.Text.Mark
import Outreach.Text.Parts
import Outreach.Text.Pattern
import Outreach.Text.Printable
import Outreach.Text.Quoted
import Outreach.Text.Utf8
import Outreach.Tracing.Log
import Outreach.User.Basic
import Outreach.User.Registry
import Outreach.Value.Basic
import Outreach.Value.Literal
import Outreach.Value.Same
import Outreach.Value.Shared
import Outreach.Value.Whole
