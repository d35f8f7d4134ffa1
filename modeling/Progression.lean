import Progression.Backoff
import Progression.Basic
import Progression.Bytes
import Progression.CacheServer
import Progression.Catalogue
import Progression.Database.Row
import Progression.Database.Schema
import Progression.Database.Statement
import Progression.Decimal
import Progression.Envelope
import Progression.Fault
import Progression.Gateway.Client
import Progression.Gateway.Retry
import Progression.Gateway.Url
import Progression.Host.Address
import Progression.Host.CodeTable
import Progression.Host.Composed
import Progression.Host.Direction
import Progression.Host.Joining
import Progression.Host.Name
import Progression.Host.Punycode
import Progression.Host.Respelling
import Progression.Http.Form
import Progression.Http.MediaType
import Progression.Http.Message
import Progression.Http.Router
import Progression.Json.Coded
import Progression.Json.Forms
import Progression.Json.Magnitude
import Progression.Json.Text
import Progression.Json.Token
import Progression.Json.Tree
import Progression.LevelUp
import Progression.Plan
import Progression.Proofs.Abiding
import Progression.Proofs.Afresh
import Progression.Proofs.Agreement
import Progression.Proofs.Answering
import Progression.Proofs.Attempts
import Progression.Proofs.Bank
import Progression.Proofs.Bodies
import Progression.Proofs.Books
import Progression.Proofs.Breaking
import Progression.Proofs.Budget
import Progression.Proofs.CacheRoundTrip
import Progression.Proofs.Calm
import Progression.Proofs.Concealment
import Progression.Proofs.Conflict
import Progression.Proofs.Conservation
import Progression.Proofs.Course
import Progression.Proofs.Customs
import Progression.Proofs.Dangling
import Progression.Proofs.Deadline
import Progression.Proofs.Debts
import Progression.Proofs.Departure
import Progression.Proofs.Dictation
import Progression.Proofs.Ending
import Progression.Proofs.Failing
import Progression.Proofs.Healing
import Progression.Proofs.Hearsay
import Progression.Proofs.Holdings
import Progression.Proofs.Interleaving
import Progression.Proofs.Isolation
import Progression.Proofs.JsonRoundTrip
import Progression.Proofs.Knowledge
import Progression.Proofs.Ladder
import Progression.Proofs.Layout
import Progression.Proofs.Leaving
import Progression.Proofs.Logging
import Progression.Proofs.Mending
import Progression.Proofs.Outlook
import Progression.Proofs.Overdraft
import Progression.Proofs.Overtaking
import Progression.Proofs.Pricing
import Progression.Proofs.Purchase
import Progression.Proofs.Questions
import Progression.Proofs.Reading
import Progression.Proofs.Reckoning
import Progression.Proofs.Recourse
import Progression.Proofs.Retrying
import Progression.Proofs.Saturation
import Progression.Proofs.Settlement
import Progression.Proofs.Skipping
import Progression.Proofs.Spelling
import Progression.Proofs.Stakes
import Progression.Proofs.Standing
import Progression.Proofs.Telling
import Progression.Proofs.Trailing
import Progression.Proofs.Tuning
import Progression.Proofs.Uncached
import Progression.Proofs.Viewing
import Progression.Proofs.Wardrobe
import Progression.Proofs.Way
import Progression.Proofs.Weaving
import Progression.Refusal
import Progression.Rehearsal.Disturbance
import Progression.Rehearsal.Performance
import Progression.Rehearsal.Script
import Progression.Rehearsal.Stage
import Progression.Rehearsal.World
import Progression.Service
import Progression.Settings
import Progression.Span
import Progression.Table
