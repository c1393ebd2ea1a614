import CodeReview.Account
import CodeReview.Account.Lookup
import CodeReview.Account.Provision
import CodeReview.Account.Resolve
import CodeReview.Account.Summary
import CodeReview.AccountSet
import CodeReview.ApiError
import CodeReview.AuthType
import CodeReview.Calendar
import CodeReview.Caller
import CodeReview.Change
import CodeReview.Change.Lookup
import CodeReview.Change.Query
import CodeReview.Change.Render
import CodeReview.Change.Report
import CodeReview.Command.Database
import CodeReview.Command.Folder
import CodeReview.Command.Invocation
import CodeReview.Command.Location
import CodeReview.Command.Path
import CodeReview.Command.Run
import CodeReview.Command.Words
import CodeReview.Contribution
import CodeReview.Decimal.Shortest
import CodeReview.Directory.Basic
import CodeReview.Directory.Entry
import CodeReview.Directory.Gateway
import CodeReview.Domain.Direction
import CodeReview.Domain.Joining
import CodeReview.Domain.Mapping
import CodeReview.Domain.Marks
import CodeReview.Domain.Name
import CodeReview.Domain.Punycode
import CodeReview.Domain.Rows
import CodeReview.Group
import CodeReview.Group.Access
import CodeReview.Group.MembersInput
import CodeReview.Group.Membership
import CodeReview.Hash.Blake3
import CodeReview.Http.Address
import CodeReview.Http.Escape
import CodeReview.Http.Host
import CodeReview.Http.Message
import CodeReview.Http.Route
import CodeReview.Http.Service
import CodeReview.Http.Status
import CodeReview.Identifier
import CodeReview.InputError
import CodeReview.Json.Basic
import CodeReview.Json.Number
import CodeReview.Json.Printer
import CodeReview.Json.Quoted
import CodeReview.Json.Reader
import CodeReview.Json.Record
import CodeReview.Label
import CodeReview.Main
import CodeReview.ObjectId
import CodeReview.OutputOption
import CodeReview.Proofs.Account.Lookup
import CodeReview.Proofs.Account.Matching
import CodeReview.Proofs.Account.Provisioning
import CodeReview.Proofs.Account.Repeated
import CodeReview.Proofs.Account.Resolution
import CodeReview.Proofs.Account.RoundTrip
import CodeReview.Proofs.Action
import CodeReview.Proofs.Change.Reading
import CodeReview.Proofs.Change.RoundTrip
import CodeReview.Proofs.Group.Access
import CodeReview.Proofs.Group.Membership
import CodeReview.Proofs.Group.RoundTrip
import CodeReview.Proofs.Http.Service
import CodeReview.Proofs.Identifier
import CodeReview.Proofs.Json.Record
import CodeReview.Proofs.Json.RoundTrip
import CodeReview.Proofs.Store.Distinct
import CodeReview.Proofs.Store.Fingerprint
import CodeReview.Proofs.Store.GroupRuns
import CodeReview.Proofs.Store.Groups
import CodeReview.Proofs.Store.Growth
import CodeReview.Proofs.Store.History
import CodeReview.Proofs.Store.Log
import CodeReview.Proofs.Store.Reachable
import CodeReview.Proofs.Store.Runs
import CodeReview.Proofs.Store.View
import CodeReview.Proofs.Text.Blank
import CodeReview.Proofs.Text.Digits
import CodeReview.Settings
import CodeReview.Site
import CodeReview.Snapshot
import CodeReview.Store.Basic
import CodeReview.Store.Error
import CodeReview.Store.Memory
import CodeReview.Store.Saved
import CodeReview.Store.Schema
import CodeReview.Store.Tables
import CodeReview.Text.Blank
import CodeReview.Text.Hex
import CodeReview.Text.Numeral
import CodeReview.Text.Percent
import CodeReview.Text.Utf8
import CodeReview.Uuid
import CodeReview.World
import CodeReview.Proofs.Group.Opening
import CodeReview.Proofs.Group.Repeated
import CodeReview.Proofs.Http.Repeated
import CodeReview.Proofs.Account.Admission
import CodeReview.Proofs.Account.Shadowing
import CodeReview.Proofs.Store.Deletion
import CodeReview.Proofs.Group.Concealed
import CodeReview.Proofs.Http.Concealed
import CodeReview.Proofs.Group.Sessions
import CodeReview.Proofs.Account.Returning
import CodeReview.Proofs.Store.AccountRuns
import CodeReview.Proofs.Group.Unreported
import CodeReview.Proofs.Json.Containment
import CodeReview.Proofs.Change.Shown
import CodeReview.Proofs.Change.Options
import CodeReview.Proofs.Store.Members
import CodeReview.Proofs.Store.Later
import CodeReview.Proofs.Text.Query
import CodeReview.Proofs.Http.Pinned
import CodeReview.Proofs.Orderly
import CodeReview.Proofs.Group.Unreached
import CodeReview.Proofs.Http.Served
import CodeReview.Proofs.Text.Utf8
import CodeReview.Proofs.Uuid
import CodeReview.Proofs.Group.Naming
import CodeReview.Proofs.Json.Sorted
import CodeReview.Proofs.Change.Plain
import CodeReview.Proofs.Undated
import CodeReview.Proofs.Group.MembersInput
import CodeReview.Proofs.Http.Target
import CodeReview.Proofs.Command.Requests
import CodeReview.Proofs.Command.Agreement
import CodeReview.Proofs.Text.Numeral
import CodeReview.Proofs.Store.Keys
import CodeReview.Proofs.Account.Naming
import CodeReview.Proofs.Change.Naming
import CodeReview.Proofs.Change.Votes
import CodeReview.Proofs.Change.Revisions
import CodeReview.Proofs.Change.Contributions
import CodeReview.Proofs.ObjectId
import CodeReview.Proofs.OutputOption
import CodeReview.Proofs.Change.Query
import CodeReview.Proofs.Change.Attributes
import CodeReview.Proofs.Group.Named
import CodeReview.Proofs.Text.Order
import CodeReview.Proofs.Calendar.Days
import CodeReview.Proofs.Calendar.Timestamps
import CodeReview.Proofs.Http.Listed
import CodeReview.Proofs.Http.Tags
import CodeReview.Proofs.Account.Asking
import CodeReview.Proofs.Http.Address
import CodeReview.Proofs.Http.Gateway
import CodeReview.Proofs.OptionMask
import CodeReview.Proofs.Change.Sizes
