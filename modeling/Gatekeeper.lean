import Gatekeeper.Backend.Basic
import Gatekeeper.Backend.Defect
import Gatekeeper.Backend.FailPoint
import Gatekeeper.Backend.Memory
import Gatekeeper.Codec.Base64
import Gatekeeper.Codec.Hex
import Gatekeeper.Codec.Percent
import Gatekeeper.Codec.Utf8
import Gatekeeper.Collection.Directory
import Gatekeeper.Collection.Roster
import Gatekeeper.Command.Search
import Gatekeeper.Command.Simulate
import Gatekeeper.Command.Transcript
import Gatekeeper.Config
import Gatekeeper.Contract.Basic
import Gatekeeper.Contract.Branch
import Gatekeeper.Contract.Finding
import Gatekeeper.Contract.Search
import Gatekeeper.Credentials
import Gatekeeper.Failure
import Gatekeeper.Form.Complaint
import Gatekeeper.Form.Field
import Gatekeeper.Hash.Hmac
import Gatekeeper.Hash.Pbkdf2
import Gatekeeper.Hash.Sha256
import Gatekeeper.Http.Authorization
import Gatekeeper.Http.Host
import Gatekeeper.Http.Message
import Gatekeeper.Http.Payload
import Gatekeeper.Http.Route
import Gatekeeper.Http.Service
import Gatekeeper.Json.Basic
import Gatekeeper.Json.Decimal
import Gatekeeper.Json.Encoding
import Gatekeeper.Json.Printer
import Gatekeeper.Json.Reader
import Gatekeeper.Json.Showable
import Gatekeeper.Json.Token
import Gatekeeper.Log
import Gatekeeper.Main
import Gatekeeper.Password
import Gatekeeper.Password.Fresh
import Gatekeeper.Random.Source
import Gatekeeper.Random.Twister
import Gatekeeper.Rule
import Gatekeeper.Salt
import Gatekeeper.Secret
import Gatekeeper.Shrink.Basic
import Gatekeeper.Shrink.Deletion
import Gatekeeper.Shrink.Simplification
import Gatekeeper.Shrink.Subsequence
import Gatekeeper.Simulation.Criterion
import Gatekeeper.Simulation.Generator
import Gatekeeper.Simulation.Lockstep
import Gatekeeper.Simulation.Operation
import Gatekeeper.Simulation.Oracle
import Gatekeeper.Simulation.Outcome
import Gatekeeper.Simulation.Replay
import Gatekeeper.Simulation.Script
import Gatekeeper.Simulation.Trial
import Gatekeeper.Store.Activity
import Gatekeeper.Store.Basic
import Gatekeeper.Store.Method
import Gatekeeper.Store.Step
import Gatekeeper.Template.Layout
import Gatekeeper.Template.Piece
import Gatekeeper.Template.Render
import Gatekeeper.Template.Value
import Gatekeeper.Text.Blank
import Gatekeeper.Text.Digit
import Gatekeeper.Text.Integer
import Gatekeeper.Text.LooseInteger
import Gatekeeper.Text.Printable
import Gatekeeper.Text.Quoted
import Gatekeeper.Text.Split
import Gatekeeper.Text.UpperCase
import Gatekeeper.UserId
import Gatekeeper.Proofs.Shrink.Deletion
import Gatekeeper.Proofs.Shrink.Fixpoint
import Gatekeeper.Proofs.Shrink.Minimality
import Gatekeeper.Proofs.Codec.Base64
import Gatekeeper.Proofs.Codec.Hex
import Gatekeeper.Proofs.Codec.Percent
import Gatekeeper.Proofs.Password.Format
import Gatekeeper.Proofs.Store.Activity
import Gatekeeper.Proofs.Store.Call
import Gatekeeper.Proofs.Simulation.Oracle
import Gatekeeper.Proofs.Run
import Gatekeeper.Proofs.Simulation.Aligned
import Gatekeeper.Proofs.Simulation.Refinement
import Gatekeeper.Proofs.Store.Effect
import Gatekeeper.Proofs.Simulation.Replay
import Gatekeeper.Proofs.Store.Refusal
import Gatekeeper.Proofs.Store.History
import Gatekeeper.Proofs.Codec.Utf8
import Gatekeeper.Proofs.Store.Login
import Gatekeeper.Proofs.Store.Handover
import Gatekeeper.Proofs.Store.Renaming
import Gatekeeper.Proofs.Store.Secrecy
import Gatekeeper.Proofs.Store.Regular
import Gatekeeper.Proofs.Contract.Check
import Gatekeeper.Proofs.Contract.Login
import Gatekeeper.Proofs.Simulation.Trial
import Gatekeeper.Proofs.Store.Atomic
import Gatekeeper.Proofs.Store.Transparent
import Gatekeeper.Proofs.Store.Relation
import Gatekeeper.Proofs.Store.Separation
import Gatekeeper.Proofs.Shrink.Reduction
import Gatekeeper.Proofs.Simulation.Entrants
import Gatekeeper.Proofs.Simulation.Admission
import Gatekeeper.Proofs.Store.Overwrite
import Gatekeeper.Proofs.Simulation.Planted
import Gatekeeper.Proofs.Simulation.Overwrite
import Gatekeeper.Proofs.Contract.Exact
import Gatekeeper.Proofs.Store.Permanence
import Gatekeeper.Proofs.Http.Reading
import Gatekeeper.Proofs.Http.Status
import Gatekeeper.Proofs.Http.Refinement
import Gatekeeper.Proofs.Http.Secret
import Gatekeeper.Proofs.Http.Authorization
import Gatekeeper.Proofs.Http.Login
import Gatekeeper.Proofs.Template.Fitting
import Gatekeeper.Proofs.Store.Enrolment
import Gatekeeper.Proofs.Store.Secret
import Gatekeeper.Proofs.Http.Apps
import Gatekeeper.Proofs.Shrink.Origin
import Gatekeeper.Proofs.Shrink.Descent
import Gatekeeper.Proofs.Shrink.Loop
import Gatekeeper.Proofs.Simulation.Subject
import Gatekeeper.Proofs.Password.Fresh
import Gatekeeper.Proofs.Password.Verification
import Gatekeeper.Proofs.Http.Header
import Gatekeeper.Proofs.Simulation.Logins
import Gatekeeper.Proofs.Shrink.Candidates
import Gatekeeper.Proofs.Simulation.Domain
import Gatekeeper.Proofs.Text.LooseInteger
import Gatekeeper.Proofs.Config
