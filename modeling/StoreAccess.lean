import StoreAccess.Backend.Config
import StoreAccess.Backend.Coordination
import StoreAccess.Backend.Document
import StoreAccess.Backend.KeyValue
import StoreAccess.Backend.Kind
import StoreAccess.Backend.Relational
import StoreAccess.Backend.StoreConfig
import StoreAccess.Backend.WideColumn
import StoreAccess.Bind.Binder
import StoreAccess.Bind.Decode
import StoreAccess.Bind.FieldValue
import StoreAccess.Bind.Record
import StoreAccess.Bind.Schema
import StoreAccess.Cache.Call
import StoreAccess.Cache.Lease
import StoreAccess.Cache.Machine
import StoreAccess.Cache.Notice
import StoreAccess.Cache.Probe
import StoreAccess.Cache.Rehearsal
import StoreAccess.Cache.Stats
import StoreAccess.Cache.Timeline
import StoreAccess.Calendar.Clues
import StoreAccess.Calendar.Date
import StoreAccess.Calendar.Moment
import StoreAccess.Calendar.Offset
import StoreAccess.Calendar.Pattern
import StoreAccess.Calendar.PatternRead
import StoreAccess.Calendar.PatternText
import StoreAccess.Config.CacheOptions
import StoreAccess.Config.Environment
import StoreAccess.Config.Fingerprint
import StoreAccess.Config.Pool
import StoreAccess.Config.Secret
import StoreAccess.Config.Settings
import StoreAccess.Data.Dict
import StoreAccess.Data.Duration
import StoreAccess.Data.Json
import StoreAccess.Data.JsonText
import StoreAccess.Data.Source
import StoreAccess.Declare.Record
import StoreAccess.Declare.Token
import StoreAccess.Declare.TypeExpr
import StoreAccess.Digest.Sha256
import StoreAccess.Error
import StoreAccess.Exchange.Described
import StoreAccess.Exchange.Fields
import StoreAccess.Exchange.Mysql
import StoreAccess.Exchange.Report
import StoreAccess.Exchange.Tables
import StoreAccess.Exchange.Tagged
import StoreAccess.Log
import StoreAccess.Mysql.Client
import StoreAccess.Mysql.Datum
import StoreAccess.Mysql.Dialogue
import StoreAccess.Mysql.Fault
import StoreAccess.Mysql.Rehearsal
import StoreAccess.Mysql.ResultSet
import StoreAccess.Mysql.Session
import StoreAccess.Number.Binary
import StoreAccess.Number.FloatLiteral
import StoreAccess.Number.IntLiteral
import StoreAccess.Number.IntType
import StoreAccess.Number.Shortest
import StoreAccess.Proofs.Bind.Capacity
import StoreAccess.Proofs.Bind.Columns
import StoreAccess.Proofs.Bind.Emptiness
import StoreAccess.Proofs.Bind.Floats
import StoreAccess.Proofs.Bind.Integers
import StoreAccess.Proofs.Bind.Maps
import StoreAccess.Proofs.Bind.Numbers
import StoreAccess.Proofs.Bind.Patterns
import StoreAccess.Proofs.Bind.Records
import StoreAccess.Proofs.Bind.Repetition
import StoreAccess.Proofs.Bind.Sequences
import StoreAccess.Proofs.Bind.Texts
import StoreAccess.Proofs.Bind.Timestamps
import StoreAccess.Proofs.Cache.Abandonment
import StoreAccess.Proofs.Cache.Attempts
import StoreAccess.Proofs.Cache.Calls
import StoreAccess.Proofs.Cache.Conservation
import StoreAccess.Proofs.Cache.Counts
import StoreAccess.Proofs.Cache.Deadlines
import StoreAccess.Proofs.Cache.Effects
import StoreAccess.Proofs.Cache.Evictions
import StoreAccess.Proofs.Cache.Gates
import StoreAccess.Proofs.Cache.Generations
import StoreAccess.Proofs.Cache.Grounds
import StoreAccess.Proofs.Cache.Leases
import StoreAccess.Proofs.Cache.Ledger
import StoreAccess.Proofs.Cache.Linearization
import StoreAccess.Proofs.Cache.Moves
import StoreAccess.Proofs.Cache.Origins
import StoreAccess.Proofs.Cache.Probes
import StoreAccess.Proofs.Cache.Progress
import StoreAccess.Proofs.Cache.Refusals
import StoreAccess.Proofs.Cache.Registry
import StoreAccess.Proofs.Cache.Rounds
import StoreAccess.Proofs.Cache.Runs
import StoreAccess.Proofs.Cache.SingleDial
import StoreAccess.Proofs.Cache.Solitude
import StoreAccess.Proofs.Cache.Stalls
import StoreAccess.Proofs.Cache.Tallies
import StoreAccess.Proofs.Cache.Termination
import StoreAccess.Proofs.Cache.Trials
import StoreAccess.Proofs.Cache.Verdicts
import StoreAccess.Proofs.Cache.Visits
import StoreAccess.Proofs.Cache.Ways
import StoreAccess.Proofs.Calendar.InternetTime
import StoreAccess.Proofs.Calendar.PlainTime
import StoreAccess.Proofs.Config.Accepted
import StoreAccess.Proofs.Config.Checks
import StoreAccess.Proofs.Config.References
import StoreAccess.Proofs.Config.Settings
import StoreAccess.Proofs.Data.Lists
import StoreAccess.Proofs.Data.Outcomes
import StoreAccess.Proofs.Declare.Alignment
import StoreAccess.Proofs.Declare.TypeNames
import StoreAccess.Proofs.Mysql.Cells
import StoreAccess.Proofs.Mysql.Dials
import StoreAccess.Proofs.Mysql.Echoes
import StoreAccess.Proofs.Mysql.Joins
import StoreAccess.Proofs.Mysql.Literals
import StoreAccess.Proofs.Mysql.Transcripts
import StoreAccess.Proofs.Number.BitPatterns
import StoreAccess.Proofs.Number.Decimal
import StoreAccess.Proofs.Number.FloatLiterals
import StoreAccess.Proofs.Number.Integers
import StoreAccess.Proofs.Number.Literals
import StoreAccess.Proofs.Number.Nearest
import StoreAccess.Proofs.Number.Rounding
import StoreAccess.Proofs.Number.ShortestText
import StoreAccess.Proofs.Secrecy.Caches
import StoreAccess.Proofs.Secrecy.Passwords
import StoreAccess.Proofs.Secrecy.Stores
import StoreAccess.Proofs.Secrecy.Timelines
import StoreAccess.Proofs.Sql.Lines
import StoreAccess.Proofs.Sql.Transactions
import StoreAccess.Proofs.Tabular.Families
import StoreAccess.Proofs.Target.Encoding
import StoreAccess.Proofs.Target.Identity
import StoreAccess.Proofs.Target.Steps
import StoreAccess.Proofs.Text.Utf8
import StoreAccess.Sql.Call
import StoreAccess.Sql.Rehearsal
import StoreAccess.Sql.Store
import StoreAccess.Tabular.Column
import StoreAccess.Tabular.Table
import StoreAccess.Text.Blank
import StoreAccess.Text.CharSet
import StoreAccess.Text.Hex
import StoreAccess.Text.Lower
import StoreAccess.Text.LowerTable
import StoreAccess.Text.PrintTable
import StoreAccess.Text.Quoted
import StoreAccess.Text.Utf8
import StoreAccess.Value
import StoreAccess.Yaml.Node
import StoreAccess.Yaml.Place
import StoreAccess.Yaml.Scalar
import StoreAccess.Yaml.Source
import StoreAccess.Yaml.Token
