import CounterCache.Binary
import CounterCache.Data.KeyMap
import CounterCache.Data.KeySet
import CounterCache.Decimal.Binary
import CounterCache.Decimal.Digits
import CounterCache.Decimal.Text
import CounterCache.Engine.Backend
import CounterCache.Engine.Catalog
import CounterCache.Engine.Controller
import CounterCache.Engine.Controller.Reads
import CounterCache.Engine.Controller.Writes
import CounterCache.Engine.Dispatch
import CounterCache.Engine.Keys
import CounterCache.Engine.Lifecycle
import CounterCache.Engine.Model
import CounterCache.Engine.Record
import CounterCache.Engine.Repository
import CounterCache.Engine.Status
import CounterCache.Error
import CounterCache.Journal.Checksum
import CounterCache.Journal.Directory
import CounterCache.Journal.FileName
import CounterCache.Journal.Record
import CounterCache.Json.Reader
import CounterCache.Lua.Arith
import CounterCache.Lua.Builtin
import CounterCache.Lua.Code.Binary
import CounterCache.Lua.Code.Compile
import CounterCache.Lua.Code.Gen
import CounterCache.Lua.Code.Instr
import CounterCache.Lua.Code.Names
import CounterCache.Lua.Code.Proto
import CounterCache.Lua.Code.State
import CounterCache.Lua.Double
import CounterCache.Lua.Execute
import CounterCache.Lua.Lexer
import CounterCache.Lua.Library.Args
import CounterCache.Lua.Library.Base
import CounterCache.Lua.Library.Coroutine
import CounterCache.Lua.Library.Date
import CounterCache.Lua.Library.Format
import CounterCache.Lua.Library.Math
import CounterCache.Lua.Library.Pattern
import CounterCache.Lua.Library.Registry
import CounterCache.Lua.Library.Strings
import CounterCache.Lua.Library.System
import CounterCache.Lua.Library.Tables
import CounterCache.Lua.Library.Utf8
import CounterCache.Lua.Machine
import CounterCache.Lua.Numeral
import CounterCache.Lua.Operator
import CounterCache.Lua.Ops
import CounterCache.Lua.Raise
import CounterCache.Lua.Run
import CounterCache.Lua.Table
import CounterCache.Lua.Value
import CounterCache.Options
import CounterCache.Proofs.Rollback
import CounterCache.Proofs.Undo
import CounterCache.Script.Eval
import CounterCache.Script.Template
import CounterCache.Script.Template.Render
import CounterCache.Script.Template.Run
import CounterCache.Store.Batch
import CounterCache.Store.Batch.Codec
import CounterCache.Store.Command
import CounterCache.Store.Journaled
import CounterCache.Store.Keyspace
import CounterCache.Store.Reply
import CounterCache.Store.Scripted
import CounterCache.Store.SortedSet
import CounterCache.Store.Transaction
import CounterCache.Store.Value
import CounterCache.Text.Blank
import CounterCache.Text.Decimal
import CounterCache.Text.GraphemeExtend
import CounterCache.Text.Printable
import CounterCache.Text.Utf8
import CounterCache.Proofs.RecordCounts
import CounterCache.Proofs.Utf8
import CounterCache.Proofs.BatchCodec
import CounterCache.Proofs.JournalRecovery
import CounterCache.Proofs.BatchReplay
import CounterCache.Proofs.JournalCheckpoint
import CounterCache.Proofs.StoreReplay
import CounterCache.Proofs.FailedCommand
import CounterCache.Proofs.PrintedIntegers
import CounterCache.Proofs.FloorDecrement
import CounterCache.Proofs.TemplateRuns
import CounterCache.Proofs.Exclusion
import CounterCache.Proofs.KeyLayout
import CounterCache.Proofs.ScriptFootprints
import CounterCache.Proofs.ContentRemoval
import CounterCache.Proofs.FailedBatch
import CounterCache.Proofs.HashCreation
import CounterCache.Proofs.RecordExclusion
import CounterCache.Proofs.ControllerSteps
import CounterCache.Proofs.DescendingRange
import CounterCache.Proofs.SortedSetScores
import CounterCache.Proofs.KeyCollisions
import CounterCache.Proofs.ExpiryArithmetic
import CounterCache.Proofs.CommandText
import CounterCache.Proofs.EmptyContainers
import CounterCache.Proofs.SequenceTables
import CounterCache.Proofs.LuaReplies
import CounterCache.Proofs.FieldWrites
import CounterCache.Proofs.Rehydration
import CounterCache.Proofs.EngagementSteps
import CounterCache.Proofs.ContentLifecycle
import CounterCache.Proofs.DeletedContent
