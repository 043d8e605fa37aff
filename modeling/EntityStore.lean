import EntityStore.Config.Connection
import EntityStore.Declaration.Blueprint
import EntityStore.Memory.Store
import EntityStore.Postgres.Store
import EntityStore.Proofs.Sql.Written
import EntityStore.Repository.Migration
import EntityStore.Repository.Read
import EntityStore.Repository.Transaction
import EntityStore.Sample.Schema
import EntityStore.Proofs.Sql.Binding
import EntityStore.Proofs.Memory.Like
import EntityStore.Proofs.Memory.ThreeValued
import EntityStore.Proofs.Predicate.Restriction
import EntityStore.Proofs.Sql.Precedence
import EntityStore.Proofs.Store.Step
import EntityStore.Proofs.Memory.Step
import EntityStore.Proofs.Record
import EntityStore.Proofs.Value
import EntityStore.Proofs.Memory.Isolation
import EntityStore.Proofs.Memory.Uniqueness
import EntityStore.Proofs.Memory.Refusal
import EntityStore.Proofs.Memory.Required
import EntityStore.Proofs.Memory.Counter
import EntityStore.Proofs.Repository.Operation
import EntityStore.Proofs.Repository.Nesting
import EntityStore.Proofs.Repository.KeyOperation
import EntityStore.Proofs.Repository.Creation
import EntityStore.Proofs.Postgres.Join
import EntityStore.Proofs.Postgres.Transaction
import EntityStore.Proofs.Repository.Lifecycle
import EntityStore.Proofs.Number.Width
import EntityStore.Proofs.Number.Order
import EntityStore.Proofs.Repository.ReadBack
import EntityStore.Proofs.Memory.Count
import EntityStore.Proofs.Store.Closed
import EntityStore.Proofs.Repository.Preload
import EntityStore.Proofs.Repository.Migration
import EntityStore.Proofs.Repository.Validation
import EntityStore.Proofs.Postgres.Naming
import EntityStore.Proofs.Convert
import EntityStore.Proofs.Declaration
import EntityStore.Proofs.Postgres.Wire
import EntityStore.Proofs.Sql.Spelling
import EntityStore.Proofs.Memory.Answer
import EntityStore.Proofs.Repository.First
import EntityStore.Proofs.Memory.Agreement
import EntityStore.Proofs.Memory.Batch
import EntityStore.Proofs.Memory.Drawn
import EntityStore.Proofs.Predicate.Template
import EntityStore.Proofs.Repository.Numbering
import EntityStore.Proofs.Sql.Fragment
import EntityStore.Proofs.Sql.Expression
import EntityStore.Proofs.Postgres.Insertion
import EntityStore.Proofs.Memory.Even
import EntityStore.Proofs.Memory.Aggregate
import EntityStore.Proofs.Memory.Sum
import EntityStore.Proofs.Repository.Indexing
import EntityStore.Proofs.Config.Dsn
import EntityStore.Proofs.Config.Expand
import EntityStore.Proofs.Query.Compilation
import EntityStore.Proofs.Record.History
