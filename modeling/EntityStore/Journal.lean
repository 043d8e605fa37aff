import EntityStore.Hook
import EntityStore.Record

/-!
# Journals

A journal lists what a session did, in order: the hooks that ran, what was asked of the store,
the failures that a hook observer was told of, and the lines written to the log.
-/

namespace EntityStore

inductive LogLevel where
  | debug
  | warn
deriving DecidableEq, Repr

def LogLevel.text : LogLevel → String
  | .debug => "DEBUG"
  | .warn => "WARN"

inductive LogValue where
  | text (s : String)
  | count (n : Nat)
  | flag (b : Bool)
deriving DecidableEq, Repr

/-- A line of the log, with named fields beside its message. -/
structure LogLine where
  level : LogLevel
  target : String
  message : Option String
  fields : List (String × LogValue)
deriving DecidableEq, Repr

/-- What is asked of a store, without its arguments. -/
inductive Verb where
  | select | count | insert | update | delete | rawQuery | rawExec | hasTable | createTable
  | dropTable | migrateTable | tableColumns | hasIndex | createIndex | dropIndex | ping
  | begin | commit | rollback | savepoint | rollbackTo | release | abandon
deriving DecidableEq, Repr

inductive Event where
  | hook (point : HookPoint) (entity : Record)
  | asked (verb : Verb)
  /-- The observer was told that a hook failed after its operation had succeeded. -/
  | observed (entity : String) (point : HookPoint) (error : String)
  | log (line : LogLine)

end EntityStore
