import EntityStore.Hook
import EntityStore.Schema

/-!
# Declarations of entities

A declaration is an entity as its author wrote it: fields with types and attributes. What is
wrong with one is a `Declaration.Fault`.
-/

namespace EntityStore

inductive Literal where
  | text (s : String)
  | number (n : Int)
  /-- Any other literal, which no attribute takes. -/
  | other
deriving DecidableEq, Repr

/-- `path`, `path = value` or `path(items)`. -/
inductive Attribute where
  | flag (path : String)
  | assign (path : String) (value : Literal)
  | list (path : String) (items : List Attribute)

namespace Attribute

instance : Inhabited Attribute := ⟨.flag ""⟩

def path : Attribute → String
  | .flag path | .assign path _ | .list path _ => path

end Attribute

structure Declaration.Field where
  name : String
  type : String
  attributes : List Attribute

/-- What kind of type is declared. Entities are made of records only. -/
inductive Declaration.Kind where
  | record
  | tuple
  | unit
  | choice
deriving DecidableEq, Repr

structure Declaration where
  name : String
  kind : Declaration.Kind
  attributes : List Attribute
  fields : List Declaration.Field

/-- The attribute that declares a relation. -/
def RelationKind.keyword : RelationKind → String
  | .hasMany => "has_many"
  | .hasOne => "has_one"
  | .belongsTo => "belongs_to"

namespace Declaration

inductive Fault where
  | unnamedFields
  | noRecord
  | noColumn
  | attribute
  | hook
  | fieldAttribute
  | relationAttribute
  | foreignKeyMissing (kind : RelationKind)
  | nullConflict
  | scaleAlone
  | relationIsColumn
  | relationShape (kind : RelationKind)
  /-- An attribute is not written as its kind demands. -/
  | malformed
  /-- No column holds values of the type. -/
  | unsupportedType (type : String)
deriving DecidableEq, Repr

def Fault.message : Fault → String
  | .unnamedFields => "Entity can only be derived for structs with named fields"
  | .noRecord => "Entity can only be derived for structs"
  | .noColumn => "Entity needs at least one persisted field"
  | .attribute => "unknown orm attribute; expected `table` or `hooks`"
  | .hook => "unknown hook"
  | .fieldAttribute => "unknown orm field attribute"
  | .relationAttribute => "expected `foreign_key`, `references` or `table`"
  | .foreignKeyMissing kind => kind.keyword ++ " requires foreign_key = \"...\""
  | .nullConflict => "`not_null` and `nullable` conflict"
  | .scaleAlone => "`scale` requires `precision`"
  | .relationIsColumn => "a relation field cannot also be a column or skipped"
  | .relationShape .hasMany => "has_many fields must be Vec<T>"
  | .relationShape _ => "has_one and belongs_to fields must be Option<T>"
  | .malformed => "malformed attribute"
  | .unsupportedType type => "unsupported column type " ++ type

end Declaration

end EntityStore
