/-!
# Lifecycle hooks

An entity may run code of its own around the operations of a repository. A hook that runs
before anything is written can stop the operation; the failure of one that runs afterwards is
only observed.
-/

namespace EntityStore

inductive HookPoint where
  | validate
  | beforeCreate
  | afterCreate
  | beforeUpdate
  | afterUpdate
  | beforeDelete
  | afterDelete
  | afterFind
deriving DecidableEq, Repr

namespace HookPoint

def all : List HookPoint :=
  [.validate, .beforeCreate, .afterCreate, .beforeUpdate, .afterUpdate, .beforeDelete,
    .afterDelete, .afterFind]

def text : HookPoint → String
  | .validate => "validate"
  | .beforeCreate => "before_create"
  | .afterCreate => "after_create"
  | .beforeUpdate => "before_update"
  | .afterUpdate => "after_update"
  | .beforeDelete => "before_delete"
  | .afterDelete => "after_delete"
  | .afterFind => "after_find"

/-- Whether a failure at this point stops the operation. -/
def aborts : HookPoint → Bool
  | .validate | .beforeCreate | .beforeUpdate | .beforeDelete => true
  | _ => false

/-- Whether the hook at this point may change the entity. -/
def changesEntity : HookPoint → Bool
  | .validate | .beforeDelete | .afterDelete => false
  | _ => true

end HookPoint

end EntityStore
