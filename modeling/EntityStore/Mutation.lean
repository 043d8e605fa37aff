import EntityStore.Entity
import EntityStore.Session

/-!
# Mutations

A mutation is a computation in a session that also changes an entity, as an insert does that
writes the generated key back. When it fails, both the session and the entity keep what was
done before.
-/

namespace EntityStore

/-- A computation in a session that changes a value of type `α`. -/
abbrev Mutation (σ α : Type) := ExceptT Error (StateT α (StateM (Session σ)))

namespace Mutation

variable {σ α β : Type}

def act (a : Action σ β) : Mutation σ α β := ExceptT.mk (StateT.lift a.run)

def edit (f : Edit Error α) : Mutation σ α Unit := ExceptT.mk fun e => pure (f e)

def tell (events : List Event) : Mutation σ α Unit := act (Attempt.note events)

def runOn (m : Mutation σ α β) (e : α) : StateM (Session σ) (Except Error β × α) :=
  StateT.run (ExceptT.run m) e

/-- The mutation of a given entity, as an action that answers the changed entity. -/
def changed (m : Mutation σ α Unit) (e : α) : Action σ α := do
  let (result, e) ← ExceptT.lift (m.runOn e)
  Attempt.ofExcept (result.map fun () => e)

/-- Runs the mutation on one entity after the other, up to the first failure. -/
def eachFrom (m : Mutation σ α Unit) :
    List α → StateM (Session σ) (Except Error Unit × List α)
  | [] => pure (.ok (), [])
  | e :: es => do
    let (result, e) ← m.runOn e
    match result with
    | .error err => return (.error err, e :: es)
    | .ok () =>
      let (result, es) ← eachFrom m es
      return (result, e :: es)

def each (m : Mutation σ α Unit) : Mutation σ (List α) Unit := ExceptT.mk (eachFrom m)

end Mutation

end EntityStore
