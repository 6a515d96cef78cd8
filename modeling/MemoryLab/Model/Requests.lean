import MemoryLab.Model.Promotion

/-! # The requests that one database serves -/

namespace MemoryLab

open Library

inductive Request where
  | save (args : Adapter.SaveArgs) (env : Adapter.SaveEnvironment)
  | promote (args : Adapter.PromoteArgs) (env : Adapter.PromoteEnvironment)
  | resolve (call : Resolver.ResolveCall)
  | tier (operation : TierOperations.TierOperation)

def serve (contentHashOf : Text → Text) (db : Database) : Request → Database
  | .save args env => (Adapter.createContentMinimal contentHashOf db args env).1
  | .promote args env => (Adapter.trustedPromoteCurrentState contentHashOf db args env).1
  | .resolve call => Resolver.resolveStep db call
  | .tier operation => TierOperations.tierStep db operation

end MemoryLab
