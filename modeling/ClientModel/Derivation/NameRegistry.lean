import ClientModel.OrderedMap
import ClientModel.Ids

/-! Names that are made up during a run, each one handed out once. -/

namespace ClientModel.Derivation

/-- The names that were handed out, and the declarations that keep one of them. -/
structure NameRegistry where
  taken : List String := []
  kept : OrderedMap TypeId String := {}

namespace NameRegistry

/--
The candidate with the first number from the given one on that makes a free name of it.

Of more numbers than there are taken names, one makes a free name, so that many tries suffice.
-/
def numbered (taken : List String) (candidate : String) : Nat → Nat → String
  | 0, number => candidate ++ toString number
  | tries + 1, number =>
    let name := candidate ++ toString number
    if taken.contains name then numbered taken candidate tries (number + 1) else name

/-- The candidate if it is free, or else the candidate with the least number that is. -/
def freeName (taken : List String) (candidate : String) : String :=
  if taken.contains candidate then numbered taken candidate taken.length 1 else candidate

/-- Hands out a free name for a candidate. -/
def claim (registry : NameRegistry) (candidate : String) : String × NameRegistry :=
  let name := freeName registry.taken candidate
  (name, { registry with taken := name :: registry.taken })

/-- The name of a declaration: the one that it was given first, or else a free one. -/
def assign (registry : NameRegistry) (type : TypeId) (candidate : String) :
    String × NameRegistry :=
  match registry.kept.get? type with
  | some name => (name, registry)
  | none =>
    let (name, registry) := registry.claim candidate
    (name, { registry with kept := registry.kept.insert type name })

end NameRegistry

end ClientModel.Derivation
