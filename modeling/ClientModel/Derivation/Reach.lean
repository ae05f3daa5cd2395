import ClientModel.Package.Node
import ClientModel.Service.Customization

/-!
How usage and access spread over the catalogue.

Every seed is followed breadth first through what its type refers to, meeting each node once, so
that cycles do no harm and every seed reaches all there is to reach from it.
-/

namespace ClientModel.Derivation

open Service (Choices)

/-- A type that is used in some way, by something that the given circle may see. -/
structure Seed where
  type : NodeId
  usage : Usage
  access : Access
  deriving DecidableEq

/--
The nodes that a node leads to, each with the usage that it passes on.

Arrays, dictionaries and values of enums hand over everything; models and unions keep a spread to
themselves.
-/
def onward (sparesBase : Bool) (node : Node) (usage : Usage) : List (NodeId × Usage) :=
  match node.kind with
  | .array value | .dict _ value => [(value, usage)]
  | .enumValue value => [(value.enumeration, usage)]
  | .union union => union.variants.map (·, usage.propagated)
  | .model model =>
    -- Where bases are spared, usage and access do not go up from a model.
    let base := if sparesBase then [] else model.base.toList
    let subtypes := (model.subtypes.map OrderedMap.values).getD []
    let members := model.properties.map Property.type ++ model.additionalProperties.toList
    (members ++ base ++ subtypes).map (·, usage.propagated)
  | .builtin _ | .enumeration _ | .constant _ | .credential _ | .endpoint _ => []

/--
The nodes that are met from a queue on, each with the usage it is met with.

Only nodes that still remain are met, and a node that is met remains no longer.
-/
def visits (catalogue : Catalogue) (sparesBase : Bool) (remaining : List NodeId) :
    List (NodeId × Usage) → List (NodeId × Usage)
  | [] => []
  | (id, usage) :: queue =>
    if _ : id ∈ remaining then
      -- The queue grows at its end, which makes the walk breadth first.
      (id, usage) ::
        visits catalogue sparesBase (remaining.erase id)
          (queue ++ onward sparesBase (catalogue.nodeAt id) usage)
    else visits catalogue sparesBase remaining queue
termination_by queue => (remaining.length, queue.length)
decreasing_by
  · have := List.length_erase_of_mem ‹id ∈ remaining›
    have := List.length_pos_of_mem ‹id ∈ remaining›
    exact Prod.Lex.left _ _ (by omega)
  · exact Prod.Lex.right _ (by simp)

/-- The nodes that a seed reaches. -/
def Seed.visits (seed : Seed) (catalogue : Catalogue) (sparesBase : Bool) : List (NodeId × Usage) :=
  Derivation.visits catalogue sparesBase catalogue.ids [(seed.type, seed.usage)]

/-- Adds a usage to a node, and lets the given circle see it. -/
def mark (node : Node) (usage : Usage) (access : Access) : Node :=
  -- Usage adds up, and the widest circle that sees the node sees it.
  node.mapUse fun before circle => (before ||| usage, some ((circle.map access.widest).getD access))

/-- Marks all nodes that a seed reaches. -/
def Seed.apply (sparesBase : Bool) (catalogue : Catalogue) (seed : Seed) : Catalogue :=
  (seed.visits catalogue sparesBase).foldl
    (fun marked (id, usage) => marked.modify id fun node => mark node usage seed.access) catalogue

/-- The seeds that customizations of usage plant, in the order of the nodes. -/
def chosenSeeds (catalogue : Catalogue) (choices : Choices) : List Seed :=
  catalogue.ids.filterMap fun id => do
    let node := catalogue.nodeAt id
    -- Only models, enums and unions have a usage to add to.
    guard node.carriesUsage
    let origin ← node.origin
    let usage ← choices.usage? origin
    let access := (choices.access? (.type origin)).getD .everyone
    return { type := id, usage, access }

/-- The access of a node for which it was chosen. -/
def chooseAccess (choices : Choices) (node : Node) : Node :=
  match node.origin.bind fun origin => choices.access? (.type origin) with
  | some access => node.setAccess (some access)
  | none => node

/-- The subtypes of a model that are used; nothing is left of them unless there are two. -/
def usedSubtypes (catalogue : Catalogue) (subtypes : OrderedMap String NodeId) :
    Option (OrderedMap String NodeId) :=
  let used := subtypes.filterValues fun id =>
    (catalogue.nodeAt id).usage?.any fun usage => !usage.isEmpty
  if used.size ≤ 1 then none else some used

/-- The catalogue with only the used subtypes of its models. -/
def prune (catalogue : Catalogue) : Catalogue :=
  catalogue.map fun node => node.mapModel fun model =>
    { model with subtypes := model.subtypes.bind (usedSubtypes catalogue) }

/--
The catalogue with the usage and the access that the seeds bring about.

What was chosen for a type goes before what seeds make of it, and subtypes that nobody uses are
forgotten at the end.
-/
def spread (catalogue : Catalogue) (choices : Choices) (sparesBase : Bool) (seeds : List Seed) :
    Catalogue :=
  -- Access starts afresh, so that only seeds and choices tell it.
  let planted := chosenSeeds catalogue choices ++ seeds
  let marked := planted.foldl (Seed.apply sparesBase) (catalogue.map (·.setAccess none))
  prune (marked.map (chooseAccess choices))

end ClientModel.Derivation
