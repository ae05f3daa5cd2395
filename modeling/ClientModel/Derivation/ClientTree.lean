import ClientModel.Derivation.State

/-!
Which containers become clients, and which operations go to which client.

An operation goes to the client of its own container unless it was moved. A container below a client
is a sub-client if some operation goes to it or to one of its own sub-clients.
-/

namespace ClientModel.Derivation

open Service (Choices Definition)

/-- A container that becomes a client, with the containers that become its sub-clients. -/
inductive ClientTree where
  | node (container : ContainerId) (groups : List ClientTree)

namespace ClientTree

/-- The container that the client is made of. -/
def container : ClientTree → ContainerId
  | .node container _ => container

/-- The sub-clients. -/
def groups : ClientTree → List ClientTree
  | .node _ groups => groups

end ClientTree

/-- A client without a parent, and the name that it was declared with. -/
structure RootClient where
  container : ContainerId
  name : Option String

/-- The clients without a parent: the declared ones, or else one for every service. -/
def rootClients (definition : Definition) (choices : Choices) : List RootClient :=
  -- One declared client is enough to leave out those for services.
  if choices.clients.isEmpty then
    (definition.containerIds.filter fun id => (definition.containerAt id).service.isSome).map
      fun container => { container, name := none }
  else choices.clients.map fun (container, declared) => { container, name := declared.name }

namespace Context

variable (context : Context)

/-- The operations that go to the client of a container: those declared there, then those moved. -/
def operationsOf (container : ContainerId) : List OperationId :=
  let declared := (context.definition.containerAt container).operations.filter fun operation =>
    (context.choices.location? operation).all (· == container)
  -- An operation that was moved to its own container is listed there already.
  let moved := (context.choices.movedInto container).foldl
    (fun operations operation =>
      if operations.contains operation then operations else operations ++ [operation])
    declared
  moved.filter context.isAvailable

/-- The client tree of a container, with sub-clients down to the given depth. -/
def clientTreeWithin : Nat → ContainerId → ClientTree
  | 0, container => .node container []
  | depth + 1, container =>
    -- A root in this container starts a tree of its own.
    let below := (context.definition.containerAt container).children.filter fun child =>
      !context.roots.contains child
    .node container ((below.map (clientTreeWithin depth)).filter fun group =>
      !(context.operationsOf group.container).isEmpty || !group.groups.isEmpty)

/-- The client tree of a container; none lies deeper below another than there are containers. -/
def clientTree (container : ContainerId) : ClientTree :=
  context.clientTreeWithin context.definition.containers.size container

end Context

end ClientModel.Derivation
