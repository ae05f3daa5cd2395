import ClientModel.Service.Scoped
import ClientModel.Service.Container
import ClientModel.Usage

/-!
Customizations of a service definition, recorded for every scope, and the choices that remain of
them once a scope is given.
-/

namespace ClientModel.Service

/-- How the client of a container is made. -/
structure ClientSetup where
  initialization : Option Initialization := none
  /-- Further parameters that the client takes. -/
  parameters : List PropertyId := []

/-- A container declared to be a client of its own. -/
structure ClientDecl where
  name : Option String := none

/-- All customizations, for every scope. -/
structure Customizations where
  clientNames : OrderedMap Declaration (Scoped String) := {}
  usages : OrderedMap TypeId (Scoped Usage) := {}
  accesses : OrderedMap Declaration (Scoped Access) := {}
  setups : OrderedMap ContainerId (Scoped ClientSetup) := {}
  locations : OrderedMap OperationId (Scoped ContainerId) := {}
  aliases : OrderedMap PropertyId (Scoped String) := {}
  clients : OrderedMap ContainerId (Scoped ClientDecl) := {}
  protocolMethods : OrderedMap OperationId (Scoped Bool) := {}
  convenientMethods : OrderedMap OperationId (Scoped Bool) := {}

/-- Records a value of one customization for a scope. -/
def record {κ α : Type} [BEq κ] [LawfulBEq κ] (table : OrderedMap κ (Scoped α)) (key : κ)
    (scope : Option String) (value : α) : OrderedMap κ (Scoped α) :=
  table.alter key fun old => (old.getD {}).set scope value

namespace Customizations

/-- Gives a declaration another name in clients. -/
def setClientName (all : Customizations) (target : Declaration) (scope : Option String)
    (name : String) : Customizations :=
  { all with clientNames := record all.clientNames target scope name }

/-- Adds to the usage of a type whatever the operations make of it. -/
def setUsage (all : Customizations) (type : TypeId) (scope : Option String) (usage : Usage) :
    Customizations :=
  { all with usages := record all.usages type scope usage }

/-- Sets who may see a declaration. -/
def setAccess (all : Customizations) (target : Declaration) (scope : Option String)
    (access : Access) : Customizations :=
  { all with accesses := record all.accesses target scope access }

/-- Sets how the client of a container is made. -/
def setSetup (all : Customizations) (container : ContainerId) (scope : Option String)
    (setup : ClientSetup) : Customizations :=
  { all with setups := record all.setups container scope setup }

/-- Moves an operation into the client of another container. -/
def setLocation (all : Customizations) (operation : OperationId) (scope : Option String)
    (target : ContainerId) : Customizations :=
  { all with locations := record all.locations operation scope target }

/-- Lets a parameter stand in for a parameter of another name. -/
def setAlias (all : Customizations) (property : PropertyId) (scope : Option String)
    (name : String) : Customizations :=
  { all with aliases := record all.aliases property scope name }

/-- Declares a container to be a client of its own. -/
def addClient (all : Customizations) (container : ContainerId) (scope : Option String)
    (client : ClientDecl) : Customizations :=
  { all with clients := record all.clients container scope client }

/-- Sets whether an operation becomes a method on raw requests. -/
def setProtocolMethod (all : Customizations) (operation : OperationId) (scope : Option String)
    (enabled : Bool) : Customizations :=
  { all with protocolMethods := record all.protocolMethods operation scope enabled }

/-- Sets whether an operation becomes a method on typed values. -/
def setConvenientMethod (all : Customizations) (operation : OperationId) (scope : Option String)
    (enabled : Bool) : Customizations :=
  { all with convenientMethods := record all.convenientMethods operation scope enabled }

end Customizations

/-- Customizations with the scope settled. -/
structure Choices where
  clientNames : OrderedMap Declaration String := {}
  usages : OrderedMap TypeId Usage := {}
  accesses : OrderedMap Declaration Access := {}
  setups : OrderedMap ContainerId ClientSetup := {}
  /-- Moved operations, in the order of their declaration. -/
  locations : List (OperationId × ContainerId) := []
  aliases : OrderedMap PropertyId String := {}
  /-- Containers declared to be clients, in the order of their declaration. -/
  clients : List (ContainerId × ClientDecl) := []
  protocolMethods : OrderedMap OperationId Bool := {}
  convenientMethods : OrderedMap OperationId Bool := {}

/-- The values of one customization that hold in a scope. -/
def settle {κ α : Type} (table : OrderedMap κ (Scoped α)) (scope : Option String) :
    OrderedMap κ α :=
  table.filterMap (·.select scope)

/-- Settles every customization for a scope. -/
def Customizations.resolve (all : Customizations) (scope : Option String) : Choices :=
  { clientNames := settle all.clientNames scope
    usages := settle all.usages scope
    accesses := settle all.accesses scope
    setups := settle all.setups scope
    locations := (settle all.locations scope).entries.mergeSort
      fun left right => left.1.index ≤ right.1.index
    aliases := settle all.aliases scope
    clients := (settle all.clients scope).entries.mergeSort
      fun left right => left.1.index ≤ right.1.index
    protocolMethods := settle all.protocolMethods scope
    convenientMethods := settle all.convenientMethods scope }

namespace Choices

/-- The name that a declaration was given for clients. -/
def clientName? (choices : Choices) (target : Declaration) : Option String :=
  choices.clientNames.get? target

/-- The usage that a type was given. -/
def usage? (choices : Choices) (type : TypeId) : Option Usage :=
  choices.usages.get? type

/-- The access that a declaration was given. -/
def access? (choices : Choices) (target : Declaration) : Option Access :=
  choices.accesses.get? target

/-- How the client of a container is to be made. -/
def setup? (choices : Choices) (container : ContainerId) : Option ClientSetup :=
  choices.setups.get? container

/-- The container that an operation was moved to. -/
def location? (choices : Choices) (operation : OperationId) : Option ContainerId :=
  choices.locations.lookup operation

/-- The operations that were moved to a container, in the order of their declaration. -/
def movedInto (choices : Choices) (container : ContainerId) : List OperationId :=
  choices.locations.filterMap fun entry => if entry.2 == container then some entry.1 else none

/-- The name that a parameter also stands in for. -/
def alias? (choices : Choices) (property : PropertyId) : Option String :=
  choices.aliases.get? property

/-- Whether an operation was given a method on raw requests. -/
def protocolMethod? (choices : Choices) (operation : OperationId) : Option Bool :=
  choices.protocolMethods.get? operation

/-- Whether an operation was given a method on typed values. -/
def convenientMethod? (choices : Choices) (operation : OperationId) : Option Bool :=
  choices.convenientMethods.get? operation

end Choices

end ClientModel.Service
