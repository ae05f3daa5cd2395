import ClientModel.Derivation.Parameter

/-!
Where the parameters of a request take their values from.

A parameter of the client is asked first, then one of the method with the same name or declaration;
after that a body may be put together from parameters for its members, or else the value is a member
of what a method parameter holds.
-/

namespace ClientModel.Derivation

/-- What there is to take values from. -/
structure Supply where
  /-- The parameters of the client and of the clients around it. -/
  clientParameters : List Property
  methodParameters : List Property
  catalogue : Catalogue

namespace Context

variable (context : Context)

/-- Both properties were first declared as one. -/
def sameDeclaration (left right : Property) : Bool :=
  -- What was made up has no declaration to share.
  match left.origin, right.origin with
  | some left, some right =>
    context.definition.rootSource left == context.definition.rootSource right
  | _, _ => false

/-- The parameter was declared to stand in for parameters of the given name. -/
def hasAlias (parameter : Property) (name : String) : Bool :=
  (parameter.origin.bind context.choices.alias?) == some name

/-- The candidate is the same parameter as the one wanted: by declaration, by name or by alias. -/
def isSame (wanted candidate : Property) : Bool :=
  context.sameDeclaration candidate wanted || candidate.name == wanted.name ||
    context.hasAlias candidate wanted.name

/-- The parameter of the client that supplies a parameter of a request. -/
def clientSupplier? (client : ContainerId) (supply : Supply) (wanted : Property) :
    Option Property :=
  let version :=
    if wanted.isApiVersion then supply.clientParameters.find? (·.isApiVersion) else none
  let subscription :=
    if context.isResourceManaged client && isSubscriptionName wanted.name then
      supply.clientParameters.find? (isSubscriptionName ·.name)
    else none
  -- The same parameter goes before one that only serves the same purpose.
  (supply.clientParameters.find? (context.isSame wanted)).or (version.or subscription)

/-- The members of the model that a body holds; other parameters have no members to look for. -/
def bodyMembers (supply : Supply) (wanted : Property) : List Property :=
  if wanted.isBody then ((supply.catalogue.model? wanted.type).map ModelNode.properties).getD []
  else []

/-- The parameters that supply members, for those members that have one. -/
def memberSuppliers (supply : Supply) (members : List Property) : List Property :=
  members.filterMap fun member =>
    (supply.clientParameters ++ supply.methodParameters).find? (context.isSame member)

/-- The first method parameter with a member that supplies a parameter of a request. -/
def holder? (supply : Supply) (wanted : Property) : Option Source :=
  supply.methodParameters.findSome? fun parameter => do
    let model ← supply.catalogue.model? parameter.type
    let member ← model.properties.find? (context.isSame wanted)
    return .member parameter member.name

/-- The sources of a parameter of a request. -/
def sources (operation : OperationId) (client : ContainerId) (supply : Supply)
    (wanted : Property) : Except Failure (List Source) :=
  match (context.clientSupplier? client supply wanted).or
      (supply.methodParameters.find? (context.isSame wanted)) with
  | some parameter => .ok [.parameter parameter]
  | none =>
    let members := bodyMembers supply wanted
    let suppliers := context.memberSuppliers supply members
    -- A body is only put together if no member is left without a parameter.
    if !members.isEmpty && suppliers.length == members.length then
      .ok (suppliers.map .parameter)
    else
      match context.holder? supply wanted with
      | some source => .ok [source]
      | none =>
        -- The report tells whether it was a body that could not be put together.
        let name := (context.definition.operationAt operation).name
        if members.isEmpty then
          .error (.noCorrespondingParameter name wanted.serializedName operation)
        else .error (.spreadNotResolved name members.length suppliers.length operation)

end Context

end ClientModel.Derivation
