import ClientModel.Derivation.Clients
import ClientModel.Package.Basic

/-! Packages derived from service definitions. -/

namespace ClientModel.Derivation

open Service (Definition)

namespace Context

/-- What a run on a definition is given. -/
def of (definition : Definition) (options : Options) : Context :=
  let choices := definition.customizations.resolve options.scope
  { definition
    options
    choices
    roots := (rootClients definition choices).map RootClient.container }

variable (context : Context)

/-- Derives the orphan types for which usage or access was chosen. -/
def orphans : Derive Unit :=
  for type in context.definition.orphanTypes do
    -- Without a choice nothing would use the type.
    if (context.choices.usage? type).isSome || (context.choices.access? (.type type)).isSome then
      let _ ← context.node type

/-- Derives everything that a package is made of. -/
def clients : Derive (List Client) := do
  let clients ← (rootClients context.definition context.choices).mapM context.rootClient
  context.orphans
  return clients

end Context

/-- The types of bodies that are sent both as multipart messages and otherwise, in order. -/
def multipartConflicts (catalogue : Catalogue) (bodyFormats : List (NodeId × Bool)) : List NodeId :=
  catalogue.ids.filter fun id => bodyFormats.contains (id, true) && bodyFormats.contains (id, false)

/-- The report of a body type that is sent both as a multipart message and otherwise. -/
def conflictReport (catalogue : Catalogue) (id : NodeId) : Diagnostic :=
  let node := catalogue.nodeAt id
  { target := node.origin.map .type
    severity := .error
    code := some Code.conflictingMultipartUsage
    message := "'" ++ node.name?.getD "anonymous" ++
      "' is used both as a multipart body and as a regular body" }

/-- The package that comes of what a run has found. -/
def State.package (state : State) (context : Context) (clients : List Client) : Package :=
  let catalogue := spread state.catalogue context.choices context.options.sparesBase state.seeds
  -- Reports on bodies come last, in the order of the types.
  let conflicts := (multipartConflicts catalogue state.bodyFormats).map (conflictReport catalogue)
  let diagnostics := conflicts.foldl Diagnostics.add state.diagnostics
  let isUsed (usage : Usage) : Bool := !usage.isEmpty
  let usedOf (isOfKind : Node → Bool) : List NodeId :=
    catalogue.ids.filter fun id =>
      let node := catalogue.nodeAt id
      isOfKind node && node.usage?.any isUsed
  -- The package is named after its first client.
  { name := (clients.head?.map fun client => client.namespace).getD ""
    clients
    catalogue
    models := usedOf (·.model?.isSome)
    enums := usedOf (·.enumeration?.isSome)
    unions := usedOf fun node => node.union?.any fun union => union.name.isSome
    diagnostics := diagnostics.finish }

/-- Derives the package of a definition. -/
def derivePackage (definition : Definition) (options : Options) : Except Failure Package :=
  let context := Context.of definition options
  let (outcome, state) := context.clients.run {}
  outcome.map (state.package context)

end ClientModel.Derivation
