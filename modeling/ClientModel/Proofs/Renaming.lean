import ClientModel.Proofs.Scopes
import ClientModel.Proofs.TwinPackages

/-!
Further names for types.

A type may be given a name for one language that it does not have in another. Clients and methods,
and what they send and receive, are the same under any names, but for a body that no property stands
for: its parameter is named after the model that it holds, and is looked up by that name.
-/

namespace ClientModel

namespace Service

/-- Customizations with further names for types. -/
def Customizations.nameTypes (all : Customizations) (names : List (Entry TypeId String)) :
    Customizations :=
  names.foldl (fun all entry => all.setClientName (.type entry.key) entry.scope entry.value) all

/-- A definition with further names for types. -/
def Definition.nameTypes (definition : Definition) (names : List (Entry TypeId String)) :
    Definition :=
  { definition with customizations := definition.customizations.nameTypes names }

namespace Customizations

variable (all : Customizations) (names : List (Entry TypeId String))

/-- Names are all that is recorded. -/
theorem nameTypes_eq :
    all.nameTypes names = { all with clientNames := (all.nameTypes names).clientNames } := by
  -- By induction on the names, each of which is recorded after those before it.
  induction names generalizing all with
  | nil => rfl
  | cons entry names ih =>
    rw [nameTypes, List.foldl_cons, ← nameTypes, ih]
    rfl

/-- What is not a type keeps its name. -/
theorem clientName?_nameTypes (scope : Option String) {target : Declaration}
    (noType : target.type? = none) :
    ((all.nameTypes names).resolve scope).clientName? target =
      (all.resolve scope).clientName? target := by
  -- By induction on the names: each one is recorded for a type, and so for another declaration.
  induction names generalizing all with
  | nil => rfl
  | cons entry names ih =>
    have apart : target ≠ .type entry.key := by
      rintro rfl
      cases noType
    rw [nameTypes, List.foldl_cons, ← nameTypes, ih]
    exact get?_settle_record_ne all.clientNames entry.scope entry.value scope apart

end Customizations

end Service

/-- Two packages are the same but for the names of types. -/
structure Package.DiffersInNames (package other : Package) : Prop where
  name : other.name = package.name
  clients : other.clients = package.clients
  catalogue : other.catalogue.map Node.unnamed = package.catalogue.map Node.unnamed
  models : other.models = package.models
  enums : other.enums = package.enums
  unions : other.unions = package.unions
  /-- The same is reported, and last the same bodies, each by the name that it goes by. -/
  reports : ∃ (noted : List Diagnostic) (bodies : List NodeId),
    package.diagnostics =
      Diagnostics.distinct (noted ++ bodies.map (Derivation.conflictReport package.catalogue)) ∧
    other.diagnostics =
      Diagnostics.distinct (noted ++ bodies.map (Derivation.conflictReport other.catalogue))

namespace Derivation

open Service (Choices Customizations Definition Entry)

/-! ## Names of types -/

/-- A named model goes by another name in a second run. -/
def Context.Renames (context other : Context) (type : TypeId) : Prop :=
  ∃ model name, context.definition.model? type = some model ∧ model.name = some name ∧
    other.nameOf (.type type) name ≠ context.nameOf (.type type) name

/-- The model that a body without a property of its own is named after goes by one name. -/
def Context.KeepsBodyNames (context other : Context) : Prop :=
  ∀ operation body, (context.definition.operationAt operation).bodies.head? = some body →
    body.property = none → ¬ context.Renames other (context.definition.payloadType body.type)

/-- Two runs may differ in any names of types. -/
def nameSlack (context other : Context) : Slack :=
  { free := True, renamed := context.Renames other }

variable {definition : Definition} {names : List (Entry TypeId String)} {options : Options}

/-- With further names for types, the context is a sibling but for the names. -/
theorem sibling_nameTypes (keeps : (Context.of definition options).KeepsBodyNames
    (Context.of (definition.nameTypes names) options)) :
    Sibling (nameSlack (Context.of definition options)
        (Context.of (definition.nameTypes names) options))
      (Context.of definition options) (Context.of (definition.nameTypes names) options) := by
  -- Of the choices in the end, only the names of declarations are others.
  have choices : { (definition.nameTypes names).customizations.resolve options.scope with
        clientNames := (definition.customizations.resolve options.scope).clientNames } =
      definition.customizations.resolve options.scope := by
    rw [Definition.nameTypes, Customizations.nameTypes_eq]
    rfl
  have wanted : (Context.of (definition.nameTypes names) options).choices.convenientMethod? =
      (Context.of definition options).choices.convenientMethod? :=
    (congrArg Choices.convenientMethod? choices :)
  have alike : Alike definition (definition.nameTypes names) := ⟨rfl, rfl, rfl, rfl⟩
  apply Sibling.of_choices alike
  case choices =>
    exact (congrArg (fun choices => { choices with
      convenientMethods :=
        (definition.customizations.resolve options.scope).convenientMethods }) choices :)
  case clientName? =>
    intro target noType
    exact definition.customizations.clientName?_nameTypes names options.scope noType
  -- Types may go by any names; what counts as renamed is a named model, and nothing else.
  case typeName? => exact fun _ => Or.inl trivial
  case modelName =>
    intro type model name isModel named kept
    by_contra apart
    exact kept ⟨model, name, isModel, named, apart⟩
  case renamed_isModel =>
    intro type renamed
    obtain ⟨model, name, isModel, named, apart⟩ := renamed
    exact Option.isSome_of_eq_some isModel
  case isConvenient =>
    intro operation
    rw [Context.isConvenient, wanted, nameSlack, Bool.not_false, Bool.and_true]
    rfl
  case spared => exact keeps

/-! ## Packages -/

/-- What is looked for in nodes without their names is found in the same nodes. -/
theorem usedOf_congr {catalogue other : Catalogue} {isOfKind : Node → Bool}
    (told : ∀ node, isOfKind node.unnamed = isOfKind node)
    (same : other.map Node.unnamed = catalogue.map Node.unnamed) :
    usedOf other isOfKind = usedOf catalogue isOfKind := by
  -- The catalogues have the same size, and the same nodes but for their names.
  have size : other.size = catalogue.size := by
    simpa using congrArg Catalogue.size same
  have nodes (id : NodeId) : (other.nodeAt id).unnamed = (catalogue.nodeAt id).unnamed := by
    rw [← nodeAt_unnamed, same, nodeAt_unnamed]
  rw [usedOf, usedOf, Catalogue.ids, size, ← Catalogue.ids]
  apply List.filter_congr
  intro id _
  rw [← told, ← Node.usage?_unnamed, nodes, told, Node.usage?_unnamed]

/-- Whether a node is a model is told without its name. -/
theorem isModel_unnamed (node : Node) : node.unnamed.model?.isSome = node.model?.isSome := by
  obtain ⟨origin, nullable, deprecation, doc, kind⟩ := node
  cases kind <;> rfl

/-- Whether a node is an enum is told without its name. -/
theorem isEnumeration_unnamed (node : Node) :
    node.unnamed.enumeration?.isSome = node.enumeration?.isSome := by
  obtain ⟨origin, nullable, deprecation, doc, kind⟩ := node
  cases kind <;> rfl

/-- Whether a union has a name is told without the name itself. -/
theorem isNamedUnion_unnamed (node : Node) :
    (node.unnamed.union?.any fun union => union.name.isSome) =
      node.union?.any fun union => union.name.isSome := by
  obtain ⟨origin, nullable, deprecation, doc, kind⟩ := node
  cases kind with
  | union union => exact Option.isSome_map
  | _ => rfl

/-- Runs that have found the same but for names come to packages that differ in names alone. -/
theorem package_differsInNames {slack : Slack} {left right : State} (context : Context)
    (clients : List Client) (twin : Twin slack left right)
    (wanted : ∀ operation, slack.quiet operation = false) :
    (left.package context clients).DiffersInNames (right.package context clients) := by
  -- What the runs have noted of usage is the same, as every operation is wanted.
  obtain ⟨seeds, bodyFormats⟩ := twin.full wanted
  have catalogue : (right.package context clients).catalogue.map Node.unnamed =
      (left.package context clients).catalogue.map Node.unnamed := by
    show (spread right.catalogue _ _ _).map Node.unnamed =
      (spread left.catalogue _ _ _).map Node.unnamed
    rw [spread_unnamed, spread_unnamed, twin.unnamed, seeds]
  have conflicts : multipartConflicts (right.package context clients).catalogue
        right.bodyFormats =
      multipartConflicts (left.package context clients).catalogue left.bodyFormats := by
    have size : (right.package context clients).catalogue.size =
        (left.package context clients).catalogue.size := by
      simpa using congrArg Catalogue.size catalogue
    rw [multipartConflicts, Catalogue.ids, size, bodyFormats, ← Catalogue.ids, multipartConflicts]
  -- Of each list of types it is told by nodes without names, and these are the same.
  exact
    { name := rfl
      clients := rfl
      catalogue
      models := by
        rw [models_package, models_package]
        exact usedOf_congr isModel_unnamed catalogue
      enums := by
        rw [enums_package, enums_package]
        exact usedOf_congr isEnumeration_unnamed catalogue
      unions := by
        rw [unions_package, unions_package]
        exact usedOf_congr isNamedUnion_unnamed catalogue
      reports := ⟨left.diagnostics.reports, _, diagnostics_package left context clients, by
        rw [diagnostics_package, conflicts, twin.diagnostics]⟩ }

/--
Further names for types change names alone, unless a body is named after its model.

Both runs fail alike, or both end with the same clients and methods, wired up in the same way, and
with the same types under their names.
-/
theorem package_with_type_names
    (keeps : (Context.of definition options).KeepsBodyNames
      (Context.of (definition.nameTypes names) options)) :
    (∃ failure, derivePackage definition options = .error failure ∧
      derivePackage (definition.nameTypes names) options = .error failure) ∨
    ∃ package other, derivePackage definition options = .ok package ∧
      derivePackage (definition.nameTypes names) options = .ok other ∧
      package.DiffersInNames other := by
  -- Both runs go alike, and packages are made of twin states.
  have wanted (operation : OperationId) : (nameSlack (Context.of definition options)
      (Context.of (definition.nameTypes names) options)).quiet operation = false := rfl
  refine (derivePackage_wanted (sibling_nameTypes keeps) wanted).imp_right ?_
  rintro ⟨left, right, clients, twin, isPackage, isOther⟩
  exact ⟨_, _, isPackage, isOther, package_differsInNames _ clients twin wanted⟩

/-- A service that takes in widgets whole, and answers with gears. -/
def contoso : Definition where
  types := #[{ shape := .model { name := some "Widget" } },
    { shape := .model { name := some "Gear" } }]
  properties := #[{ name := "widget", type := ⟨0⟩ }]
  operations := #[
    { name := "upsert", container := ⟨0⟩, verb := .put, path := "/widget", parameters := [⟨0⟩]
      bodies := [{ type := ⟨0⟩ }]
      responses := [{ status := .code 200, body := some { type := ⟨1⟩ } }] }]
  containers := #[{ name := "Contoso", operations := [⟨0⟩], service := some {} }]

/-- A name for a type in one language. -/
def inPython (type : TypeId) (name : String) : Entry TypeId String :=
  { key := type, scope := some "python", value := name }

/-- The names of the methods of each client. -/
def methodNames (package : Package) : List (List String) :=
  package.clients.map fun client => client.methods.map Method.name

/-- For Contoso, cogs may be renamed for Python; the method keeps its body's name. -/
theorem package_with_type_names_contoso :
    let python : Options := { scope := some "python" }
    let cogs := contoso.nameTypes [inPython ⟨1⟩ "Cog"]
    ∃ package other, (Context.of contoso python).KeepsBodyNames (Context.of cogs python) ∧
      derivePackage contoso python = .ok package ∧ derivePackage cogs python = .ok other ∧
      methodNames package = [["upsert"]] ∧ package.DiffersInNames other := by
  intro python cogs
  have keeps : (Context.of contoso python).KeepsBodyNames (Context.of cogs python) := by
    -- The one operation has a widget for its body, and widgets keep their name.
    rintro ⟨index⟩ body isFirst _ ⟨model, name, isModel, named, apart⟩
    cases index with
    | zero =>
      obtain rfl : { type := ⟨0⟩ } = body := Option.some.inj isFirst
      exact apart rfl
    | succ index => cases isFirst
  -- That the method stays is evaluated, and the theorem compares the two packages.
  have methods : (derivePackage contoso python).toOption.map methodNames = some [["upsert"]] := by
    decide +kernel
  rcases package_with_type_names keeps with
    ⟨failure, fails, _⟩ | ⟨package, other, isPackage, isOther, differs⟩
  · rw [fails] at methods
    cases methods
  · rw [isPackage] at methods
    exact ⟨package, other, keeps, isPackage, isOther, Option.some.inj methods, differs⟩

/-- A widget that goes by another name is no longer found where it is looked for by its name. -/
theorem type_name_may_drop_method :
    let python : Options := { scope := some "python" }
    (derivePackage contoso python).toOption.map methodNames = some [["upsert"]] ∧
      (derivePackage (contoso.nameTypes [inPython ⟨0⟩ "Gadget"]) python).toOption.map
        methodNames = some [[]] := by
  decide +kernel

end Derivation

end ClientModel
