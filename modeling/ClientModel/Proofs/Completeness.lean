import ClientModel.Proofs.Made
import ClientModel.Proofs.Spread

/-!
Catalogues of packages are complete.

A node tells all of the declaration that it comes from, however declarations refer to one another,
and whatever a package names is there.
-/

namespace ClientModel

/-! ## Nodes of a package -/

/-- What a node stands for, without usage and access, and without subtypes. -/
def NodeKind.core : NodeKind → NodeKind
  | .model composite => .model { composite with subtypes := none, usage := .none, access := none }
  | .enumeration declared => .enumeration { declared with usage := .none, access := none }
  | .union joined => .union { joined with usage := .none, access := none }
  | rest => rest

namespace NodeKind

/-- A change that touches nothing but the list of subtypes keeps the core of a model. -/
theorem core_mapModel (node : Node) (change : ModelNode → ModelNode)
    (same : ∀ model, { change model with subtypes := none } = { model with subtypes := none }) :
    (node.mapModel change).kind.core = node.kind.core := by
  -- Only models change.
  cases kind : node.kind with
  | model model =>
    have same := same model
    simp only [ModelNode.mk.injEq] at same
    simp [Node.mapModel, core, kind, same]
  | _ => simp [Node.mapModel, kind]

/-- Without its usage a node has the same core. -/
theorem core_bare (node : Node) : node.bare.kind.core = node.kind.core := by
  cases kind : node.kind <;> simp [Node.bare, Node.mapUse, kind, core]

/-- A node that is primitive, constant or holds values of another type is no more than its core. -/
theorem eq_of_core {kind other : NodeKind} (same : other.core = kind.core)
    (simple : kind.label ∈ ["builtin", "constant", "array", "dict"]) : other = kind := by
  -- Kinds with the same core have the same label, and these have nothing to forget.
  cases kind <;> cases other <;> simp_all [core, label]

/-- What has the core of a union is a union of the same variants. -/
theorem union_of_core {other : NodeKind} {union : UnionNode}
    (same : other.core = (NodeKind.union union).core) :
    ∃ told, other = .union told ∧ told.variants = union.variants := by
  -- The core of a union is a union, so the other kinds are ruled out by it.
  cases other <;> simp [core] at same ⊢
  tauto

/-- What has the core of a model is a model of the same properties, base and identity. -/
theorem model_of_core {other : NodeKind} {model : ModelNode}
    (same : other.core = (NodeKind.model model).core) :
    ∃ told, other = .model told ∧ told.properties = model.properties ∧ told.base = model.base ∧
      told.additionalProperties = model.additionalProperties ∧ told.crossId = model.crossId := by
  -- The core of a model keeps all but usage, access and subtypes, so the other kinds are ruled out
  -- by it.
  cases other <;> simp [core] at same ⊢
  tauto

/-- Without its usage a node refers to the same nodes. -/
theorem nodeIds_bare (node : Node) : node.bare.kind.nodeIds = node.kind.nodeIds := by
  cases kind : node.kind <;> simp [Node.bare, Node.mapUse, kind, nodeIds]

end NodeKind

/-- Two catalogues have the same nodes but for usage and access, and for subtypes of models. -/
structure SameCores (before after : Catalogue) : Prop where
  size : after.size = before.size
  origin : ∀ id, (after.nodeAt id).origin = (before.nodeAt id).origin
  core : ∀ id, (after.nodeAt id).kind.core = (before.nodeAt id).kind.core

/-- The nodes that a package names. -/
def Package.nodeIds (package : Package) : List NodeId :=
  package.allClients.flatMap Client.nodeIds ++
    package.catalogue.ids.flatMap (fun id => (package.catalogue.nodeAt id).kind.nodeIds) ++
    package.models ++ package.enums ++ package.unions

namespace Derivation

open Service (Choices Definition Model)

variable {context : Context} {state : State}

section

variable {catalogue : Catalogue} {choices : Choices} {sparesBase : Bool} {seeds : List Seed}

/-- Usage, access and subtypes aside, nodes are what they were. -/
theorem sameCores_spread : SameCores catalogue (spread catalogue choices sparesBase seeds) where
  size := by
    -- By induction on the seeds: planting one adds no node.
    have sown (planted : List Seed) (before : Catalogue) :
        (planted.foldl (Seed.apply sparesBase) before).size = before.size := by
      induction planted generalizing before with
      | nil => rfl
      | cons seed rest ih => rw [List.foldl_cons, ih, (seed.apply_frame sparesBase before).1]
    simp only [spread, prune, Catalogue.size_map, sown]
  origin id := by
    have bare (node : Node) : node.bare.origin = node.origin := by
      cases kind : node.kind <;> simp [Node.bare, Node.mapUse, kind]
    have mapModel (node : Node) (change : ModelNode → ModelNode) :
        (node.mapModel change).origin = node.origin := by
      cases kind : node.kind <;> simp [Node.mapModel, kind]
    -- Seeds touch usage and access alone, and pruning touches models alone.
    rw [spread_eq, nodeAt_prune, mapModel, ← bare, bare_sown, bare]
  core id := by
    rw [spread_eq, nodeAt_prune, NodeKind.core_mapModel, ← NodeKind.core_bare, bare_sown,
      NodeKind.core_bare]
    exact fun _ => rfl

/-- Unions keep their variants. -/
theorem union_spread {id : NodeId} {union : UnionNode}
    (isUnion : (catalogue.nodeAt id).kind = .union union) :
    ∃ told, ((spread catalogue choices sparesBase seeds).nodeAt id).kind = .union told ∧
      told.variants = union.variants := by
  -- Usage is spread without a change of cores, and the core tells the variants.
  have same := (@sameCores_spread catalogue choices sparesBase seeds).core id
  rw [isUnion] at same
  exact NodeKind.union_of_core same

/-- Forgetting subtypes takes away what models name, and adds nothing. -/
theorem nodeIds_prune (before : Catalogue) (id : NodeId) :
    ((prune before).nodeAt id).kind.nodeIds ⊆ (before.nodeAt id).kind.nodeIds := by
  rw [nodeAt_prune]
  cases kind : (before.nodeAt id).kind with
  | model model =>
    simp only [Node.mapModel, kind, NodeKind.nodeIds]
    refine List.append_subset.mpr ⟨List.subset_append_left _ _,
      List.Subset.trans ?_ (List.subset_append_right _ _)⟩
    -- Of the subtypes, the used ones are left or none at all.
    cases subtypes : model.subtypes with
    | none => simp
    | some all =>
      simp only [Option.bind_some, usedSubtypes]
      split
      · simp
      · exact List.map_subset _ fun entry listed => (List.mem_filter.mp listed).1
  | _ => simp [Node.mapModel, kind]

/-- After usage is spread a node refers to no more nodes than before. -/
theorem nodeIds_spread (id : NodeId) :
    ((spread catalogue choices sparesBase seeds).nodeAt id).kind.nodeIds ⊆
      (catalogue.nodeAt id).kind.nodeIds := by
  -- Spreading is sowing and then pruning: sowing refers to the same nodes, pruning to no others.
  rw [← NodeKind.nodeIds_bare (catalogue.nodeAt id), ← bare_sown choices seeds id,
    NodeKind.nodeIds_bare, spread_eq]
  exact nodeIds_prune _ id

end

/-! ## Complete catalogues -/

namespace Context

variable (context : Context)

/--
What a model of a package has before its declared properties.

A discriminator is made up exactly if none of these has its name.
-/
inductive IsHead (state : State) (declared : Model) (owner : NodeId) (ownerId : String) :
    List Property → Prop
  | nothing
      (named : ∀ name, declared.discriminator = some name →
        (context.memberNamed? declared name).isSome) :
      IsHead state declared owner ownerId []
  | discriminator {name : String} {string : NodeId}
      (discriminated : declared.discriminator = some name)
      (unnamed : context.memberNamed? declared name = none)
      (isString : state.builtins.get? .string = some string) :
      IsHead state declared owner ownerId [discriminatorOf owner ownerId name string]

/-- A model of a package tells all that its declaration does; properties may bear marks. -/
structure Completes (state : State) (declared : Model) (node : NodeId) (model : ModelNode) :
    Prop where
  properties : ∃ head members, model.properties = head ++ members ∧
    context.IsHead state declared node model.crossId head ∧
    List.Forall₂
      (fun id property => context.IsMember state node model.crossId id property.unmarked)
      (context.memberIds declared) members
  base : List.Forall₂ (context.Stands state) (context.baseType? declared).toList model.base.toList
  additional : List.Forall₂ (context.Stands state)
    (declared.additionalProperties.or (context.inheritedType? declared)).toList
    model.additionalProperties.toList

/-- All nodes of declarations are complete, and each is the one that its declaration has. -/
structure IsComplete (state : State) (catalogue : Catalogue) : Prop where
  registered : ∀ id node, (catalogue.nodeAt node).origin = some id →
    state.declared.get? id = some node
  models : ∀ id node model, (catalogue.nodeAt node).origin = some id →
    (catalogue.nodeAt node).kind = .model model →
      ∃ declared, context.definition.shapeAt id = .model declared ∧
        context.Completes state declared node model
  unions : ∀ id node union, (catalogue.nodeAt node).origin = some id →
    (catalogue.nodeAt node).kind = .union union →
      ∃ declared, context.definition.shapeAt id = .union declared ∧
        List.Forall₂ (fun variant => context.Stands state variant.type)
          (context.valuedVariants declared) union.variants
  arrays : ∀ id node value, (catalogue.nodeAt node).origin = some id →
    (catalogue.nodeAt node).kind = .array value →
      ∃ element, context.definition.shapeAt id = .array element ∧
        context.Stands state element value
  records : ∀ id node key value, (catalogue.nodeAt node).origin = some id →
    (catalogue.nodeAt node).kind = .dict key value →
      ∃ element, context.definition.shapeAt id = .record element ∧
        state.builtins.get? .string = some key ∧ context.Stands state element value
  scalars : ∀ id node builtin scalar, (catalogue.nodeAt node).origin = some id →
    (catalogue.nodeAt node).kind = .builtin builtin →
      context.definition.shapeAt id = .scalar scalar →
        List.Forall₂ (context.Stands state) (scalarBaseType? scalar).toList builtin.base.toList

end Context

/-- Two properties are the same if they are so without their marks, and marked alike. -/
theorem eq_of_unmarked {left right : Property} (same : left.unmarked = right.unmarked)
    (role : left.role = right.role) : left = right := by
  -- A property is its parts, and all parts but the role are compared unmarked.
  cases left
  cases right
  simp_all [Property.unmarked]

section

variable {declared : Model} {owner : NodeId} {ownerId name : String} {members : List Property}
  (each : List.Forall₂ (context.IsMember state owner ownerId) (context.memberIds declared) members)
include each

/-- A declared property has the name on the wire that the property of the node has. -/
theorem memberNamed?_isSome_iff : (context.memberNamed? declared name).isSome ↔
    ∃ member ∈ members, member.serializedName = name := by
  rw [Context.memberNamed?, List.find?_isSome]
  simp only [beq_iff_eq]
  have wireName {id : PropertyId} {member : Property}
      (isMember : context.IsMember state owner ownerId id member) :
      member.serializedName = (context.definition.propertyAt id).serializedName :=
    congrArg Property.serializedName isMember.1
  -- Declared properties and those of the node go together, name by name.
  constructor
  · rintro ⟨id, listed, isName⟩
    obtain ⟨member, isListed, isMember⟩ := partner_of_mem each listed
    exact ⟨member, isListed, (wireName isMember).trans isName⟩
  · rintro ⟨member, listed, isName⟩
    obtain ⟨id, isListed, isMember⟩ := partner_of_mem each.flip listed
    exact ⟨id, isListed, (wireName isMember).symm.trans isName⟩

end

/-- A model that is rendered but for its marks is complete. -/
theorem completes_of_renders {id : TypeId} {declared : Model} {node : NodeId} {model : ModelNode}
    (kind : (state.catalogue.nodeAt node).kind = .model model)
    (renders : context.RendersModel state id declared node model.plain) :
    context.Completes state declared node model := by
  obtain ⟨front, plain, all, isFront, each⟩ := renders.members
  obtain ⟨head, members, split, isHead, rfl⟩ := List.map_eq_append_iff.mp all
  have flagged {name : String} (discriminated : declared.discriminator = some name) :
      model.IsFlagged name := by
    obtain ⟨told, isKind, isFlagged⟩ := renders.flagged name discriminated
    obtain rfl : model = told := NodeKind.model.inj (kind.symm.trans isKind)
    exact isFlagged
  refine ⟨⟨head, members, split, ?_, List.forall₂_map_right_iff.mp each⟩, renders.base,
    renders.additional⟩
  -- A discriminator was made up just if no declared property has its name.
  cases isFront with
  | nothing =>
    obtain rfl := List.map_eq_nil_iff.mp isHead
    refine .nothing fun name discriminated => (memberNamed?_isSome_iff each).mpr ?_
    -- The property that tells subtypes apart is a declared one.
    obtain ⟨property, found, _⟩ := flagged discriminated
    rw [split, List.nil_append] at found
    have isName : property.serializedName = name := by simpa using List.find?_some found
    exact ⟨property.unmarked, List.mem_map_of_mem (List.mem_of_find?_eq_some found), isName⟩
  | @discriminator name string discriminated isString undeclared =>
    obtain ⟨made, rfl, isMade⟩ := List.map_eq_singleton_iff.mp isHead
    have unnamed : context.memberNamed? declared name = none := by
      rw [← Option.not_isSome_iff_eq_none, memberNamed?_isSome_iff each]
      rintro ⟨member, listed, isName⟩
      exact undeclared member listed isName
    have isName : made.serializedName = name := congrArg Property.serializedName isMade
    -- It is the first property of its name, and so the one that is marked.
    obtain ⟨property, found, isDiscriminator⟩ := flagged discriminated
    rw [split, List.singleton_append, List.find?_cons_of_pos (by simpa using isName)] at found
    obtain rfl := Option.some.inj found
    have made : made = Context.discriminatorOf node model.crossId name string :=
      eq_of_unmarked isMade (beq_iff_eq.mp isDiscriminator)
    rw [made]
    exact .discriminator discriminated unnamed isString

/-- Where all is rendered, the nodes of a catalogue are complete whatever their usage. -/
theorem Consistent.isComplete (consistent : Consistent context state) {catalogue : Catalogue}
    (cores : SameCores state.catalogue catalogue) : context.IsComplete state catalogue := by
  have registered (id : TypeId) (node : NodeId)
      (isOrigin : (catalogue.nodeAt node).origin = some id) :
      state.declared.get? id = some node :=
    consistent.orderly.registered id node ((cores.origin node).symm.trans isOrigin)
  -- A node that has a declaration is the one that the declaration has, and renders it.
  have renders (id : TypeId) (node : NodeId)
      (isOrigin : (catalogue.nodeAt node).origin = some id) :
      context.Renders state id node (context.definition.shapeAt id)
        (state.catalogue.nodeAt node).kind.plain :=
    consistent.rendered id node (registered id node isOrigin)
  -- Whatever each kind of node tells is part of its core.
  refine
    { registered
      models := fun id node model isOrigin isKind => ?models
      unions := fun id node union isOrigin isKind => ?unions
      arrays := fun id node value isOrigin isKind => ?arrays
      records := fun id node key value isOrigin isKind => ?records
      scalars := fun id node builtin scalar isOrigin isKind isScalar => ?scalars }
  all_goals
    have told := renders id node isOrigin
    have same := (cores.core node).symm
    rw [isKind] at same
  -- In each case the kind of the final node is that of the node in the run, which was rendered from
  -- the shape.
  case models =>
    obtain ⟨kept, isModel, properties, base, additional, crossId⟩ := NodeKind.model_of_core same
    rw [isModel] at told
    generalize context.definition.shapeAt id = shape at told
    cases told with
    | @model declared _ told =>
      obtain ⟨each, isBase, isAdditional⟩ := completes_of_renders isModel told
      rw [properties, crossId] at each
      rw [base] at isBase
      rw [additional] at isAdditional
      exact ⟨declared, rfl, each, isBase, isAdditional⟩
  case unions =>
    obtain ⟨kept, isUnion, variants⟩ := NodeKind.union_of_core same
    rw [isUnion] at told
    generalize context.definition.shapeAt id = shape at told
    cases told with
    | @union declared _ stand => exact ⟨declared, rfl, variants ▸ stand⟩
  case arrays =>
    have kept : (state.catalogue.nodeAt node).kind = .array value :=
      NodeKind.eq_of_core same (by simp [NodeKind.label])
    rw [kept] at told
    generalize context.definition.shapeAt id = shape at told
    cases told with
    | array stands => exact ⟨_, rfl, stands⟩
  case records =>
    have kept : (state.catalogue.nodeAt node).kind = .dict key value :=
      NodeKind.eq_of_core same (by simp [NodeKind.label])
    rw [kept] at told
    generalize context.definition.shapeAt id = shape at told
    cases told with
    | record isString stands => exact ⟨_, rfl, isString, stands⟩
  case scalars =>
    have kept : (state.catalogue.nodeAt node).kind = .builtin builtin :=
      NodeKind.eq_of_core same (by simp [NodeKind.label])
    rw [kept, isScalar] at told
    cases told with
    | scalar base => exact base

/-- Whatever a package names is there. -/
theorem package_names {definition : Definition} {options : Options} {clients : List Client}
    (run : (Context.of definition options).clients.run {} =
      (.ok clients, finalState definition options)) :
    let package := (finalState definition options).package (Context.of definition options) clients
    package.catalogue.Holds package.nodeIds := by
  obtain ⟨_, consistent, made⟩ := run_consistent run
  -- To spread usage makes no nodes, so what was in range before it is in range after it.
  intro package
  have size : package.catalogue.size = (finalState definition options).catalogue.size :=
    sameCores_spread.size
  have same : (finalState definition options).catalogue.size ≤ package.catalogue.size :=
    Nat.le_of_eq size.symm
  have listed (wanted : NodeId → Bool) :
      package.catalogue.Holds (package.catalogue.ids.filter wanted) := fun id member =>
    package.catalogue.mem_ids.mp (List.mem_of_mem_filter member)
  -- Clients name what was there when they were made; nodes name what is there in the end.
  refine Catalogue.Holds.append (.append (.append (.append ?clients ?nodes) ?models) ?enums) ?unions
  case clients =>
    exact Catalogue.holds_flatMap fun client member => (made client member).names.mono same
  case nodes =>
    refine Catalogue.holds_flatMap fun id _ => ?_
    exact ((consistent.orderly.names id).mono same).subset (nodeIds_spread id)
  case models => exact listed _
  case enums => exact listed _
  case unions => exact listed _

/-! ## Packages -/

/--
The catalogue of a package is complete, and whatever the package names is in it.

This holds on whatever ways declarations refer back to one another.
-/
theorem catalogue_is_complete {definition : Definition} {options : Options} {package : Package}
    (derived : derivePackage definition options = .ok package) :
    (Context.of definition options).IsComplete (finalState definition options) package.catalogue ∧
      package.catalogue.Holds package.nodeIds := by
  -- What nodes refer to is consistent all through the run; that the package names nothing else is
  -- told of its making.
  obtain ⟨clients, run, rfl⟩ := derivePackage_ok derived
  obtain ⟨_, consistent, _⟩ := run_consistent run
  exact ⟨consistent.isComplete sameCores_spread, package_names run⟩

/-- A service that feeds sharks, which are fish that prey on fish; their kind tells them apart. -/
def reef : Definition where
  types := #[
    { shape := .model { name := some "Fish", derived := [⟨1⟩], discriminator := some "kind" } },
    { shape := .model { name := some "Shark", properties := [⟨0⟩, ⟨1⟩], base := some ⟨0⟩ } },
    { shape := .literal (.text "shark") }, { shape := .array ⟨0⟩ }]
  properties := #[{ name := "kind", model := some ⟨1⟩, type := ⟨2⟩ },
    { name := "prey", model := some ⟨1⟩, type := ⟨3⟩ },
    { name := "shark", type := ⟨1⟩, binding := some .body }]
  operations := #[
    { name := "feed", container := ⟨0⟩, verb := .post, path := "/sharks", parameters := [⟨2⟩]
      bodies := [{ property := some ⟨2⟩, type := ⟨1⟩ }] }]
  containers := #[{ name := "Reef", operations := [⟨0⟩], service := some {} }]

/-- In the reef, the model of sharks is listed and everything in the catalogue is complete. -/
theorem catalogue_is_complete_reef :
    ∃ package, derivePackage reef {} = .ok package ∧
      (package.catalogue.nodeAt ⟨2⟩).origin = some ⟨0⟩ ∧
      (Context.of reef {}).IsComplete (finalState reef {}) package.catalogue ∧
      package.catalogue.Holds package.nodeIds := by
  have isOk : (derivePackage reef {}).isOk = true := by decide +kernel
  -- Fish are met after sharks and what tells them apart.
  have isFish : ((finalState reef {}).catalogue.nodeAt ⟨2⟩).origin = some ⟨0⟩ := by decide +kernel
  cases derived : derivePackage reef {} with
  | error failure => simp [derived, Except.isOk, Except.toBool] at isOk
  | ok package =>
    obtain ⟨clients, _, isPackage⟩ := derivePackage_ok derived
    refine ⟨package, rfl, ?_, catalogue_is_complete derived⟩
    rw [isPackage, ← isFish]
    exact sameCores_spread.origin _

end Derivation

end ClientModel
