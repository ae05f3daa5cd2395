import Mathlib.Logic.Relation
import ClientModel.Derivation.Nodes
import ClientModel.Proofs.Chains

/-!
What the nodes of declarations are made from.

A declaration refers to others, whose nodes are derived along with its own. Once its derivation is
over, whatever it refers to has a node as well.
-/

namespace ClientModel

/-- Every enum member is listed once, and that in the enum which it names as its own. -/
structure Service.Definition.MembersPlaced (definition : Service.Definition) : Prop where
  listed : ∀ id member, definition.shapeAt id = .member member →
    ∃ enumeration, definition.shapeAt member.parent = .enumeration enumeration ∧
      id ∈ enumeration.members
  own : ∀ id enumeration, definition.shapeAt id = .enumeration enumeration →
    ∀ other ∈ enumeration.members, ∀ member, definition.shapeAt other = .member member →
      member.parent = id
  once : ∀ id enumeration, definition.shapeAt id = .enumeration enumeration →
    enumeration.members.Nodup

/-- A member is listed by the enum that it names, and an enum lists its own members, each once. -/
def Service.Definition.isPlaced (definition : Service.Definition) (id : TypeId) : Bool :=
  match definition.shapeAt id with
  | .member member =>
    match definition.shapeAt member.parent with
    | .enumeration enumeration => enumeration.members.contains id
    | _ => false
  | .enumeration enumeration =>
    decide enumeration.members.Nodup && enumeration.members.all fun other =>
      match definition.shapeAt other with
      | .member member => member.parent == id
      | _ => true
  | _ => true

/-- Whether members are placed well is told by the types that are declared. -/
theorem Service.Definition.membersPlaced_iff {definition : Service.Definition} :
    definition.MembersPlaced ↔ ∀ id ∈ definition.typeIds, definition.isPlaced id = true := by
  constructor
  · -- A type placed well: a member is listed by its parent, an enum lists its own members once.
    intro placed id _
    unfold isPlaced
    cases shape : definition.shapeAt id with
    | member member =>
      obtain ⟨enumeration, parent, listed⟩ := placed.listed id member shape
      simpa [parent] using listed
    | enumeration enumeration =>
      dsimp only
      refine Bool.and_eq_true_iff.mpr ⟨decide_eq_true (placed.once id enumeration shape),
        List.all_eq_true.mpr fun other listed => ?_⟩
      split
      · rename_i member isMember
        simpa using placed.own id enumeration shape other listed member isMember
      · rfl
    | _ => rfl
  · intro each
    -- A type that is not declared reads as the unknown type, which is neither enum nor member.
    have all (id : TypeId) : definition.isPlaced id = true := by
      by_cases inside : id ∈ definition.typeIds
      · exact each id inside
      · rw [isPlaced, shapeAt_of_notMem inside]
    refine ⟨fun id member shape => ?_, fun id enumeration shape other listed member isMember => ?_,
      fun id enumeration shape => ?_⟩
    · -- Each of the three parts is read off the check at the type that it speaks of.
      have isPlaced := all id
      rw [Definition.isPlaced, shape] at isPlaced
      dsimp only at isPlaced
      split at isPlaced
      · rename_i enumeration parent
        exact ⟨enumeration, parent, by simpa using isPlaced⟩
      · cases isPlaced
    · have isPlaced := all id
      simp only [Definition.isPlaced, shape, Bool.and_eq_true, List.all_eq_true] at isPlaced
      simpa [isMember] using isPlaced.2 other listed
    · have isPlaced := all id
      simp only [Definition.isPlaced, shape, Bool.and_eq_true, decide_eq_true_eq] at isPlaced
      exact isPlaced.1

instance (definition : Service.Definition) : Decidable definition.MembersPlaced :=
  decidable_of_iff _ Service.Definition.membersPlaced_iff.symm

/-- The type is a model or a union. -/
def Service.Definition.isComposite (definition : Service.Definition) (id : TypeId) : Bool :=
  match definition.shapeAt id with
  | .model _ | .union _ => true
  | _ => false

/-- A type that is no composite declares no model. -/
theorem Service.Definition.model?_of_plain {definition : Service.Definition} {id : TypeId}
    (plain : definition.isComposite id = false) : definition.model? id = none := by
  rw [isComposite] at plain
  -- Only the shape of a composite is read as a model.
  rw [model?]
  split
  · rename_i shape
    simp [shape] at plain
  · rfl

namespace Derivation

open Service (Enumeration Intrinsic Literal Model Scalar Shape Union Variant)

variable {α β : Type}

namespace Context

variable (context : Context)

/-- The node of a declaration, where a given step derives the nodes of those that it refers to. -/
def nodeStep (derive : TypeId → Derive NodeId) (id : TypeId) : Derive NodeId := do
  let id := context.definition.payloadType id
  match (← get).declared.get? id with
  | some node => return node
  | none =>
    let declaration := context.definition.typeAt id
    let node ← context.shapeNode derive id declaration.shape
    modifyNode node fun derived =>
      if derived.origin == some id then
        { derived with deprecation := declaration.deprecation, doc := declaration.doc }
      else derived
    return node

/-- A derivation within one more step is one step that derives within the steps left. -/
theorem nodeWithin_succ (steps : Nat) :
    context.nodeWithin (steps + 1) = context.nodeStep (context.nodeWithin steps) :=
  rfl

/-! ## References -/

/-- The variants of a union that admit more than null. -/
def valuedVariants (union : Union) : List Variant :=
  union.variants.filter fun variant => !context.definition.isNull variant.type

/-- The enum that a union is flattened into: its texts, and whether it admits no other text. -/
def flattening? (union : Union) : Option (List (String × String) × Bool) :=
  if context.options.flattensUnions then context.flattened? (context.valuedVariants union) else none

/-- The types that a union refers to; one that is flattened into an enum refers to none. -/
def unionReferences (union : Union) : List TypeId :=
  if (context.valuedVariants union).isEmpty then (union.variants.head?.map Variant.type).toList
  else if (context.flattening? union).isSome then []
  else (context.valuedVariants union).map Variant.type

/-- The base of a model, unless it is a record, which stands for additional properties. -/
def baseType? (model : Model) : Option TypeId :=
  model.base.filter fun base =>
    match context.definition.shapeAt base with
    | .record _ => false
    | _ => true

/-- The values of a record that stands for the base of a model. -/
def inheritedType? (model : Model) : Option TypeId :=
  model.base.bind fun base =>
    match context.definition.shapeAt base with
    | .record value => some value
    | _ => none

/-- The type of a property. -/
def propertyType (id : PropertyId) : TypeId :=
  (context.definition.propertyAt id).type

/-- The types that a model refers to. -/
def modelReferences (model : Model) : List TypeId :=
  (context.memberIds model).map context.propertyType ++ (context.baseType? model).toList ++
    (context.inheritedType? model).toList ++ model.additionalProperties.toList ++
    (if model.discriminator.isSome then model.derived else [])

/-- The types that a declaration of some shape refers to. -/
def shapeReferences : Shape → List TypeId
  | .scalar scalar => if scalar.namespaceId.isSome then scalar.base.toList else []
  | .intrinsic _ | .literal _ | .enumeration _ => []
  | .member member => [member.parent]
  | .union union => context.unionReferences union
  | .array element | .record element => [element]
  | .model model => context.modelReferences model

/-- The types that a type refers to. -/
def references (id : TypeId) : List TypeId :=
  context.shapeReferences (context.definition.shapeAt id)

/-- The node of the first type is made from that of the second. -/
def LeadsTo (id other : TypeId) : Prop :=
  ∃ reference ∈ context.references id, context.definition.payloadType reference = other

/-- The node stands for a type, or for the type whose payload it carries. -/
def Stands (state : State) (id : TypeId) (node : NodeId) : Prop :=
  state.declared.get? (context.definition.payloadType id) = some node

/-- The type is one whose node is there before those of the types that it refers to. -/
def IsOpen (id : TypeId) : Prop :=
  match context.definition.shapeAt id with
  | .model _ => True
  | .union union => context.valuedVariants union ≠ [] ∧ context.flattening? union = none
  | _ => False

variable {context}

/-- At most one node stands for a declared type. -/
theorem Stands.unique {state : State} {id : TypeId} {node other : NodeId}
    (left : context.Stands state id node) (right : context.Stands state id other) : node = other :=
  Option.some.inj (left.symm.trans right)

/-- Only models stand for other types. -/
theorem payloadType_eq {id : TypeId} (plain : context.definition.model? id = none) :
    context.definition.payloadType id = id := by
  simp [Service.Definition.payloadType, plain]

/--
What a model refers to: its members, its base, what it adds, and its subtypes if it discriminates.
-/
theorem mem_modelReferences {declared : Model} {type : TypeId} :
    type ∈ context.modelReferences declared ↔
      (∃ member ∈ context.memberIds declared, context.propertyType member = type) ∨
      context.baseType? declared = some type ∨ context.inheritedType? declared = some type ∨
      declared.additionalProperties = some type ∨
      declared.discriminator.isSome ∧ type ∈ declared.derived := by
  unfold modelReferences
  -- Subtypes are listed only under a discriminator; the other parts are so in both cases.
  cases declared.discriminator with
  | none => simp
  | some discriminator => simp

/-- A union without values shares a node or has that of null; others are flattened or not. -/
theorem unionNode_cases (derive : TypeId → Derive NodeId) (id : TypeId) (union : Union) :
    context.valuedVariants union = [] ∧ union.variants = [] ∧ context.unionNode derive id union =
        (do let node ← builtinNode .any "unknown"; remember id node; return node) ∨
      (∃ null rest, context.valuedVariants union = [] ∧ union.variants = null :: rest ∧
        context.unionNode derive id union =
          (do let node ← derive null.type; remember id node; return node)) ∨
      context.valuedVariants union ≠ [] ∧ ∃ nullable,
        ((∃ literals isFixed, context.flattening? union = some (literals, isFixed) ∧
          context.unionNode derive id union =
            context.flattenedNode id union nullable literals isFixed) ∨
        context.flattening? union = none ∧ context.unionNode derive id union =
          context.variantsNode derive id union nullable (context.valuedVariants union)) := by
  unfold unionNode
  dsimp only
  -- The cases follow the branches of the derivation; null alone is told by its first variant.
  split
  · rename_i noneValued noVariants
    exact Or.inl ⟨noneValued, noVariants, rfl⟩
  · rename_i null rest noneValued isNull
    exact Or.inr (Or.inl ⟨null, rest, noneValued, isNull, rfl⟩)
  · rename_i some notEmpty
    refine Or.inr (Or.inr ⟨fun noneValued => ?_,
      (context.valuedVariants union).length != union.variants.length, ?_⟩)
    · cases all : union.variants with
      | nil => exact some noneValued all
      | cons first rest => exact notEmpty first rest noneValued all
    · -- With values the union is flattened, or a union of variants.
      split
      · rename_i literals isFixed flat
        exact Or.inl ⟨literals, isFixed, flat, rfl⟩
      · rename_i notFlat
        exact Or.inr ⟨notFlat, rfl⟩

/-- What leads nowhere lies on no way. -/
theorem not_reaches {id other : TypeId} (nowhere : context.references id = [])
    (way : Relation.ReflTransGen context.LeadsTo id other) : other = id := by
  -- A way that is not empty has a first step, for which there is no reference.
  rcases Relation.ReflTransGen.cases_head way with same | ⟨next, ⟨reference, referred, _⟩, _⟩
  · exact same.symm
  · rw [nowhere] at referred
    cases referred

end Context

end Derivation

end ClientModel
