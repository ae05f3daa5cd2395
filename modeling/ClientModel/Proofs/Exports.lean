import ClientModel.Proofs.Coverage
import ClientModel.Proofs.Sources

/-!
Whatever the signature of a method leads to is listed by the package.

Every type in the signature of a method that is wanted on typed values is noted to be used, or else
is a text or a constant, which leads nowhere. What a noted type leads to is used in the end, and the
package lists what is used.
-/

namespace ClientModel

open Relation (ReflTransGen)

/-- A model, an enum or a named union is listed by the package. -/
structure Package.Lists (package : Package) (id : NodeId) : Prop where
  model : (package.catalogue.nodeAt id).model?.isSome → id ∈ package.models
  enumeration : (package.catalogue.nodeAt id).enumeration?.isSome → id ∈ package.enums
  union : ∀ union, (package.catalogue.nodeAt id).union? = some union → union.name.isSome →
    id ∈ package.unions

namespace Derivation

open Service (Definition)

variable {context : Context} {state : State}

/-! ## Nodes that lead nowhere -/

/-- A node for a text, or one that is a constant, carries no usage and leads nowhere. -/
theorem usage?_of_label {node : Node}
    (inert : node.kind.label = "builtin" ∨ node.kind.label = "constant") : node.usage? = none := by
  cases kind : node.kind <;> simp_all [NodeKind.label, Node.usage?]

/-- Neither a builtin type nor a constant leads anywhere. -/
theorem not_leads_of_label {catalogue : Catalogue} {sparesBase : Bool} {id other : NodeId}
    (inert : (catalogue.nodeAt id).kind.label = "builtin" ∨
      (catalogue.nodeAt id).kind.label = "constant") :
    ¬ catalogue.Leads sparesBase id other := by
  -- Nodes of these two kinds pass usage on to nothing.
  rw [leads_iff_onward]
  rintro ⟨usage, listed⟩
  cases kind : (catalogue.nodeAt id).kind <;> simp_all [NodeKind.label, onward]

/-- The nodes that are kept for primitive kinds are primitive. -/
def State.KeepsBuiltins (state : State) : Prop :=
  ∀ kind node, state.builtins.get? kind = some node → node.index < state.catalogue.size ∧
    (state.catalogue.nodeAt node).kind.label = "builtin"

namespace State.KeepsBuiltins

/-- At the start no builtin types are known. -/
theorem start : ({} : State).KeepsBuiltins := by
  -- The map of builtin types is empty.
  intro kind node known
  simp [OrderedMap.get?] at known

/-- To add a node keeps the builtin types. -/
theorem push (keeps : state.KeepsBuiltins) (node : Node) :
    State.KeepsBuiltins { state with catalogue := state.catalogue.push node } := by
  intro kind other known
  obtain ⟨inside, isBuiltin⟩ := keeps kind other known
  refine ⟨by simp only [Catalogue.size_push]; omega, ?_⟩
  -- A node that was in range is found as it was.
  rw [Catalogue.nodeAt_push_lt _ inside]
  exact isBuiltin

/-- To change a node without changing its sort keeps the builtin types. -/
theorem modify (keeps : state.KeepsBuiltins) (id : NodeId) {change : Node → Node}
    (sort : ∀ node : Node, (change node).kind.label = node.kind.label) :
    State.KeepsBuiltins { state with catalogue := state.catalogue.modify id change } := by
  intro kind other known
  obtain ⟨inside, isBuiltin⟩ := keeps kind other known
  -- Even the node that changes stays of its sort.
  refine ⟨by rw [Catalogue.size_modify]; exact inside, ?_⟩
  by_cases same : other = id
  · subst same
    rw [Catalogue.nodeAt_modify_self _ inside, sort]
    exact isBuiltin
  · rw [Catalogue.nodeAt_modify_ne _ same]
    exact isBuiltin

/-- To make a builtin type keeps those that were there. -/
theorem make (keeps : state.KeepsBuiltins) (kind : BuiltinKind) (builtin : BuiltinNode) :
    State.KeepsBuiltins { state with
      catalogue := state.catalogue.push { kind := .builtin builtin }
      builtins := state.builtins.insert kind ⟨state.catalogue.size⟩ } := by
  intro other node known
  -- The kind is the one that is made, or another one that was there before.
  rcases OrderedMap.get?_insert_cases known with ⟨rfl, rfl⟩ | known
  · refine ⟨by simp, ?_⟩
    rw [Catalogue.nodeAt_push_self]
    rfl
  · exact keeps.push _ other node known

/-- Builtin types are kept by whatever adds nodes, names and reports. -/
theorem frame : Frame 0 State.KeepsBuiltins fun _ => True where
  violation _ := trivial
  inside _ _ := Nat.zero_le _
  added _ node keeps := keeps.push node
  -- No step of a derivation turns a node into one of another sort.
  changed _ id _ keeps _ sort := keeps.modify id sort
  marked _ id _ keeps same := keeps.modify id fun node => by
    rw [← Node.label_plain, same, Node.label_plain]
  declared _ _ _ keeps _ := keeps
  builtins _ kind builtin keeps _ := keeps.make kind builtin
  names _ _ keeps := keeps
  diagnostics _ _ _ keeps := keeps

/-- Builtin types are kept throughout a run. -/
theorem robust (context : Context) : Robust context State.KeepsBuiltins fun _ => True where
  toSteady := frame.steady
  node := frame.node
  search _ := Keeps.answerOf _ fun _ _ => trivial
  clientParameter _ _ _ keeps := keeps
  endpoints _ _ keeps := keeps
  credentials _ _ keeps := keeps
  seeds _ _ keeps := keeps
  bodyFormats _ _ keeps := keeps

end State.KeepsBuiltins

/-! ## The package -/

section

variable {clients : List Client} {type id : NodeId}

/-- A node that carries usage is in the catalogue. -/
theorem mem_ids_of_usage? {catalogue : Catalogue} {id : NodeId} {usage : Usage}
    (carried : (catalogue.nodeAt id).usage? = some usage) : id ∈ catalogue.ids := by
  -- Out of range the table answers a node without usage.
  rw [Catalogue.mem_ids]
  refine Nat.lt_of_not_le fun outside => ?_
  rw [catalogue.nodeAt_of_ge outside] at carried
  cases carried

/-- Models, enums and unions carry usage. -/
theorem carriesUsage_of_sort {node : Node}
    (sort : node.model?.isSome ∨ node.enumeration?.isSome ∨ node.union?.isSome) :
    ∃ usage, node.usage? = some usage := by
  -- Of all sorts, these three have a field for it.
  cases kind : node.kind <;>
    simp_all [Node.model?, Node.enumeration?, Node.union?, Node.usage?]

/-- A package lists whatever is used. -/
theorem lists_of_used (used : ∀ usage,
    ((state.package context clients).catalogue.nodeAt id).usage? = some usage →
      usage.isEmpty = false) : (state.package context clients).Lists id := by
  generalize isNode : (state.package context clients).catalogue.nodeAt id = node at used
  -- The three lists differ in the sort of node alone.
  have listed (isOfKind : Node → Bool) (sort : node.model?.isSome ∨ node.enumeration?.isSome ∨
      node.union?.isSome) (ofKind : isOfKind node = true) :
      id ∈ (state.package context clients).catalogue.ids.filter fun id =>
        let node := (state.package context clients).catalogue.nodeAt id
        isOfKind node && node.usage?.any fun usage => !usage.isEmpty := by
    obtain ⟨usage, carried⟩ := carriesUsage_of_sort sort
    refine List.mem_filter.mpr ⟨mem_ids_of_usage? (isNode ▸ carried), ?_⟩
    dsimp only
    rw [isNode, ofKind, carried, Option.any_some, used usage carried]
    rfl
  -- Each of the lists asks for its own kind, which is told by the node.
  constructor
  · rw [isNode]
    exact fun isModel => listed (·.model?.isSome) (.inl isModel) isModel
  · rw [isNode]
    exact fun isEnum => listed (·.enumeration?.isSome) (.inr (.inl isEnum)) isEnum
  · rw [isNode]
    intro union isUnion isNamed
    refine listed (fun node => node.union?.any fun union => union.name.isSome)
      (.inr (.inr (Option.isSome_of_eq_some isUnion))) ?_
    rw [isUnion, Option.any_some, isNamed]

/-- A node that leads nowhere is all that there is to be listed from it. -/
theorem lists_of_inert (inert : (state.catalogue.nodeAt type).kind.label = "builtin" ∨
      (state.catalogue.nodeAt type).kind.label = "constant")
    (leads : ReflTransGen ((state.package context clients).catalogue.Leads
      context.options.sparesBase) type id) : (state.package context clients).Lists id := by
  rcases ReflTransGen.cases_head leads with same | ⟨next, step, _⟩
  · -- The type itself carries no usage, and is none of those that are listed.
    subst same
    refine lists_of_used fun usage carried => ?_
    rw [usage?_of_label] at carried
    · cases carried
    · exact (label_spread context.choices state.seeds type).symm ▸ inert
  · -- A step on would have been there before usage was spread.
    exact absurd (leads_of_spread step) (not_leads_of_label inert)

/-- Whatever a covered type leads to is listed. -/
theorem lists_of_covers (keeps : state.KeepsBuiltins) (covers : state.Covers type)
    (leads : ReflTransGen ((state.package context clients).catalogue.Leads
      context.options.sparesBase) type id) : (state.package context clients).Lists id := by
  -- A covered type is noted, or stands for a text, or is a constant.
  cases covers with
  | seeded noted starts passed =>
    subst starts
    exact lists_of_used fun usage carried => isUsed_spread noted passed leads carried
  | builtin known => exact lists_of_inert (.inl (keeps _ _ known).2) leads
  | constant inside isConstant => exact lists_of_inert (.inr isConstant) leads

end

/--
Whatever model, enum or named union the signature of a method leads to is listed by the package, if
the method is wanted on typed values.

The way there may go through properties, additional properties, subtypes, variants, values, the enum
of a value of it, and bases where usage is passed on to them.
-/
theorem signature_types_are_listed {definition : Definition} {options : Options}
    {package : Package} (derived : derivePackage definition options = .ok package) :
    ∀ client ∈ Client.walkAll package.clients, ∀ method ∈ client.methods,
      method.isConvenient = true → ∀ type ∈ method.signature, ∀ id,
        ReflTransGen (package.catalogue.Leads options.sparesBase) type id → package.Lists id := by
  obtain ⟨clients, run, rfl⟩ := derivePackage_ok derived
  intro client below method member wanted type inSignature id leads
  -- At the end of the run, every method that is wanted has its signature covered.
  have covered := telling_covered.clients.ok trivial run client below method member wanted
  have keeps : (finalState definition options).KeepsBuiltins :=
    ((State.KeepsBuiltins.robust _).stable.clients fun _ _ _ _ => trivial).ok .start run
  exact lists_of_covers keeps (covered type inSignature) leads

/-- A service with a method that sends a bird, which is an animal with a plumage and a flock. -/
def aviary : Definition where
  types := #[{ shape := .scalar { name := "string" } },
    { shape := .model { name := some "Animal", properties := [⟨0⟩], derived := [⟨2⟩] } },
    { shape := .model { name := some "Bird", properties := [⟨1⟩, ⟨2⟩], base := some ⟨1⟩ } },
    { shape := .enumeration { name := "Plumage", members := [⟨4⟩] } },
    { shape := .member { name := "White", parent := ⟨3⟩ } },
    { shape := .array ⟨2⟩ }]
  properties := #[{ name := "name", model := some ⟨1⟩, type := ⟨0⟩ },
    { name := "plumage", model := some ⟨2⟩, type := ⟨4⟩ },
    { name := "flock", model := some ⟨2⟩, type := ⟨5⟩ }, { name := "bird", type := ⟨2⟩ }]
  operations := #[
    { name := "admit", container := ⟨0⟩, verb := .put, path := "/birds", parameters := [⟨3⟩]
      bodies := [{ property := some ⟨3⟩, type := ⟨2⟩ }] }]
  containers := #[{ name := "Aviary", operations := [⟨0⟩], service := some {} }]

/-- In the aviary there is a method with a type, and all that it leads to is listed. -/
theorem signature_types_are_listed_aviary :
    ∃ package, derivePackage aviary {} = .ok package ∧
      (∃ client ∈ Client.walkAll package.clients, ∃ method ∈ client.methods,
        method.isConvenient = true ∧ ⟨0⟩ ∈ method.signature) ∧
      ∀ client ∈ Client.walkAll package.clients, ∀ method ∈ client.methods,
        method.isConvenient = true → ∀ type ∈ method.signature, ∀ id,
          ReflTransGen (package.catalogue.Leads false) type id → package.Lists id := by
  -- The run is evaluated to see that there is a method with a type in its signature.
  have sends : (match derivePackage aviary {} with
      | .ok package => (Client.walkAll package.clients).any fun client =>
        client.methods.any fun method => method.isConvenient && method.signature.contains ⟨0⟩
      | .error _ => false) = true := by
    decide +kernel
  cases derived : derivePackage aviary {} with
  | error failure => simp [derived] at sends
  | ok package =>
    rw [derived] at sends
    simp only [List.any_eq_true, Bool.and_eq_true, List.contains_iff_mem] at sends
    exact ⟨package, rfl, sends, signature_types_are_listed derived⟩

end Derivation

end ClientModel
