import ClientModel.Proofs.Closure
import ClientModel.Proofs.EnteringShapes

/-!
Deriving the nodes of models.

A model is entered before its members are derived, and has them before its base is. A base that
meets its subtypes finds the text that each is known by, unless the subtype was entered first and
has led to it by one of its own members.
-/

namespace ClientModel

/-- What a model names does not depend on its marks. -/
theorem ModelNode.nodeIds_plain (model : ModelNode) :
    (NodeKind.model model.plain).nodeIds = (NodeKind.model model).nodeIds := by
  -- Marks are flags on properties, and none of them is a node.
  simp only [NodeKind.nodeIds, ModelNode.plain, List.flatMap_map]
  rfl

/-- A node that has a model is of that kind. -/
theorem Node.kind_of_model? {node : Node} {model : ModelNode} (isModel : node.model? = some model) :
    node.kind = .model model := by
  -- Of all kinds, that of a model is the only one for which there is something.
  unfold Node.model? at isModel
  split at isModel
  · rename_i kind
    rw [kind, Option.some.inj isModel]
  · cases isModel

/-- To change the model of a node that is one changes what it holds. -/
theorem Node.kind_mapModel {node : Node} {model : ModelNode} (change : ModelNode → ModelNode)
    (kind : node.kind = .model model) : (node.mapModel change).kind = .model (change model) := by
  simp only [Node.mapModel, kind]

namespace Derivation

open Service (Definition Enumeration Intrinsic Literal Model Scalar Shape Union Variant)

variable {α : Type} {context : Context} {start state before after : State}

/-! ## Marks -/

/-- None is marked just if no property has the wire name. -/
theorem markDiscriminator?_eq_none {properties : List Property} {discriminator : String} :
    markDiscriminator? properties discriminator = none ↔
      ∀ property ∈ properties, property.serializedName ≠ discriminator := by
  -- By induction on the properties, the first of which may have the name.
  induction properties with
  | nil => simp [markDiscriminator?]
  | cons first rest ih =>
    rw [markDiscriminator?]
    split
    · rename_i isFirst
      simp [beq_iff_eq.mp isFirst]
    · rename_i notFirst
      rw [Option.map_eq_none_iff, ih, List.forall_mem_cons]
      exact (and_iff_right (by simpa using notFirst)).symm

/-- The first property of a wire name, after the first of one wire name was marked. -/
theorem find?_markDiscriminator? {properties marked : List Property} {discriminator : String}
    (found : markDiscriminator? properties discriminator = some marked) (name : String) :
    marked.find? (fun property => property.serializedName == name) =
      (properties.find? fun property => property.serializedName == name).map fun property =>
        if property.serializedName == discriminator then { property with role := .member true }
        else property := by
  -- By induction on the properties: the first one has the name that is asked for, or has not.
  induction properties generalizing marked with
  | nil => simp [markDiscriminator?] at found
  | cons property rest ih =>
    rw [markDiscriminator?] at found
    by_cases isName : property.serializedName == name
    · split at found
      · rename_i isFirst
        cases found
        rw [List.find?_cons_of_pos (by exact isName), List.find?_cons_of_pos (by exact isName)]
        simp only [Option.map_some, isFirst, if_true]
      · rename_i notFirst
        obtain ⟨others, _, rfl⟩ := Option.map_eq_some_iff.mp found
        rw [List.find?_cons_of_pos (by exact isName), List.find?_cons_of_pos (by exact isName)]
        simp only [Option.map_some, notFirst, if_false, Bool.false_eq_true]
    · split at found
      · -- Any later one of another name is as it was.
        rename_i isFirst
        cases found
        rw [List.find?_cons_of_neg (by exact isName), List.find?_cons_of_neg (by exact isName)]
        cases isOther : rest.find? fun property => property.serializedName == name with
        | none => rfl
        | some other =>
          have apart : (other.serializedName == discriminator) = false := by
            have named := List.find?_some isOther
            rw [beq_eq_false_iff_ne, beq_iff_eq.mp named]
            rintro rfl
            exact isName isFirst
          simp only [Option.map_some, apart, if_false, Bool.false_eq_true]
      -- Neither name is that of the first property, so that both are found later.
      · obtain ⟨others, foundLater, rfl⟩ := Option.map_eq_some_iff.mp found
        rw [List.find?_cons_of_neg (by exact isName), List.find?_cons_of_neg (by exact isName),
          ih foundLater]

/-- The first property of a wire name is marked where the first of that name is marked. -/
theorem find?_markDiscriminator?_self {properties marked : List Property} {discriminator : String}
    (found : markDiscriminator? properties discriminator = some marked) :
    ∃ property, marked.find? (fun property => property.serializedName == discriminator) =
      some property ∧ property.isDiscriminator := by
  rw [find?_markDiscriminator? found]
  -- One was marked, so that there is one of the name.
  cases first : properties.find? fun property => property.serializedName == discriminator with
  | none =>
    have unmarked := markDiscriminator?_eq_none.mpr (by simpa using List.find?_eq_none.mp first)
    rw [unmarked] at found
    cases found
  | some property =>
    have named := List.find?_some first
    exact ⟨{ property with role := .member true },
      by simp only [Option.map_some, named, if_true], rfl⟩

/-- Marking a property takes no mark of another one back. -/
theorem find?_markDiscriminator?_isDiscriminator {properties marked : List Property}
    {discriminator name : String}
    (found : markDiscriminator? properties discriminator = some marked) {property : Property}
    (first : properties.find? (fun property => property.serializedName == name) = some property)
    (isMarked : property.isDiscriminator) :
    ∃ property, marked.find? (fun property => property.serializedName == name) = some property ∧
      property.isDiscriminator := by
  rw [find?_markDiscriminator? found, first, Option.map_some]
  refine ⟨_, rfl, ?_⟩
  -- It was marked just now, or before.
  split
  · rfl
  · exact isMarked

/-! ## Texts of subtypes -/

/-- The text of a node that stands for a type is the one that the declaration tells. -/
theorem Orderly.text (orderly : Orderly context state) {id : TypeId} {node : NodeId}
    (stands : context.Stands state id node) : Node.constantText? (state.catalogue.nodeAt node) =
      shapeText? (context.definition.shapeAt (context.definition.payloadType id)) :=
  (orderly.suits _ node stands).text

/-- By induction on the members: the first one of a wire name has the text of its type. -/
theorem Orderly.text_of_members (orderly : Orderly context state) {owner : NodeId}
    {ownerId : String} {ids : List PropertyId} {members : List Property}
    (each : List.Forall₂ (context.IsMember state owner ownerId) ids members) (name : String) :
    (((members.map fun member => (member.serializedName, member.type)).find? fun slot =>
        slot.1 == name).bind fun slot => Node.constantText? (state.catalogue.nodeAt slot.2)) =
      (ids.find? fun id => (context.definition.propertyAt id).serializedName == name).bind fun id =>
        shapeText? (context.definition.shapeAt
          (context.definition.payloadType (context.propertyType id))) := by
  -- Members and their declarations go together, and are searched alike.
  induction each with
  | nil => rfl
  | @cons id member _ _ first _ ih =>
    have wireName : member.serializedName = (context.definition.propertyAt id).serializedName :=
      congrArg Property.serializedName first.1
    rw [List.map_cons, List.find?_cons, List.find?_cons, wireName]
    cases (context.definition.propertyAt id).serializedName == name with
    | true => exact orderly.text first.2
    | false => exact ih

/-- A model that has its members tells the text that each of them fixes. -/
theorem Orderly.text_of_hasMembers (orderly : Orderly context state) {declared : Model}
    {node : NodeId} {model : ModelNode} (has : context.HasMembers state declared node model)
    (name : String) :
    ((model.slots.find? fun slot => slot.1 == name).bind fun slot =>
        Node.constantText? (state.catalogue.nodeAt slot.2)) =
      (context.memberNamed? declared name).bind fun id =>
        shapeText? (context.definition.shapeAt
          (context.definition.payloadType (context.propertyType id))) := by
  obtain ⟨front, members, all, isFront, each⟩ := has
  have texts := orderly.text_of_members each name
  -- The slots are what comes before the members and then the members, in order.
  rw [ModelNode.slots, all]
  -- What comes before the members may have the name that is asked for.
  cases isFront with
  | nothing => exact texts
  | @discriminator synthesized string _ isString undeclared =>
    by_cases isName : synthesized = name
    · -- The discriminator that was made up holds any text, and no member has its name.
      subst isName
      obtain ⟨_, _, builtin, isBuiltin, _⟩ := orderly.builtins _ _ isString
      have unnamed : context.memberNamed? declared synthesized = none := by
        refine List.find?_eq_none.mpr fun id listed isName => ?_
        obtain ⟨member, isMember, told⟩ := partner_of_mem each listed
        refine undeclared member isMember ?_
        rw [← beq_iff_eq.mp isName]
        exact congrArg Property.serializedName told.1
      rw [unnamed]
      simp [Context.discriminatorOf, Property.unmarked, Node.constantText?, isBuiltin]
    · rw [List.singleton_append, List.map_cons, List.find?_cons_of_neg]
      · exact texts
      · simpa [Context.discriminatorOf, Property.unmarked] using isName

/-- What is read off a subtype is the text that it fixes, unless it leads to the base just now. -/
theorem discriminatorValue?_eq_fixedText? (orderly : Orderly context state) {base derived : TypeId}
    {child : NodeId} (ready : context.Ready base state)
    (stands : context.Stands state derived child) (name : String) :
    discriminatorValue? state.catalogue child name = context.fixedText? derived name ∨
      discriminatorValue? state.catalogue child name = none ∧
        context.MembersLead (context.definition.payloadType derived) base := by
  have suits := (orderly.suits _ child stands).model
  -- Both look for the first property of a name, one in the node, the other in its declaration.
  rw [discriminatorValue?_eq, Context.fixedText?]
  cases isModel : context.definition.model? (context.definition.payloadType derived) with
  | none =>
    -- What is no model fixes nothing.
    rw [isModel, Option.isSome_none, Option.isSome_eq_false_iff, Option.isNone_iff_eq_none] at suits
    left
    simp [Catalogue.model?, suits]
  | some declared =>
    -- The subtype has its members, or has none so far and leads on to the base.
    obtain ⟨model, isKind, told⟩ := ready _ child declared stands isModel
    obtain ⟨actual, isActual, rfl⟩ : ∃ actual, state.catalogue.model? child = some actual ∧
        actual.plain = model := by
      have plain := (state.catalogue.nodeAt child).model?_plain
      rw [Node.model?, isKind] at plain
      exact Option.map_eq_some_iff.mp plain.symm
    rw [isActual, Option.bind_some, ← actual.slots_plain]
    rcases told with has | ⟨bare, leads⟩
    · left
      rw [orderly.text_of_hasMembers has name]
      rfl
    · right
      simp [ModelNode.slots, bare, leads]

/-! ## Subtypes -/

/-- The subtypes that are listed are those that were met with a text. -/
theorem mem_values_subtypesOf {children : List Context.Child} {node : NodeId}
    (listed : node ∈ (Context.subtypesOf children).values) :
    ∃ value, (node, some value) ∈ children := by
  -- By induction on the subtypes, from whatever has been listed before.
  have fold : ∀ (rest : List Context.Child) (found : OrderedMap String NodeId),
      node ∈ (rest.foldl (fun subtypes child => child.2.elim subtypes fun value =>
        subtypes.insert value child.1) found).values →
      node ∈ found.values ∨ ∃ value, (node, some value) ∈ rest := by
    intro rest
    -- What is listed later may replace an entry, but brings in no node of another subtype.
    induction rest with
    | nil => exact fun _ listed => Or.inl listed
    | cons first rest ih =>
      intro found listed
      rcases ih _ listed with earlier | ⟨value, member⟩
      · obtain ⟨child, text⟩ := first
        cases text with
        | none => exact Or.inl earlier
        | some value =>
          refine (OrderedMap.mem_values_insert earlier).symm.imp_right fun same => ?_
          exact ⟨value, same ▸ List.mem_cons_self⟩
      · exact Or.inr ⟨value, List.mem_cons_of_mem _ member⟩
  refine (fold children {} listed).resolve_left fun none => ?_
  simp [OrderedMap.values] at none

/-- One more subtype comes after those that were met. -/
theorem subtypesOf_append (children : List Context.Child) (child : Context.Child) :
    Context.subtypesOf (children ++ [child]) = child.2.elim (Context.subtypesOf children)
      fun value => (Context.subtypesOf children).insert value child.1 := by
  -- Subtypes are put in from the left, so the last child is put in last.
  rw [Context.subtypesOf, List.foldl_append]
  rfl

/-- A model that is known as a subtype, by a value of a discriminator. -/
def knownBy (name value : String) (model : ModelNode) : ModelNode :=
  { model with
    discriminatorValue := some value
    properties := (markDiscriminator? model.properties name).getD model.properties }

/-- A subtype that is known by a text is marked, and nothing else changes. -/
theorem Derived.markSubtype (orderly : Orderly context state) {child : NodeId} {name value : String}
    (fixed : discriminatorValue? state.catalogue child name = some value) :
    let catalogue := state.catalogue.modify child fun node => node.mapModel (knownBy name value)
    Derived context state { state with catalogue } ∧ (catalogue.nodeAt child).IsFlagged name ∧
      (catalogue.nodeAt child).IsValued := by
  intro catalogue
  obtain ⟨model, isModel, fixed⟩ := Option.bind_eq_some_iff.mp fixed
  obtain ⟨property, found, _⟩ := Option.bind_eq_some_iff.mp fixed
  -- The text was read off a model.
  have kind : (state.catalogue.nodeAt child).kind = .model model := Node.kind_of_model? isModel
  have inside : child.index < state.catalogue.size := by
    by_contra outside
    rw [Catalogue.nodeAt_of_ge _ (Nat.le_of_not_lt outside)] at kind
    cases kind
  -- The text was read off a property of the name, so that there is one to be marked.
  obtain ⟨marked, isMarked⟩ : ∃ marked, markDiscriminator? model.properties name = some marked := by
    refine Option.ne_none_iff_exists'.mp fun missing => ?_
    refine markDiscriminator?_eq_none.mp missing property (List.mem_of_find?_eq_some found) ?_
    simpa using List.find?_some found
  have properties : (knownBy name value model).properties = marked := by simp [knownBy, isMarked]
  have changed := Node.kind_mapModel (knownBy name value) kind
  -- Marks are no part of what a node renders, nor do they name other nodes.
  refine ⟨.mark inside (fun node => Node.plain_mapModel fun model => plain_marked model _ _)
    (fun node => ?_) orderly (Or.inr ?_) ⟨?_, fun _ => ⟨_, changed, rfl⟩⟩, ?_, ?_⟩
  · cases isKind : node.kind with
    | model other =>
      have same : (knownBy name value other).plain = other.plain := plain_marked other value name
      rw [Node.kind_mapModel _ isKind, ← ModelNode.nodeIds_plain, same, ModelNode.nodeIds_plain]
    | _ => simp [Node.mapModel, isKind]
  · simp [Node.carriesUsage, Node.usage?, kind]
  · rintro other ⟨same, isSame, first, isFirst, flagged⟩
    obtain rfl : model = same := NodeKind.model.inj (kind.symm.trans isSame)
    refine ⟨_, changed, ?_⟩
    rw [ModelNode.IsFlagged, properties]
    exact find?_markDiscriminator?_isDiscriminator isMarked isFirst flagged
  · rw [Catalogue.nodeAt_modify_self _ inside]
    refine ⟨_, changed, ?_⟩
    rw [ModelNode.IsFlagged, properties]
    exact find?_markDiscriminator?_self isMarked
  · rw [Catalogue.nodeAt_modify_self _ inside]
    exact ⟨_, changed, rfl⟩

section

variable {derive : TypeId → Derive NodeId} (others : Derives context derive) {id : TypeId}
  {declared : Model} (shape : context.definition.shapeAt id = .model declared)
include others shape

/-- A subtype that is met is known by the text that it fixes, or else is reported. -/
theorem addSubtype_conveys {name : String} (discriminated : declared.discriminator = some name)
    (subtypes : OrderedMap String NodeId) {derived : TypeId} (listed : derived ∈ declared.derived) :
    Conveys (Derived context) (context.Ready id)
      (Context.addSubtype derive name subtypes derived) fun found state => ∃ child,
        context.IsChild state id name derived child ∧
          found = child.2.elim subtypes fun value => subtypes.insert value child.1 := by
  -- A model with a discriminator refers to its subtypes.
  have referred : derived ∈ context.references id := by
    rw [Context.references, shape]
    exact Context.mem_modelReferences.mpr
      (Or.inr (Or.inr (Or.inr (Or.inr ⟨by simp [discriminated], listed⟩))))
  unfold Context.addSubtype
  refine (others.reference referred).onward (fun _ ready => ready) fun child =>
    Conveys.get_bind fun current orderly start => ?_
  obtain ⟨ready, stands⟩ := start
  -- What is read off the subtype is what it fixes, or it leads on to the base.
  have told := discriminatorValue?_eq_fixedText? orderly ready stands name
  split
  · rename_i value fixed
    obtain ⟨derivedNow, flagged, valued⟩ := Derived.markSubtype orderly fixed
    rw [fixed] at told
    have known : Conveys (Derived context) (fun state => state = current)
        (modifyNode child fun node => node.mapModel (knownBy name value))
        fun _ state => context.IsChild state id name derived (child, some value) := by
      refine Conveys.modify ?_
      rintro state - rfl
      exact ⟨derivedNow, stands, told, fun _ => ⟨flagged, valued⟩⟩
    exact (known.starting fun _ _ start => start.1).bind fun _ =>
      Conveys.pure fun _ _ isChild => ⟨_, isChild, rfl⟩
  · rename_i unfixed
    rw [unfixed] at told
    have isBase := model?_of_shapeAt shape
    -- Without a text the subtype is reported, and this is the one case of such a report.
    have missed : Conveys (Derived context) (fun state => state = current)
        (reportError (.type derived) Code.discriminatorNotConstant
          ("subtype does not set discriminator '" ++ name ++ "' to a constant value"))
        fun _ state => context.IsChild state id name derived (child, none) := by
      refine Conveys.modify ?_
      rintro state - rfl
      have missing : context.Unfixed derived :=
        ⟨id, declared, name, isBase, discriminated, listed, told.imp Eq.symm And.right⟩
      exact ⟨.of_move ((Grown.refl _).report _) (.unfixed missing rfl) rfl, stands, told,
        fun known => by cases known⟩
    exact (missed.starting fun _ _ start => start.1).bind fun _ =>
      Conveys.pure fun _ _ isChild => ⟨_, isChild, rfl⟩

/-- By induction on the subtypes: all of them are met, in order. -/
theorem addSubtypes_convey {name : String} (discriminated : declared.discriminator = some name)
    (list : List TypeId) (among : list ⊆ declared.derived) (children : List Context.Child) :
    Conveys (Derived context) (context.Ready id)
      (list.foldlM (Context.addSubtype derive name) (Context.subtypesOf children))
      fun found state => ∃ more, List.Forall₂ (context.IsChild state id name) list more ∧
        found = Context.subtypesOf (children ++ more) := by
  -- The subtypes that were met so far are carried along.
  induction list generalizing children with
  | nil =>
    rw [List.foldlM_nil]
    exact Conveys.pure fun _ _ _ => ⟨[], .nil, by simp⟩
  | cons first rest ih =>
    rw [List.foldlM_cons]
    refine (addSubtype_conveys others shape discriminated _ (among List.mem_cons_self)).onward
      (fun _ ready => ready) fun found => ?_
    -- The first subtype stays what it is while the others are met.
    have rest (child : Context.Child) (isFound : found = child.2.elim
        (Context.subtypesOf children) fun value =>
          (Context.subtypesOf children).insert value child.1) :
        Conveys (Derived context)
          (fun state => context.Ready id state ∧ context.IsChild state id name first child)
          (rest.foldlM (Context.addSubtype derive name) found)
          fun all state => ∃ more,
            List.Forall₂ (context.IsChild state id name) (first :: rest) more ∧
              all = Context.subtypesOf (children ++ more) := by
      have later := ih (fun other member => among (List.mem_cons_of_mem _ member))
        (children ++ [child])
      rw [subtypesOf_append, ← isFound] at later
      refine (later.beside.starting fun _ _ start => start.symm).ending ?_
      rintro all state - ⟨isChild, more, each, rfl⟩
      exact ⟨child :: more, .cons isChild each, by simp⟩
    exact (Conveys.any fun child => Conveys.given (rest child)).starting fun _ _ start =>
      start.2.imp fun _ told => ⟨⟨start.1, told.1⟩, told.2⟩

end

/-! ## Parts of models -/

/-- The node of a model that was entered is a model, which may bear marks. -/
theorem Entered.actual {id : TypeId} {node : NodeId} {model : ModelNode}
    (entered : Entered context start id node (.model model) state) :
    ∃ actual, (state.catalogue.nodeAt node).kind = .model actual ∧ actual.plain = model := by
  have shows' := entered.shows.2
  -- What shows a model without marks is a model.
  cases kind : (state.catalogue.nodeAt node).kind <;>
    simp [Node.plain, NodeKind.plain, kind] at shows'
  exact ⟨_, rfl, shows'⟩

/-- The model that was entered changes, and all else stays rendered and as it was. -/
theorem Entered.changeModel (orderly : Orderly context start) {id : TypeId} {node : NodeId}
    {model model' : ModelNode} {change : ModelNode → ModelNode}
    (entered : Entered context start id node (.model model) state)
    (told : ∀ actual : ModelNode, actual.plain = model → (change actual).plain = model')
    (names : state.catalogue.Holds (NodeKind.model model').nodeIds)
    (flagged : ∀ actual : ModelNode, actual.plain = model → ∀ name, actual.IsFlagged name →
      (change actual).IsFlagged name)
    (valued : ∀ actual : ModelNode,
      (change actual).discriminatorValue = actual.discriminatorValue) :
    Entered context start id node (.model model') { state with
        catalogue := state.catalogue.modify node fun parent => parent.mapModel change } ∧
      Sustains state { state with
        catalogue := state.catalogue.modify node fun parent => parent.mapModel change } := by
  obtain ⟨actual, kind, isPlain⟩ := entered.actual
  have changed := Node.kind_mapModel change kind
  -- The change is told by what it does to the model, with or without marks.
  refine entered.change orderly ?_ ?_ (Node.label_mapModel _ _) ?_ ⟨?_, ?_⟩ ?_
  · simp [Node.mapModel, kind]
  · simp [Node.carriesUsage, Node.usage?, kind]
  · rw [changed, ← ModelNode.nodeIds_plain, told actual isPlain]
    exact names
  · rintro name ⟨same, isSame, isFlagged⟩
    -- The model before the change is the one that is there, since a node is of one kind.
    obtain rfl : actual = same := NodeKind.model.inj (kind.symm.trans isSame)
    exact ⟨_, changed, flagged actual isPlain name isFlagged⟩
  · rintro ⟨same, isSame, isValue⟩
    obtain rfl : actual = same := NodeKind.model.inj (kind.symm.trans isSame)
    exact ⟨_, changed, (congrArg Option.isSome (valued actual)).trans isValue⟩
  · rw [Node.plain, changed]
    exact congrArg NodeKind.model (told actual isPlain)

/-- A member has no mark of its own. -/
theorem Context.IsMember.unmarked {owner : NodeId} {ownerId : String} {id : PropertyId}
    {property : Property} (member : context.IsMember state owner ownerId id property) :
    property.unmarked = property := by
  -- A member is written without a mark, so there is none to be taken off.
  rw [member.1]
  rfl

/-- A member names the node of its type, and the model that it belongs to. -/
theorem Context.IsMember.holds (orderly : Orderly context state) {owner : NodeId}
    {ownerId : String} {id : PropertyId} {property : Property}
    (member : context.IsMember state owner ownerId id property)
    (inside : owner.index < state.catalogue.size) : state.catalogue.Holds property.nodeIds := by
  have isOwner : property.owner = some owner := congrArg Property.owner member.1
  -- A property names but its owner and its type, both of which are in range.
  intro named listed
  rw [Property.nodeIds, isOwner] at listed
  rcases List.mem_pair.mp listed with rfl | rfl
  · exact orderly.inside _ _ member.2
  · exact inside

/-- What the properties of a model name is in range, if the model is. -/
theorem holds_of_hasMembers (orderly : Orderly context state) {declared : Model} {node : NodeId}
    {model : ModelNode} (has : context.HasMembers state declared node model)
    (inside : node.index < state.catalogue.size) :
    state.catalogue.Holds (model.properties.flatMap Property.nodeIds) := by
  -- Properties name their model and their types, and both are in range.
  obtain ⟨front, members, all, isFront, each⟩ := has
  intro other named
  obtain ⟨property, listed, isNamed⟩ := List.mem_flatMap.mp named
  rw [all] at listed
  rcases List.mem_append.mp listed with inFront | inMembers
  · cases isFront with
    | nothing => cases inFront
    | discriminator _ isString =>
      rw [List.mem_singleton.mp inFront] at isNamed
      rcases List.mem_pair.mp isNamed with rfl | rfl
      · exact (orderly.builtins _ _ isString).1
      · exact inside
  · obtain ⟨_, _, isMember⟩ := partner_of_mem each.flip inMembers
    exact Context.IsMember.holds orderly isMember inside other isNamed

/-- What a model that was entered names is in range. -/
theorem Entered.holds (orderly : Orderly context start) {id : TypeId} {node : NodeId}
    {model : ModelNode} (entered : Entered context start id node (.model model) state) :
    state.catalogue.Holds (NodeKind.model model).nodeIds := by
  -- The model may have grown since it was entered, but only by marks, and marks name no nodes.
  obtain ⟨actual, kind, rfl⟩ := entered.actual
  have names := (orderly.path entered.later.path).names node
  rw [kind, ← ModelNode.nodeIds_plain] at names
  exact names

/-- Members without marks are all the members there are. -/
theorem map_unmarked_of_members {owner : NodeId} {ownerId : String} {ids : List PropertyId}
    {members : List Property}
    (each : List.Forall₂ (context.IsMember state owner ownerId) ids members) :
    members.map Property.unmarked = members := by
  -- By induction on the members.
  induction each with
  | nil => rfl
  | cons first _ ih => rw [List.map_cons, first.unmarked, ih]

section

variable {derive : TypeId → Derive NodeId} (others : Derives context derive) {id : TypeId}
  {declared : Model} (shape : context.definition.shapeAt id = .model declared)
include shape

/-- What a model refers to, its type refers to. -/
theorem mem_references_of_model {other : TypeId}
    (referred : other ∈ context.modelReferences declared) : other ∈ context.references id := by
  -- The references of a type are told by its shape, and this one is a model.
  rw [Context.references, shape]
  exact referred

include others

/-- The base of a model, or the values of the record it extends, stand for what is declared. -/
theorem inheritance_conveys :
    Conveys (Derived context) (context.Ready id) (context.inheritance derive declared)
      fun found state =>
        List.Forall₂ (context.Stands state) (context.baseType? declared).toList found.1.toList ∧
        List.Forall₂ (context.Stands state) (context.inheritedType? declared).toList
          found.2.toList := by
  -- The base, and the record in its place, are among the references of the model.
  have reference {other : TypeId} (referred : other ∈ context.modelReferences declared) :=
    others.reference (mem_references_of_model shape referred)
  unfold Context.inheritance
  -- A record is no base; what it holds becomes additional properties.
  split
  · rename_i noBase
    exact Conveys.pure fun _ _ _ => by simp [Context.baseType?, Context.inheritedType?, noBase]
  · rename_i base isBase
    split
    · -- The values of a record are those of additional properties.
      rename_i value isRecord
      refine (reference (Context.mem_modelReferences.mpr ?_)).bind fun node =>
        Conveys.pure fun _ _ stands => ?_
      · simp [Context.inheritedType?, isBase, isRecord]
      · simp [Context.baseType?, Context.inheritedType?, isBase, isRecord, stands]
    · -- Any other base is what its node stands for.
      rename_i notRecord
      refine (reference (Context.mem_modelReferences.mpr ?_)).bind fun node =>
        Conveys.pure fun _ _ stands => ?_
      · simp [Context.baseType?, isBase, Option.filter]
      · simp [Context.baseType?, Context.inheritedType?, isBase, Option.filter, stands]

/-- The additional properties stand for what is declared, or inherited where nothing is. -/
theorem additionalNode?_conveys (inherited : Option NodeId) :
    Conveys (Derived context)
      (fun state => context.Ready id state ∧ List.Forall₂ (context.Stands state)
        (context.inheritedType? declared).toList inherited.toList)
      (Context.additionalNode? derive declared inherited) fun found state =>
        List.Forall₂ (context.Stands state)
          (declared.additionalProperties.or (context.inheritedType? declared)).toList
          found.toList := by
  unfold Context.additionalNode?
  split
  · -- What is declared goes before what is inherited.
    rename_i value isValue
    have referred : value ∈ context.modelReferences declared :=
      Context.mem_modelReferences.mpr (by simp [isValue])
    refine Conveys.map ((others.reference (mem_references_of_model shape referred)).weaken
      (fun _ _ start => start.1) fun node state _ stands => ?_)
    simp [isValue, stands]
  · -- Without values of its own a model has those that it inherits.
    rename_i noValue
    exact Conveys.pure fun _ _ start => by simpa [noValue] using start.2

/-- The members of a model that was entered are derived while it has none, and noted on it. -/
theorem noteMembers_ensures (orderly : Orderly context start) (ready : context.Ready id start)
    {node : NodeId} {model : ModelNode} (bare : model.properties = []) {next : Derive α}
    {after : α → State → Prop}
    (rest : ∀ properties, Ensures
      (fun state => Entered context start id node (.model { model with properties }) state ∧
        context.HasMembers state declared node { model with properties })
      next after fun _ _ => True) :
    Ensures (Entered context start id node (.model model))
      (do
        let properties ← (context.memberIds declared).mapM
          (context.memberProperty derive node model.crossId)
        modifyNode node fun parent => parent.mapModel ({ · with properties })
        next)
      after fun _ _ => True := by
  have isModel := model?_of_shapeAt shape
  -- Each member may lead back to the model, which has no members so far.
  let needed (state : State) : Prop := ∀ member ∈ context.memberIds declared,
    context.Ready (context.definition.payloadType (context.propertyType member)) state
  have stays : Lasts (Derived context) needed := Lasts.all
  have each : ∀ member ∈ context.memberIds declared, Conveys (Derived context) needed
      (context.memberProperty derive node model.crossId member)
      (fun property state => context.IsMember state node model.crossId member property) :=
    fun member listed => ((others (context.propertyType member)).starting
      fun _ _ has => has member listed).bind fun type => Conveys.pure fun _ _ stands =>
        ⟨rfl, stands⟩
  have members := Conveys.mapM (context.memberIds declared) each
  have needs (state : State) (entered : Entered context start id node (.model model) state)
      (_ : True) : needed state := by
    intro member listed
    refine entered.ready (ready.tail ⟨_, ?_, rfl⟩) fun found isFound => ?_
    · refine mem_references_of_model shape (Context.mem_modelReferences.mpr (Or.inl ?_))
      exact ⟨member, listed, rfl⟩
    · exact ⟨model, rfl, Or.inr ⟨bare, declared, isModel, member, listed, .refl⟩⟩
  refine Ensures.starting (Entered.bind orderly members needs fun properties => ?_)
    fun _ entered => ⟨entered, trivial⟩
  -- The members are noted all at once.
  refine Ensures.bind (Ensures.modifyNode ?_) fun _ => rest properties
  rintro state ⟨entered, all⟩
  have unmarked := map_unmarked_of_members all
  have has : context.HasMembers state declared node { model with properties } :=
    ⟨[], properties, rfl, .nothing, all⟩
  refine (entered.changeModel orderly ?_ ?_ ?_ ?_).imp_right fun sustains => sustains.hasMembers has
  · rintro actual rfl
    simp [ModelNode.plain, unmarked]
  · obtain ⟨_, rest⟩ := Catalogue.holds_model.mp (entered.holds orderly)
    exact Catalogue.holds_model.mpr
      ⟨holds_of_hasMembers (orderly.path entered.later.path) has entered.shows.1, rest⟩
  -- A model without properties carries no mark to lose.
  · rintro actual rfl name ⟨property, found, _⟩
    rw [List.map_eq_nil_iff.mp bare] at found
    cases found
  · exact fun _ => rfl

/-- What a model that was entered extends is derived next, and noted on it. -/
theorem noteKin_ensures (orderly : Orderly context start) (ready : context.Ready id start)
    {node : NodeId} {model : ModelNode} {next : Derive α} {after : α → State → Prop}
    (rest : ∀ base additionalProperties, Ensures
      (fun state => Entered context start id node
          (.model { model with base, additionalProperties }) state ∧
        context.HasParts state declared node { model with base, additionalProperties })
      next after fun _ _ => True) :
    Ensures (fun state => Entered context start id node (.model model) state ∧
        context.HasMembers state declared node model)
      (do
        let kin ← context.inheritance derive declared
        let additionalProperties ← Context.additionalNode? derive declared kin.2
        modifyNode node fun parent =>
          parent.mapModel ({ · with base := kin.1, additionalProperties })
        next)
      after fun _ _ => True := by
  have isModel := model?_of_shapeAt shape
  -- With its members, the model is ready for whatever else leads back to it.
  have readyNow (state : State) (entered : Entered context start id node (.model model) state)
      (has : context.HasMembers state declared node model) : context.Ready id state :=
    entered.ready ready fun found isFound => by
      obtain rfl : declared = found := Option.some.inj (isModel.symm.trans isFound)
      exact ⟨model, rfl, Or.inl has⟩
  -- What the model has so far is carried past the derivation of its base.
  refine Entered.onward orderly (inheritance_conveys others shape) readyNow fun kin => ?_
  refine Entered.onward orderly (additionalNode?_conveys others shape kin.2)
    (fun state entered told => ⟨readyNow state entered told.1, told.2.2⟩) fun additional => ?_
  refine Ensures.bind (Ensures.modifyNode ?_) fun _ => rest kin.1 additional
  -- The note is a change of the model, which keeps its members and what its parts stand for.
  rintro state ⟨entered, ⟨has, isBase, _⟩, isAdditional⟩
  refine (entered.changeModel orderly ?_ ?_ ?_ ?_).imp_right fun sustains =>
    ⟨sustains.hasMembers has, isBase, isAdditional⟩
  · rintro actual rfl
    rfl
  · have inside {ids : List TypeId} {nodes : List NodeId}
        (stand : List.Forall₂ (context.Stands state) ids nodes) : state.catalogue.Holds nodes := by
      intro other listed
      obtain ⟨_, _, stands⟩ := partner_of_mem stand.flip listed
      exact (orderly.path entered.later.path).inside _ _ stands
    obtain ⟨properties, _, _, subtypes⟩ := Catalogue.holds_model.mp (entered.holds orderly)
    exact Catalogue.holds_model.mpr ⟨properties, inside isBase, inside isAdditional, subtypes⟩
  · exact fun _ _ _ flagged => flagged
  · exact fun _ => rfl

end

/-! ## Discriminators -/

/-- The properties of a model with its discriminator: one is marked, or one more is made up. -/
def discriminated (properties : List Property) (synthesized : Property) : List Property :=
  (markDiscriminator? properties synthesized.serializedName).getD (synthesized :: properties)

section

variable {properties : List Property} {synthesized : Property}

/-- The first property of the name is marked, be it declared or made up. -/
theorem find?_discriminated_self (isMarked : synthesized.isDiscriminator) :
    ∃ property, (discriminated properties synthesized).find?
        (fun property => property.serializedName == synthesized.serializedName) = some property ∧
      property.isDiscriminator := by
  unfold discriminated
  -- Either a declared property has the name, or one is made up in front of all others.
  cases found : markDiscriminator? properties synthesized.serializedName with
  | none => exact ⟨synthesized, by simp, isMarked⟩
  | some marked => exact find?_markDiscriminator?_self found

/-- Whatever was marked stays marked. -/
theorem find?_discriminated (isMarked : synthesized.isDiscriminator) {name : String}
    {property : Property}
    (first : properties.find? (fun property => property.serializedName == name) = some property)
    (flagged : property.isDiscriminator) :
    ∃ property, (discriminated properties synthesized).find?
        (fun property => property.serializedName == name) = some property ∧
      property.isDiscriminator := by
  unfold discriminated
  -- One that is made up comes first, and it is marked too.
  cases found : markDiscriminator? properties synthesized.serializedName with
  | none =>
    rw [Option.getD_none, List.find?_cons]
    split
    · exact ⟨synthesized, rfl, isMarked⟩
    · exact ⟨property, first, flagged⟩
  | some marked => exact find?_markDiscriminator?_isDiscriminator found first flagged

/-- Without marks the properties are what they were, after the one that was made up if need be. -/
theorem map_unmarked_discriminated : (discriminated properties synthesized).map Property.unmarked =
    if properties.any fun property => property.serializedName == synthesized.serializedName then
      properties.map Property.unmarked
    else synthesized.unmarked :: properties.map Property.unmarked := by
  unfold discriminated
  -- Marking leaves the properties what they are without marks.
  cases found : markDiscriminator? properties synthesized.serializedName with
  | none =>
    rw [if_neg (by simpa using markDiscriminator?_eq_none.mp found)]
    rfl
  | some marked =>
    have named : properties.any fun property =>
        property.serializedName == synthesized.serializedName := by
      by_contra unnamed
      rw [markDiscriminator?_eq_none.mpr (by simpa using unnamed)] at found
      cases found
    rw [if_pos named]
    exact markDiscriminator?_unmarked found

/-- The marks that are there already do not matter for those that are to come. -/
theorem map_unmarked_discriminated_of_plain {actual : ModelNode} :
    (discriminated actual.properties synthesized).map Property.unmarked =
      (discriminated actual.plain.properties synthesized).map Property.unmarked := by
  -- To tell a property apart looks at its name alone, which marks leave as it is.
  have same : actual.plain.properties.map Property.unmarked =
      actual.properties.map Property.unmarked := List.map_map
  rw [map_unmarked_discriminated, map_unmarked_discriminated, same, ModelNode.plain, List.any_map]
  rfl

end

/-- With its discriminator a model has its members, after one that was made up if need be. -/
theorem hasMembers_discriminated {declared : Model} {node string : NodeId} {model : ModelNode}
    {name : String} (has : context.HasMembers state declared node model)
    (isName : declared.discriminator = some name)
    (isString : state.builtins.get? .string = some string) :
    context.HasMembers state declared node { model with
      properties := (discriminated model.properties
        (Context.discriminatorOf node model.crossId name string)).map Property.unmarked } := by
  obtain ⟨front, members, all, isFront, each⟩ := has
  have unmarked := map_unmarked_of_members each
  unfold Context.HasMembers
  dsimp only
  rw [map_unmarked_discriminated]
  -- A declared property has the name, or the one that is made up is new.
  split
  · refine ⟨front, members, ?_, isFront, each⟩
    rw [all, List.map_append, unmarked]
    cases isFront with
    | nothing => rfl
    | discriminator => rfl
  · rename_i unnamed
    cases isFront with
    | nothing =>
      refine ⟨_, members, ?_, .discriminator isName isString ?_, each⟩
      · rw [all, List.nil_append, unmarked, List.singleton_append]
      · rw [all] at unnamed
        simpa [Context.discriminatorOf] using unnamed
    -- The discriminator that was made up before is of the same name.
    | discriminator isOther =>
      obtain rfl := Option.some.inj (isName.symm.trans isOther)
      rw [all] at unnamed
      simp [Context.discriminatorOf, Property.unmarked] at unnamed

/-- A model that is told the property that tells its subtypes apart, and the subtypes. -/
def toldApart (node string : NodeId) (name : String) (subtypes : OrderedMap String NodeId)
    (model : ModelNode) : ModelNode :=
  { model with
    discriminatorProperty := some name
    properties := discriminated model.properties
      (Context.discriminatorOf node model.crossId name string)
    subtypes := if subtypes.isEmpty then model.subtypes else some subtypes }

/-- The marks that are there already do not matter for what is told without them. -/
theorem plain_toldApart (node string : NodeId) (name : String) (subtypes : OrderedMap String NodeId)
    (model : ModelNode) : (toldApart node string name subtypes model).plain =
      (toldApart node string name subtypes model.plain).plain := by
  -- Of the whole model only the properties are told apart.
  simp only [ModelNode.plain, toldApart, ModelNode.mk.injEq, true_and, and_true]
  exact map_unmarked_discriminated_of_plain

/-- The last piece of a model is what tells its subtypes apart; with it everything is rendered. -/
theorem Entered.tellApart (orderly : Orderly context start) {id : TypeId} {declared : Model}
    (shape : context.definition.shapeAt id = .model declared) {node string : NodeId}
    {model : ModelNode} (entered : Entered context start id node (.model model) state)
    (noSubtypes : model.subtypes = none) (parts : context.HasParts state declared node model)
    {name : String} (isName : declared.discriminator = some name)
    (isString : state.builtins.get? .string = some string) {children : List Context.Child}
    (each : List.Forall₂ (context.IsChild state id name) declared.derived children) :
    Derived context start { state with
      catalogue := state.catalogue.modify node fun parent => parent.mapModel
        (toldApart node string name (Context.subtypesOf children)) } := by
  have orderlyNow := orderly.path entered.later.path
  have has := hasMembers_discriminated parts.members isName isString
  have told (actual : ModelNode) (isPlain : actual.plain = model) :
      (toldApart node string name (Context.subtypesOf children) actual).plain =
        (toldApart node string name (Context.subtypesOf children) model).plain := by
    rw [← isPlain]
    exact plain_toldApart _ _ _ _ _
  -- What the model names from now on are its properties, its base, and its subtypes.
  have names : state.catalogue.Holds
      (NodeKind.model (toldApart node string name (Context.subtypesOf children) model).plain
        ).nodeIds := by
    obtain ⟨_, base, additional, _⟩ := Catalogue.holds_model.mp (entered.holds orderly)
    refine Catalogue.holds_model.mpr ⟨holds_of_hasMembers orderlyNow has entered.shows.1, base,
      additional, fun other listed => ?_⟩
    -- Subtypes are listed by their nodes.
    obtain ⟨value, member⟩ : ∃ value, (other, some value) ∈ children := by
      refine mem_values_subtypesOf ?_
      dsimp only [toldApart, ModelNode.plain] at listed
      split at listed
      · simp [noSubtypes] at listed
      · exact listed
    obtain ⟨_, _, isChild⟩ := partner_of_mem each.flip member
    exact orderlyNow.inside _ _ (Context.IsChild.stands isChild)
  obtain ⟨changed, sustains⟩ := entered.changeModel orderly told names
    (by rintro actual _ other ⟨_, first, flagged⟩
        exact find?_discriminated rfl first flagged) fun _ => rfl
  -- All pieces are there, and the model is rendered.
  refine changed.close ?_
  rw [Context.Rendered, shape, changed.shows.2]
  refine .model ⟨⟨sustains.hasMembers has, sustains.all_stand parts.base,
    sustains.all_stand parts.additional⟩, isName.symm, fun other isOther => ?_,
    fun other isOther => ?_⟩
  · obtain rfl := Option.some.inj (isName.symm.trans isOther)
    obtain ⟨actual, kind, _⟩ := entered.actual
    have marked := @find?_discriminated_self actual.properties
      (Context.discriminatorOf node actual.crossId name string) rfl
    dsimp only
    rw [Catalogue.nodeAt_modify_self _ entered.shows.1]
    exact ⟨_, Node.kind_mapModel _ kind, marked⟩
  · obtain rfl := Option.some.inj (isName.symm.trans isOther)
    refine ⟨children, each.imp fun _ _ => sustains.isChild, ?_⟩
    dsimp only [toldApart, ModelNode.plain]
    rw [noSubtypes, getD_subtypes]

section

variable {derive : TypeId → Derive NodeId} (others : Derives context derive) {id : TypeId}
  {declared : Model} (shape : context.definition.shapeAt id = .model declared)
include shape others

/-- Once its subtypes are told apart, a model that was entered is rendered. -/
theorem addDiscriminator?_ensures (orderly : Orderly context start)
    (ready : context.Ready id start) {node : NodeId} {model : ModelNode}
    (noProperty : model.discriminatorProperty = none) (noSubtypes : model.subtypes = none) :
    Ensures (fun state => Entered context start id node (.model model) state ∧
        context.HasParts state declared node model)
      (Context.addDiscriminator? derive node declared)
      (fun _ state => Derived context start state ∧ state.declared.get? id = some node)
      fun _ _ => True := by
  have isModel := model?_of_shapeAt shape
  unfold Context.addDiscriminator?
  -- A model without a discriminator is rendered as soon as it has its parts.
  cases isName : declared.discriminator with
  | none =>
    refine Ensures.pure fun state start => ?_
    obtain ⟨entered, parts⟩ := start
    refine ⟨entered.close ?_, entered.known⟩
    rw [Context.Rendered, shape, entered.shows.2]
    exact .model ⟨parts, by rw [noProperty, isName], fun _ isOther => by simp [isName] at isOther,
      fun _ isOther => by simp [isName] at isOther⟩
  | some name =>
    unfold Context.addDiscriminator
    -- The subtypes come back to a model that has its members.
    refine Entered.onward orderly (addSubtypes_convey others shape isName declared.derived
      (List.Subset.refl _) []) (fun state entered has => entered.ready ready
        fun found isFound => ?_) fun subtypes => ?_
    · obtain rfl : declared = found := Option.some.inj (isModel.symm.trans isFound)
      exact ⟨model, rfl, Or.inl has.members⟩
    refine Entered.onward orderly stringNode_conveys (fun _ _ _ => trivial) fun string => ?_
    refine Ensures.modifyNode ?_
    rintro state ⟨entered, ⟨hasParts, children, each, rfl⟩, isString⟩
    exact ⟨entered.tellApart orderly shape noSubtypes hasParts isName isString each, entered.known⟩

/-- The members of a model come first, its base next, and what tells its subtypes apart last. -/
theorem noteAll_ensures (orderly : Orderly context start) (ready : context.Ready id start)
    {node : NodeId} {model : ModelNode} {crossId : String} (isCrossId : model.crossId = crossId)
    (bare : model.properties = [])
    (noProperty : model.discriminatorProperty = none) (noSubtypes : model.subtypes = none) :
    Ensures (Entered context start id node (.model model))
      (do
        let properties ← (context.memberIds declared).mapM
          (context.memberProperty derive node crossId)
        modifyNode node fun parent => parent.mapModel ({ · with properties })
        let kin ← context.inheritance derive declared
        let additionalProperties ← Context.additionalNode? derive declared kin.2
        modifyNode node fun parent =>
          parent.mapModel ({ · with base := kin.1, additionalProperties })
        Context.addDiscriminator? derive node declared
        return node)
      (fun found state => Derived context start state ∧ state.declared.get? id = some found)
      fun _ _ => True := by
  -- The three pieces follow one another, each starting with what the one before has noted.
  subst isCrossId
  exact noteMembers_ensures others shape orderly ready bare fun _ =>
    noteKin_ensures others shape orderly ready fun _ _ => Ensures.bind
      (addDiscriminator?_ensures others shape orderly ready noProperty noSubtypes) fun _ =>
        Ensures.pure fun _ ends => ends

/-- The node of a model enters it, and with it whatever is found on the way. -/
theorem modelNode_enters : Enters context id (context.modelNode derive id declared) := by
  intro start orderly ready
  unfold Context.modelNode
  dsimp only
  -- A name may have to be made up before the model is entered.
  refine Ensures.bind ((nameOrGenerated_conveys id declared.name).from_start orderly trivial)
    fun name => Ensures.starting (enter_ensures orderly rfl (suits_of_shape shape
      rfl rfl rfl) rfl fun node => ?_) fun _ derived => derived.1
  exact Ensures.starting (noteAll_ensures others shape orderly ready rfl rfl rfl rfl)
    fun _ start => start.1

end

/-! ## Declarations -/

/-- The node of any shape enters its type, if the types that are met below are derived. -/
theorem shapeNode_enters {derive : TypeId → Derive NodeId} (others : Derives context derive)
    (id : TypeId) :
    Enters context id (context.shapeNode derive id (context.definition.shapeAt id)) := by
  -- One lemma for each shape.
  cases shape : context.definition.shapeAt id with
  | scalar scalar => exact scalarNode_enters others shape
  | intrinsic intrinsic =>
    exact .of_conveys ((intrinsicNode_enters shape).starting fun _ _ _ => trivial)
  | literal value => exact .of_conveys ((literalNode_enters shape).starting fun _ _ _ => trivial)
  | enumeration enumeration => exact enumerationNode_enters shape
  | member member => exact memberNode_enters others shape
  | union union => exact unionNode_enters others shape
  | array element => exact arrayNode_enters others shape
  | record element => exact recordNode_enters others shape
  | model model => exact modelNode_enters others shape

/-- By induction on the references that are left: whatever a derivation enters, it renders. -/
theorem nodeWithin_derives (steps : Nat) : Derives context (context.nodeWithin steps) := by
  induction steps with
  | zero => exact fun id => Conveys.throw
  | succ steps ih =>
    intro id start orderly
    have ends : Ensures (fun state => state = start ∧
        context.Ready (context.definition.payloadType id) state)
        (context.nodeWithin (steps + 1) id) (fun node state => Derived context start state ∧
          context.Stands state id node) fun _ _ => True := by
      unfold Context.nodeWithin
      refine Ensures.get_bind fun current begins => ?_
      obtain ⟨rfl, ready⟩ := begins
      -- The type has a node already, or its shape decides how it gets one.
      split
      · rename_i node known
        refine Ensures.pure ?_
        rintro state rfl
        exact ⟨Leading.refl _, known⟩
      · refine Ensures.bind (shapeNode_enters ih _ current orderly ready) fun node => ?_
        refine Ensures.bind (Ensures.modifyNode ?_) fun _ => Ensures.pure fun _ ends => ends
        -- Documentation is no part of what a node renders.
        rintro state ⟨derived, known⟩
        have orderlyNow : Orderly context state := Leading.sound orderly derived
        refine ⟨Leading.trans orderly derived (.mark (orderlyNow.inside _ _ known)
          (fun node => ?_) (fun node => ?_) orderlyNow (Or.inl ?_) (.of_kind ?_)), known⟩
        all_goals
          split
          · rfl
          · rfl
    -- A derivation that fails ends the run.
    refine (ends.both (nodeWithin_endsRun (steps + 1) id)).weaken (fun _ start => ⟨start, trivial⟩)
      (fun _ _ told => told.1) fun failure state fails isOwn => ?_
    rw [fails.2] at isOwn
    cases isOwn

/-- To derive a node derives all that is met on the way. -/
theorem node_derives : Derives context context.node :=
  nodeWithin_derives context.referenceBound

end Derivation

end ClientModel
