import ClientModel.Proofs.Nodes

/-!
Deriving the nodes of models.

The node of a model is there before those of its properties, its base and its subtypes. It is
drafted piece by piece, and once the last piece is there it tells what the model declares.
-/

namespace ClientModel.Derivation

open Service (Definition Enumeration Intrinsic Literal Model Scalar Shape Union Variant)

variable {α : Type} {context : Context} {pending : TypeId → Prop}

/-! ## Drafts -/

/-- How much of an open model is there. -/
structure Drafted (id : TypeId) (node : NodeId) (generated : Bool) (slots : List (String × NodeId))
    (base additional : Option NodeId) (state : State) : Prop where
  known : state.declared.get? id = some node
  inside : node.index < state.catalogue.size
  model : ∃ model, (state.catalogue.nodeAt node).kind = .model model ∧ model.usage = .none ∧
    model.isGeneratedName = generated ∧ model.slots = slots ∧ model.base = base ∧
    model.additionalProperties = additional ∧ model.subtypes = none

section

variable {id : TypeId} {node : NodeId} {generated : Bool} {slots : List (String × NodeId)}
  {base additional : Option NodeId} {state : State}

/-- A draft lasts as the catalogue grows, for growth adds no more than marks. -/
theorem drafted_lasting : Lasting (Drafted id node generated slots base additional) := by
  intro before after drafted grown
  obtain ⟨model, kind, unused, isGenerated, isSlots, isBase, isAdditional, noSubtypes⟩ :=
    drafted.model
  have isModel : before.catalogue.model? node = some model := by
    simp [Catalogue.model?, Node.model?, kind]
  -- Growth leaves a model what it is but for marks, and a draft is told without them.
  obtain ⟨later, stillModel, same⟩ := grown.model? isModel
  refine ⟨grown.declared _ _ drafted.known, Nat.lt_of_lt_of_le drafted.inside grown.size, later,
    ?_, ?_, ?_, ?_, ?_, ?_, ?_⟩
  · -- The node of a model is told by the model, and each piece of the draft by one of its fields.
    unfold Catalogue.model? Node.model? at stillModel
    split at stillModel
    · rename_i found isFound
      cases stillModel
      exact isFound
    · cases stillModel
  · exact (congrArg ModelNode.usage same).trans unused
  · exact (congrArg ModelNode.isGeneratedName same).trans isGenerated
  · rw [← later.slots_plain, same, model.slots_plain, isSlots]
  · exact (congrArg ModelNode.base same).trans isBase
  · exact (congrArg ModelNode.additionalProperties same).trans isAdditional
  · exact (congrArg ModelNode.subtypes same).trans noSubtypes

/-- An open model changes: everything else stays settled, and agrees with what was there before. -/
theorem Drafted.modify (drafted : Drafted id node generated slots base additional state)
    (settled : context.Settled pending state) (isOpen : pending id)
    (change : ModelNode → ModelNode)
    (keeps : ∀ model : ModelNode, model.slots = slots → ∀ name slot,
      model.slots.find? (fun other => other.1 == name) = some slot →
        (change model).slots.find? (fun other => other.1 == name) = some slot) :
    context.Settled pending { state with
      catalogue := state.catalogue.modify node fun parent => parent.mapModel change } ∧
    Agrees state { state with
      catalogue := state.catalogue.modify node fun parent => parent.mapModel change } := by
  obtain ⟨model, kind, _, _, isSlots, _⟩ := drafted.model
  -- The node is that of the open type, which alone may change that way.
  have carries : (state.catalogue.nodeAt node).carriesUsage := by
    simp [Node.carriesUsage, Node.usage?, kind]
  have agrees : Agrees state { state with
      catalogue := state.catalogue.modify node fun parent => parent.mapModel change } := by
    refine settled.draft_agrees drafted.known carries fun own isOwn => ?_
    obtain rfl : model = own := by simpa [Node.model?, kind] using isOwn
    exact ⟨change model, by simp [Node.mapModel, Node.model?, kind], keeps model isSlots⟩
  exact ⟨settled.draft isOpen drafted.known carries (Node.mapModel_keeps change) agrees, agrees⟩

/-- What an open model is after it changes. -/
theorem Drafted.change {slots' : List (String × NodeId)} {base' additional' : Option NodeId}
    (drafted : Drafted id node generated slots base additional state)
    {change : ModelNode → ModelNode}
    (told : ∀ model : ModelNode, model.slots = slots → model.base = base →
      model.additionalProperties = additional → (change model).slots = slots' ∧
        (change model).base = base' ∧ (change model).additionalProperties = additional' ∧
        (change model).usage = model.usage ∧ (change model).subtypes = model.subtypes ∧
        (change model).isGeneratedName = model.isGeneratedName) :
    Drafted id node generated slots' base' additional' { state with
      catalogue := state.catalogue.modify node fun parent => parent.mapModel change } := by
  obtain ⟨model, kind, unused, isGenerated, isSlots, isBase, isAdditional, noSubtypes⟩ :=
    drafted.model
  obtain ⟨slotsTold, baseTold, additionalTold, usage, subtypes, name⟩ :=
    told model isSlots isBase isAdditional
  refine ⟨drafted.known, by simpa using drafted.inside, change model, ?_, usage.trans unused,
    name.trans isGenerated, slotsTold, baseTold, additionalTold, subtypes.trans noSubtypes⟩
  -- What is told of the model before the change tells what it is afterwards.
  rw [Catalogue.nodeAt_modify_self _ drafted.inside]
  simp [Node.mapModel, kind]

end

/-! ## Subtypes -/

/-- Unless an error was reported, the subtypes met so far are those among the given models. -/
def Collected (discriminator : String) (children : List NodeId)
    (subtypes : OrderedMap String NodeId) (state : State) : Prop :=
  state.IsClean →
    (∀ child ∈ children, (discriminatorValue? state.catalogue child discriminator).isSome) ∧
      subtypes = subtypesAmong state.catalogue discriminator children

/-- What was collected stays so in whatever agrees. -/
theorem Collected.mono {discriminator : String} {children : List NodeId}
    {subtypes : OrderedMap String NodeId} {before after : State}
    (collected : Collected discriminator children subtypes before) (agrees : Agrees before after) :
    Collected discriminator children subtypes after := by
  intro clean
  obtain ⟨fixed, same⟩ := collected (agrees.clean clean)
  -- A text that is known does not change any more, and all of them are known.
  have later (child : NodeId) (member : child ∈ children) :
      discriminatorValue? after.catalogue child discriminator =
        discriminatorValue? before.catalogue child discriminator := by
    obtain ⟨value, isValue⟩ := Option.isSome_iff_exists.mp (fixed child member)
    rw [isValue, agrees.texts child discriminator value isValue]
  refine ⟨fun child member => ?_, ?_⟩
  · rw [later child member]
    exact fixed child member
  · rw [same, subtypesAmong_congr later]

/-- What was collected lasts. -/
theorem collected_lasting (discriminator : String) (children : List NodeId)
    (subtypes : OrderedMap String NodeId) : Lasting (Collected discriminator children subtypes) :=
  fun _ _ collected grown => collected.mono grown.agrees

/-- A subtype that is fixed to a text is added to those among the children before it. -/
theorem subtypesAmong_append (catalogue : Catalogue) (discriminator : String)
    (children : List NodeId) {child : NodeId} {value : String}
    (fixed : discriminatorValue? catalogue child discriminator = some value) :
    subtypesAmong catalogue discriminator (children ++ [child]) =
      (subtypesAmong catalogue discriminator children).insert value child := by
  simp [subtypesAmong, List.foldl_append, fixed]

section

variable {derive : TypeId → Derive NodeId} (others : Settles context derive)
  (opened : ∀ id, pending id → context.IsOpen id)
include others opened

/-- One more subtype is collected, or an error is reported. -/
theorem addSubtype_settles (discriminator : String) (children : List NodeId)
    (subtypes : OrderedMap String NodeId) (derived : TypeId) :
    Ensures (fun state => context.Settled pending state ∧
        Collected discriminator children subtypes state)
      (Context.addSubtype derive discriminator subtypes derived)
      (fun found state => context.Settled pending state ∧ ∃ child,
        context.Stands state derived child ∧
          Collected discriminator (children ++ [child]) found state)
      fun _ _ => True := by
  unfold Context.addSubtype
  -- The subtypes collected so far stay collected while one more is derived.
  refine Ensures.bind (others.beside opened (collected_lasting discriminator children subtypes)
    derived) fun child => ?_
  refine Ensures.get_bind fun current start => ?_
  obtain ⟨settled, collected, stands⟩ := start
  split
  · -- The mark on the child's own property changes nothing that is told of it.
    rename_i value fixed
    refine Ensures.via (fun _ state => context.Settled pending state ∧ Agrees current state)
      (Ensures.modifyNode ?_) fun _ => Ensures.pure ?_
    · rintro state rfl
      have same (node : Node) := @Node.plain_mapModel node _ fun model =>
        plain_marked model value discriminator
      exact ⟨settled.mark same, ((Grown.refl state).modify (Or.inr same)).agrees⟩
    · rintro state ⟨later, agrees⟩
      -- What was told before still is, except for the child's text, which is told anew.
      refine ⟨later, child, agrees.stands stands, fun clean => ?_⟩
      have text := agrees.texts child discriminator value fixed
      obtain ⟨others, same⟩ := collected.mono agrees clean
      -- The new subtype is fixed to its text, and the others are as they were.
      refine ⟨fun other member => ?_, ?_⟩
      · rcases List.mem_append.mp member with old | new
        · exact others other old
        · rw [List.mem_singleton.mp new, text]
          rfl
      · rw [subtypesAmong_append _ _ _ text, same]
  · -- The error that is reported stays, so that nothing is claimed any more.
    refine Ensures.via (fun _ state => context.Settled pending state ∧
      context.Stands state derived child ∧ ¬ state.IsClean) (Ensures.modify ?_) fun _ =>
        Ensures.pure ?_
    · rintro state rfl
      refine ⟨settled.report _, stands, ?_⟩
      simp [State.IsClean, Diagnostics.hasErrors, Diagnostics.error, Diagnostics.add,
        Diagnostic.isError]
    · rintro state ⟨later, stillStands, unclean⟩
      exact ⟨later, child, stillStands, fun clean => absurd clean unclean⟩

/-- All subtypes are collected, or errors are reported. -/
theorem addSubtypes_settle (discriminator : String) (derived : List TypeId) :
    ∀ (children : List NodeId) (subtypes : OrderedMap String NodeId),
      Ensures (fun state => context.Settled pending state ∧
          Collected discriminator children subtypes state)
        (derived.foldlM (Context.addSubtype derive discriminator) subtypes)
        (fun found state => context.Settled pending state ∧ ∃ more,
          List.Forall₂ (context.Stands state) derived more ∧
            Collected discriminator (children ++ more) found state)
        fun _ _ => True := by
  -- By induction on the derived models, with those that were met carried along.
  induction derived with
  | nil =>
    intro children subtypes
    rw [List.foldlM_nil]
    exact Ensures.pure fun state start => ⟨start.1, [], .nil, by simpa using start.2⟩
  | cons first rest ih =>
    intro children subtypes
    rw [List.foldlM_cons]
    refine Ensures.bind (addSubtype_settles others opened discriminator children subtypes first)
      fun found => ?_
    refine Ensures.intro (fun state value next start run => ?_) fun _ _ _ _ _ => trivial
    obtain ⟨settled, child, stands, collected⟩ := start
    -- The node of the first subtype stays known while the others are derived.
    have later := (ih (children ++ [child]) found).beside
      (@Context.stands_lasting context first child) fun start => Keeps.foldlM _ _
        fun _ other => (Grown.frame start fun _ => trivial).addSubtype
          (fun id => others.grows id start) discriminator _ other
    obtain ⟨still, settled, more, stand, all⟩ := later.ok ⟨stands, settled, collected⟩ run
    exact ⟨settled, child :: more, .cons still stand, by simpa using all⟩

end

/-! ## Open models -/

/-- The nodes that an open model is made from stand for what the model declares. -/
structure Made (context : Context) (declared : Model) (slots : List (String × NodeId))
    (base inherited additional : Option NodeId) (state : State) : Prop where
  members : List.Forall₂ (context.Fills state) (context.memberIds declared) slots
  base : List.Forall₂ (context.Stands state) (context.baseType? declared).toList base.toList
  inherited : List.Forall₂ (context.Stands state) (context.inheritedType? declared).toList
    inherited.toList
  additional : List.Forall₂ (context.Stands state)
    (declared.additionalProperties.or (context.inheritedType? declared)).toList additional.toList

section

variable {declared : Model} {slots : List (String × NodeId)}
  {base inherited additional : Option NodeId} {before after state : State}

/-- What a model was made of is there in whatever agrees. -/
theorem Made.mono (made : Made context declared slots base inherited additional before)
    (agrees : Agrees before after) :
    Made context declared slots base inherited additional after where
  members := made.members.imp fun _ _ fills => agrees.fills fills
  base := agrees.all_stand made.base
  inherited := agrees.all_stand made.inherited
  additional := agrees.all_stand made.additional

/-- What a model was made of lasts. -/
theorem made_lasting : Lasting (Made context declared slots base inherited additional) :=
  fun _ _ made grown => made.mono grown.agrees

/-- Whatever a model refers to has a node, once its subtypes have them too. -/
theorem Made.references (made : Made context declared slots base inherited additional state)
    (subtypes : declared.discriminator.isSome → ∀ derived ∈ declared.derived,
      ∃ node, context.Stands state derived node) :
    ∀ reference ∈ context.modelReferences declared,
      ∃ node, context.Stands state reference node := by
  intro reference referred
  -- Property by property, then the base, what it inherits or declares to be additional, subtypes.
  rcases Context.mem_modelReferences.mp referred with
    ⟨id, listed, rfl⟩ | isBase | isInherited | isAdditional | ⟨discriminated, isDerived⟩
  · obtain ⟨slot, _, fills⟩ := partner_of_mem made.members listed
    exact ⟨slot.2, fills.2⟩
  · obtain ⟨node, _, stands⟩ := partner_of_mem made.base (Option.mem_toList.mpr isBase)
    exact ⟨node, stands⟩
  · obtain ⟨node, _, stands⟩ := partner_of_mem made.inherited (Option.mem_toList.mpr isInherited)
    exact ⟨node, stands⟩
  · have counts : reference ∈
        (declared.additionalProperties.or (context.inheritedType? declared)).toList := by
      simp [isAdditional]
    obtain ⟨node, _, stands⟩ := partner_of_mem made.additional counts
    exact ⟨node, stands⟩
  · exact subtypes discriminated reference isDerived

end

section

variable {derive : TypeId → Derive NodeId} (others : Settles context derive)
  (opened : ∀ id, pending id → context.IsOpen id)
include others opened

/-- The members of a model fill its slots. -/
theorem members_settle (owner : NodeId) (ownerId : String) (ids : List PropertyId) :
    Ensures (context.Settled pending) (ids.mapM (context.memberProperty derive owner ownerId))
      (fun properties state => context.Settled pending state ∧
        List.Forall₂ (context.Fills state) ids
          (properties.map fun property => (property.serializedName, property.type)))
      fun _ _ => True := by
  have lasting (id : PropertyId) (property : Property) :
      Lasting fun state => context.Fills state id (property.serializedName, property.type) :=
    fun _ _ fills grown => grown.agrees.fills fills
  refine (Ensures.mapM_lasting lasting ?_ ?_ ids).ending ?_
  · exact fun id start => Keeps.memberProperty owner ownerId id (others.grows _ start)
  · intro id
    -- The name on the wire is that of the declaration, and the type stands for the declared one.
    refine Ensures.bind (others.settles pending opened (context.propertyType id)) fun type => ?_
    exact Ensures.pure fun state start => ⟨start.1, rfl, start.2⟩
  · rintro properties state ⟨settled, all⟩
    exact ⟨settled, List.forall₂_map_right_iff.mpr all⟩

/-- What a model inherits stands for its base, or for what is in its place. -/
theorem inheritance_settles (declared : Model) :
    Ensures (context.Settled pending) (context.inheritance derive declared)
      (fun found state => context.Settled pending state ∧
        List.Forall₂ (context.Stands state) (context.baseType? declared).toList found.1.toList ∧
        List.Forall₂ (context.Stands state) (context.inheritedType? declared).toList found.2.toList)
      fun _ _ => True := by
  unfold Context.inheritance Context.baseType? Context.inheritedType?
  split
  · rename_i noBase
    exact Ensures.pure fun state settled => ⟨settled, by simp [noBase], by simp [noBase]⟩
  · rename_i base isBase
    rw [isBase]
    split
    · -- The values of a record are those of additional properties.
      rename_i value shape
      refine Ensures.bind (others.settles pending opened value) fun node => ?_
      exact Ensures.pure fun state start => ⟨start.1, by simp [shape], by simp [shape, start.2]⟩
    · rename_i notRecord
      -- Any other base is what its node stands for.
      refine Ensures.bind (others.settles pending opened base) fun node => ?_
      exact Ensures.pure fun state start => ⟨start.1, by simp [Option.filter, start.2], by simp⟩

/-- Additional properties stand for what is declared, or else for what is inherited. -/
theorem additionalNode?_settles (declared : Model) (inherited : Option NodeId) :
    Ensures (fun state => context.Settled pending state ∧
        List.Forall₂ (context.Stands state) (context.inheritedType? declared).toList
          inherited.toList)
      (Context.additionalNode? derive declared inherited)
      (fun found state => context.Settled pending state ∧
        List.Forall₂ (context.Stands state)
          (declared.additionalProperties.or (context.inheritedType? declared)).toList found.toList)
      fun _ _ => True := by
  unfold Context.additionalNode?
  split
  · rename_i value isValue
    -- What is declared goes before what is inherited.
    have node := others.settles pending opened value
    refine Ensures.map (node.weaken (fun _ start => start.1) ?_ fun _ _ fails => fails)
    rintro node state ⟨settled, stands⟩
    exact ⟨settled, by simp [isValue, stands]⟩
  · rename_i noValue
    exact Ensures.pure fun state start => ⟨start.1, by simpa [noValue] using start.2⟩

end

/-! ## Discriminators -/

/-- To mark a discriminator changes no slot. -/
theorem slots_marked {properties marked : List Property} {discriminator : String}
    (found : markDiscriminator? properties discriminator = some marked) :
    marked.map (fun property => (property.serializedName, property.type)) =
      properties.map fun property => (property.serializedName, property.type) := by
  -- The mark is no part of a slot.
  have slot : (fun property : Property => (property.serializedName, property.type)) =
      (fun property => (property.serializedName, property.type)) ∘ Property.unmarked := rfl
  rw [slot, ← List.map_map, markDiscriminator?_unmarked found, List.map_map]

/-- If no property is marked, none has the name on the wire. -/
theorem slots_unmarked {properties : List Property} {discriminator : String}
    (none : markDiscriminator? properties discriminator = none) :
    (properties.map fun property => (property.serializedName, property.type)).find?
      (fun slot => slot.1 == discriminator) = .none := by
  induction properties with
  | nil => rfl
  | cons property rest ih =>
    -- A property of the name would have been marked.
    rw [markDiscriminator?] at none
    split at none
    · cases none
    · rename_i different
      have others := ih (Option.map_eq_none_iff.mp none)
      simpa [different] using others

/-- The slots of a model that is told its discriminator: its own, maybe after a synthesized one. -/
theorem slots_discriminated (properties : List Property) (synthesized : Property) :
    let slot := fun property : Property => (property.serializedName, property.type)
    let all := (markDiscriminator? properties synthesized.serializedName).getD
      (synthesized :: properties)
    (all.map slot = properties.map slot ∨ all.map slot = slot synthesized :: properties.map slot) ∧
      ∀ name found, (properties.map slot).find? (fun other => other.1 == name) = some found →
        (all.map slot).find? (fun other => other.1 == name) = some found := by
  intro slot all
  cases found : markDiscriminator? properties synthesized.serializedName with
  | some marked =>
    -- A property of that name was marked, so nothing is added.
    have same : all.map slot = properties.map slot := by
      simp only [all, found, Option.getD_some]
      exact slots_marked found
    rw [same]
    exact ⟨Or.inl rfl, fun _ _ found => found⟩
  | none =>
    have added : all.map slot = slot synthesized :: properties.map slot := by
      simp [all, found]
    rw [added]
    refine ⟨Or.inr rfl, fun name other isOther => ?_⟩
    -- The synthesized property is in nobody's way, for no other has its name.
    rw [List.find?_cons_of_neg, isOther]
    intro isName
    rw [← beq_iff_eq.mp isName, slots_unmarked found] at isOther
    cases isOther

/-- A table of subtypes is left out where it would be empty. -/
theorem getD_subtypes (subtypes : OrderedMap String NodeId) :
    (if subtypes.isEmpty then none else some subtypes : Option _).getD {} = subtypes := by
  -- No subtypes and an empty table of subtypes tell the same.
  split
  · rename_i isEmpty
    cases subtypes
    simpa [OrderedMap.isEmpty] using isEmpty
  · rfl

/-- Marks do not change what a model tells. -/
theorem Context.MirrorsModel.plain {declared : Model} {model : ModelNode} {state : State}
    (mirrors : context.MirrorsModel state declared model) :
    context.MirrorsModel state declared model.plain where
  -- The marks of a model are not among what it mirrors; its members are read without theirs.
  unused := mirrors.unused
  generated := mirrors.generated
  members := by
    rw [model.slots_plain]
    exact mirrors.members
  base := mirrors.base
  additional := mirrors.additional
  subtypes := mirrors.subtypes

/-- The subtypes of a model are there, and are collected unless an error was reported. -/
def Gathered (context : Context) (declared : Model) (discriminator : String)
    (subtypes : OrderedMap String NodeId) (state : State) : Prop :=
  ∃ children, List.Forall₂ (context.Stands state) declared.derived children ∧
    Collected discriminator children subtypes state

/-- What was gathered of subtypes lasts. -/
theorem gathered_lasting {declared : Model} {discriminator : String}
    {subtypes : OrderedMap String NodeId} :
    Lasting (Gathered context declared discriminator subtypes) := by
  -- The children stand for the same nodes later on, and of these only marks may change.
  rintro before after ⟨children, stand, collected⟩ grown
  exact ⟨children, grown.agrees.all_stand stand, collected.mono grown.agrees⟩

section

variable {id : TypeId} {declared : Model} (shape : context.definition.shapeAt id = .model declared)
  {node : NodeId} {slots : List (String × NodeId)} {base inherited additional : Option NodeId}
  {state : State}
include shape

/-- A model that is told apart by no property is finished once its parts are there. -/
theorem Drafted.finished
    (drafted : Drafted id node declared.name.isNone slots base additional state)
    (made : Made context declared slots base inherited additional state)
    (plain : declared.discriminator = none) : context.Finished state id node := by
  -- All pieces of the draft are those that the declaration asks for.
  obtain ⟨model, kind, unused, isGenerated, isSlots, isBase, isAdditional, noSubtypes⟩ :=
    drafted.model
  refine ⟨?_, ?_⟩
  · -- Without a discriminator, no subtype is referred to.
    rw [Context.references, shape]
    exact made.references (by simp [plain])
  · rw [shape, Node.plain, kind]
    refine .model (Context.MirrorsModel.plain ⟨unused, isGenerated, ?_, ?_, ?_, ?_⟩)
    · exact ⟨slots, Or.inl isSlots, made.members⟩
    · rw [isBase]
      exact made.base
    · rw [isAdditional]
      exact made.additional
    · rw [plain]
      exact noSubtypes

/-- The last piece of other models is the property that tells subtypes apart. -/
theorem Drafted.discriminated
    (drafted : Drafted id node declared.name.isNone slots base additional state)
    (made : Made context declared slots base inherited additional state)
    (settled : context.Settled pending state) (isOpen : pending id) {discriminator : String}
    (isName : declared.discriminator = some discriminator) {subtypes : OrderedMap String NodeId}
    (gathered : Gathered context declared discriminator subtypes state) {string : NodeId}
    (isString : state.builtins.get? .string = some string) {change : ModelNode → ModelNode}
    (changes : ∀ model, ∃ synthesized : Property, synthesized.serializedName = discriminator ∧
      synthesized.type = string ∧ (change model).usage = model.usage ∧
      (change model).isGeneratedName = model.isGeneratedName ∧ (change model).base = model.base ∧
      (change model).additionalProperties = model.additionalProperties ∧
      (change model).properties = (markDiscriminator? model.properties discriminator).getD
        (synthesized :: model.properties) ∧
      (change model).subtypes = if subtypes.isEmpty then model.subtypes else some subtypes) :
    context.Settled pending { state with
        catalogue := state.catalogue.modify node fun parent => parent.mapModel change } ∧
      state.declared.get? id = some node ∧ context.Finished { state with
        catalogue := state.catalogue.modify node fun parent => parent.mapModel change }
        id node := by
  obtain ⟨model, kind, unused, isGenerated, isSlots, isBase, isAdditional, noSubtypes⟩ :=
    drafted.model
  have later : context.Settled pending { state with
      catalogue := state.catalogue.modify node fun parent => parent.mapModel change } ∧
      Agrees state { state with
        catalogue := state.catalogue.modify node fun parent => parent.mapModel change } := by
    refine drafted.modify settled isOpen change fun model _ name slot found => ?_
    obtain ⟨synthesized, rfl, _, _, _, _, _, properties, _⟩ := changes model
    rw [ModelNode.slots, properties]
    exact (slots_discriminated model.properties synthesized).2 name slot found
  -- The change is one of properties and subtypes, so base and additional properties stay.
  obtain ⟨settledLater, agrees⟩ := later
  obtain ⟨synthesized, wireName, type, usage, name, base', additional', properties, subtypes'⟩ :=
    changes model
  -- What the model is made from still stands after the change.
  have madeLater := made.mono agrees
  obtain ⟨children, stand, collected⟩ := gathered
  have standLater := agrees.all_stand stand
  -- It is finished when its references have nodes and its own one mirrors it.
  refine ⟨settledLater, drafted.known, ?_, ?_⟩
  · rw [Context.references, shape]
    refine madeLater.references fun _ derived listed => ?_
    obtain ⟨child, _, stands⟩ := partner_of_mem standLater listed
    exact ⟨child, stands⟩
  · rw [shape, Catalogue.nodeAt_modify_self _ drafted.inside, Node.mapModel, kind, Node.plain]
    refine .model (Context.MirrorsModel.plain ⟨usage.trans unused, name.trans isGenerated, ?_, ?_,
      ?_, ?_⟩)
    · -- Either a property of its own was marked, or one was put before the others.
      refine ⟨slots, ?_, madeLater.members⟩
      have all := (slots_discriminated model.properties synthesized).1
      rw [wireName, ← properties] at all
      rcases all with same | added
      · exact Or.inl (same.trans isSlots)
      · refine Or.inr ⟨discriminator, string, isName, ?_, isString⟩
        rw [← isSlots, ← wireName, ← type]
        exact added
    · rw [base', isBase]
      exact madeLater.base
    · rw [additional', isAdditional]
      exact madeLater.additional
    · rw [isName]
      refine ⟨children, standLater, fun clean => ?_⟩
      rw [subtypes', noSubtypes, getD_subtypes]
      exact collected.mono agrees clean

end

section

variable {derive : TypeId → Derive NodeId} (others : Settles context derive)
  (opened : ∀ id, pending id → context.IsOpen id)
  {id : TypeId} {declared : Model} {node : NodeId} {slots : List (String × NodeId)}
  {base inherited additional : Option NodeId}
include others opened

/-- A model is finished when its discriminator is added, if it has one. -/
theorem addDiscriminator?_settles (shape : context.definition.shapeAt id = .model declared)
    (isOpen : pending id) :
    Ensures (fun state => (Drafted id node declared.name.isNone slots base additional state ∧
        Made context declared slots base inherited additional state) ∧
          context.Settled pending state)
      (Context.addDiscriminator? derive node declared)
      (fun _ state => context.Settled pending state ∧ state.declared.get? id = some node ∧
        context.Finished state id node)
      fun _ _ => True := by
  unfold Context.addDiscriminator?
  -- Without one, the draft is already all of the model.
  cases isName : declared.discriminator with
  | none =>
    exact Ensures.pure fun state start =>
      ⟨start.2, start.1.1.known, start.1.1.finished shape start.1.2 isName⟩
  -- With one, the subtypes come first, and the model stays a draft meanwhile.
  | some discriminator =>
    have subtypes : Ensures (context.Settled pending)
        (declared.derived.foldlM (Context.addSubtype derive discriminator) {})
        (fun found state => context.Settled pending state ∧
          Gathered context declared discriminator found state) fun _ _ => True :=
      (addSubtypes_settle others opened discriminator declared.derived [] {}).starting
        fun _ settled => ⟨settled, fun _ => ⟨by simp, rfl⟩⟩
    unfold Context.addDiscriminator
    refine Ensures.bind (subtypes.beside (drafted_lasting.and made_lasting) fun start =>
      Keeps.foldlM _ _ fun _ other => (Grown.frame start fun _ => trivial).addSubtype
        (fun id => others.grows id start) discriminator _ other) fun subtypes => ?_
    -- What was made of the model lasts until its discriminator is noted on it.
    have lasting : Lasting fun state => (Drafted id node declared.name.isNone slots base additional
        state ∧ Made context declared slots base inherited additional state) ∧
        Gathered context declared discriminator subtypes state :=
      (drafted_lasting.and made_lasting).and gathered_lasting
    -- Last comes the node for texts, which the discriminator holds if it is made up.
    refine Ensures.bind (Ensures.starting (Ensures.beside stringNode_settles lasting fun start =>
      (Grown.frame start fun _ => trivial).stringNode)
      fun _ start => ⟨⟨start.1, start.2.2⟩, start.2.1⟩) fun string => ?_
    refine Ensures.modifyNode ?_
    rintro state ⟨⟨⟨drafted, made⟩, gathered⟩, settled, isString⟩
    exact drafted.discriminated shape made settled isOpen isName gathered isString fun model =>
      ⟨_, rfl, rfl, rfl, rfl, rfl, rfl, rfl, rfl⟩

/-- The members of an open model are derived while it has none, and then are noted on it. -/
theorem draftMembers_settles (isOpen : pending id) (crossId : String) {next : Derive α}
    {after : α → State → Prop}
    (rest : ∀ slots, Ensures
        (fun state => (Drafted id node declared.name.isNone slots none none state ∧
          List.Forall₂ (context.Fills state) (context.memberIds declared) slots) ∧
          context.Settled pending state) next after fun _ _ => True) :
    Ensures (fun state => Drafted id node declared.name.isNone [] none none state ∧
        context.Settled pending state)
      (do
        let properties ← (context.memberIds declared).mapM
          (context.memberProperty derive node crossId)
        modifyNode node fun parent => parent.mapModel ({ · with properties })
        next)
      after fun _ _ => True := by
  -- The draft lasts while the members are derived, for these only add to what is known.
  refine Ensures.bind ((members_settle others opened node crossId _).beside drafted_lasting
    fun start => Keeps.mapM _ fun member => Keeps.memberProperty node crossId member
      (others.grows _ start)) fun properties => ?_
  refine Ensures.bind (Ensures.modifyNode ?_) fun _ => rest
    (properties.map fun property => (property.serializedName, property.type))
  rintro state ⟨drafted, settled, fill⟩
  -- A model without members has no text to lose by getting them.
  obtain ⟨settledLater, agrees⟩ := drafted.modify settled isOpen ({ · with properties })
    fun model noSlots name slot found => by simp [noSlots] at found
  exact ⟨⟨drafted.change fun model _ isBase isAdditional => ⟨rfl, isBase, isAdditional, rfl, rfl,
    rfl⟩, fill.imp fun _ _ fills => agrees.fills fills⟩, settledLater⟩

/-- What an open model extends is derived next, and then is noted on it. -/
theorem draftKin_settles (isOpen : pending id) {next : Derive α} {after : α → State → Prop}
    (rest : ∀ base inherited additional, Ensures (fun state =>
        (Drafted id node declared.name.isNone slots base additional state ∧
          Made context declared slots base inherited additional state) ∧
        context.Settled pending state) next after fun _ _ => True) :
    Ensures (fun state => (Drafted id node declared.name.isNone slots none none state ∧
        List.Forall₂ (context.Fills state) (context.memberIds declared) slots) ∧
        context.Settled pending state)
      (do
        let (base, inherited) ← context.inheritance derive declared
        let additionalProperties ← Context.additionalNode? derive declared inherited
        modifyNode node fun parent => parent.mapModel ({ · with base, additionalProperties })
        next)
      after fun _ _ => True := by
  -- All that was told of the parts lasts while others are derived.
  have stand (ids : List TypeId) (nodes : List NodeId) :
      Lasting fun state => List.Forall₂ (context.Stands state) ids nodes :=
    fun _ _ stand grown => grown.agrees.all_stand stand
  have filled : Lasting fun state => Drafted id node declared.name.isNone slots none none state ∧
      List.Forall₂ (context.Fills state) (context.memberIds declared) slots :=
    drafted_lasting.and fun _ _ fill grown => fill.imp fun _ _ fills => grown.agrees.fills fills
  -- The members stay filled while the base is derived, and both while additional properties are.
  refine Ensures.bind ((inheritance_settles others opened declared).beside filled fun start =>
    Keeps.inheritance declared fun other _ => others.grows other start) fun found => ?_
  have additional := (additionalNode?_settles others opened declared found.2).beside
    ((filled.and (stand (context.baseType? declared).toList found.1.toList)).and
      (stand (context.inheritedType? declared).toList found.2.toList)) fun start =>
        Keeps.additionalNode? declared found.2 fun other _ => others.grows other start
  refine Ensures.bind (additional.starting fun state start => ?_) fun additional => ?_
  · obtain ⟨filled, settled, isBase, isInherited⟩ := start
    exact ⟨⟨⟨filled, isBase⟩, isInherited⟩, settled, isInherited⟩
  refine Ensures.bind (Ensures.modifyNode ?_) fun _ => rest found.1 found.2 additional
  -- Only now are both written into the draft, which makes the model complete but for subtypes.
  rintro state ⟨⟨⟨⟨drafted, fill⟩, isBase⟩, isInherited⟩, settled, isAdditional⟩
  obtain ⟨settledLater, agrees⟩ := drafted.modify settled isOpen
    ({ · with base := found.1, additionalProperties := additional })
    fun _ _ _ _ found => found
  have made : Made context declared slots found.1 found.2 additional state :=
    ⟨fill, isBase, isInherited, isAdditional⟩
  exact ⟨⟨drafted.change fun model isSlots _ _ => ⟨isSlots, rfl, rfl, rfl, rfl, rfl⟩,
    made.mono agrees⟩, settledLater⟩

/-- The node of a model settles it, if those of the types it refers to settle theirs. -/
theorem modelNode_settles (shape : context.definition.shapeAt id = .model declared) :
    Ensures (fun state => context.Settled pending state ∧ state.declared.get? id = none)
      (context.modelNode derive id declared) (Registered context pending id) fun _ _ => True := by
  have openedToo : ∀ other, pending other ∨ other = id → context.IsOpen other := by
    rintro other (earlier | rfl)
    · exact opened other earlier
    · simp [Context.IsOpen, shape]
  unfold Context.modelNode
  dsimp only
  refine Ensures.bind (nameOrGenerated_keeps settled_names id declared.name) fun name =>
    Ensures.given fun isGenerated => ?_
  -- The model is open until its subtypes are told apart.
  refine Ensures.starting (register_settles (fun other => pending other ∨ other = id) rfl
    (fun _ _ => Or.inl (Or.inr rfl)) fun node => ?_)
    fun state start => ⟨start.1.weaken fun _ => Or.inl, start.2⟩
  -- Members, kin and discriminator are added in turn, each to what the one before has left.
  refine Ensures.starting (draftMembers_settles others openedToo (Or.inr rfl) _ fun slots =>
    draftKin_settles others openedToo (Or.inr rfl) fun base inherited additional =>
      Ensures.bind (addDiscriminator?_settles others openedToo shape (Or.inr rfl)) fun _ =>
        Ensures.pure ?_) (fun state start => ?_)
  · -- With its last piece, the model is finished and no longer open.
    rintro state ⟨settled, known, finished⟩
    refine ⟨settled.close fun other isOther => ?_, known⟩
    obtain rfl : node = other := Option.some.inj (known.symm.trans isOther)
    exact finished
  · obtain ⟨registered, inside, isNode⟩ := start
    refine ⟨⟨registered.2, inside, ?_⟩, registered.1⟩
    rw [isNode]
    exact ⟨_, rfl, rfl, isGenerated, rfl, rfl, rfl, rfl⟩

end

end ClientModel.Derivation
