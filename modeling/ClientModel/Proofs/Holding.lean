import ClientModel.Proofs.Advances

/-!
Single steps of a run, and what is known of what they hand over.

Whatever nodes a step names are there when it ends, and stay there to the end of the run. The
parameters that it makes have the names that they were declared with.
-/

namespace ClientModel.Derivation

variable {α β : Type} {context : Context} {state : State}

/-! ## What lasts -/

instance Lasts.admits {leads : State → State → Prop} [Growing leads] (parameter : Property) :
    Lasts leads fun state => Admits context state.catalogue parameter :=
  .of_lasting fun _ _ admits grown => admits.mono grown.size

instance Lasts.admitsAll {leads : State → State → Prop} [Growing leads]
    (parameters : List Property) :
    Lasts leads fun state => AdmitsAll context state.catalogue parameters :=
  .of_lasting fun _ _ admits grown => admits.mono grown.size

/-! ## Notes -/

/-- A note on usage or on formats advances a run. -/
theorem note_conveys {change : State → State}
    (notes : ∀ state, ∃ seeds bodyFormats, change state = { state with seeds, bodyFormats }) :
    Conveys (Advances context) (fun _ => True) (modify change) fun _ _ => True :=
  Conveys.modify fun state _ _ => by
    -- A note adds to one of two lists that nothing else depends on.
    obtain ⟨seeds, bodyFormats, same⟩ := notes state
    rw [same]
    exact ⟨.note seeds bodyFormats, trivial⟩

/-- To note a seed advances a run. -/
theorem addSeed_conveys (type : NodeId) (usage : Usage) (access : Access) :
    Conveys (Advances context) (fun _ => True) (addSeed type usage access) fun _ _ => True :=
  note_conveys fun _ => ⟨_, _, rfl⟩

/-- To note a format advances a run. -/
theorem addBodyFormat_conveys (type : NodeId) (isMultipart : Bool) :
    Conveys (Advances context) (fun _ => True) (addBodyFormat type isMultipart) fun _ _ => True :=
  note_conveys fun _ => ⟨_, _, rfl⟩

/-- A report advances a run, unless it tells of a discriminator. -/
theorem report_conveys {report : Diagnostic}
    (other : report.code ≠ some Code.discriminatorNotConstant) :
    Conveys (Advances context) (fun _ => True) (Derivation.report report) fun _ _ => True :=
  Conveys.modify fun _ _ _ => ⟨.derive (Derived.report other), trivial⟩

/-- So does a warning. -/
theorem reportWarning_conveys {target : Declaration} {code message : String}
    (other : code ≠ Code.discriminatorNotConstant) :
    Conveys (Advances context) (fun _ => True) (reportWarning target code message)
      fun _ _ => True :=
  report_conveys (by simpa using other)

/-! ## Nodes -/

/-- The node of a type is in range when it is handed back. -/
theorem node_conveys (id : TypeId) :
    Conveys (Advances context) (fun _ => True) (context.node id)
      fun node state => state.catalogue.Holds [node] := by
  refine ((node_derives id).advance fun _ consistent _ => consistent.ready _).ending ?_
  -- What stands for a type is in range.
  exact fun node state consistent stands =>
    Catalogue.holds_singleton.mpr (consistent.orderly.inside _ _ stands)

/-- So is the node for texts. -/
theorem stringNode_derives :
    Conveys (Derived context) (fun _ => True) stringNode
      fun node state => state.catalogue.Holds [node] := by
  -- The node is remembered among the builtin types, and those are in range.
  exact stringNode_conveys.ending fun node state orderly known =>
    Catalogue.holds_singleton.mpr (orderly.builtins _ _ known).1

/-- To claim a name is a step of a derivation. -/
theorem claimName_derives (candidate : String) :
    Conveys (Derived context) (fun _ => True) (claimName candidate) fun _ _ => True := by
  unfold claimName
  refine Conveys.look fun current _ _ => ?_
  -- The registry of names is all that changes.
  have renamed (names : NameRegistry) : Conveys (Derived context) (fun _ => True)
      (modify fun state => { state with names }) fun _ _ => True :=
    Conveys.modify fun _ _ _ => ⟨Derived.rename names, trivial⟩
  exact (renamed _).bind fun _ => Conveys.pure fun _ _ _ => trivial

/-- A node that belongs to no declaration is added when all that it names is there. -/
theorem addNode_derives {node : Node} (bare : node.origin = none)
    (compound : ∀ builtin, node.kind ≠ .builtin builtin) :
    Conveys (Derived context) (fun state => state.catalogue.Holds node.kind.nodeIds)
      (addNode node) fun added state => state.catalogue.Holds [added] := by
  intro start _
  -- The node is the last one of the catalogue.
  refine Ensures.addNode ?_
  rintro state ⟨rfl, names⟩
  exact ⟨Derived.add bare compound names, by simp⟩

/-- Looking a node up changes nothing. -/
theorem nodeAt_conveys (id : NodeId) :
    Conveys (Advances context) (fun _ => True) (nodeAt id) fun _ _ => True :=
  Conveys.look fun _ _ _ => Conveys.pure fun _ _ _ => trivial

/-- To look for the model of a node changes nothing. -/
theorem modelAt?_conveys (id : NodeId) :
    Conveys (Advances context) (fun _ => True) (modelAt? id) fun _ _ => True :=
  Conveys.look fun _ _ _ => Conveys.pure fun _ _ _ => trivial

/-- The node for texts is in range when it is handed back. -/
theorem stringNode_holds :
    Conveys (Advances context) (fun _ => True) stringNode
      fun node state => state.catalogue.Holds [node] :=
  stringNode_derives.advance fun _ _ start => start

/-- To claim a name advances a run. -/
theorem claimName_conveys (candidate : String) :
    Conveys (Advances context) (fun _ => True) (claimName candidate) fun _ _ => True :=
  (claimName_derives candidate).advance fun _ _ start => start

/-- A node without a declaration may be added to a run. -/
theorem addNode_conveys {node : Node} (bare : node.origin = none)
    (compound : ∀ builtin, node.kind ≠ .builtin builtin) :
    Conveys (Advances context) (fun state => state.catalogue.Holds node.kind.nodeIds)
      (addNode node) fun added state => state.catalogue.Holds [added] :=
  (addNode_derives bare compound).advance fun _ _ start => start

/-- So may the node of a constant. -/
theorem addConstant_conveys (value : Service.Literal) (name : Option String) :
    Conveys (Advances context) (fun _ => True) (addConstant value name)
      fun added state => state.catalogue.Holds [added] :=
  -- A constant refers to no other node.
  (addNode_conveys rfl fun _ isBuiltin => by cases isBuiltin).starting
    fun _ _ _ => by simp [NodeKind.nodeIds]

/-! ## Parameters -/

/-- The facts of a client leave a parameter admissible. -/
theorem Admits.withClientFacts {catalogue : Catalogue} {parameter : Property}
    (admits : Admits context catalogue parameter) (client : ContainerId) :
    Admits context catalogue (context.withClientFacts client parameter) := by
  obtain ⟨names, declared, version⟩ := admits
  unfold Context.withClientFacts
  -- Only the name makes a parameter the version of its service.
  cases context.definition.service? client with
  | none =>
    dsimp only
    split
    · exact ⟨names, declared, version⟩
    · exact ⟨names, declared, version⟩
  | some service =>
    dsimp only
    -- Where the facts are those of a version, the name is that of one.
    split
    · rename_i isVersion
      have isVersion : isVersionName parameter.name = true := by
        simp only [Bool.and_eq_true] at isVersion
        exact isVersion.1
      split
      · exact ⟨names, declared, fun _ => isVersion⟩
      · exact ⟨names, declared, fun _ => isVersion⟩
    · split
      · exact ⟨names, declared, version⟩
      · exact ⟨names, declared, version⟩

/-- The parameter of a declared property is admitted if its type is there. -/
theorem admits_parameterOf {catalogue : Catalogue} {type : NodeId} (inside : catalogue.Holds [type])
    (id : PropertyId) (role : Role) (ownerId : String) (client : ContainerId) :
    Admits context catalogue (context.parameterOf id type role ownerId client) :=
  -- It starts out as no version, and becomes one by what is known of the client alone.
  Admits.withClientFacts ⟨inside, by simp, fun isVersion => by cases isVersion⟩ client

/-- The parameter of a request is admissible. -/
theorem requestParameter_conveys (operation : OperationId) (id : PropertyId)
    (location : Option Service.Location) (client : ContainerId) :
    Conveys (Advances context) (fun _ => True)
      (context.requestParameter operation id location client)
      fun parameter state => Admits context state.catalogue parameter := by
  unfold Context.requestParameter
  dsimp only
  -- A property without a place in the request ends the method.
  split
  · exact Conveys.throw
  · exact (node_conveys _).onward (fun _ start => start) fun type => Conveys.pure
      fun _ _ known => admits_parameterOf known.2 _ _ _ _

/-! ## Parameters of clients -/

/-- What is in scope of a client is admissible. -/
theorem Consistent.inScope (consistent : Consistent context state) (client : ContainerId) :
    AdmitsAll context state.catalogue (state.parametersInScope context.definition client) := by
  intro parameter listed
  -- What is in scope was taken by the client itself or by one that it is below.
  obtain ⟨container, _, taken⟩ := List.mem_flatMap.mp listed
  exact consistent.taken container parameter taken

/-- The search for what is in scope comes back with just that. -/
theorem parametersInScope_conveys (client : ContainerId) :
    Conveys (Advances context) (fun _ => True) (context.parametersInScope client)
      fun parameters state => parameters = state.parametersInScope context.definition client :=
  Conveys.get_bind fun _ _ _ => Conveys.pure fun _ _ start => by rw [start.1]

/-- The parameters that a client takes itself are in its scope. -/
theorem State.takenBy_subset (state : State) (definition : Service.Definition)
    (client : ContainerId) : state.takenBy client ⊆ state.parametersInScope definition client :=
  fun _ taken => List.mem_flatMap.mpr ⟨client, List.mem_cons_self, taken⟩

/-- A client takes a parameter that is given to it, unless it is served already. -/
theorem elevate_conveys (client : ContainerId) (parameter : Property) :
    Conveys (Advances context) (fun state => Admits context state.catalogue parameter)
      (context.elevate client parameter) fun _ _ => True := by
  unfold Context.elevate
  refine (parametersInScope_conveys client).onward (fun _ _ => trivial) fun scope => ?_
  dsimp only
  -- Something in scope serves already, or the client takes the parameter.
  split
  · exact Conveys.pure fun _ _ _ => trivial
  · rename_i unserved
    refine Conveys.modify ?_
    rintro state _ ⟨admits, isScope⟩
    refine ⟨?_, trivial⟩
    have admitted : Admits context state.catalogue
        { parameter with onClient := true, role := .method } :=
      ⟨admits.names, admits.declared, admits.version⟩
    refine Advances.take admitted fun _ isVersion other taken => ?_
    -- Another version in scope would have served instead.
    have inScope := state.takenBy_subset context.definition client taken
    rw [← isScope] at inScope
    simp only [List.any_eq_true, Bool.or_eq_true, Bool.and_eq_true, not_exists, not_and,
      not_or] at unserved
    exact Bool.eq_false_iff.mpr fun isOther => (unserved other inScope).2 isOther isVersion

end ClientModel.Derivation
