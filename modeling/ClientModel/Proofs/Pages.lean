import ClientModel.Proofs.Bodies

/-!
What methods on pages hand back.

The items of a page are looked for name by name among the properties that each model on the way
declares itself; what it inherits is passed over. A response that is null where a success carries
nothing is not looked into at all.
-/

namespace ClientModel

/-- A property goes by a name on the wire and by the name that it is declared with. -/
def Property.goesBy (property : Property) (name : String) : Bool :=
  property.serializedName == name || property.name == name

namespace Catalogue

/-- A way from a type through properties by their names, each declared or inherited by a model. -/
inductive Way (catalogue : Catalogue) : NodeId → List String → NodeId → Prop where
  | done (type : NodeId) : Way catalogue type [] type
  | step {type last : NodeId} {member : Property} {name : String} {rest : List String}
      (has : catalogue.HasMember member type) (isNamed : member.goesBy name = true)
      (onward : Way catalogue member.type rest last) : Way catalogue type (name :: rest) last

/-- A way on which each model declares the property itself; the first one of the name is taken. -/
inductive OwnWay (catalogue : Catalogue) : NodeId → List String → NodeId → Prop where
  | done (type : NodeId) : OwnWay catalogue type [] type
  | step {type last : NodeId} {model : ModelNode} {member : Property} {name : String}
      {rest : List String} (isModel : catalogue.model? type = some model)
      (first : model.properties.find? (·.goesBy name) = some member)
      (onward : OwnWay catalogue member.type rest last) : OwnWay catalogue type (name :: rest) last

/-- A node is a union that stands for a type or null. -/
structure IsOrNull (catalogue : Catalogue) (node type : NodeId) : Prop where
  nullable : (catalogue.nodeAt node).nullable = true
  isUnion : ∃ union, (catalogue.nodeAt node).kind = .union union ∧ union.variants = [type]

/-- A way through properties of the models' own is a way. -/
theorem OwnWay.way {catalogue : Catalogue} {type last : NodeId} {names : List String}
    (own : catalogue.OwnWay type names last) : catalogue.Way type names last := by
  -- By induction on the way: the property that leads on is one of the model's own.
  induction own with
  | done type => exact .done type
  | step isModel first _ ih =>
    have isNamed := List.find?_some first
    exact .step (.own isModel (List.mem_of_find?_eq_some first)) isNamed ih

/-- A type or null is a node of the catalogue. -/
theorem IsOrNull.inside {catalogue : Catalogue} {node type : NodeId}
    (isOrNull : catalogue.IsOrNull node type) : node.index < catalogue.size := by
  -- A node out of range does not admit null.
  refine Nat.lt_of_not_le fun outside => ?_
  have nullable := isOrNull.nullable
  rw [catalogue.nodeAt_of_ge outside] at nullable
  cases nullable

end Catalogue

namespace Derivation

open Service (Definition)

/-! ## Ways -/

section

variable {catalogue first second : Catalogue} {type last : NodeId} {names : List String}

/-- The type at the end is found just if there is a way through properties of the models' own. -/
theorem typeAlong_eq_some_iff :
    typeAlong catalogue type names = some last ↔ catalogue.OwnWay type names last := by
  constructor
  · intro found
    -- By induction on the names: each one leads to the next type.
    induction names generalizing type with
    | nil =>
      rw [typeAlong] at found
      obtain rfl := Option.some.inj found
      exact .done type
    | cons name rest ih =>
      rw [typeAlong] at found
      obtain ⟨model, isModel, found⟩ := Option.bind_eq_some_iff.mp found
      obtain ⟨member, isFirst, found⟩ := Option.bind_eq_some_iff.mp found
      exact .step isModel isFirst (ih found)
  · intro own
    -- Conversely by induction on the way, whose step is what the search does with one name.
    induction own with
    | done type => rw [typeAlong]
    | @step type last model member name rest isModel isFirst _ ih =>
      rw [typeAlong, isModel]
      exact Option.bind_eq_some_iff.mpr
        ⟨model, rfl, Option.bind_eq_some_iff.mpr ⟨member, isFirst, ih⟩⟩

/-- Nothing is found just if no way leads anywhere. -/
theorem typeAlong_eq_none_iff :
    typeAlong catalogue type names = none ↔ ∀ last, ¬catalogue.OwnWay type names last := by
  -- The search finds just the types that a way leads to.
  rw [Option.eq_none_iff_forall_ne_some]
  exact forall_congr' fun last => not_congr typeAlong_eq_some_iff

/-- Marks of subtypes do not change what a property goes by. -/
theorem find?_goesBy_unmarked (properties : List Property) (name : String) :
    (properties.find? (·.goesBy name)).map Property.type =
      ((properties.map Property.unmarked).find? (·.goesBy name)).map Property.type := by
  -- The name and the type of a property are not among its marks.
  rw [List.find?_map, Option.map_map]
  rfl

/--
Ways are the same in two catalogues, as far as their models are the same but for marks.

It is enough to compare the models that can be reached at all.
-/
theorem typeAlong_congr (reached : NodeId → Prop)
    (same : ∀ id, reached id → (second.model? id).map (·.properties.map Property.unmarked) =
      (first.model? id).map (·.properties.map Property.unmarked))
    (closed : ∀ id model, reached id → first.model? id = some model →
      ∀ member ∈ model.properties, reached member.type)
    (within : reached type) (names : List String) :
    typeAlong second type names = typeAlong first type names := by
  -- By induction on the names: the model at hand, if there is one, is the same but for marks.
  induction names generalizing type with
  | nil => rfl
  | cons name rest ih =>
    have alike := same type within
    rw [typeAlong, typeAlong]
    cases isModel : first.model? type with
    | none =>
      rw [isModel, Option.map_none, Option.map_eq_none_iff] at alike
      rw [alike]
      rfl
    | some model =>
      rw [isModel, Option.map_some] at alike
      obtain ⟨other, isOther, properties⟩ := Option.map_eq_some_iff.mp alike
      -- The first property of the name leads to the same type in both.
      have found := find?_goesBy_unmarked other.properties name
      rw [properties, ← find?_goesBy_unmarked] at found
      rw [isOther]
      change (other.properties.find? (·.goesBy name)).bind _ =
        (model.properties.find? (·.goesBy name)).bind _
      cases isFirst : model.properties.find? (·.goesBy name) with
      | none =>
        rw [isFirst, Option.map_none, Option.map_eq_none_iff] at found
        rw [found]
        rfl
      | some member =>
        rw [isFirst, Option.map_some] at found
        obtain ⟨counterpart, isCounterpart, type⟩ := Option.map_eq_some_iff.mp found
        rw [isCounterpart, Option.bind_some, Option.bind_some, type]
        exact ih (closed _ model within isModel member (List.mem_of_find?_eq_some isFirst))

end

/-! ## Responses -/

/-- Every success carries something, or the type that successes carry admits null anyway. -/
def EveryCarries (catalogue : Catalogue) (responses : ResponseMap) (type : NodeId) : Prop :=
  (∀ response ∈ responses.values, response.type.isSome) ∨ (catalogue.nodeAt type).nullable = true

/-- What a method without pages hands back where all successes that carry something agree. -/
inductive IsCarried (catalogue : Catalogue) (responses : ResponseMap) (type : NodeId) :
    MethodResponse → Prop where
  | always (every : EveryCarries catalogue responses type) :
      IsCarried catalogue responses type { type := some type }
  | sometimes {orNull : NodeId} (notEvery : ¬EveryCarries catalogue responses type)
      (isOrNull : catalogue.IsOrNull orNull type) :
      IsCarried catalogue responses type { type := some orNull }

/-- What a method on pages hands back where all successes that carry something agree. -/
inductive HandsBack (catalogue : Catalogue) (responses : ResponseMap) (type : NodeId)
    (names : List String) : MethodResponse → Prop where
  /-- The items, at the end of a way through properties that the models declare themselves. -/
  | items {items : NodeId} (every : EveryCarries catalogue responses type)
      (way : catalogue.OwnWay type names items) :
      HandsBack catalogue responses type names { type := some items, resultSegments := some names }
  /-- The page as a whole, since there is no such way. -/
  | page (every : EveryCarries catalogue responses type)
      (lost : ∀ items, ¬catalogue.OwnWay type names items) :
      HandsBack catalogue responses type names { type := some type }
  /-- The page or null, which is not looked into. -/
  | orNull {orNull : NodeId} (notEvery : ¬EveryCarries catalogue responses type)
      (isOrNull : catalogue.IsOrNull orNull type) :
      HandsBack catalogue responses type names
        { type := some orNull, resultSegments := if names = [] then some [] else none }

section

variable {catalogue first second : Catalogue} {responses : ResponseMap} {type : NodeId}
  {names : List String} {response : MethodResponse}

/-- A union is no model, so that no name leads on from it. -/
theorem typeAlong_of_isOrNull {orNull : NodeId} (isOrNull : catalogue.IsOrNull orNull type)
    (has : names ≠ []) : typeAlong catalogue orNull names = none := by
  -- The first of the names is looked for at the union, which is where the search ends.
  cases names with
  | nil => exact absurd rfl has
  | cons name rest =>
    obtain ⟨union, isUnion, -⟩ := isOrNull.isUnion
    have noModel : catalogue.model? orNull = none := by
      simp [Catalogue.model?, Node.model?, isUnion]
    rw [typeAlong, noModel]
    rfl

/-- What is carried is cut down to the items at the end of the segments, if a way leads to them. -/
theorem handsBack_pagedResponse (carried : IsCarried catalogue responses type response)
    (pages : Paging) :
    HandsBack catalogue responses type pages.itemSegments
      (pagedResponse catalogue pages response) := by
  -- The way through the properties of the node itself is what the search goes along.
  cases carried with
  | always every =>
    cases found : typeAlong catalogue type pages.itemSegments with
    | some items =>
      simp only [pagedResponse, Option.bind_some, found]
      exact .items every (typeAlong_eq_some_iff.mp found)
    | none =>
      simp only [pagedResponse, Option.bind_some, found]
      exact .page every (typeAlong_eq_none_iff.mp found)
  | @sometimes orNull notEvery isOrNull =>
    have ends := @HandsBack.orNull _ _ _ pages.itemSegments orNull notEvery isOrNull
    -- Without any names the way ends where it begins.
    by_cases none : pages.itemSegments = []
    · rw [if_pos none] at ends
      simp only [pagedResponse, Option.bind_some, none, typeAlong]
      exact none ▸ ends
    · rw [if_neg none] at ends
      simp only [pagedResponse, Option.bind_some, typeAlong_of_isOrNull isOrNull none]
      exact ends

/-- What is handed back is the same in catalogues that agree on the type and the ways from it. -/
theorem HandsBack.congr (handed : HandsBack first responses type names response)
    (ways : typeAlong second type names = typeAlong first type names)
    (nullable : (second.nodeAt type).nullable = (first.nodeAt type).nullable)
    (unions : ∀ orNull, first.IsOrNull orNull type → second.IsOrNull orNull type) :
    HandsBack second responses type names response := by
  -- Whether every response carries the type and where the names lead is told by what agrees.
  have every : EveryCarries second responses type ↔ EveryCarries first responses type := by
    rw [EveryCarries, EveryCarries, nullable]
  have own (items : NodeId) : second.OwnWay type names items ↔ first.OwnWay type names items := by
    rw [← typeAlong_eq_some_iff, ways, typeAlong_eq_some_iff]
  cases handed with
  | items carries way => exact .items (every.mpr carries) ((own _).mpr way)
  | page carries lost =>
    exact .page (every.mpr carries) fun items way => lost items ((own items).mp way)
  | orNull sometimes isOrNull => exact .orNull (mt every.mp sometimes) (unions _ isOrNull)

/-- The items are handed back just if every success carries a page and there is a way to them. -/
theorem HandsBack.eq_items_iff (handed : HandsBack catalogue responses type names response)
    (has : names ≠ []) (items : NodeId) :
    response = { type := some items, resultSegments := some names } ↔
      EveryCarries catalogue responses type ∧ catalogue.OwnWay type names items := by
  -- Each way of handing back is told by what the responses carry and by what the path finds.
  cases handed with
  | @items found every way =>
    rw [← typeAlong_eq_some_iff] at way ⊢
    simp [way, every]
  | page every lost => simp [lost items]
  | orNull sometimes isOrNull => simp [has, sometimes]

end

/-! ## Methods -/

namespace Context

variable {context : Context} {operation : OperationId} {client : ContainerId} {access : Access}
  {start last : State} {method : Method}

/-- The response of a method whose success responses have one type carries this type. -/
theorem methodResponse_isCarried {responses : ResponseMap} {type : NodeId}
    (isOnly : successTypes responses = [type]) :
    Ensures (fun state => type.index < state.catalogue.size)
      (context.methodResponse operation responses access)
      (fun response state => IsCarried state.catalogue responses type response)
      fun _ _ => True := by
  unfold methodResponse
  rw [isOnly, successType?, pure_bind]
  refine Ensures.get_bind fun current inside => ?_
  have notEmpty : (responses.values.any fun response => response.type.isNone) = false ↔
      ∀ response ∈ responses.values, response.type.isSome := by
    simp [Option.isSome_iff_ne_none]
  -- It is the type or null if a response has no body and the type does not admit null.
  split
  · rename_i sometimes
    obtain ⟨isEmpty, notNull⟩ := Bool.and_eq_true_iff.mp sometimes
    refine Ensures.via (fun orNull state =>
      IsCarried state.catalogue responses type { type := some orNull }) (Ensures.addNode ?_)
        fun orNull => Ensures.pure fun _ carried => carried
    rintro state rfl
    -- The union is a new node beside the type, which stays what it is.
    refine .sometimes ?_ ⟨?_, ?_⟩
    · rw [EveryCarries, Catalogue.nodeAt_push_lt _ inside, ← notEmpty, isEmpty]
      simpa using notNull
    · rw [Catalogue.nodeAt_push_self]
    · rw [Catalogue.nodeAt_push_self]
      exact ⟨_, rfl, rfl⟩
  · rename_i always
    refine Ensures.pure ?_
    rintro state rfl
    refine .always ?_
    rw [EveryCarries, ← notEmpty]
    by_cases isEmpty : (responses.values.any fun response => response.type.isNone) = true
    · simpa [isEmpty] using always
    · exact .inl (by simpa using isEmpty)

variable (context) in
/-- A method on pages handed back what it does in a consistent state before this one. -/
def HandedBack (operation : OperationId) (method : Method) (state : State) : Prop :=
  ∃ earlier, Consistent context earlier ∧ Grown earlier state ∧
    ∀ pages ∈ (context.definition.operationAt operation).paging, ∀ http ∈ method.operation?,
      ∀ type, successTypes http.responses = [type] → type.index < earlier.catalogue.size ∧
        ∃ handed, method.response? = some (polledResponse method.kind.polling? handed) ∧
          HandsBack earlier.catalogue http.responses type pages.itemSegments handed

instance Lasts.handedBack (operation : OperationId) (method : Method) :
    Lasts (Advances context) (context.HandedBack operation method) :=
  ⟨fun _ _ known advances =>
    have ⟨earlier, consistent, grown, handed⟩ := known
    ⟨earlier, consistent, grown.trans advances.grown, handed⟩⟩

/-- How a method came about: from its responses first, then its pages, and then its polling. -/
theorem buildMethod_ok (consistent : Consistent context start)
    (run : context.buildMethod operation client start = (.ok method, last)) :
    ∃ access http response progress sent answered,
      sent.catalogue.Holds (http.responses.values.flatMap HttpResponse.types) ∧
      context.methodResponse operation http.responses access sent = (.ok response, answered) ∧
      Advances context sent answered ∧ Consistent context answered ∧ Grown answered last ∧
      let pages := (context.definition.operationAt operation).paging.map context.pagingOf
      let handed := pages.elim response fun pages => pagedResponse answered.catalogue pages response
      method.kind = methodKind { operation := http, response := polledResponse progress handed }
        pages progress := by
  unfold buildMethod at run
  dsimp only at run
  generalize (context.choices.access? (.operation operation)).getD .everyone = access at run
  -- Parameters, the request and the response come first, each from a consistent state.
  obtain ⟨parameters, taken, takes, run⟩ := bind_eq_ok run
  have conveys := Conveys.filterMapM (context.definition.operationAt operation).parameters
    fun id _ => @methodParameter?_conveys context operation client access id
  obtain ⟨led, admits⟩ := (conveys start consistent).ok ⟨rfl, trivial⟩ takes
  have consistent := led.consistent consistent
  -- The request and its responses; the types of the responses are in the catalogue from then on.
  obtain ⟨result, sent, sends, run⟩ := bind_eq_ok run
  obtain ⟨led, holds, -⟩ := (httpOperation_conveys operation client access parameters taken
    consistent).ok ⟨rfl, admits⟩ sends
  have consistent := led.consistent consistent
  have holds : sent.catalogue.Holds (result.1.responses.values.flatMap HttpResponse.types) :=
    holds.subset fun _ member => List.mem_append_right _ (List.mem_append_left _ member)
  obtain ⟨response, answered, answers, run⟩ := bind_eq_ok run
  have led := ((methodResponse_conveys operation result.1.responses access sent consistent).ok
    ⟨rfl, holds⟩ answers).1
  have consistent := led.consistent consistent
  have looked : (get : Derive State) answered = (.ok answered, answered) := rfl
  rw [bind_ok looked] at run
  -- Polling comes last, and only adds to what is known by then.
  cases polling : (context.definition.operationAt operation).polling with
  | none =>
    rw [polling] at run
    cases run
    exact ⟨access, result.1, response, none, sent, _, holds, answers, led, consistent, .refl _, rfl⟩
  | some declared =>
    rw [polling] at run
    obtain ⟨progress, polled, polls, ends⟩ := bind_eq_ok run
    have accruing := (Grown.robust context answered).accruing client
    have grown := (accruing.polling? operation declared access _).ok (.refl answered) polls
    cases ends
    exact ⟨access, result.1, response, progress, sent, answered, holds, answers, led, consistent,
      grown, rfl⟩

/-- What a method hands back is cut down from the response that was there when it was built. -/
theorem buildMethod_handsBack (consistent : Consistent context start)
    (run : context.buildMethod operation client start = (.ok method, last)) :
    context.HandedBack operation method last := by
  obtain ⟨access, http, response, progress, sent, answered, holds, answers, led, consistent, grown,
    isBuilt⟩ := buildMethod_ok consistent run
  refine ⟨answered, consistent, grown, fun pages isPages other behind type isOnly => ?_⟩
  -- The responses that the method ends up with are those that were there before the polling.
  dsimp only at isBuilt
  rw [isPages, Option.map_some, Option.elim_some] at isBuilt
  rw [Method.operation?, isBuilt, service?_methodKind, Option.map_some] at behind
  obtain rfl := Option.some.inj behind
  have inside : type.index < sent.catalogue.size :=
    holds type (successTypes_subset _ (isOnly ▸ List.mem_singleton_self type))
  have carried := (methodResponse_isCarried isOnly).ok inside answers
  refine ⟨Nat.lt_of_lt_of_le inside led.grown.size, _, ?_,
    handsBack_pagedResponse carried (context.pagingOf pages)⟩
  rw [Method.response?, isBuilt, service?_methodKind, polling?_methodKind]
  rfl

/-- A method is one that was built, in the forms in which it is wanted. -/
theorem method_ok (run : context.method operation client start = (.ok method, last)) :
    ∃ plain built isConvenient isProtocol,
      context.buildMethod operation client start = (.ok plain, built) ∧ Grown built last ∧
        method = { plain with isConvenient, isProtocol } := by
  rw [method_run] at run
  cases built : context.buildMethod operation client start with
  | mk outcome state =>
    rw [built] at run
    cases outcome with
    | error failure => cases run
    | ok plain =>
      cases run
      refine ⟨plain, state, _, _, rfl, ?_, rfl⟩
      -- Notes on usage may be taken back, which touches no node.
      split
      · exact .refl state
      · exact (Grown.refl state).noted _ _ _ _

/-- The forms in which a method is wanted bear on neither its response nor its polling. -/
theorem method_handsBack (consistent : Consistent context start)
    (run : context.method operation client start = (.ok method, last)) :
    context.HandedBack operation method last := by
  obtain ⟨plain, built, isConvenient, isProtocol, builds, grown, rfl⟩ := method_ok run
  obtain ⟨earlier, isConsistent, before, handed⟩ := buildMethod_handsBack consistent builds
  exact ⟨earlier, isConsistent, before.trans grown, handed⟩

end Context

/-! ## Packages -/

section

variable {context : Context}

variable (context) in
/-- What is told of each method that is derived where all is consistent is told by operations. -/
theorem conveying_of_runs {told : OperationId → Method → State → Prop}
    (lasts : ∀ operation method, Lasts (Advances context) (told operation method))
    (runs : ∀ operation client start method last, Consistent context start →
      context.method operation client start = (.ok method, last) → told operation method last) :
    Conveying context fun _ method state =>
      ∀ operation, method.origin = some operation → told operation method state where
  -- What is told of an operation lasts, and only the method of an operation has it as origin.
  lasts _ _ := ⟨fun before after known advances operation isOrigin =>
    (lasts operation _).lasts before after (known operation isOrigin) advances⟩
  method container operation := by
    have origin : Yields (context.method operation container) fun method _ =>
        method.origin = some operation :=
      Context.method_told (Context.buildMethod_origin operation container) fun _ _ _ same => same
    refine (method_conveys operation container).of_runs ?_
    intro start method last consistent _ run other isOther
    obtain rfl := Option.some.inj ((origin.ok trivial run).symm.trans isOther)
    exact runs operation container start method last consistent run
  accessor container crossId apiVersions child state operation isOrigin := by cases isOrigin

variable (context) in
/-- Every method that a run derives tells what it hands back. -/
theorem conveying_handedBack : Conveying context fun _ method state =>
    ∀ operation, method.origin = some operation → context.HandedBack operation method state :=
  conveying_of_runs context (fun _ _ => inferInstance) fun _ _ _ _ _ consistent run =>
    Context.method_handsBack consistent run

variable {before after : State} {catalogue : Catalogue} {responses : ResponseMap} {type : NodeId}
  {names : List String} {response : MethodResponse}

/-- What was handed back in a consistent state is so whatever is found later on. -/
theorem HandsBack.grown (handed : HandsBack before.catalogue responses type names response)
    (consistent : Consistent context before) (grown : Grown before after)
    (inside : type.index < before.catalogue.size) :
    HandsBack after.catalogue responses type names response := by
  -- The nodes that were known before lead to nodes known before, and kept all but their marks.
  refine handed.congr (typeAlong_congr (fun id => id.index < before.catalogue.size)
    (fun id known => ?_) (fun id model _ isModel member listed => ?_) inside names)
    (grown.nullable inside) fun orNull isOrNull => ?_
  · have plain := congrArg Node.model? (grown.nodes id known)
    rw [Node.model?_plain, Node.model?_plain] at plain
    have properties := congrArg (Option.map ModelNode.properties) plain
    rwa [Option.map_map, Option.map_map] at properties
  · -- The type of a member is among the nodes that its model names.
    have named := consistent.orderly.names id
    rw [Node.kind_of_model? isModel, Catalogue.holds_model] at named
    exact named.1 _ (List.mem_flatMap.mpr ⟨member, listed, List.mem_cons_self⟩)
  · obtain ⟨union, isUnion, variants⟩ := isOrNull.isUnion
    refine ⟨(grown.nullable isOrNull.inside).trans isOrNull.nullable, union, ?_, variants⟩
    exact grown.kind isUnion (by simp [NodeKind.label])

/-- Usage and access change nothing about what is handed back. -/
theorem HandsBack.spread (handed : HandsBack catalogue responses type names response)
    (choices : Service.Choices) (sparesBase : Bool) (seeds : List Seed) :
    HandsBack (spread catalogue choices sparesBase seeds) responses type names response := by
  refine handed.congr (typeAlong_congr (fun _ => True) (fun id _ => ?_)
    -- Spreading rewrites the marks of every node, so that the way may lead through any of them.
    (fun _ _ _ _ _ _ => trivial) trivial names) (nullable_spread catalogue _ _ _ type)
    fun orNull isOrNull => ?_
  · have properties := congrArg (Option.map (List.map Property.unmarked))
      (properties_spread catalogue choices sparesBase seeds id)
    rwa [Option.map_map, Option.map_map] at properties
  · obtain ⟨union, isUnion, variants⟩ := isOrNull.isUnion
    obtain ⟨told, isTold, sameVariants⟩ := union_spread isUnion
    exact ⟨(nullable_spread catalogue _ _ _ orNull).trans isOrNull.nullable, told, isTold,
      sameVariants.trans variants⟩

end

/--
The items of a page are handed back just if every success carries something and there is a way to
them through properties that the models declare themselves.

Items that are handed back are at the end of a way through declared or inherited properties. Where
the way needs an inherited one, the page is handed back as a whole, and where some success carries
nothing it is the page or null. A method that also polls hands back what comes of its polling.
-/
theorem pages_are_searched_without_bases {definition : Definition} {options : Options}
    {package : Package} (derived : derivePackage definition options = .ok package) :
    ∀ client ∈ Client.walkAll package.clients, ∀ method ∈ client.methods, ∀ operation pages,
      method.origin = some operation → (definition.operationAt operation).paging = some pages →
      ∀ http, method.operation? = some http → ∀ type, successTypes http.responses = [type] →
        ∃ handed, method.response? = some (Context.polledResponse method.kind.polling? handed) ∧
          HandsBack package.catalogue http.responses type pages.itemSegments handed ∧
          (pages.itemSegments ≠ [] → ∀ items,
            (handed = { type := some items, resultSegments := some pages.itemSegments } ↔
              EveryCarries package.catalogue http.responses type ∧
                package.catalogue.OwnWay type pages.itemSegments items) ∧
            (handed = { type := some items, resultSegments := some pages.itemSegments } →
              package.catalogue.Way type pages.itemSegments items)) := by
  intro client below method member operation pages isOrigin isPages http behind type isOnly
  obtain ⟨clients, run, rfl⟩ := derivePackage_ok derived
  obtain ⟨earlier, consistent, grown, all⟩ :=
    (conveying_handedBack (Context.of definition options)).run run client below method member
      operation isOrigin
  obtain ⟨inside, handed, isHanded, ends⟩ := all pages isPages http behind type isOnly
  -- What was found when the method was derived is in the package as well.
  have ends := (ends.grown consistent grown inside).spread (Context.of definition options).choices
    (Context.of definition options).options.sparesBase (finalState definition options).seeds
  refine ⟨handed, isHanded, ends, fun has items => ⟨ends.eq_items_iff has items, fun isItems => ?_⟩⟩
  exact ((ends.eq_items_iff has items).mp isItems).2.way

/--
A library lists its titles on a shelf, which is a page whose titles it inherits, and searches for
them with a page that may come without content.
-/
def library : Definition where
  types := #[{ shape := .scalar { name := "string" } }, { shape := .array ⟨0⟩ },
    { shape := .model { name := some "Page", properties := [⟨0⟩] } },
    { shape := .model { name := some "Shelf", base := some ⟨2⟩ } }]
  properties := #[{ name := "value", model := some ⟨2⟩, type := ⟨1⟩ }]
  operations := #[
    { name := "list", container := ⟨0⟩, verb := .get, path := "/titles"
      responses := [{ status := .code 200, body := some { type := ⟨3⟩ } }]
      paging := some { itemSegments := ["value"] } },
    { name := "search", container := ⟨0⟩, verb := .get, path := "/search"
      responses := [{ status := .code 200, body := some { type := ⟨2⟩ } }, { status := .code 204 }]
      paging := some { itemSegments := ["value"] } }]
  containers := #[{ name := "Library", operations := [⟨0⟩, ⟨1⟩], service := some {} }]

/-- In the library a method of pages is derived, and hands back what its own properties lead to. -/
theorem pages_are_searched_without_bases_library :
    ∃ package, derivePackage library {} = .ok package ∧
      (∃ client ∈ Client.walkAll package.clients, ∃ method ∈ client.methods,
        method.origin = some ⟨0⟩ ∧ ∃ http ∈ method.operation?, ∃ type,
          successTypes http.responses = [type]) ∧
      (library.operationAt ⟨0⟩).paging = some { itemSegments := ["value"] } ∧
      ∀ client ∈ Client.walkAll package.clients, ∀ method ∈ client.methods,
        method.origin = some ⟨0⟩ → ∀ http, method.operation? = some http →
          ∀ type, successTypes http.responses = [type] →
            ∃ handed, method.response? = some (Context.polledResponse method.kind.polling? handed) ∧
              HandsBack package.catalogue http.responses type ["value"] handed := by
  -- That the run finds such a method is decided; what it hands back is told by the theorem.
  have has : (derivePackage library {}).toOption.any fun package =>
      (Client.walkAll package.clients).any fun client => client.methods.any fun method =>
        method.origin == some ⟨0⟩ && method.operation?.any fun http =>
          (successTypes http.responses).any fun type => successTypes http.responses == [type] := by
    decide +kernel
  cases derived : derivePackage library {} with
  | error failure => simp [derived, Except.toOption] at has
  | ok package =>
    rw [derived] at has
    simp only [Except.toOption, Option.any_some, List.any_eq_true, Bool.and_eq_true, beq_iff_eq,
      Option.any_eq_true] at has
    obtain ⟨client, below, method, member, isOrigin, http, behind, type, -, isOnly⟩ := has
    refine ⟨package, rfl, ⟨client, below, method, member, isOrigin, http, behind, type, isOnly⟩,
      rfl, ?_⟩
    -- The paging is declared, so that the theorem speaks of this very segment.
    intro client below method member isOrigin http behind type isOnly
    obtain ⟨handed, isHanded, ends, -⟩ := pages_are_searched_without_bases derived client below
      method member ⟨0⟩ { itemSegments := ["value"] } isOrigin rfl http behind type isOnly
    exact ⟨handed, isHanded, ends⟩

/-- The titles are inherited, or some search finds nothing; either way the items are missed. -/
theorem items_may_be_missed :
    ∃ package, derivePackage library {} = .ok package ∧ ∃ client ∈ package.clients,
      ∀ operation ∈ [⟨0⟩, ⟨1⟩], ∃ method ∈ client.methods, method.origin = some operation ∧
        method.kind.polling?.isNone ∧ ∃ pages ∈ (library.operationAt operation).paging,
        ∃ http ∈ method.operation?, ∃ type, successTypes http.responses = [type] ∧
          (package.catalogue.model? type).isSome ∧ ∃ items,
            package.catalogue.Way type pages.itemSegments items ∧
            method.response? ≠
              some { type := some items, resultSegments := some pages.itemSegments } := by
  -- The property that the segment names is looked for at the page itself and at its base.
  have found : ((Context.of library {}).clients.run {}).1.toOption.any fun clients =>
      clients.any fun client => [⟨0⟩, ⟨1⟩].all fun operation => client.methods.any fun method =>
        method.origin == some operation && method.kind.polling?.isNone &&
        (library.operationAt operation).paging.any fun pages => method.operation?.any fun http =>
          (successTypes http.responses).any fun type => successTypes http.responses == [type] &&
            ((finalState library {}).catalogue.model? type).any fun model =>
              (model :: (model.base.bind (finalState library {}).catalogue.model?).toList).any
                fun holder => holder.properties.any fun member =>
                  pages.itemSegments == [member.serializedName] &&
                    method.response?.bind MethodResponse.type != some member.type := by
    decide +kernel
  obtain ⟨clients, run, derived⟩ :=
    derivePackage_of_isOk (by decide +kernel : (derivePackage library {}).isOk = true)
  rw [run] at found
  simp only [Except.toOption, Option.any_some, List.any_eq_true, List.all_eq_true,
    Bool.and_eq_true, beq_iff_eq, Option.any_eq_true, bne_iff_ne] at found
  obtain ⟨client, isClient, each⟩ := found
  refine ⟨_, derived, client, isClient, fun operation listed => ?_⟩
  obtain ⟨method, isMethod, ⟨isOrigin, plain⟩, pages, isPages, http, behind, type, -, isOnly,
    model, isModel, holder, isHolder, member, isMember, isNamed, misses⟩ := each operation listed
  -- The property is one of the page itself, or of its base.
  have has : (finalState library {}).catalogue.HasMember member type := by
    rcases List.mem_cons.mp isHolder with rfl | isBase
    · exact .own isModel isMember
    · obtain ⟨base, isBase, isHolder⟩ := Option.bind_eq_some_iff.mp (Option.mem_toList.mp isBase)
      exact .inherited isModel isBase (.own isHolder isMember)
  obtain ⟨later, isLater, -⟩ := sameCores_spread.model? isModel
  refine ⟨method, isMethod, isOrigin, plain, pages, isPages, http, behind, type, isOnly,
    Option.isSome_of_eq_some isLater, member.type, ?_, fun hands => ?_⟩
  · rw [isNamed]
    exact .step (sameCores_spread.hasMember has) (by simp [Property.goesBy]) (.done _)
  · rw [hands] at misses
    exact misses rfl

end Derivation

end ClientModel
