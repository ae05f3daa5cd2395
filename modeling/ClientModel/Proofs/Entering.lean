import ClientModel.Proofs.Nodes
import ClientModel.Proofs.Rendering

/-!
Types that are entered before they are rendered.

The node of a model, an enum or a union is there before it tells anything of its declaration. While
the types that it leads to are derived, it is the only one among those met since that is not yet
rendered.
-/

namespace ClientModel.Derivation

open Service (Definition Enumeration Intrinsic Literal Model Scalar Shape Union Variant)

variable {α : Type} {context : Context} {start state before after : State}

/-! ## Being ready -/

/--
A state is ready for a type to be derived.

Every model that was met has its members, or else has none so far and leads to the type by one.
-/
def Context.Ready (context : Context) (target : TypeId) (state : State) : Prop :=
  ∀ id node declared, state.declared.get? id = some node →
    context.definition.model? id = some declared →
      ∃ model, (state.catalogue.nodeAt node).plain.kind = .model model ∧
        (context.HasMembers state declared node model ∨
          model.properties = [] ∧ context.MembersLead id target)

/-- A declaration that has a model is one of that model. -/
theorem shapeAt_of_model? {definition : Definition} {id : TypeId} {declared : Model}
    (isModel : definition.model? id = some declared) : definition.shapeAt id = .model declared := by
  -- Only a declaration of a model comes with one.
  unfold Definition.model? at isModel
  split at isModel
  · rename_i model shape
    rw [shape, Option.some.inj isModel]
  · cases isModel

/-- A declaration of a model has that model. -/
theorem model?_of_shapeAt {definition : Definition} {id : TypeId} {declared : Model}
    (shape : definition.shapeAt id = .model declared) : definition.model? id = some declared := by
  simp [Definition.model?, shape]

/-- A model that is rendered has its members. -/
theorem Context.Rendered.hasMembers {id : TypeId} {node : NodeId} {declared : Model}
    (rendered : context.Rendered state id node)
    (isModel : context.definition.model? id = some declared) :
    ∃ model, (state.catalogue.nodeAt node).plain.kind = .model model ∧
      context.RendersModel state id declared node model := by
  unfold Context.Rendered at rendered
  rw [shapeAt_of_model? isModel] at rendered
  generalize (state.catalogue.nodeAt node).plain.kind = kind at rendered
  -- The shape is that of a model, and so is the node that renders it.
  cases rendered with
  | model renders => exact ⟨_, rfl, renders⟩

/-- A node that shows a model is in range, and shows it later on. -/
theorem Grown.shows_model (grown : Grown before after) {node : NodeId} {model : ModelNode}
    (isModel : (before.catalogue.nodeAt node).plain.kind = .model model) :
    (after.catalogue.nodeAt node).plain.kind = .model model := by
  -- Out of range there is no model to be shown.
  have inside : node.index < before.catalogue.size := by
    by_contra outside
    rw [Catalogue.nodeAt_of_ge _ (Nat.le_of_not_lt outside)] at isModel
    cases isModel
  rw [grown.nodes node inside, isModel]

/-- A state stays ready while nodes are derived. -/
instance Lasts.ready (target : TypeId) : Lasts (Derived context) (context.Ready target) := by
  refine ⟨fun before after ready derived id node declared known isModel => ?_⟩
  -- What was met before has members or none as before; what is new is rendered, members and all.
  rcases derived.rendered id node known with earlier | rendered
  · obtain ⟨model, shows', told⟩ := ready id node declared earlier isModel
    exact ⟨model, derived.later.grown.shows_model shows',
      told.imp_left derived.later.sustains.hasMembers⟩
  · obtain ⟨model, shows', renders⟩ := rendered.hasMembers isModel
    exact ⟨model, shows', Or.inl renders.members⟩

/-- A way from the members of a model may go on by one more step. -/
theorem Context.MembersLead.tail {id target next : TypeId}
    (leads : context.MembersLead id target) (last : context.LeadsTo target next) :
    context.MembersLead id next := by
  -- The way is longer at its end; the member that it starts from is the same.
  obtain ⟨model, isModel, property, member, way⟩ := leads
  exact ⟨model, isModel, property, member, way.tail last⟩

/-- What is ready for a type is ready for any that it leads to. -/
theorem Context.Ready.tail {target next : TypeId} (ready : context.Ready target state)
    (last : context.LeadsTo target next) : context.Ready next state := by
  -- A way that could not come back to the type does not come back by one step more.
  intro id node declared known isModel
  obtain ⟨model, shows', told⟩ := ready id node declared known isModel
  exact ⟨model, shows', told.imp_right fun bare => ⟨bare.1, bare.2.tail last⟩⟩

/-- Where everything is rendered, any type may be derived. -/
theorem ready_of_rendered (all : ∀ id node, state.declared.get? id = some node →
    context.Rendered state id node) (target : TypeId) : context.Ready target state := by
  -- A rendered model has all its members, so it does not matter where ways lead.
  intro id node declared known isModel
  obtain ⟨model, shows', renders⟩ := (all id node known).hasMembers isModel
  exact ⟨model, shows', Or.inl renders.members⟩

/-- A step that derives nodes for types comes back with them, and renders whatever it enters. -/
def Derives (context : Context) (derive : TypeId → Derive NodeId) : Prop :=
  ∀ id, Conveys (Derived context) (context.Ready (context.definition.payloadType id)) (derive id)
    fun node state => context.Stands state id node

/-! ## Single steps -/

namespace Derived

/-- A move that leaves what was met as it is. -/
theorem of_move (grown : Grown before after) (move : Move context before after)
    (same : after.declared = before.declared) : Derived context before after :=
  ⟨⟨grown, .single move⟩, fun _ _ known => Or.inl (same ▸ known)⟩

/-- A report is a step of a derivation, unless it tells of a discriminator. -/
theorem report {report : Diagnostic} (other : report.code ≠ some Code.discriminatorNotConstant) :
    Derived context state { state with diagnostics := state.diagnostics.add report } :=
  of_move ((Grown.refl state).report report) (.reported other) rfl

/-- To claim a name is a step of a derivation. -/
theorem rename (names : NameRegistry) : Derived context state { state with names } :=
  of_move ((Grown.refl state).rename names) .named rfl

/-- To add a node without a declaration is one, if the node is no builtin type. -/
theorem add {node : Node} (bare : node.origin = none)
    (compound : ∀ builtin, node.kind ≠ .builtin builtin)
    (names : state.catalogue.Holds node.kind.nodeIds) :
    Derived context state { state with catalogue := state.catalogue.push node } :=
  of_move ((Grown.refl state).push node) (.loose bare compound names) rfl

/-- To make a builtin type that was not there is one. -/
theorem make {builtin : BuiltinNode} (fresh : state.builtins.get? builtin.kind = none)
    (bare : builtin.base = none) :
    Derived context state { state with
      catalogue := state.catalogue.push { kind := .builtin builtin }
      builtins := state.builtins.insert builtin.kind ⟨state.catalogue.size⟩ } :=
  of_move (((Grown.refl state).push { kind := .builtin builtin }).makes _ fresh)
    (.made fresh bare) rfl

/-- A node is marked, or documented. -/
theorem mark {id : NodeId} {change : Node → Node} (inside : id.index < state.catalogue.size)
    (same : ∀ node : Node, (change node).plain = node.plain)
    (names : ∀ node : Node, (change node).kind.nodeIds = node.kind.nodeIds)
    (orderly : Orderly context state)
    (sort : (change (state.catalogue.nodeAt id)).kind = (state.catalogue.nodeAt id).kind ∨
      (state.catalogue.nodeAt id).carriesUsage)
    (marks : (state.catalogue.nodeAt id).KeepsMarks (change (state.catalogue.nodeAt id))) :
    Derived context state { state with catalogue := state.catalogue.modify id change } := by
  -- Without marks the node is what it was, and so are its label and its declaration.
  have label : (change (state.catalogue.nodeAt id)).kind.label =
      (state.catalogue.nodeAt id).kind.label := by
    rw [← Node.label_plain, same, Node.label_plain]
  have own : (change (state.catalogue.nodeAt id)).plain.origin =
      (state.catalogue.nodeAt id).plain.origin := by rw [same]
  refine of_move ((Grown.refl state).modify (Or.inr same)) (.changed inside own ?_ ?_ marks) rfl
  · exact sort.imp_right fun carries => ⟨carries, label⟩
  · rw [names]
    exact orderly.names id

/-- A new node is noted as that of a declaration which it renders at once. -/
theorem register {id : TypeId} {node : Node} (own : node.origin = some id)
    (fresh : ∀ first, state.declared.get? id = some first → first = ⟨state.catalogue.size⟩)
    (suits : context.Suits id node) (names : state.catalogue.Holds node.kind.nodeIds)
    (renders : context.Renders { state with
      catalogue := state.catalogue.push node
      declared := state.declared.insert id ⟨state.catalogue.size⟩ } id ⟨state.catalogue.size⟩
      (context.definition.shapeAt id) node.kind.plain) :
    Derived context state { state with
      catalogue := state.catalogue.push node
      declared := state.declared.insert id ⟨state.catalogue.size⟩ } where
  later :=
    ⟨((Grown.refl state).push node).insert fresh, .single (.registered own fresh suits names)⟩
  rendered other found known := by
    -- The only declaration that is met is the one at hand.
    rcases OrderedMap.get?_insert_cases known with ⟨rfl, rfl⟩ | known
    · refine Or.inr ?_
      unfold Context.Rendered
      dsimp only
      rw [Catalogue.nodeAt_push_self]
      exact renders
    · exact Or.inl known

/-- A primitive node is noted as that of a further declaration. -/
theorem share {id : TypeId} {node : NodeId} {builtin : BuiltinNode}
    (inside : node.index < state.catalogue.size)
    (same : ∀ first, state.declared.get? id = some first → first = node)
    (primitive : (state.catalogue.nodeAt node).kind = .builtin builtin)
    (suits : context.Suits id (state.catalogue.nodeAt node))
    (renders : context.Renders { state with declared := state.declared.insert id node } id node
      (context.definition.shapeAt id) (.builtin builtin)) :
    Derived context state { state with declared := state.declared.insert id node } where
  later := ⟨(Grown.refl state).insert same, .single (.shared inside same primitive suits)⟩
  rendered other found known := by
    -- As with a node of its own, one declaration is met.
    rcases OrderedMap.get?_insert_cases known with ⟨rfl, rfl⟩ | known
    · refine Or.inr ?_
      unfold Context.Rendered
      dsimp only
      rw [Node.plain, primitive]
      exact renders
    · exact Or.inl known

end Derived

/-! ## Steps -/

/-- An error that is reported keeps what was derived. -/
theorem reportError_conveys {target : Declaration} {code message : String}
    (other : code ≠ Code.discriminatorNotConstant) :
    Conveys (Derived context) (fun _ => True) (reportError target code message) fun _ _ => True :=
  Conveys.modify fun _ _ _ => ⟨Derived.report (by simpa using other), trivial⟩

/-- The node of a builtin type is known when it is handed back. -/
theorem builtinNode_conveys (kind : BuiltinKind) (name : String) :
    Conveys (Derived context) (fun _ => True) (builtinNode kind name)
      fun node state => state.builtins.get? kind = some node := by
  intro start orderly
  -- The node is there, or it is made.
  refine Ensures.builtinNode ?_ ?_
  · rintro state node ⟨rfl, _⟩ known
    exact ⟨Leading.refl _, known⟩
  · rintro state ⟨rfl, _⟩ fresh
    have made := @Derived.make context state { kind, name, encode := kind.defaultEncode } fresh rfl
    exact ⟨made, OrderedMap.get?_insert_self _ _ _⟩

/-- So is the node for texts. -/
theorem stringNode_conveys :
    Conveys (Derived context) (fun _ => True) stringNode
      fun node state => state.builtins.get? .string = some node :=
  builtinNode_conveys .string "string"

/-- To find or make up a name keeps what was derived. -/
theorem nameOrGenerated_conveys (id : TypeId) (declared : Option String) :
    Conveys (Derived context) (fun _ => True) (context.nameOrGenerated id declared)
      fun _ _ => True := by
  intro start orderly
  -- Making up a name is the only thing that may happen.
  have renamed (state : State) (names : NameRegistry) (derived : Derived context start state) :
      Derived context start { state with names } :=
    Leading.trans orderly derived (Derived.rename names)
  refine (nameOrGenerated_keeps renamed id declared).weaken ?_
    (fun _ _ ends => ⟨ends.1, trivial⟩) fun _ _ fails => fails
  rintro state ⟨rfl, _⟩
  exact Leading.refl _

/-- A node is noted for a declaration, and handed over. -/
theorem remember_ensures {id : TypeId} {node : NodeId} {begins : State → Prop}
    (notes : ∀ state, begins state →
      (∀ first, state.declared.get? id = some first → first = node) →
      Derived context start { state with declared := state.declared.insert id node }) :
    Ensures begins (do remember id node; return node)
      (fun found state => Derived context start state ∧ state.declared.get? id = some found)
      fun failure state => failure.endsRun = false → Derived context start state := by
  -- Noting the node is all that happens; returning it changes nothing.
  refine Ensures.via (fun _ state => Derived context start state ∧
    state.declared.get? id = some node) (Ensures.remember ?_ ?_) fun _ =>
      Ensures.pure fun _ ends => ends
  · exact fun state begins same => ⟨notes state begins same, OrderedMap.get?_insert_self _ _ _⟩
  -- A declaration that has another node ends the run.
  · intro _ _ _ _ _ _ isOwn
    cases isOwn

/-- A node is added once all that it names is there, and renders its declaration at once. -/
theorem register_conveys {id : TypeId} {node : Node} {needed : State → Prop}
    (own : node.origin = some id) (suits : context.Suits id node) (lasting : Lasting needed)
    (names : ∀ state, Orderly context state → needed state →
      state.catalogue.Holds node.kind.nodeIds)
    (renders : ∀ state added, needed state →
      context.Renders state id added (context.definition.shapeAt id) node.kind.plain) :
    Conveys (Derived context) needed
      (do let added ← addNode node; remember id added; return added)
      fun added state => state.declared.get? id = some added := by
  intro start orderly
  -- The new node comes last in the catalogue, and nothing has led to it yet.
  refine Ensures.via (fun added state => needed start ∧ added = ⟨start.catalogue.size⟩ ∧
    state = { start with catalogue := start.catalogue.push node }) (Ensures.addNode ?_)
    fun added => ?_
  · rintro state ⟨rfl, has⟩
    exact ⟨has, rfl, rfl⟩
  · refine remember_ensures ?_
    rintro state ⟨has, rfl, rfl⟩ fresh
    refine Derived.register own fresh suits (names start orderly has) ?_
    exact renders _ _ (lasting _ _ has (((Grown.refl start).push node).insert fresh))

/-! ## Entered types -/

/-- A type was entered from a start: its node shows so much, and all else met since is rendered. -/
structure Entered (context : Context) (start : State) (id : TypeId) (node : NodeId)
    (kind : NodeKind) (state : State) : Prop where
  later : Later context start state
  fresh : start.catalogue.size ≤ node.index
  known : state.declared.get? id = some node
  shows : Shows node kind state
  rendered : ∀ other found, state.declared.get? other = some found →
    other = id ∨ start.declared.get? other = some found ∨ context.Rendered state other found

namespace Entered

variable {id : TypeId} {node : NodeId} {kind : NodeKind}

/-- More types are derived while one is entered. -/
theorem extend (orderly : Orderly context start)
    (entered : Entered context start id node kind before)
    (derived : Derived context before after) : Entered context start id node kind after where
  later := entered.later.trans derived.later
  fresh := entered.fresh
  known := derived.later.grown.declared _ _ entered.known
  shows := shows_lasting node kind _ _ entered.shows derived.later.grown
  rendered other found known := by
    -- It was met since the type was entered, or it is new and rendered.
    rcases derived.rendered other found known with earlier | new
    · refine (entered.rendered other found earlier).imp_right fun told => ?_
      refine told.imp_right fun rendered => ?_
      -- It had a node by then, which has not changed but for marks.
      have inside := (orderly.path entered.later.path).inside other found earlier
      exact derived.later.sustains.rendered rendered (derived.later.grown.nodes found inside)
    · exact Or.inr (Or.inr new)

/-- Whatever a step conveys while a type is entered, the type stays entered. -/
theorem conveys (orderly : Orderly context start) {needed : State → Prop} {step : Derive α}
    {told : α → State → Prop} (conveys : Conveys (Derived context) needed step told) :
    Ensures (fun state => Entered context start id node kind state ∧ needed state) step
      (fun value state => Entered context start id node kind state ∧ told value state)
      fun _ _ => True := by
  -- A failure ends the whole run, so that nothing is told of it.
  refine Ensures.intro ?_ fun _ _ _ _ _ => trivial
  rintro state value last ⟨entered, has⟩ run
  obtain ⟨derived, ends⟩ := (conveys state (orderly.path entered.later.path)).ok ⟨rfl, has⟩ run
  exact ⟨entered.extend orderly derived, ends⟩

/-- A step that conveys something comes first, and the rest goes on from there. -/
theorem bind (orderly : Orderly context start) {β : Type} {needed held : State → Prop}
    {step : Derive α} {told : α → State → Prop} {next : α → Derive β} {after : β → State → Prop}
    (conveys : Conveys (Derived context) needed step told)
    (has : ∀ state, Entered context start id node kind state → held state → needed state)
    (rest : ∀ value, Ensures (fun state => Entered context start id node kind state ∧
      told value state) (next value) after fun _ _ => True) :
    Ensures (fun state => Entered context start id node kind state ∧ held state) (step >>= next)
      after fun _ _ => True :=
  Ensures.bind ((Entered.conveys orderly conveys).starting fun state holds =>
    ⟨holds.1, has state holds.1 holds.2⟩) rest

/-- What is known while a type is entered is carried past a step. -/
theorem onward (orderly : Orderly context start) {β : Type} {needed held : State → Prop}
    [Lasts (Derived context) held] {step : Derive α} {told : α → State → Prop}
    {next : α → Derive β} {after : β → State → Prop}
    (conveys : Conveys (Derived context) needed step told)
    (has : ∀ state, Entered context start id node kind state → held state → needed state)
    (rest : ∀ value, Ensures (fun state => Entered context start id node kind state ∧
      held state ∧ told value state) (next value) after fun _ _ => True) :
    Ensures (fun state => Entered context start id node kind state ∧ held state) (step >>= next)
      after fun _ _ => True :=
  -- What is held lasts along the step, since it lasts along whatever is derived.
  Entered.bind orderly conveys.beside
    (fun state entered holds => ⟨holds, has state entered holds⟩) rest

/-- A state stays ready for a type while another is entered that has its members or leads to it. -/
theorem ready (entered : Entered context start id node kind state) {target : TypeId}
    (first : context.Ready target start)
    (own : ∀ declared, context.definition.model? id = some declared →
      ∃ model, kind = .model model ∧ (context.HasMembers state declared node model ∨
        model.properties = [] ∧ context.MembersLead id target)) :
    context.Ready target state := by
  intro other found declared known isModel
  -- It is the type that was entered, or was met before it, or is rendered.
  rcases entered.rendered other found known with rfl | earlier | rendered
  · obtain ⟨model, isKind, told⟩ := own declared isModel
    obtain rfl : node = found := Option.some.inj (entered.known.symm.trans known)
    exact ⟨model, entered.shows.2.trans isKind, told⟩
  · obtain ⟨model, shows', told⟩ := first other found declared earlier isModel
    exact ⟨model, entered.later.grown.shows_model shows',
      told.imp_left entered.later.sustains.hasMembers⟩
  · obtain ⟨model, shows', renders⟩ := rendered.hasMembers isModel
    exact ⟨model, shows', Or.inl renders.members⟩

/-- The node that was entered changes, and all else stays rendered and as it was. -/
theorem change (orderly : Orderly context start)
    (entered : Entered context start id node kind state) {change : Node → Node} {kind' : NodeKind}
    (own : (change (state.catalogue.nodeAt node)).origin = (state.catalogue.nodeAt node).origin)
    (carries : (state.catalogue.nodeAt node).carriesUsage)
    (sort : (change (state.catalogue.nodeAt node)).kind.label =
      (state.catalogue.nodeAt node).kind.label)
    (names : state.catalogue.Holds (change (state.catalogue.nodeAt node)).kind.nodeIds)
    (marks : (state.catalogue.nodeAt node).KeepsMarks (change (state.catalogue.nodeAt node)))
    (told : (change (state.catalogue.nodeAt node)).plain.kind = kind') :
    Entered context start id node kind'
        { state with catalogue := state.catalogue.modify node change } ∧
      Sustains state { state with catalogue := state.catalogue.modify node change } := by
  have orderlyNow := orderly.path entered.later.path
  have inside := entered.shows.1
  -- The change is a single move.
  have later : Later context start
      { state with catalogue := state.catalogue.modify node change } :=
    ⟨entered.later.grown.modify (Or.inl entered.fresh),
      entered.later.path.tail (.changed inside own (Or.inr ⟨carries, sort⟩) names marks)⟩
  -- A change of a node forgets neither declarations nor builtin types, and keeps the marks.
  have sustains : Sustains state
      { state with catalogue := state.catalogue.modify node change } :=
    ⟨fun _ _ known => known, fun _ _ known => known,
      fun _ within => (Move.changed inside own (Or.inr ⟨carries, sort⟩) names
        marks : Move context state _).keepsMarks within⟩
  refine ⟨⟨later, entered.fresh, entered.known, ⟨by simpa using inside, ?_⟩,
    fun other found known => ?_⟩, sustains⟩
  · rw [Catalogue.nodeAt_modify_self _ inside]
    exact told
  · -- No other declaration has the node, which belongs to the one that was entered.
    by_cases isEntered : other = id
    · exact Or.inl isEntered
    refine (entered.rendered other found known).imp_right fun told => told.imp_right fun rendered =>
      ?_
    have apart : found ≠ node := by
      rintro rfl
      have isOrigin : (state.catalogue.nodeAt found).origin = some id :=
        (orderlyNow.own id found entered.known).resolve_right fun ⟨builtin, isBuiltin⟩ =>
          absurd isBuiltin (Node.ne_builtin_of_label carries rfl)
      rcases orderlyNow.own other found known with isOther | ⟨builtin, isBuiltin⟩
      · exact isEntered (Option.some.inj (isOther.symm.trans isOrigin))
      · exact absurd isBuiltin (Node.ne_builtin_of_label carries rfl)
    refine sustains.rendered rendered ?_
    rw [Catalogue.nodeAt_modify_ne _ apart]

/-- Once it is rendered as well, everything that was met since the start is. -/
theorem close (entered : Entered context start id node kind state)
    (rendered : context.Rendered state id node) : Derived context start state where
  later := entered.later
  rendered other found known := by
    -- The type that was entered was the only one left to be rendered.
    rcases entered.rendered other found known with rfl | told
    · obtain rfl : node = found := Option.some.inj (entered.known.symm.trans known)
      exact Or.inr rendered
    · exact told

end Entered

/-- A declaration is entered with a new node, which others may come back to. -/
theorem enter_ensures (orderly : Orderly context start) {id : TypeId} {node : Node}
    {next : NodeId → Derive α} {after : α → State → Prop} (own : node.origin = some id)
    (suits : context.Suits id node) (bare : node.kind.nodeIds = [])
    (rest : ∀ added, Ensures (fun state => Entered context start id added node.kind.plain state ∧
      state.catalogue.Holds [added]) (next added) after fun _ _ => True) :
    Ensures (Derived context start)
      (do let added ← addNode node; remember id added; next added) after fun _ _ => True := by
  -- A new node is added, and is the one that the declaration has from now on.
  refine Ensures.via (fun added state => ∃ before, Derived context start before ∧
      added = ⟨before.catalogue.size⟩ ∧
      state = { before with catalogue := before.catalogue.push node })
    (Ensures.addNode fun state derived => ⟨state, derived, rfl, rfl⟩) fun added => ?_
  refine Ensures.via (fun _ => Entered context start id added node.kind.plain)
    (Ensures.remember ?_ fun _ _ _ _ _ _ => trivial) fun _ => (rest added).starting
      fun state entered => ⟨entered, Catalogue.holds_singleton.mpr entered.shows.1⟩
  rintro state ⟨before, derived, rfl, rfl⟩ fresh
  have names : before.catalogue.Holds node.kind.nodeIds := by simp [bare]
  -- That is one move, for the node names no other one.
  have later : Later context before { before with
      catalogue := before.catalogue.push node
      declared := before.declared.insert id ⟨before.catalogue.size⟩ } :=
    ⟨((Grown.refl before).push node).insert fresh, .single (.registered own fresh suits names)⟩
  refine ⟨derived.later.trans later, derived.later.grown.size, OrderedMap.get?_insert_self _ _ _,
    ⟨by simp, ?_⟩, fun other found known => ?_⟩
  · rw [Catalogue.nodeAt_push_self]
    rfl
  · rcases OrderedMap.get?_insert_cases known with ⟨rfl, rfl⟩ | known
    · exact Or.inl rfl
    · refine Or.inr ((derived.rendered other found known).imp_right fun rendered => ?_)
      have inside := (orderly.path derived.later.path).inside other found known
      exact later.sustains.rendered rendered (later.grown.nodes found inside)

end ClientModel.Derivation
