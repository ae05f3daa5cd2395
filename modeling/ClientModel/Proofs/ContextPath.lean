import Mathlib.Data.List.Basic
import ClientModel.Derivation.Naming
import ClientModel.Proofs.Chains
import ClientModel.Proofs.References

/-!
Where the paths come from that name types.

A search visits no type twice, and what it has visited in vain leads nowhere. It therefore finds the
wanted type just if some root leads to it, however often declarations come back to themselves.
-/

namespace ClientModel.Derivation

open Service (Definition Operation Variant)

/-! ## Places to look in -/

section

variable (definition : Definition)

/-- The types that a search goes on to from a type. -/
def mentions (id : TypeId) : List TypeId :=
  match definition.shapeAt id with
  | .array element | .record element => [element]
  | .model model =>
    model.properties.map (fun property => (definition.propertyAt property).type) ++
      model.additionalProperties.toList ++ model.base.toList ++ model.derived
  | .union union => union.variants.map Variant.type
  | .scalar _ | .intrinsic _ | .literal _ | .enumeration _ | .member _ => []

/-- One type leads to another one by way of what they and the types between them mention. -/
def Reaches (id target : TypeId) : Prop :=
  Relation.ReflTransGen (fun id other => other ∈ mentions definition id) id target

/-- The types that an operation mentions: in its bodies, its parameters and its responses. -/
def operationMentions (operation : Operation) : List TypeId :=
  operation.bodies.map (·.type) ++
    operation.parameters.map (fun property => (definition.propertyAt property).type) ++
    operation.responses.flatMap fun response =>
      response.body.toList.map (·.type) ++
        response.headers.map fun header => (definition.propertyAt header).type

/-- An operation leads to a type by way of one that it mentions. -/
def OperationReaches (operation : OperationId) (target : TypeId) : Prop :=
  ∃ type ∈ operationMentions definition (definition.operationAt operation),
    Reaches definition type target

/--
The path that a way from a lead to the wanted type makes.

Each model on the way is a part of it, unless the way goes on to its kin.
-/
inductive IsPath (target : TypeId) : Lead → List Segment → Prop
  | arrives {word : String} : IsPath target (target, word) [{ word, type := some target }]
  | element {id element : TypeId} {word : String} {path : List Segment}
      (shape : definition.shapeAt id = .array element ∨ definition.shapeAt id = .record element)
      (rest : IsPath target (element, Text.singular word) path) : IsPath target (id, word) path
  | member {id : TypeId} {word : String} {path : List Segment} {model : Service.Model} {lead : Lead}
      (shape : definition.shapeAt id = .model model) (leads : lead ∈ memberLeads definition model)
      (rest : IsPath target lead path) :
      IsPath target (id, word) ({ word, type := some id } :: path)
  | kin {id : TypeId} {word : String} {path : List Segment} {model : Service.Model} {lead : Lead}
      (shape : definition.shapeAt id = .model model)
      (leads : lead ∈ kinLeads definition model word) (rest : IsPath target lead path) :
      IsPath target (id, word) path
  | variant {id : TypeId} {word : String} {path : List Segment} {union : Service.Union}
      {variant : Variant} (shape : definition.shapeAt id = .union union)
      (listed : variant ∈ union.variants) (rest : IsPath target (variant.type, word) path) :
      IsPath target (id, word) path

end

variable {definition : Definition} {target id : TypeId} {word : String}
  {before after visited : List TypeId} {path : List Segment} {leads : List Lead} {lead : Lead}
  {steps : Nat}

/--
The leads to the members of a model lead to their types, and to that of additional properties.
-/
theorem map_fst_memberLeads (model : Service.Model) :
    (memberLeads definition model).map Prod.fst =
      model.properties.map (fun property => (definition.propertyAt property).type) ++
        model.additionalProperties.toList := by
  simp [memberLeads, Function.comp_def]

/-- The leads to the kin of a model lead to its base and to those derived from it. -/
theorem map_fst_kinLeads (model : Service.Model) (word : String) :
    (kinLeads definition model word).map Prod.fst = model.base.toList ++ model.derived := by
  simp [kinLeads, Function.comp_def]

/-- The leads of an operation lead to the types that it mentions. -/
theorem map_fst_operationLeads (operation : OperationId) :
    (operationLeads definition operation).map Prod.fst =
      operationMentions definition (definition.operationAt operation) := by
  simp [operationLeads, operationMentions, List.map_flatMap, Function.comp_def]

/-- A model mentions its members and its kin, in the order in which they are searched. -/
theorem mentions_model {model : Service.Model} (shape : definition.shapeAt id = .model model)
    (word : String) :
    mentions definition id =
      (memberLeads definition model ++ kinLeads definition model word).map Prod.fst := by
  -- The members come before the kin in both lists, so it is a matter of how the lists are put
  -- together.
  rw [List.map_append, map_fst_memberLeads, map_fst_kinLeads, mentions, shape]
  exact List.append_assoc _ _ _

/-- A path ends in the type that it leads to. -/
theorem IsPath.getLast? (isPath : IsPath definition target lead path) :
    ∃ word, path.getLast? = some { word, type := some target } := by
  -- Only a member adds a segment, and it adds that in front.
  induction isPath with
  | arrives => exact ⟨_, rfl⟩
  | member _ _ _ ih =>
    obtain ⟨word, ends⟩ := ih
    exact ⟨word, by rw [List.getLast?_cons, ends, Option.getD_some]⟩
  | element _ _ ih | kin _ _ _ ih | variant _ _ _ ih => exact ih

/-- A path is there for a type that can be reached. -/
theorem IsPath.reaches (isPath : IsPath definition target lead path) :
    Reaches definition lead.1 target := by
  -- Each step of a path goes to a type that the one before it mentions.
  induction isPath with
  | arrives => exact .refl
  | element shape _ ih =>
    refine .head ?_ ih
    rcases shape with shape | shape <;> simp [mentions, shape]
  | @member id word _ _ lead shape leads _ ih =>
    refine .head ?_ ih
    rw [mentions_model shape word]
    exact List.mem_map_of_mem (List.mem_append_left _ leads)
  | @kin id word _ _ lead shape leads _ ih =>
    refine .head ?_ ih
    rw [mentions_model shape word]
    exact List.mem_map_of_mem (List.mem_append_right _ leads)
  | variant shape listed _ ih =>
    refine .head ?_ ih
    rw [mentions, shape]
    exact List.mem_map_of_mem listed

/-! ## Searches that find something -/

/-- Of some leads, the first one that does not fail makes the path. -/
theorem followAll_some {follow : List TypeId → Lead → Found}
    (found : followAll follow before leads = (some path, after)) :
    ∃ earlier lead later between, leads = earlier ++ lead :: later ∧
      followAll follow before earlier = (none, between) ∧
      follow between lead = (some path, after) := by
  -- Along the leads: either the first one makes the path, or all is as with the others.
  induction leads generalizing before with
  | nil => cases found
  | cons first rest ih =>
    rw [followAll] at found
    cases run : follow before first with
    | mk outcome between =>
      rw [run] at found
      cases outcome with
      | some other =>
        cases found
        exact ⟨[], first, rest, before, rfl, rfl, run⟩
      | none =>
        obtain ⟨earlier, lead, later, next, rfl, inVain, last⟩ := ih found
        refine ⟨first :: earlier, lead, later, next, rfl, ?_, last⟩
        rw [followAll, run]
        exact inVain

/-- What a search finds is the path of a way from its lead. -/
theorem isPath_of_pathWithin
    (found : pathWithin definition target steps before lead = (some path, after)) :
    IsPath definition target lead path := by
  induction steps generalizing before lead path after with
  | zero => cases found
  | succ steps ih =>
    obtain ⟨id, word⟩ := lead
    -- Whatever follows some leads comes from one of them.
    have some_lead {leads : List Lead} {before after : List TypeId} {path : List Segment}
        (found : followAll (pathWithin definition target steps) before leads = (some path, after)) :
        ∃ lead ∈ leads, IsPath definition target lead path := by
      obtain ⟨earlier, lead, later, _, rfl, _, run⟩ := followAll_some found
      exact ⟨lead, by simp, ih run⟩
    -- What was found tells which shape it was found behind, and what was followed from there.
    rw [pathWithin] at found
    split at found
    · rename_i element shape
      split at found
      · cases found
      · exact .element (Or.inl shape) (ih found)
    · rename_i element shape
      split at found
      · cases found
      · exact .element (Or.inr shape) (ih found)
    · rename_i model shape
      split at found
      · rename_i same
        cases eq_of_beq same
        cases found
        exact .arrives
      · -- A model that is not the target is left behind for its members first, and for its kin if
        -- none of these leads on.
        split at found
        · cases found
        · dsimp only at found
          split at found
          · rename_i inner _ run
            cases found
            obtain ⟨lead, leads, rest⟩ := some_lead run
            exact .member shape leads rest
          · obtain ⟨lead, leads, rest⟩ := some_lead found
            exact .kin shape leads rest
    · rename_i union shape
      split at found
      · rename_i same
        cases eq_of_beq same
        cases found
        exact .arrives
      · split at found
        · cases found
        · obtain ⟨lead, leads, rest⟩ := some_lead found
          obtain ⟨variant, listed, rfl⟩ := List.mem_map.mp leads
          exact .variant shape listed rest
    all_goals cases found

/-! ## Searches in vain -/

section

variable (definition target)

/-- The types of the table that were not visited. -/
def unvisited (visited : List TypeId) : List TypeId :=
  definition.typeIds.filter fun id => !visited.contains id

/-- The type is not the wanted one, and it was visited or there is nothing to visit from it. -/
def Passed (visited : List TypeId) (id : TypeId) : Prop :=
  id ≠ target ∧ (id ∈ visited ∨ mentions definition id = [])

/-- What was visited since a search began does not lead to anything new, or to the wanted type. -/
structure InVain (before after : List TypeId) : Prop where
  kept : before ⊆ after
  closed : ∀ id ∈ after, id ∉ before →
    id ≠ target ∧ ∀ other ∈ mentions definition id, Passed definition target after other

/--
A search with steps for all types that were not visited fails only if there is nothing to be found.
-/
def IsThorough (steps : Nat) (follow : List TypeId → Lead → Found) : Prop :=
  ∀ before lead after, (unvisited definition before).length < steps →
    follow before lead = (none, after) →
      InVain definition target before after ∧ Passed definition target after lead.1

end

/-- A type that was passed stays passed as more is visited. -/
theorem Passed.mono (passed : Passed definition target before id) (kept : before ⊆ after) :
    Passed definition target after id :=
  ⟨passed.1, passed.2.imp_left fun member => kept member⟩

namespace InVain

/-- A search that visits nothing is in vain without more ado. -/
theorem refl (visited : List TypeId) : InVain definition target visited visited where
  kept := List.Subset.refl _
  closed _ listed fresh := absurd listed fresh

/-- Two searches in vain, one after the other, are one search in vain. -/
theorem trans {between : List TypeId} (first : InVain definition target before between)
    (second : InVain definition target between after) : InVain definition target before after where
  kept := List.Subset.trans first.kept second.kept
  -- What was visited late is closed by the second search; what was visited early keeps its place in
  -- the larger list.
  closed id listed fresh := by
    by_cases earlier : id ∈ between
    · obtain ⟨other, next⟩ := first.closed id earlier fresh
      exact ⟨other, fun mentioned listed => (next mentioned listed).mono second.kept⟩
    · exact second.closed id listed earlier

/-- A type is done with once all that it mentions was passed. -/
theorem enter (inVain : InVain definition target (id :: before) after) (other : id ≠ target)
    (next : ∀ mentioned ∈ mentions definition id, Passed definition target after mentioned) :
    InVain definition target before after ∧ Passed definition target after id := by
  have listed : id ∈ after := inVain.kept List.mem_cons_self
  refine ⟨⟨fun earlier member => inVain.kept (List.mem_cons_of_mem _ member),
    fun visited isVisited fresh => ?_⟩, other, Or.inl listed⟩
  -- Either it is the type that was entered itself, or one that was done with on the way.
  by_cases same : visited = id
  · subst same
    exact ⟨other, next⟩
  · exact inVain.closed visited isVisited (by simp [same, fresh])

/-- What was passed does not lead to the wanted type. -/
theorem not_reaches (inVain : InVain definition target [] visited)
    (passed : Passed definition target visited id) : ¬ Reaches definition id target := by
  intro way
  -- By induction on the way, since what is mentioned by what was passed was passed as well.
  induction way using Relation.ReflTransGen.head_induction_on with
  | refl => exact passed.1 rfl
  | head step _ ih =>
    refine ih ?_
    rcases passed.2 with isVisited | nothing
    · exact (inVain.closed _ isVisited List.not_mem_nil).2 _ step
    · rw [nothing] at step
      cases step

end InVain

/-- The more is visited, the less is left. -/
theorem length_unvisited_le (kept : before ⊆ after) :
    (unvisited definition after).length ≤ (unvisited definition before).length := by
  -- Both lists are filters of one table, and the later one is the stricter.
  refine (List.monotone_filter_right _ fun id fresh => ?_).length_le
  simp only [Bool.not_eq_true', List.contains_eq_mem, decide_eq_false_iff_not] at fresh ⊢
  exact fun member => fresh (kept member)

/-- A type that has a shape to look into is in the table, and visiting it leaves fewer. -/
theorem length_unvisited_lt (inside : mentions definition id ≠ [] ∨ definition.isComposite id)
    (fresh : id ∉ visited) :
    (unvisited definition (id :: visited)).length < (unvisited definition visited).length := by
  have listed : id ∈ definition.typeIds := by
    by_contra outside
    simp [mentions, Definition.isComposite, Definition.shapeAt_of_notMem outside] at inside
  -- To visit a type is to strike it from the list of those that are left.
  have smaller : unvisited definition (id :: visited) =
      (unvisited definition visited).filter fun other => other != id := by
    unfold unvisited
    rw [List.filter_filter]
    refine List.filter_congr fun other _ => ?_
    by_cases same : other = id <;> simp [same]
  rw [smaller, List.length_filter_lt_length_iff_exists]
  exact ⟨id, by simp [unvisited, listed, fresh], by simp⟩

/-- A type that is visited leaves room for what it mentions. -/
theorem length_unvisited_visit (inside : mentions definition id ≠ [] ∨ definition.isComposite id)
    (fresh : ¬ before.contains id) (enough : (unvisited definition before).length < steps + 1) :
    (unvisited definition (id :: before)).length < steps := by
  -- The type was unvisited and is not now, so one fewer is left.
  have fewer := length_unvisited_lt inside (mt List.contains_iff_mem.mpr fresh)
  omega

namespace IsThorough

variable {follow : List TypeId → Lead → Found}

/-- A list of leads is searched thoroughly where each lead is. -/
theorem followAll (thorough : IsThorough definition target steps follow)
    (enough : (unvisited definition before).length < steps)
    (fails : Derivation.followAll follow before leads = (none, after)) :
    InVain definition target before after ∧
      ∀ lead ∈ leads, Passed definition target after lead.1 := by
  induction leads generalizing before with
  | nil =>
    cases fails
    exact ⟨.refl _, by simp⟩
  | cons first rest ih =>
    rw [Derivation.followAll] at fails
    cases run : follow before first with
    | mk outcome between =>
      rw [run] at fails
      cases outcome with
      | some path => cases fails
      | none =>
        obtain ⟨inVain, passed⟩ := thorough before first between enough run
        -- There is no less room for the leads that are left.
        have room := Nat.lt_of_le_of_lt (length_unvisited_le inVain.kept) enough
        obtain ⟨later, others⟩ := ih room fails
        -- What the first lead passed over stays passed, as the visited types are only added to.
        refine ⟨inVain.trans later, ?_⟩
        rw [List.forall_mem_cons]
        exact ⟨passed.mono later.kept, others⟩

/-- Behind an array or a record there is the type of its elements alone. -/
theorem element (thorough : IsThorough definition target steps follow) (apart : id ≠ target)
    {element : TypeId} (mentioned : mentions definition id = [element])
    (enough : (unvisited definition before).length < steps + 1)
    (fails : (if before.contains id then (none, before)
      else follow (id :: before) (element, word)) = (none, after)) :
    InVain definition target before after ∧ Passed definition target after id := by
  -- An element that was visited before is left alone; any other is entered.
  split at fails
  · rename_i seen
    cases fails
    exact ⟨.refl _, apart, Or.inl (List.contains_iff_mem.mp seen)⟩
  · rename_i fresh
    have room := length_unvisited_visit (Or.inl (by simp [mentioned])) fresh enough
    obtain ⟨inVain, passed⟩ := thorough _ _ _ room fails
    exact inVain.enter apart (by simpa [mentioned] using passed)

/-- Behind a model there are its members, and then its kin. -/
theorem model (thorough : IsThorough definition target steps follow) (apart : id ≠ target)
    {model : Service.Model} (shape : definition.shapeAt id = .model model)
    (room : (unvisited definition (id :: before)).length < steps) {between : List TypeId}
    (noMember : Derivation.followAll follow (id :: before) (memberLeads definition model) =
      (none, between))
    (noKin : Derivation.followAll follow between (kinLeads definition model word) =
      (none, after)) :
    InVain definition target before after ∧ Passed definition target after id := by
  -- The kin are searched after the members, when there is no less room than before.
  obtain ⟨first, members⟩ := thorough.followAll room noMember
  obtain ⟨second, kin⟩ :=
    thorough.followAll (Nat.lt_of_le_of_lt (length_unvisited_le first.kept) room) noKin
  refine (first.trans second).enter apart fun mentioned listed => ?_
  rw [mentions_model shape word] at listed
  obtain ⟨lead, leads, rfl⟩ := List.mem_map.mp listed
  rcases List.mem_append.mp leads with isMember | isKin
  · exact (members lead isMember).mono second.kept
  · exact kin lead isKin

/-- Behind a union there are its variants. -/
theorem union (thorough : IsThorough definition target steps follow) (apart : id ≠ target)
    {union : Service.Union} (shape : definition.shapeAt id = .union union)
    (room : (unvisited definition (id :: before)).length < steps)
    (fails : Derivation.followAll follow (id :: before)
      (union.variants.map fun variant => (variant.type, word)) = (none, after)) :
    InVain definition target before after ∧ Passed definition target after id := by
  -- All variants are searched with the type itself visited.
  obtain ⟨inVain, passed⟩ := thorough.followAll room fails
  refine inVain.enter apart fun mentioned listed => ?_
  rw [mentions, shape] at listed
  obtain ⟨variant, isVariant, rfl⟩ := List.mem_map.mp listed
  exact passed (variant.type, word) (List.mem_map_of_mem isVariant)

end IsThorough

/-- By induction on the steps: each shape leaves room for what is behind it. -/
theorem isThorough_pathWithin (composite : definition.isComposite target = true) (steps : Nat) :
    IsThorough definition target steps (pathWithin definition target steps) := by
  induction steps with
  | zero => exact fun _ _ _ enough _ => absurd enough (Nat.not_lt_zero _)
  | succ steps ih =>
    rintro before ⟨id, word⟩ after enough fails
    -- What is neither a model nor a union is not the wanted type.
    have other (plain : definition.isComposite id = false) : id ≠ target := by
      rintro rfl
      rw [plain] at composite
      cases composite
    have visitedBefore (seen : before.contains id = true) (apart : id ≠ target) :
        InVain definition target before before ∧ Passed definition target before id :=
      ⟨.refl _, apart, Or.inl (List.contains_iff_mem.mp seen)⟩
    -- A shape tells what is behind it; each has its own lemma above.
    rw [pathWithin] at fails
    split at fails
    · rename_i element shape
      exact ih.element (other (by simp [Definition.isComposite, shape])) (by simp [mentions, shape])
        enough fails
    · rename_i element shape
      exact ih.element (other (by simp [Definition.isComposite, shape])) (by simp [mentions, shape])
        enough fails
    · rename_i model shape
      have isComposite : definition.isComposite id = true := by simp [Definition.isComposite, shape]
      split at fails
      · -- At the target the search would have succeeded.
        cases fails
      · rename_i differs
        have apart : id ≠ target := by simpa using differs
        split at fails
        · rename_i seen
          cases fails
          exact visitedBefore seen apart
        · rename_i fresh
          dsimp only at fails
          split at fails
          · cases fails
          · rename_i between noMember
            exact ih.model apart shape (length_unvisited_visit (Or.inr isComposite) fresh enough)
              noMember fails
    · rename_i union shape
      -- As with a model, it is not the target, and was either visited before or is visited now.
      have isComposite : definition.isComposite id = true := by simp [Definition.isComposite, shape]
      split at fails
      · cases fails
      · rename_i differs
        have apart : id ≠ target := by simpa using differs
        split at fails
        · rename_i seen
          cases fails
          exact visitedBefore seen apart
        · rename_i fresh
          exact ih.union apart shape (length_unvisited_visit (Or.inr isComposite) fresh enough)
            fails
    all_goals
      rename_i shape
      cases fails
      exact ⟨.refl _, other (by simp [Definition.isComposite, shape]),
        Or.inr (by simp [mentions, shape])⟩

/-! ## One path for the whole search -/

/-- A search on one path: the path so far, and the types that were visited. -/
structure Search where
  path : List Segment
  visited : List TypeId

namespace Search

/-- The search comes to a type. -/
def visit (search : Search) (id : TypeId) : Search :=
  { search with visited := id :: search.visited }

/-- One more segment at the end of the path. -/
def push (search : Search) (segment : Segment) : Search :=
  { search with path := search.path ++ [segment] }

/-- The path without its last segment. -/
def pop (search : Search) : Search :=
  { search with path := search.path.dropLast }

/-- Tries leads one by one until one ends at the wanted type. -/
def tryAll (attempt : Search → Lead → Bool × Search) (search : Search) : List Lead → Bool × Search
  | [] => (false, search)
  | lead :: rest =>
    match attempt search lead with
    | (true, search) => (true, search)
    | (false, search) => tryAll attempt search rest

/-- The search from a lead: a model is on the path while its members are looked into. -/
def seek (definition : Definition) (target : TypeId) : Nat → Search → Lead → Bool × Search
  | 0, search, _ => (false, search)
  | steps + 1, search, (id, word) =>
    let segment : Segment := { word, type := some id }
    match definition.shapeAt id with
    | .array element | .record element =>
      if search.visited.contains id then (false, search)
      else seek definition target steps (search.visit id) (element, Text.singular word)
    | .model model =>
      if id == target then (true, search.push segment)
      else if search.visited.contains id then (false, search)
      else
        match tryAll (seek definition target steps) ((search.visit id).push segment)
            (memberLeads definition model) with
        | (true, search) => (true, search)
        | (false, search) =>
          tryAll (seek definition target steps) search.pop (kinLeads definition model word)
    | .union union =>
      if id == target then (true, search.push segment)
      else if search.visited.contains id then (false, search)
      else
        tryAll (seek definition target steps) (search.visit id)
          (union.variants.map fun variant => (variant.type, word))
    | .scalar _ | .intrinsic _ | .literal _ | .enumeration _ | .member _ => (false, search)

/-- What was found, at the end of a path that was there before. -/
def ended (path : List Segment) : Found → Bool × Search
  | (some rest, visited) => (true, { path := path ++ rest, visited })
  | (none, visited) => (false, { path, visited })

/-- To try leads one by one on one path comes to the same as to follow them. -/
theorem tryAll_eq {attempt : Search → Lead → Bool × Search} {follow : List TypeId → Lead → Found}
    (each : ∀ search lead, attempt search lead = ended search.path (follow search.visited lead))
    (search : Search) (leads : List Lead) :
    tryAll attempt search leads = ended search.path (followAll follow search.visited leads) := by
  -- Along the leads; a lead that fails hands on the path as it got it.
  induction leads generalizing search with
  | nil => rfl
  | cons lead rest ih =>
    rw [tryAll, each, followAll]
    cases follow search.visited lead with
    | mk outcome visited =>
      cases outcome with
      | some path => rfl
      | none => exact ih _

/-- A search on one path finds what a search finds, and leaves a path alone where it fails. -/
theorem seek_eq (definition : Definition) (target : TypeId) (steps : Nat) (search : Search)
    (lead : Lead) :
    seek definition target steps search lead =
      ended search.path (pathWithin definition target steps search.visited lead) := by
  induction steps generalizing search lead with
  | zero => rfl
  | succ steps ih =>
    obtain ⟨id, word⟩ := lead
    have all := tryAll_eq ih
    -- Either search looks at the shape and goes on to the same leads, by induction.
    rw [seek, pathWithin]
    cases definition.shapeAt id with
    | array element | record element =>
      dsimp only
      split
      · rfl
      · exact ih _ _
    | model model =>
      dsimp only
      split
      · rfl
      · split
        · rfl
        · rw [all]
          dsimp only [visit, push]
          cases followAll (pathWithin definition target steps) (id :: search.visited)
              (memberLeads definition model) with
          | mk outcome visited =>
            cases outcome with
            | some path => simp [ended]
            | none =>
              -- The segment of the model is the last one again when its members are done.
              rw [ended]
              dsimp only
              rw [all]
              simp [pop]
    | union union =>
      dsimp only
      split
      · rfl
      · split
        · rfl
        · exact all _ _
    | scalar | intrinsic | literal | enumeration | member => rfl

end Search

/-! ## The first path -/

/-- There are steps for all types. -/
theorem length_unvisited_nil_lt (definition : Definition) :
    (unvisited definition []).length < definition.types.size + 1 := by
  -- There are no more unvisited types than types.
  have fewer := List.length_filter_le (fun id => !List.contains [] id) definition.typeIds
  rw [Definition.length_typeIds] at fewer
  exact Nat.lt_succ_of_le fewer

/-- If no lead is found to lead there, none does. -/
theorem not_reaches_of_followAll (composite : definition.isComposite target = true)
    (fails : followAll (pathWithin definition target (definition.types.size + 1)) [] leads =
      (none, after)) :
    ∀ lead ∈ leads, ¬ Reaches definition lead.1 target := by
  -- A search in vain has visited all that its leads reach, and the target is not among what was
  -- visited.
  obtain ⟨inVain, passed⟩ :=
    (isThorough_pathWithin composite _).followAll (length_unvisited_nil_lt definition) fails
  exact fun lead listed => inVain.not_reaches (passed lead listed)

/-- If there is no path from some leads, none of them leads there. -/
theorem pathFrom_eq_none (composite : definition.isComposite target = true)
    (fails : pathFrom definition target leads = none) :
    ∀ lead ∈ leads, ¬ Reaches definition lead.1 target :=
  not_reaches_of_followAll composite (Prod.ext fails rfl)

/-- The path begins with the first of some leads from which there is one. -/
theorem pathFrom_eq_some (composite : definition.isComposite target = true)
    (found : pathFrom definition target leads = some path) :
    ∃ earlier lead later, leads = earlier ++ lead :: later ∧
      (∀ other ∈ earlier, ¬ Reaches definition other.1 target) ∧
      IsPath definition target lead path := by
  -- The leads before the first one were searched in vain, and by the search for this one nothing
  -- was lost that they reach.
  obtain ⟨earlier, lead, later, between, same, inVain, run⟩ := followAll_some (Prod.ext found rfl)
  exact ⟨earlier, lead, later, same, not_reaches_of_followAll composite inVain,
    isPath_of_pathWithin run⟩

/-- The entry is the first one of a list for which something holds. -/
def IsFirst {α : Type} (holds : α → Prop) (list : List α) (entry : α) : Prop :=
  holds entry ∧ ∃ earlier later, list = earlier ++ entry :: later ∧ ∀ other ∈ earlier, ¬ holds other

/-- What is found of a list is found of the first entry of which there is anything to be found. -/
theorem isFirst_of_findSome? {α β : Type} {find : α → Option β} {holds : α → Prop}
    (found_iff : ∀ entry, (find entry).isSome ↔ holds entry) {list : List α} {value : β}
    (found : list.findSome? find = some value) :
    ∃ entry, IsFirst holds list entry ∧ find entry = some value := by
  -- That is what a first entry is, with what can be found told as what holds.
  obtain ⟨earlier, entry, later, rfl, isValue, none⟩ := List.findSome?_eq_some_iff.mp found
  refine ⟨entry, ⟨(found_iff entry).mp (by rw [isValue]; rfl), earlier, later, rfl, ?_⟩, isValue⟩
  intro other member holds
  rw [← found_iff, none other member] at holds
  cases holds

section

variable (composite : definition.isComposite target = true)
include composite

/-- There is a path from some leads just if one of them leads there. -/
theorem isSome_pathFrom_iff :
    (pathFrom definition target leads).isSome ↔
      ∃ lead ∈ leads, Reaches definition lead.1 target := by
  -- No path means that no lead leads there, and a path shows that one does.
  cases outcome : pathFrom definition target leads with
  | none =>
    have fails := pathFrom_eq_none composite outcome
    simpa using fun id word listed => fails (id, word) listed
  | some path =>
    obtain ⟨earlier, lead, later, rfl, _, isPath⟩ := pathFrom_eq_some composite outcome
    simpa using ⟨lead.1, ⟨lead.2, by simp⟩, isPath.reaches⟩

/-- There is a path from an operation just if it leads there. -/
theorem isSome_operationPath_iff (operation : OperationId) :
    (operationPath definition target operation).isSome ↔
      OperationReaches definition operation target := by
  -- The leads of an operation are the only way out of it.
  rw [operationPath, Option.isSome_map, isSome_pathFrom_iff composite, OperationReaches,
    ← map_fst_operationLeads]
  simp

/-- There is a path from an orphan just if it leads there. -/
theorem isSome_orphanPath_iff (orphan : TypeId) :
    (orphanPath definition target orphan).isSome ↔ Reaches definition orphan target := by
  -- An orphan is a lead by itself.
  rw [orphanPath, isSome_pathFrom_iff composite]
  simp

/-- An operation is the first part of its path, which goes by the first of its leads that can. -/
theorem operationPath_eq_some {operation : OperationId}
    (found : operationPath definition target operation = some path) :
    ∃ lead rest,
      IsFirst (fun lead => Reaches definition lead.1 target) (operationLeads definition operation)
        lead ∧
      IsPath definition target lead rest ∧
      path = { word := (definition.operationAt operation).name, type := none } :: rest := by
  -- The rest of the path is that of the lead, to which the name of the operation is put.
  obtain ⟨rest, isRest, rfl⟩ := Option.map_eq_some_iff.mp found
  obtain ⟨earlier, lead, later, same, fails, isPath⟩ := pathFrom_eq_some composite isRest
  exact ⟨lead, rest, ⟨isPath.reaches, earlier, later, same, fails⟩, isPath, rfl⟩

/-- The path of an orphan starts at the orphan itself. -/
theorem orphanPath_eq_some {orphan : TypeId}
    (found : orphanPath definition target orphan = some path) :
    IsPath definition target (orphan, nameOrWord definition orphan "") path := by
  obtain ⟨earlier, lead, later, same, _, isPath⟩ := pathFrom_eq_some composite found
  -- There is but one lead from an orphan.
  obtain ⟨-, rfl, -⟩ := List.append_eq_singleton_iff.mp same.symm |>.resolve_right (by simp)
  exact isPath

end

/--
A path to a model or a union is found just if some operation or orphan leads there, and it comes
from the first one that does, operations before orphans.

An operation is the first part of its path, the wanted type is the last part of any, and what was
tried in vain is no part of it: a search on one path leaves the path as it was where it fails.
-/
theorem first_path_is_found (composite : definition.isComposite target = true)
    (operations : List OperationId) (orphans : List TypeId) :
    ((contextPath definition target operations orphans).isSome ↔
        (∃ operation ∈ operations, OperationReaches definition operation target) ∨
          ∃ orphan ∈ orphans, Reaches definition orphan target) ∧
      (∀ path, contextPath definition target operations orphans = some path →
        (∃ word, path.getLast? = some { word, type := some target }) ∧
        ((∃ operation, IsFirst (OperationReaches definition · target) operations operation ∧
            ∃ lead rest,
              IsFirst (fun lead => Reaches definition lead.1 target)
                (operationLeads definition operation) lead ∧
              IsPath definition target lead rest ∧
              path = { word := (definition.operationAt operation).name, type := none } :: rest) ∨
          (∀ operation ∈ operations, ¬ OperationReaches definition operation target) ∧
            ∃ orphan, IsFirst (Reaches definition · target) orphans orphan ∧
              IsPath definition target (orphan, nameOrWord definition orphan "") path)) ∧
      ∀ steps search lead,
        Search.seek definition target steps search lead =
            Search.ended search.path (pathWithin definition target steps search.visited lead) ∧
          ((Search.seek definition target steps search lead).1 = false →
            (Search.seek definition target steps search lead).2.path = search.path) := by
  -- Whether there is a path; which one it is; and that one path for all leads comes to the same.
  refine ⟨?_, fun path found => ?_, fun steps search lead => ⟨Search.seek_eq .., fun fails => ?_⟩⟩
  · simp only [contextPath, Option.isSome_or, Bool.or_eq_true, List.findSome?_isSome_iff,
      isSome_operationPath_iff composite, isSome_orphanPath_iff composite]
  · rw [contextPath, Option.or_eq_some_iff] at found
    rcases found with byOperation | ⟨noOperation, byOrphan⟩
    · -- The path of an operation is one of its leads, behind the name of the operation.
      obtain ⟨operation, isFirst, isPath⟩ :=
        isFirst_of_findSome? (isSome_operationPath_iff composite) byOperation
      obtain ⟨lead, rest, firstLead, isRest, rfl⟩ := operationPath_eq_some composite isPath
      obtain ⟨word, ends⟩ := isRest.getLast?
      refine ⟨⟨word, ?_⟩, Or.inl ⟨operation, isFirst, lead, rest, firstLead, isRest, rfl⟩⟩
      rw [List.getLast?_cons, ends, Option.getD_some]
    · -- No operation leads there, so the path is that of the first orphan that does.
      obtain ⟨orphan, isFirst, found⟩ :=
        isFirst_of_findSome? (isSome_orphanPath_iff composite) byOrphan
      have isPath := orphanPath_eq_some composite found
      refine ⟨isPath.getLast?, Or.inr ⟨fun operation listed reaches => ?_, orphan, isFirst, isPath⟩⟩
      rw [← isSome_operationPath_iff composite,
        List.findSome?_eq_none_iff.mp noOperation operation listed] at reaches
      cases reaches
  · -- A failed search on one path ends with the path that it started with, by the same equation.
    rw [Search.seek_eq] at fails ⊢
    cases run : pathWithin definition target steps search.visited lead with
    | mk outcome visited =>
      rw [run] at fails
      cases outcome with
      | none => rfl
      | some path => cases fails

/-- Trees, the branches of which are trees, and fruits, also trees, with seeds that have no name. -/
def orchard : Definition where
  types := #[
    { shape := .model { name := some "Tree", properties := [⟨0⟩], derived := [⟨3⟩] } },
    { shape := .array ⟨0⟩ },
    { shape := .model {} },
    { shape := .model { name := some "Fruit", properties := [⟨1⟩], base := some ⟨0⟩ } },
    { shape := .array ⟨2⟩ }]
  properties := #[
    { name := "branches", model := some ⟨0⟩, type := ⟨1⟩ },
    { name := "seeds", model := some ⟨3⟩, type := ⟨4⟩ }]
  operations := #[
    { name := "prune", container := ⟨0⟩, verb := .get, path := "/" },
    { name := "plant", container := ⟨0⟩, verb := .put, path := "/", bodies := [{ type := ⟨1⟩ }] }]

/-- In the orchard the path to the seed starts at the second operation, which plants. -/
theorem first_path_is_found_orchard :
    orchard.isComposite ⟨2⟩ = true ∧
      contextPath orchard ⟨2⟩ [⟨0⟩, ⟨1⟩] [⟨2⟩] = some [
        { word := "plant", type := none },
        { word := "Fruit", type := some ⟨3⟩ },
        { word := "seed", type := some ⟨2⟩ }] ∧
      ∃ operation, IsFirst (OperationReaches orchard · ⟨2⟩) [⟨0⟩, ⟨1⟩] operation ∧
        (orchard.operationAt operation).name = "plant" := by
  have composite : orchard.isComposite ⟨2⟩ = true := by decide
  have found : contextPath orchard ⟨2⟩ [⟨0⟩, ⟨1⟩] [⟨2⟩] = some [
      { word := "plant", type := none },
      { word := "Fruit", type := some ⟨3⟩ },
      { word := "seed", type := some ⟨2⟩ }] := by
    decide +kernel
  -- The theorem tells where the path comes from, and that path starts with the name.
  obtain ⟨_, first, _⟩ := first_path_is_found composite [⟨0⟩, ⟨1⟩] [⟨2⟩]
  refine ⟨composite, found, ?_⟩
  rcases (first _ found).2 with ⟨operation, isFirst, lead, rest, -, -, same⟩ |
      ⟨none, orphan, isFirst, isPath⟩
  · exact ⟨operation, isFirst, congrArg Segment.word (List.head_eq_of_cons_eq same).symm⟩
  · have plants : (operationPath orchard ⟨2⟩ ⟨1⟩).isSome = true := by decide +kernel
    exact absurd ((isSome_operationPath_iff composite ⟨1⟩).mp plants) (none ⟨1⟩ (by simp))

end ClientModel.Derivation
