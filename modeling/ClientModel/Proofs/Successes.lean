import ClientModel.Proofs.Acceptance
import ClientModel.Proofs.Pages

/-!
What methods hand back for the successes of their operations.

Types that several successes carry are told once. Where they differ, a union is made of them, and
where some success carries nothing, another one that admits null; a reader who looks through these
two finds the types that are carried, in the order in which they come first.
-/

namespace ClientModel

namespace Catalogue

/-- The nodes that one catalogue has beyond those of another one. -/
def AddedSince (before after : Catalogue) (id : NodeId) : Prop :=
  before.size ≤ id.index ∧ id.index < after.size

/-- Nodes come to types once the unions among them that were made are replaced by their variants. -/
inductive Unfolds (catalogue : Catalogue) (made : NodeId → Prop) :
    List NodeId → List NodeId → Prop where
  | done : Unfolds catalogue made [] []
  | type {id : NodeId} {rest types : List NodeId} (notMade : ¬ made id)
      (onward : Unfolds catalogue made rest types) :
      Unfolds catalogue made (id :: rest) (id :: types)
  | union {id : NodeId} {rest types : List NodeId} {union : UnionNode} (isMade : made id)
      (isUnion : (catalogue.nodeAt id).kind = .union union)
      (onward : Unfolds catalogue made (union.variants ++ rest) types) :
      Unfolds catalogue made (id :: rest) types

namespace Unfolds

variable {catalogue first second : Catalogue} {made : NodeId → Prop}
  {ids types others : List NodeId}

/-- Nodes that were not made come to themselves. -/
theorem of_not_made (notMade : ∀ id ∈ ids, ¬ made id) : Unfolds catalogue made ids ids := by
  -- By induction on the nodes.
  induction ids with
  | nil => exact .done
  | cons id rest ih =>
    exact .type (notMade id List.mem_cons_self) (ih fun other listed =>
      notMade other (List.mem_cons_of_mem _ listed))

/-- What was made is looked through, and what was not is told; nodes come to no other types. -/
theorem unique (unfolds : Unfolds catalogue made ids types)
    (other : Unfolds catalogue made ids others) : others = types := by
  -- By induction on the first unfolding: whether a node was made says how the second one goes on.
  induction unfolds generalizing others with
  | done =>
    cases other
    rfl
  | type notMade _ ih =>
    cases other with
    | type _ onward => rw [ih onward]
    | union isMade => exact absurd isMade notMade
  | union isMade isUnion _ ih =>
    cases other with
    | type notMade => exact absurd isMade notMade
    | union _ isUnion' onward =>
      obtain rfl := NodeKind.union.inj (isUnion.symm.trans isUnion')
      exact ih onward

/-- What nodes come to is told by the variants of the unions that were made. -/
theorem congr (unfolds : Unfolds first made ids types)
    (same : ∀ id union, made id → (first.nodeAt id).kind = .union union →
      ∃ other, (second.nodeAt id).kind = .union other ∧ other.variants = union.variants) :
    Unfolds second made ids types := by
  -- By induction on the unfolding, which looks at nothing but unions that were made.
  induction unfolds with
  | done => exact .done
  | type notMade _ ih => exact .type notMade ih
  | union isMade isUnion _ ih =>
    obtain ⟨other, isOther, variants⟩ := same _ _ isMade isUnion
    exact .union isMade isOther (variants ▸ ih)

end Unfolds

end Catalogue

namespace Derivation

open Service (Definition)

variable {context : Context} {before after : Catalogue}

/-! ## Types of successes -/

/-- The entries of a list, each told once, in the order in which they come first. -/
structure IsFirstSeen (all distinct : List NodeId) : Prop where
  mem_iff : ∀ type, type ∈ distinct ↔ type ∈ all
  ordered : distinct.Pairwise fun first second => all.idxOf first < all.idxOf second

/-- There is one way to tell entries so. -/
theorem IsFirstSeen.unique {all distinct others : List NodeId} (first : IsFirstSeen all distinct)
    (other : IsFirstSeen all others) : others = distinct := by
  have once {distinct : List NodeId} (first : IsFirstSeen all distinct) : distinct.Nodup :=
    first.ordered.imp fun before => by
      rintro rfl
      exact Nat.lt_irrefl _ before
  -- Both hold the same types once each, and in the order of their first meeting.
  have perm : others.Perm distinct := (List.perm_ext_iff_of_nodup (once other) (once first)).mpr
    fun type => (other.mem_iff type).trans (first.mem_iff type).symm
  exact perm.eq_of_pairwise (fun _ _ _ _ before after => absurd before (Nat.lt_asymm after))
    other.ordered first.ordered

/-- The types that successes carry, in order. -/
def payloads (responses : ResponseMap) : List NodeId :=
  responses.values.filterMap HttpResponse.type

/-- By induction from the last entry, which is told unless it came before. -/
theorem isFirstSeen_foldl (all : List NodeId) :
    IsFirstSeen all (all.foldl
      (fun types type => if types.contains type then types else types ++ [type]) []) := by
  refine ⟨fun type => by rw [mem_foldl_new]; simp, ?_⟩
  induction all using List.reverseRecOn with
  | nil => exact .nil
  | append_singleton front last ih =>
    -- What was met so far is in front of the last entry.
    have told (type : NodeId) : type ∈ front.foldl
        (fun types type => if types.contains type then types else types ++ [type]) [] ↔
          type ∈ front := by
      rw [mem_foldl_new]
      simp
    rw [List.foldl_append, List.foldl_cons, List.foldl_nil]
    generalize front.foldl (fun types type => if types.contains type then types
      else types ++ [type]) [] = types at ih told
    -- Types that came before are first met where they were.
    have still : types.Pairwise fun first second =>
        (front ++ [last]).idxOf first < (front ++ [last]).idxOf second := by
      refine ih.imp_of_mem fun {first second} one two before => ?_
      rw [List.idxOf_append_of_mem ((told _).mp one), List.idxOf_append_of_mem ((told _).mp two)]
      exact before
    split
    · exact still
    · rename_i fresh
      have isNew : last ∉ front := by simpa [told] using fresh
      refine List.pairwise_append.mpr ⟨still, List.pairwise_singleton _ _, ?_⟩
      intro first one second two
      rw [List.mem_singleton.mp two, List.idxOf_append_of_mem ((told _).mp one),
        List.idxOf_append_of_notMem isNew]
      have := List.idxOf_lt_length_of_mem ((told _).mp one)
      omega

/-- The types of successes are told once each, as they are first met. -/
theorem successTypes_isFirstSeen (responses : ResponseMap) :
    IsFirstSeen (payloads responses) (successTypes responses) :=
  isFirstSeen_foldl _

/-! ## One run -/

/-- All nodes of a catalogue are those of another one, which may have unions beside them. -/
structure Extends (before after : Catalogue) : Prop where
  size : before.size ≤ after.size
  nodes : ∀ id : NodeId, id.index < before.size → after.nodeAt id = before.nodeAt id
  unions : ∀ id, before.AddedSince after id → ∃ union, (after.nodeAt id).kind = .union union

/-- A catalogue extends itself. -/
theorem Extends.refl (catalogue : Catalogue) : Extends catalogue catalogue :=
  ⟨Nat.le_refl _, fun _ _ => rfl, fun _ added => absurd added.2 (Nat.not_lt_of_le added.1)⟩

/-- A union may be added to an extension. -/
theorem Extends.push (longer : Extends before after) {node : Node} {union : UnionNode}
    (isUnion : node.kind = .union union) : Extends before (after.push node) where
  size := by
    rw [Catalogue.size_push]
    exact Nat.le_succ_of_le longer.size
  nodes id inside := by
    rw [after.nodeAt_push_lt (Nat.lt_of_lt_of_le inside longer.size), longer.nodes id inside]
  unions id added := by
    rcases Nat.lt_or_ge id.index after.size with inside | last
    · rw [after.nodeAt_push_lt inside]
      exact longer.unions id ⟨added.1, inside⟩
    · -- What is past the nodes before it is the new node.
      have limit := added.2
      rw [Catalogue.size_push] at limit
      obtain rfl : id = ⟨after.size⟩ := NodeId.index_inj.mp (by dsimp only; omega)
      exact ⟨union, by rw [after.nodeAt_push_self, isUnion]⟩

/-- There are no types just if no success carries one. -/
theorem successTypes_eq_nil_iff {responses : ResponseMap} :
    successTypes responses = [] ↔ ∀ success ∈ responses.values, success.type = none := by
  -- Types are the payloads without repetitions, and to leave these out empties no list.
  have none : payloads responses = [] ↔ ∀ success ∈ responses.values, success.type = none := by
    simp [payloads]
  rw [← none, List.eq_nil_iff_forall_not_mem, List.eq_nil_iff_forall_not_mem]
  simp only [(successTypes_isFirstSeen responses).mem_iff]

/-- A single type is told just if no success carries another one. -/
theorem successTypes_eq_singleton_iff {responses : ResponseMap} {only : NodeId} :
    successTypes responses = [only] ↔ ∀ type, type ∈ payloads responses ↔ type = only := by
  obtain ⟨members, ordered⟩ := successTypes_isFirstSeen responses
  simp only [← members]
  generalize successTypes responses = types at ordered
  refine ⟨fun same => by simp [same], fun same => ?_⟩
  match types with
  | [] => exact absurd ((same only).mpr rfl) List.not_mem_nil
  | [type] => rw [(same type).mp List.mem_cons_self]
  | first :: second :: rest =>
    -- No type comes before itself.
    have before := List.rel_of_pairwise_cons ordered List.mem_cons_self
    rw [(same first).mp List.mem_cons_self,
      (same second).mp (List.mem_cons_of_mem _ List.mem_cons_self)] at before
    exact absurd before (Nat.lt_irrefl _)

/-- Some success carries nothing. -/
def HasEmpty (responses : ResponseMap) : Prop :=
  ∃ success ∈ responses.values, success.type = none

/-- What successes carry is a single type, and that type admits null. -/
def IsOneOrNull (catalogue : Catalogue) (responses : ResponseMap) : Prop :=
  ∃ only, (∀ type, type ∈ payloads responses ↔ type = only) ∧
    (catalogue.nodeAt only).nullable = true

/--
What a method hands back for its successes, where some nodes were made for it.

Neither pages nor polling are looked at yet.
-/
structure Answers (catalogue : Catalogue) (made : NodeId → Prop) (responses : ResponseMap)
    (response : MethodResponse) : Prop where
  isWhole : response.resultSegments = none
  inside : ∀ node, response.type = some node → node.index < catalogue.size
  absent_iff : response.type = none ↔ ∀ success ∈ responses.values, success.type = none
  unfolds : ∀ node, response.type = some node → ∃ types, IsFirstSeen (payloads responses) types ∧
    ∀ found, catalogue.Unfolds made [node] found ↔ found = types
  nullable_iff : ∀ node, response.type = some node → ((catalogue.nodeAt node).nullable = true ↔
    HasEmpty responses ∨ IsOneOrNull catalogue responses)

/-- A node comes to types by looking through what was added, whatever is added after it. -/
structure ComesTo (before after : Catalogue) (types : List NodeId) (node : NodeId) : Prop where
  inside : node.index < after.size
  unfolds : ∀ limit, after.size ≤ limit →
    after.Unfolds (fun id => before.size ≤ id.index ∧ id.index < limit) [node] types

/-- A union that is added comes to what its variants come to. -/
theorem ComesTo.push_union {variants types : List NodeId} {union : Node}
    (isUnion : ∃ told, union.kind = .union told ∧ told.variants = variants)
    (size : before.size ≤ after.size)
    (unfolds : ∀ limit, after.size ≤ limit →
      after.Unfolds (fun id => before.size ≤ id.index ∧ id.index < limit) variants types) :
    ComesTo before (after.push union) types ⟨after.size⟩ := by
  obtain ⟨told, isTold, rfl⟩ := isUnion
  refine ⟨by simp, fun limit fits => ?_⟩
  rw [Catalogue.size_push] at fits
  refine .union ⟨size, fits⟩ (by rw [after.nodeAt_push_self, isTold]) ?_
  rw [List.append_nil]
  -- What is looked through on the way was there before, since the new node was no union then.
  refine (unfolds limit (by omega)).congr fun id inner _ isInner => ⟨inner, ?_, rfl⟩
  have inside : id.index < after.size := by
    refine Nat.lt_of_not_le fun outside => ?_
    rw [after.nodeAt_of_ge outside] at isInner
    cases isInner
  rw [after.nodeAt_push_lt inside, isInner]

namespace Context

variable {operation : OperationId} {client : ContainerId} {access : Access} {start : State}

/-- The type that successes come to: none, the only one there is, or a union that was added. -/
theorem successType?_run {types : List NodeId} (holds : start.catalogue.Holds types) :
    ∃ found last, context.successType? operation access types start = (.ok found, last) ∧
      Extends start.catalogue last.catalogue ∧ (found = none ↔ types = []) ∧
      ∀ node, found = some node → ComesTo start.catalogue last.catalogue types node ∧
        ((last.catalogue.nodeAt node).nullable = true ↔
          ∃ only, types = [only] ∧ (last.catalogue.nodeAt only).nullable = true) := by
  -- What was there before the call is not looked through.
  have known (id : NodeId) (listed : id ∈ types) (limit : Nat) :
      ¬ (start.catalogue.size ≤ id.index ∧ id.index < limit) :=
    fun added => Nat.not_lt_of_le added.1 (holds id listed)
  -- By the number of types: none, a single one, which is handed back as it is, or a union of
  -- several.
  match types with
  | [] => exact ⟨none, start, rfl, Extends.refl _, by simp, by simp⟩
  | [only] =>
    refine ⟨some only, start, rfl, Extends.refl _, by simp, ?_⟩
    rintro node ⟨⟩
    exact ⟨⟨holds only List.mem_cons_self, fun limit _ => .of_not_made fun id listed =>
      known id listed limit⟩, by simp⟩
  | first :: second :: rest =>
    obtain ⟨last, union, run, added, variants⟩ : ∃ last union,
        context.addResponseUnion operation access (first :: second :: rest) start =
          (.ok ⟨start.catalogue.size⟩, last) ∧
        last.catalogue = start.catalogue.push { kind := .union union } ∧
        union.variants = first :: second :: rest :=
      ⟨_, _, rfl, rfl, rfl⟩
    refine ⟨some ⟨start.catalogue.size⟩, last, ?_, ?_, by simp, ?_⟩
    · exact bind_ok run
    · rw [added]
      exact (Extends.refl _).push rfl
    · rintro node ⟨⟩
      rw [added]
      refine ⟨.push_union ⟨union, rfl, variants⟩ (Nat.le_refl _) fun limit _ =>
        .of_not_made fun id listed => known id listed limit, ?_⟩
      simp [Catalogue.nodeAt_push_self]

/-- A node that types come to is the answer if it is null just when some success may be. -/
theorem answers_of_comesTo {responses : ResponseMap} {node : NodeId}
    (comes : ComesTo before after (successTypes responses) node)
    (present : successTypes responses ≠ [])
    (nullable : (after.nodeAt node).nullable = true ↔
      HasEmpty responses ∨ IsOneOrNull after responses) :
    Answers after (before.AddedSince after) responses { type := some node } where
  -- Something is handed back, and it is the node that the types come to.
  isWhole := rfl
  inside other isNode := Option.some.inj isNode ▸ comes.inside
  absent_iff := by simpa using mt successTypes_eq_nil_iff.mpr present
  unfolds other isNode := by
    obtain rfl := Option.some.inj isNode
    refine ⟨_, successTypes_isFirstSeen responses, fun found => ⟨fun unfolds => ?_, ?_⟩⟩
    · exact (comes.unfolds _ (Nat.le_refl _)).unique unfolds
    · rintro rfl
      exact comes.unfolds _ (Nat.le_refl _)
  nullable_iff other isNode := by
    obtain rfl := Option.some.inj isNode
    exact nullable

/-- The response of a method is derived in any state, and answers for its successes. -/
theorem methodResponse_run {responses : ResponseMap}
    (holds : start.catalogue.Holds (payloads responses)) :
    ∃ response last, context.methodResponse operation responses access start =
        (.ok response, last) ∧
      Extends start.catalogue last.catalogue ∧
      Answers last.catalogue (start.catalogue.AddedSince last.catalogue) responses response := by
  obtain ⟨found, between, run, longer, absent, comes⟩ :=
    @successType?_run context operation access start (successTypes responses) fun id listed =>
      holds id (((successTypes_isFirstSeen responses).mem_iff id).mp listed)
  have hasEmpty : (responses.values.any fun response => response.type.isNone) = true ↔
      HasEmpty responses := by
    simp [HasEmpty]
  -- What the successes come to is looked at first, and then whether one of them carries nothing.
  unfold methodResponse
  rw [bind_ok run]
  cases found with
  | none =>
    refine ⟨{}, between, rfl, longer, rfl, ?_, ?_, ?_, ?_⟩
    · rintro node ⟨⟩
    · simpa using successTypes_eq_nil_iff.mp (absent.mp rfl)
    · rintro node ⟨⟩
    · rintro node ⟨⟩
  | some type =>
    obtain ⟨comes, nullable⟩ := comes type rfl
    have present : successTypes responses ≠ [] := fun none => nomatch absent.mpr none
    have looked : nodeAt type between = (.ok (between.catalogue.nodeAt type), between) := rfl
    dsimp only
    rw [bind_ok looked]
    split
    · -- Some success carries nothing, so the type is put into a union with null.
      rename_i isWrapped
      obtain ⟨isEmpty, notNull⟩ := Bool.and_eq_true_iff.mp isWrapped
      refine ⟨_, _, rfl, longer.push rfl, answers_of_comesTo ?_ present ?_⟩
      · exact .push_union ⟨_, rfl, rfl⟩ longer.size comes.unfolds
      · simp [Catalogue.nodeAt_push_self, hasEmpty.mp isEmpty]
    · rename_i notWrapped
      refine ⟨_, _, rfl, longer, answers_of_comesTo comes present ?_⟩
      simp only [successTypes_eq_singleton_iff] at nullable
      -- The type admits null already if some success carries nothing.
      have already (empty : HasEmpty responses) :
          (between.catalogue.nodeAt type).nullable = true := by
        simpa [hasEmpty.mpr empty] using notWrapped
      exact ⟨fun isNull => Or.inr (nullable.mp isNull), fun either =>
        either.elim already nullable.mpr⟩

/-- The responses for successes are the first ones declared for each status that are no errors. -/
theorem httpOperation_retains (parameters : List Property) :
    Yields (context.httpOperation operation client access parameters) fun result _ =>
      context.Retains (firstOfEach ((context.definition.operationAt operation).responses.filter
        fun response => !context.isErrorResponse response)) result.1.responses := by
  unfold httpOperation
  dsimp only
  -- The responses are settled by the outcomes, and what follows only reads them.
  refine .bind_told outcomes_retain fun outcomes retains => ?_
  refine .after fun wire => .after fun body => .after fun sent => .after fun negotiated => ?_
  refine .after fun _ => .after fun traced => .after fun tracedBody => .pure fun _ => ?_
  exact retains.successes

variable (context) in
/-- What a method hands back is made of the answer to its successes in a state before this one. -/
def Answered (operation : OperationId) (method : Method) (state : State) : Prop :=
  ∀ http, method.operation? = some http → ∃ access before after response,
    before.catalogue.Holds (payloads http.responses) ∧
    context.methodResponse operation http.responses access before = (.ok response, after) ∧
    Grown after state ∧
    let pages := (context.definition.operationAt operation).paging.map context.pagingOf
    method.response? = some (polledResponse method.kind.polling?
      (pages.elim response fun pages => pagedResponse after.catalogue pages response))

instance Lasts.answered (operation : OperationId) (method : Method) :
    Lasts (Advances context) (context.Answered operation method) :=
  ⟨fun _ _ known advances http behind =>
    have ⟨access, before, after, response, holds, run, grown, isHanded⟩ := known http behind
    ⟨access, before, after, response, holds, run, grown.trans advances.grown, isHanded⟩⟩

/-- A method answers for its successes. -/
theorem method_answered {method : Method} {last : State} (consistent : Consistent context start)
    (run : context.method operation client start = (.ok method, last)) :
    context.Answered operation method last := by
  obtain ⟨plain, built, isConvenient, isProtocol, builds, grown, rfl⟩ := method_ok run
  obtain ⟨access, http, response, progress, sent, answered, holds, answers, -, -, ends, isBuilt⟩ :=
    buildMethod_ok consistent builds
  -- The answer is there before the pages and the polling, and grows no further.
  intro other behind
  dsimp only at isBuilt
  rw [Method.operation?, isBuilt, service?_methodKind, Option.map_some] at behind
  obtain rfl := Option.some.inj behind
  refine ⟨access, sent, answered, response, ?_, answers, ends.trans grown, ?_⟩
  · refine holds.subset fun id listed => ?_
    obtain ⟨success, isSuccess, isType⟩ := List.mem_filterMap.mp listed
    exact List.mem_flatMap.mpr
      ⟨success, isSuccess, List.mem_append_left _ (Option.mem_toList.mpr isType)⟩
  · rw [Method.response?, isBuilt, service?_methodKind, polling?_methodKind]
    rfl

end Context

/-! ## Packages -/

/-- An answer is one in any catalogue with the same unions, in which the same nodes admit null. -/
theorem Answers.congr {made : NodeId → Prop} {responses : ResponseMap} {response : MethodResponse}
    (answers : Answers before made responses response) (holds : before.Holds (payloads responses))
    (size : before.size ≤ after.size)
    (unions : ∀ id union, (before.nodeAt id).kind = .union union →
      ∃ other, (after.nodeAt id).kind = .union other ∧ other.variants = union.variants)
    (nullable : ∀ id : NodeId, id.index < before.size →
      (after.nodeAt id).nullable = (before.nodeAt id).nullable) :
    Answers after made responses response where
  -- That the answer is whole and present is told by the responses alone.
  isWhole := answers.isWhole
  inside node isNode := Nat.lt_of_lt_of_le (answers.inside node isNode) size
  absent_iff := answers.absent_iff
  unfolds node isNode := by
    obtain ⟨types, first, each⟩ := answers.unfolds node isNode
    have still := ((each types).mpr rfl).congr fun id union _ isUnion => unions id union isUnion
    refine ⟨types, first, fun found => ⟨still.unique, ?_⟩⟩
    rintro rfl
    exact still
  nullable_iff node isNode := by
    rw [nullable node (answers.inside node isNode), answers.nullable_iff node isNode]
    refine or_congr Iff.rfl (exists_congr fun only => and_congr_right fun single => ?_)
    rw [nullable only (holds only ((single only).mpr rfl))]

section

variable {context : Context}

variable (context) in
/-- Every method that a run derives answers for its successes. -/
theorem conveying_answered : Conveying context fun _ method state =>
    ∀ operation, method.origin = some operation → context.Answered operation method state :=
  conveying_of_runs context (fun _ _ => inferInstance) fun _ _ _ _ _ consistent run =>
    Context.method_answered consistent run

variable (context) in
/-- Every method retains the first response of each status that is no error. -/
theorem retains_telling : Telling context fun _ method _ =>
    ∀ operation, method.origin = some operation → ∀ http, method.operation? = some http →
      context.Retains (firstOfEach ((context.definition.operationAt operation).responses.filter
        fun response => !context.isErrorResponse response)) http.responses where
  lasting _ _ := Lasting.enduring (Lasting.const _)
  method container operation := Context.method_of_origin (Context.method_of_httpOperation
    (fun _ => Lasting.const _) fun _ parameters => Context.httpOperation_retains parameters)
  accessor container crossId apiVersions child state operation isOrigin := by cases isOrigin

end

/--
A method hands back what its successes carry, before pages and polling are looked at.

This holds in whatever state and for whatever successes: nothing is handed back just if none of them
carries anything. Otherwise looking through the unions that were made for it leads to the types that
successes carry, each once and in the order in which they come first, and null is handed back just
if some success carries nothing, or all that do carry a type that admits null. In a package, every
method on an operation came about so, from the first response of each status that is no error.
-/
theorem successes_are_handed_back :
    (∀ (context : Context) (operation : OperationId) (responses : ResponseMap) (access : Access)
        (start : State), start.catalogue.Holds (payloads responses) →
      ∃ response last, context.methodResponse operation responses access start =
          (.ok response, last) ∧
        Extends start.catalogue last.catalogue ∧
        Answers last.catalogue (start.catalogue.AddedSince last.catalogue) responses response) ∧
    ∀ (definition : Definition) (options : Options) (package : Package),
      derivePackage definition options = .ok package →
      let context := Context.of definition options
      ∀ client ∈ Client.walkAll package.clients, ∀ method ∈ client.methods, ∀ operation http,
        method.origin = some operation → method.operation? = some http →
        context.Retains (firstOfEach ((definition.operationAt operation).responses.filter
          fun response => !context.isErrorResponse response)) http.responses ∧
        ∃ access before after response,
          before.catalogue.Holds (payloads http.responses) ∧
          context.methodResponse operation http.responses access before = (.ok response, after) ∧
          Answers package.catalogue (before.catalogue.AddedSince after.catalogue) http.responses
            response ∧
          let pages := (definition.operationAt operation).paging.map context.pagingOf
          method.response? = some (Context.polledResponse method.kind.polling?
            (pages.elim response fun pages => pagedResponse after.catalogue pages response)) := by
  -- The first part is told of any state, and the second is what becomes of it in a package.
  refine ⟨fun context operation responses access start holds =>
    Context.methodResponse_run holds, ?_⟩
  intro definition options package derived context client below method member operation http
    isOrigin behind
  obtain ⟨clients, run, rfl⟩ := derivePackage_ok derived
  have retains := (retains_telling context).clients.ok trivial run client below method member
    operation isOrigin http behind
  obtain ⟨access, before, after, response, holds, answers, grown, isHanded⟩ :=
    (conveying_answered context).run run client below method member operation isOrigin http behind
  refine ⟨retains, access, before, after, response, holds, answers, ?_, isHanded⟩
  obtain ⟨_, _, again, longer, told⟩ := @Context.methodResponse_run context operation access
    before http.responses holds
  cases again.symm.trans answers
  -- What was made for the method is in the package as well.
  have kept : after.catalogue.Holds (payloads http.responses) :=
    fun type listed => Nat.lt_of_lt_of_le (holds type listed) longer.size
  have told := told.congr kept grown.size
    (fun id union isUnion => ⟨union, grown.kind isUnion (by simp [NodeKind.label]), rfl⟩)
    fun id inside => grown.nullable inside
  exact told.congr (fun type listed => Nat.lt_of_lt_of_le (kept type listed) grown.size)
    (Nat.le_of_eq sameCores_spread.size.symm) (fun id union => union_spread)
    fun id _ => nullable_spread _ _ _ _ id

/-- Booking comes to a ticket or a voucher, or else to nothing at all. -/
def boxOffice : Definition where
  types := #[{ shape := .model { name := some "Ticket" } },
    { shape := .model { name := some "Voucher" } }]
  operations := #[
    { name := "book", container := ⟨0⟩, verb := .post, path := "/bookings"
      responses := [{ status := .code 200, body := some { type := ⟨0⟩ } },
        { status := .code 201, body := some { type := ⟨1⟩ } },
        { status := .code 203, body := some { type := ⟨0⟩ } }, { status := .code 204 }] }]
  containers := #[{ name := "BoxOffice", operations := [⟨0⟩], service := some {} }]

/--
In the box office two types and nothing may be handed back, so that a union or null is made up.
-/
theorem successes_are_handed_back_boxOffice :
    ∃ package, derivePackage boxOffice {} = .ok package ∧
      ∃ client ∈ Client.walkAll package.clients, ∃ method ∈ client.methods,
        method.origin = some ⟨0⟩ ∧ ∃ http, method.operation? = some http ∧
          payloads http.responses = [⟨0⟩, ⟨1⟩, ⟨0⟩] ∧ HasEmpty http.responses ∧
          ∃ made node, (package.catalogue.nodeAt node).nullable = true ∧
            package.catalogue.Unfolds made [node] [⟨0⟩, ⟨1⟩] ∧
            method.response? = some (Context.polledResponse method.kind.polling?
              { type := some node }) := by
  -- That there is such a method is decided.
  have has : (derivePackage boxOffice {}).toOption.any fun package =>
      (Client.walkAll package.clients).any fun client => client.methods.any fun method =>
        method.origin == some ⟨0⟩ && method.operation?.any fun http =>
          payloads http.responses == [⟨0⟩, ⟨1⟩, ⟨0⟩] &&
            http.responses.values.any fun success => success.type.isNone := by
    decide +kernel
  cases derived : derivePackage boxOffice {} with
  | error failure => simp [derived, Except.toOption] at has
  | ok package =>
    rw [derived] at has
    simp only [Except.toOption, Option.any_some, List.any_eq_true, Bool.and_eq_true, beq_iff_eq,
      Option.any_eq_true, Option.isNone_iff_eq_none] at has
    obtain ⟨client, below, method, member, isOrigin, http, behind, isPayload, isEmpty⟩ := has
    obtain ⟨-, _, before, after, response, -, -, answers, isHanded⟩ :=
      successes_are_handed_back.2 boxOffice {} package derived client below method member ⟨0⟩ http
        isOrigin behind
    obtain ⟨type, segments⟩ := response
    obtain rfl : segments = none := answers.isWhole
    cases type with
    | none =>
      -- Some success carries something.
      have nothing : payloads http.responses = [] :=
        List.filterMap_eq_nil_iff.mpr (answers.absent_iff.mp rfl)
      rw [isPayload] at nothing
      cases nothing
    | some node =>
      obtain ⟨types, first, each⟩ := answers.unfolds node rfl
      have both : IsFirstSeen (payloads http.responses) [⟨0⟩, ⟨1⟩] := by
        rw [isPayload]
        exact ⟨fun type => by simp only [List.mem_cons]; tauto, by decide⟩
      obtain rfl := first.unique both
      exact ⟨package, rfl, client, below, method, member, isOrigin, http, behind, isPayload,
        isEmpty, before.catalogue.AddedSince after.catalogue, node,
        (answers.nullable_iff node rfl).mpr (Or.inl isEmpty), (each _).mpr rfl, isHanded⟩

end Derivation

end ClientModel
