import ClientModel.Proofs.Scopes
import ClientModel.Proofs.TwinPackages

/-!
Customizations of other scopes.

What is recorded for a list of scopes says nothing in any scope that is not listed: wherever among
the calls it is recorded, the package of that scope is the same.
-/

namespace ClientModel

namespace Service

variable {κ α : Type} [DecidableEq κ]

/-! ## Calls that do not count -/

namespace Entry

/-- The entry says nothing in a scope: it is for others. -/
def IsElsewhere (entry : Entry κ α) (scope : Option String) : Prop :=
  ∃ scopes, entry.scope = some scopes ∧ ∀ name ∈ scope, name ∉ Text.listedNames scopes

/-- The last entry that counts is the same without one that does not. -/
theorem last?_skip (before after : List (Entry κ α)) {entry : Entry κ α} (key : κ)
    {counts : Entry κ α → Bool} (skipped : counts entry = false) :
    last? (before ++ entry :: after) key counts = last? (before ++ after) key counts := by
  -- The entry is taken out by the filter, in whatever place it stands.
  have passed : (entry :: after).filter (fun entry => entry.key == key && counts entry) =
      after.filter fun entry => entry.key == key && counts entry :=
    List.filter_cons_of_neg (by simp [skipped])
  rw [last?, List.filter_append, passed, ← List.filter_append, last?]

/-- An entry for other scopes makes no difference to what holds in this one. -/
theorem winner_skip (before after : List (Entry κ α)) {entry : Entry κ α} {scope : Option String}
    (isElsewhere : entry.IsElsewhere scope) (key : κ) :
    winner (before ++ entry :: after) scope key = winner (before ++ after) scope key := by
  obtain ⟨scopes, isScoped, unlisted⟩ := isElsewhere
  have notForAll : entry.scope.isNone = false := by rw [isScoped]; rfl
  -- Entries for all scopes are asked after those for this one, and it is neither.
  rw [winner, last?_skip before after key notForAll, winner]
  cases scope with
  | none => rfl
  | some name =>
    have notListed : entry.lists name = false := by
      simpa [lists, isScoped] using unlisted name rfl
    rw [Option.bind_some, last?_skip before after key notListed, Option.bind_some]

end Entry

/-- Lists in the order of their keys, each of which comes once, are told by what they have. -/
theorem eq_of_sorted_lookup {left right : List (κ × α)} (place : κ → Nat)
    (sorted : left.Pairwise fun first second => place first.1 < place second.1)
    (sorted' : right.Pairwise fun first second => place first.1 < place second.1)
    (same : ∀ key, left.lookup key = right.lookup key) : left = right := by
  have once {list : List (κ × α)}
      (sorted : list.Pairwise fun first second => place first.1 < place second.1) :
      (list.map Prod.fst).Nodup := by
    rw [List.nodup_iff_pairwise_ne, List.pairwise_map]
    apply sorted.imp
    intro first second before isSame
    rw [isSame] at before
    exact Nat.lt_irrefl _ before
  have members (entry : κ × α) : entry ∈ left ↔ entry ∈ right := by
    obtain ⟨key, value⟩ := entry
    rw [← OrderedMap.lookup_eq_some_iff (once sorted),
      ← OrderedMap.lookup_eq_some_iff (once sorted'), same]
  have perm : left.Perm right :=
    (List.perm_ext_iff_of_nodup (once sorted).of_map (once sorted').of_map).mpr members
  -- Of two entries in order, neither comes before the other both ways.
  exact perm.eq_of_pairwise (fun first second _ _ before after =>
    absurd before (Nat.lt_asymm after)) sorted sorted'

namespace Customizing

/-- The entries of an aspect are those of the calls before and of the calls after. -/
theorem entries_append (before after : List Customizing) (aspect : Aspect) :
    entries (before ++ after) aspect = entries before aspect ++ entries after aspect :=
  List.filterMap_append

/-- A call for other scopes makes no difference to any choice. -/
theorem choice?_skip (before after : List Customizing) {call : Customizing} {scope : Option String}
    (isElsewhere : call.entry.IsElsewhere scope) (aspect : Aspect) (key : aspect.Key) :
    aspect.choice? ((record (before ++ call :: after)).resolve scope) key =
      aspect.choice? ((record (before ++ after)).resolve scope) key := by
  rw [choice?_resolve, choice?_resolve, entries_append, entries_append]
  obtain ⟨other, entry⟩ := call
  -- Only for the aspect that the call is about is there an entry to be left out.
  by_cases same : other = aspect
  · subst same
    have first : entries (⟨other, entry⟩ :: after) other = entry :: entries after other := by
      simp [entries, told?]
    rw [first, Entry.winner_skip _ _ isElsewhere]
  · have first : entries (⟨other, entry⟩ :: after) aspect = entries after aspect := by
      simp [entries, told?, same]
    rw [first]

/-- A call for other scopes makes no difference to the clients. -/
theorem clients_skip (before after : List Customizing) {call : Customizing}
    {scope : Option String} (isElsewhere : call.entry.IsElsewhere scope) :
    ((record (before ++ call :: after)).resolve scope).clients =
      ((record (before ++ after)).resolve scope).clients :=
  -- A sorted list is told by what can be looked up in it, and for each container that is its last
  -- choice.
  eq_of_sorted_lookup ContainerId.index (clients_sorted _ scope) (clients_sorted _ scope)
    (choice?_skip before after isElsewhere .client)

/-- A call for other scopes makes no difference to the places of operations. -/
theorem locations_skip (before after : List Customizing) {call : Customizing}
    {scope : Option String} (isElsewhere : call.entry.IsElsewhere scope) :
    ((record (before ++ call :: after)).resolve scope).locations =
      ((record (before ++ after)).resolve scope).locations :=
  -- A sorted list is told by what can be looked up in it, and for each operation that is its last
  -- choice.
  eq_of_sorted_lookup OperationId.index (locations_sorted _ scope) (locations_sorted _ scope)
    (choice?_skip before after isElsewhere .location)

end Customizing

/-- A definition with the customizations that calls record. -/
def Definition.customized (definition : Definition) (calls : List Customizing) : Definition :=
  { definition with customizations := Customizing.record calls }

end Service

namespace Derivation

open Service

/-! ## Packages -/

/-- A run is given the same with and without a call for other scopes. -/
theorem sibling_skip (definition : Definition) (options : Options)
    (before after : List Customizing) {call : Customizing}
    (isElsewhere : call.entry.IsElsewhere options.scope) :
    Sibling {} (Context.of (definition.customized (before ++ after)) options)
      (Context.of (definition.customized (before ++ call :: after)) options) := by
  have choices := Customizing.choice?_skip before after isElsewhere
  have clients := Customizing.clients_skip before after isElsewhere
  -- Each of the choices is read off one aspect, for which the call makes no difference.
  exact
    { alike := ⟨rfl, rfl, rfl, rfl⟩
      options := rfl
      roots := roots_congr ⟨rfl, rfl, rfl, rfl⟩ clients
      clientName? := fun target _ => choices .clientName target
      typeName? := fun type => Or.inr (choices .clientName (.type type))
      modelName := fun type _ name _ _ _ =>
        congrArg (Option.getD · name) (choices .clientName (.type type))
      renamed_isModel := fun _ renamed => renamed.elim
      usage? := funext (choices .usage)
      access? := funext (choices .access)
      setup? := funext (choices .setup)
      locations := Customizing.locations_skip before after isElsewhere
      alias? := funext (choices .substitute)
      clients := clients
      protocolMethod? := funext (choices .protocolMethod)
      isConvenient := fun operation => by
        have same := choices .convenientMethod operation
        rw [Bool.not_false, Bool.and_true]
        exact congrArg (Option.getD · options.convenientMethods) same
      spared := fun _ _ _ _ renamed => renamed }

/--
Customizations hold where they were recorded for, and nowhere else.

For every aspect and key the last value recorded for the scope holds, or else the last for all
scopes. Clients and moved operations come in the order of their declaration. A call for scopes that
are not that of the run is as good as not made, wherever among the calls it is.
-/
theorem customizations_hold_in_scope (definition : Definition) (options : Options)
    (calls : List Customizing) :
    (∀ aspect key, Aspect.choice? ((Customizing.record calls).resolve options.scope) aspect key =
      Entry.winner (Customizing.entries calls aspect) options.scope key) ∧
    (((Customizing.record calls).resolve options.scope).clients.Pairwise fun left right =>
      left.1.index < right.1.index) ∧
    (((Customizing.record calls).resolve options.scope).locations.Pairwise fun left right =>
      left.1.index < right.1.index) ∧
    ∀ before after call, calls = before ++ after → call.entry.IsElsewhere options.scope →
      derivePackage (definition.customized (before ++ call :: after)) options =
        derivePackage (definition.customized calls) options := by
  -- The first three are told of what is recorded; for the last, the two runs are compared.
  refine ⟨Customizing.choice?_resolve calls options.scope,
    Customizing.clients_sorted calls options.scope,
    Customizing.locations_sorted calls options.scope, ?_⟩
  intro before after call isAll isElsewhere
  subst isAll
  exact derivePackage_congr (sibling_skip definition options before after isElsewhere)

/-- A call that names the fish of a reef. -/
def nameFish (scope : Option String) (name : String) : Customizing :=
  { aspect := .clientName, entry := { key := Declaration.type ⟨0⟩, scope, value := name } }

/-- Names for fish: two for everyone, and two for a language that is listed with others. -/
def fishNames : List Customizing :=
  [nameFish none "Swimmer", nameFish (some "go, python") "Poisson",
    nameFish (some ",python ,") "Pesce", nameFish none "Fin"]

/-- In the reef, fish go by the last name for Python, and one for Java is not heard of. -/
theorem customizations_hold_in_scope_reef :
    let python : Options := { scope := some "python" }
    let java := nameFish (some "java, c") "Vis"
    java.entry.IsElsewhere python.scope ∧
      ((Customizing.record fishNames).resolve python.scope).clientName? (.type ⟨0⟩) = some "Pesce" ∧
      (derivePackage (reef.customized fishNames) python).isOk ∧
      derivePackage (reef.customized (fishNames.take 3 ++ java :: fishNames.drop 3)) python =
        derivePackage (reef.customized fishNames) python := by
  intro python java
  have isElsewhere : java.entry.IsElsewhere python.scope :=
    ⟨"java, c", rfl, by decide +kernel⟩
  -- The call for Java is one for another scope, so the theorem leaves it out.
  obtain ⟨chosen, _, _, unchanged⟩ := customizations_hold_in_scope reef python fishNames
  refine ⟨isElsewhere, ?_, by decide +kernel, ?_⟩
  · -- Which of the names comes last is evaluated.
    have last : @Eq (Option String)
        (Entry.winner (Customizing.entries fishNames .clientName) python.scope (.type ⟨0⟩))
        (some "Pesce") := by decide +kernel
    exact (chosen .clientName (Declaration.type ⟨0⟩)).trans last
  · exact unchanged (fishNames.take 3) (fishNames.drop 3) java (List.take_append_drop 3 _).symm
      isElsewhere

end Derivation

end ClientModel
