import Mathlib.Data.List.Induction
import ClientModel.Proofs.Names
import ClientModel.Proofs.OrderedMap

/-!
What a registry of names answers, call by call.

A call claims a name, or it asks for the name of a declaration. A name is handed out where one is
claimed and where a declaration is asked for the first time. It is then one that was never handed
out before, and a declaration has it from then on.
-/

namespace ClientModel.Derivation.NameRegistry

/-! ## The search for a free name -/

section

variable {taken : List String} {candidate name found : String} {number : Nat}

/--
The search for a free name, from a name in hand and the next number to try.

No bound is set to it: as long as the name in hand is taken, one more number is tried.
-/
inductive Search (taken : List String) (candidate : String) : String → Nat → String → Prop
  | free {name : String} {number : Nat} (isFree : name ∉ taken) :
      Search taken candidate name number name
  | next {name found : String} {number : Nat} (inUse : name ∈ taken)
      (later : Search taken candidate (candidate ++ toString number) (number + 1) found) :
      Search taken candidate name number found

/-- The name is the candidate, or if that is taken the one with the least number that is free. -/
def IsFirstFree (taken : List String) (candidate name : String) : Prop :=
  name ∉ taken ∧
    (name = candidate ∨
      candidate ∈ taken ∧ ∃ number, 0 < number ∧ name = candidate ++ toString number ∧
        ∀ smaller, 0 < smaller → smaller < number → candidate ++ toString smaller ∈ taken)

/-- A search has one outcome. -/
theorem Search.unique {other : String} (left : Search taken candidate name number found)
    (right : Search taken candidate name number other) : found = other := by
  -- At each number both searches look at the same name, which is free or not.
  induction left with
  | free isFree =>
    cases right with
    | free _ => rfl
    | next inUse _ => exact absurd inUse isFree
  | next inUse _ ih =>
    cases right with
    | free isFree => exact absurd inUse isFree
    | next _ later => exact ih later

/-- A number is found by passing over the numbers before it, all of which make taken names. -/
theorem exists_numbered (taken : List String) (candidate : String) (tries number : Nat) :
    ∃ steps, numbered taken candidate tries number = candidate ++ toString (number + steps) ∧
      ∀ step < steps, candidate ++ toString (number + step) ∈ taken := by
  induction tries generalizing number with
  | zero => exact ⟨0, rfl, fun step none => absurd none (Nat.not_lt_zero step)⟩
  | succ tries ih =>
    rw [numbered]
    split
    · rename_i inUse
      obtain ⟨steps, isName, passed⟩ := ih (number + 1)
      refine ⟨steps + 1, by rw [isName, Nat.add_right_comm, Nat.add_assoc], fun step within => ?_⟩
      -- The number in hand is passed over as well as those after it.
      cases step with
      | zero => exact List.contains_iff_mem.mp inUse
      | succ step =>
        have later := passed step (Nat.lt_of_succ_lt_succ within)
        rwa [Nat.add_right_comm, Nat.add_assoc] at later
    · exact ⟨0, rfl, fun step none => absurd none (Nat.not_lt_zero step)⟩

/-- The name that is handed out is the first one that is free. -/
theorem isFirstFree_freeName (taken : List String) (candidate : String) :
    IsFirstFree taken candidate (freeName taken candidate) := by
  refine ⟨freeName_notMem taken candidate, ?_⟩
  unfold freeName
  split
  · rename_i inUse
    -- The tries go one by one, and each that was passed met a name that was taken.
    obtain ⟨steps, isName, passed⟩ := exists_numbered taken candidate taken.length 1
    refine Or.inr ⟨List.contains_iff_mem.mp inUse, 1 + steps, by omega, isName,
      fun smaller positive below => ?_⟩
    have earlier := passed (smaller - 1) (by omega)
    rwa [Nat.add_sub_cancel' positive] at earlier
  · exact Or.inl rfl

/-- The search goes on to the first number that makes a free name. -/
theorem search_of_passed {steps : Nat} (inUse : name ∈ taken)
    (passed : ∀ step < steps, candidate ++ toString (number + step) ∈ taken)
    (isFree : candidate ++ toString (number + steps) ∉ taken) :
    Search taken candidate name number (candidate ++ toString (number + steps)) := by
  -- By induction on the numbers that are passed over.
  induction steps generalizing name number with
  | zero => exact .next inUse (.free isFree)
  | succ steps ih =>
    have shift (step : Nat) : number + (step + 1) = number + 1 + step := by omega
    rw [shift] at isFree ⊢
    refine .next inUse (ih (passed 0 (Nat.succ_pos steps)) (fun step within => ?_) isFree)
    rw [← shift]
    exact passed (step + 1) (Nat.succ_lt_succ within)

/-- The search has an end, and it is the name that is handed out. -/
theorem search_iff :
    Search taken candidate candidate 1 found ↔ found = freeName taken candidate := by
  -- The registry counts no further than it has names, which is far enough to find a free one.
  have ends : Search taken candidate candidate 1 (freeName taken candidate) := by
    have isFree := freeName_notMem taken candidate
    unfold freeName at isFree ⊢
    split at isFree
    · rename_i inUse
      rw [if_pos inUse]
      obtain ⟨steps, isName, passed⟩ := exists_numbered taken candidate taken.length 1
      rw [isName] at isFree ⊢
      exact search_of_passed (List.contains_iff_mem.mp inUse) passed isFree
    · rename_i notTaken
      rw [if_neg notTaken]
      exact .free isFree
  exact ⟨fun found => found.unique ends, fun isName => isName ▸ ends⟩

end

/-! ## Calls -/

/-- What a registry is asked. -/
inductive Call where
  /-- For a name that no declaration keeps. -/
  | claim (candidate : String)
  /-- For the name of a declaration. -/
  | assign (type : TypeId) (candidate : String)

/-- The name that a call proposes. -/
def Call.candidate : Call → String
  | claim candidate | assign _ candidate => candidate

/-- The answer to a call, and the registry after it. -/
def answer (registry : NameRegistry) : Call → String × NameRegistry
  | .claim candidate => registry.claim candidate
  | .assign type candidate => registry.assign type candidate

/-- The registry after some calls. -/
def after (registry : NameRegistry) (calls : List Call) : NameRegistry :=
  calls.foldl (fun registry call => (registry.answer call).2) registry

/-- The call hands out a name: it claims one, or it is the first for its declaration. -/
def HandsOut (registry : NameRegistry) (earlier : List Call) : Call → Prop
  | .claim _ => True
  | .assign type _ =>
    registry.kept.get? type = none ∧ ∀ candidate, .assign type candidate ∉ earlier

/-- The name was handed out by one of some calls. -/
def HandedOut (registry : NameRegistry) (calls : List Call) (name : String) : Prop :=
  ∃ before call later, calls = before ++ call :: later ∧ registry.HandsOut before call ∧
    ((registry.after before).answer call).1 = name

variable {registry : NameRegistry} {calls earlier : List Call} {call : Call} {type : TypeId}
  {candidate name : String}

/-- Without any calls a registry is what it was. -/
@[simp] theorem after_nil : registry.after [] = registry :=
  rfl

/-- Some calls after others come to all of them. -/
theorem after_append (registry : NameRegistry) (earlier later : List Call) :
    registry.after (earlier ++ later) = (registry.after earlier).after later :=
  List.foldl_append

/-- The last call is answered by what the others have left. -/
theorem after_concat (registry : NameRegistry) (earlier : List Call) (call : Call) :
    registry.after (earlier ++ [call]) = ((registry.after earlier).answer call).2 := by
  -- Calls are answered from left to right, so the last one meets the state after all others.
  rw [after_append]
  rfl

/-- A declaration that keeps a name is answered with it, and nothing is taken. -/
theorem assign_of_kept (kept : registry.kept.get? type = some name) (candidate : String) :
    registry.assign type candidate = (name, registry) := by
  rw [assign, kept]

/-- A declaration that keeps no name is answered with one that is claimed for it. -/
theorem assign_of_new (new : registry.kept.get? type = none) (candidate : String) :
    registry.assign type candidate =
      ((registry.claim candidate).1,
        { (registry.claim candidate).2 with
          kept := registry.kept.insert type (registry.claim candidate).1 }) := by
  -- Only for a declaration that was met before is the search for a free name skipped.
  rw [assign, new]
  rfl

/-- What a declaration keeps, it keeps whatever is asked next. -/
theorem get?_kept_answer (kept : registry.kept.get? type = some name) (call : Call) :
    (registry.answer call).2.kept.get? type = some name := by
  -- Only a call for a declaration keeps anything, and it looks up first what is kept.
  cases call with
  | claim candidate => exact kept
  | assign other candidate =>
    change (registry.assign other candidate).2.kept.get? type = some name
    cases found : registry.kept.get? other with
    | some first => rwa [assign_of_kept found]
    | none =>
      have apart : type ≠ other := by
        rintro rfl
        rw [kept] at found
        cases found
      rw [assign_of_new found]
      exact (OrderedMap.get?_insert_ne _ _ apart).trans kept

/-- What a declaration keeps, it keeps whatever is asked later on. -/
theorem get?_kept_after (kept : registry.kept.get? type = some name) (calls : List Call) :
    (registry.after calls).kept.get? type = some name := by
  -- By induction on the calls, from the last one backwards.
  induction calls using List.reverseRecOn with
  | nil => exact kept
  | append_singleton calls call ih =>
    rw [after_concat]
    exact get?_kept_answer ih call

/-- The declaration of a call keeps the name that the call is answered with. -/
theorem get?_kept_assign (registry : NameRegistry) (type : TypeId) (candidate : String) :
    (registry.assign type candidate).2.kept.get? type =
      some (registry.assign type candidate).1 := by
  -- Either it was kept before, or it is kept from now on.
  cases found : registry.kept.get? type with
  | some name => rwa [assign_of_kept found]
  | none =>
    rw [assign_of_new found]
    exact OrderedMap.get?_insert_self _ _ _

/-- A declaration keeps no name as long as it was not asked for. -/
theorem get?_kept_after_eq_none_iff :
    (registry.after calls).kept.get? type = none ↔
      registry.kept.get? type = none ∧ ∀ candidate, .assign type candidate ∉ calls := by
  induction calls using List.reverseRecOn with
  | nil => simp
  | append_singleton calls call ih =>
    rw [after_concat]
    constructor
    · -- One way the last call is asked for the name; the other way it is one for another
      -- declaration.
      intro none
      -- What is kept before the last call would be kept after it, too.
      have before : (registry.after calls).kept.get? type = Option.none := by
        cases kept : (registry.after calls).kept.get? type with
        | none => rfl
        | some name => exact (get?_kept_answer kept call).symm.trans none
      obtain ⟨start, never⟩ := ih.mp before
      refine ⟨start, fun candidate asked => ?_⟩
      rcases List.mem_append.mp asked with earlier | last
      · exact never candidate earlier
      · obtain rfl := List.mem_singleton.mp last
        have kept := get?_kept_assign (registry.after calls) type candidate
        exact Option.some_ne_none _ (kept.symm.trans none)
    · rintro ⟨start, never⟩
      have before := ih.mpr ⟨start, fun candidate asked => never candidate (by simp [asked])⟩
      cases call with
      | claim candidate => exact before
      | assign other candidate =>
        have apart : type ≠ other := by
          rintro rfl
          exact never candidate (by simp)
        change ((registry.after calls).assign other candidate).2.kept.get? type = none
        cases found : (registry.after calls).kept.get? other with
        | some name => rwa [assign_of_kept found]
        | none =>
          rw [assign_of_new found]
          exact (OrderedMap.get?_insert_ne _ _ apart).trans before

/-- A call that hands out a name claims it. -/
theorem answer_of_handsOut (new : registry.HandsOut earlier call) :
    ((registry.after earlier).answer call).1 =
        freeName (registry.after earlier).taken call.candidate ∧
      ((registry.after earlier).answer call).2.taken =
        freeName (registry.after earlier).taken call.candidate ::
          (registry.after earlier).taken := by
  -- A claim always takes a name; a call for a declaration does when nothing is kept for it.
  cases call with
  | claim candidate => exact ⟨rfl, rfl⟩
  | assign type candidate =>
    have unknown := get?_kept_after_eq_none_iff.mpr new
    simp only [answer, assign_of_new unknown]
    exact ⟨rfl, rfl⟩

/-- A call that hands out no name takes none. -/
theorem taken_of_not_handsOut (known : ¬ registry.HandsOut earlier call) :
    ((registry.after earlier).answer call).2.taken = (registry.after earlier).taken := by
  -- Only a call for a declaration that keeps a name takes none.
  cases call with
  | claim candidate => exact absurd trivial known
  | assign type candidate =>
    obtain ⟨name, kept⟩ := Option.ne_none_iff_exists'.mp
      (mt get?_kept_after_eq_none_iff.mp known)
    rw [answer, assign_of_kept kept]

/-- A name was handed out by the last call or by one of those before it. -/
theorem handedOut_concat :
    registry.HandedOut (calls ++ [call]) name ↔ registry.HandedOut calls name ∨
      registry.HandsOut calls call ∧ ((registry.after calls).answer call).1 = name := by
  -- The last call is the one in question, or it comes after that.
  constructor
  · rintro ⟨before, other, later, same, new, isName⟩
    rcases List.eq_nil_or_concat later with rfl | ⟨later, final, rfl⟩
    · obtain ⟨rfl, sameCall⟩ := List.append_inj' same rfl
      obtain rfl := List.singleton_inj.mp sameCall
      exact Or.inr ⟨new, isName⟩
    · rw [List.concat_eq_append, ← List.cons_append, ← List.append_assoc] at same
      obtain ⟨rfl, -⟩ := List.append_inj' same rfl
      exact Or.inl ⟨before, other, later, rfl, new, isName⟩
  · rintro (⟨before, other, later, rfl, new, isName⟩ | ⟨new, isName⟩)
    · exact ⟨before, other, later ++ [call], by simp, new, isName⟩
    · exact ⟨calls, call, [], rfl, new, isName⟩

/-- The names that are taken are those that were handed out. -/
theorem mem_taken_after :
    name ∈ (registry.after calls).taken ↔
      name ∈ registry.taken ∨ registry.HandedOut calls name := by
  -- By induction on the calls from their end, where the last one hands out a name or takes none.
  induction calls using List.reverseRecOn with
  | nil => simp [HandedOut]
  | append_singleton calls call ih =>
    rw [after_concat, handedOut_concat, ← or_assoc, ← ih]
    by_cases new : registry.HandsOut calls call
    · obtain ⟨isName, grown⟩ := answer_of_handsOut new
      rw [grown, isName, List.mem_cons, or_comm]
      simp only [new, true_and, eq_comm]
    · rw [taken_of_not_handsOut new]
      simp only [new, false_and, or_false]

/--
After any calls, a call that hands out a name finds the first one that is free, and none before it
was given that name. The search for it ends, and with no other name, although no bound is set to it.
What a declaration is called once is the answer to every later call for it.
-/
theorem answers_after_calls (registry : NameRegistry) (earlier : List Call) (call : Call) :
    let reached := registry.after earlier
    let name := (reached.answer call).1
    (∀ taken, taken ∈ reached.taken ↔ taken ∈ registry.taken ∨ registry.HandedOut earlier taken) ∧
      (registry.HandsOut earlier call →
        IsFirstFree reached.taken call.candidate name ∧ ¬ registry.HandedOut earlier name ∧
          ∀ found, Search reached.taken call.candidate call.candidate 1 found ↔ found = name) ∧
      ∀ type candidate, call = .assign type candidate → ∀ between other,
        ((registry.after (earlier ++ call :: between)).answer (.assign type other)).1 = name := by
  intro reached name
  -- Names that are taken; a call that hands one out; and calls for one declaration.
  refine ⟨fun _ => mem_taken_after, fun new => ?_, ?_⟩
  · have isName : name = freeName reached.taken call.candidate := (answer_of_handsOut new).1
    have first : IsFirstFree reached.taken call.candidate name :=
      isName ▸ isFirstFree_freeName reached.taken call.candidate
    refine ⟨first, fun before => first.1 (mem_taken_after.mpr (Or.inr before)), fun found => ?_⟩
    rw [isName]
    exact search_iff
  · rintro type candidate rfl between other
    have kept : ((reached.answer (.assign type candidate)).2.after between).kept.get? type =
        some name := get?_kept_after (get?_kept_assign reached type candidate) between
    have again := congrArg Prod.fst (assign_of_kept kept other)
    rw [List.append_cons, after_append, after_concat]
    exact again

example :
    let registry := ({} : NameRegistry).after [.claim "Pet", .assign ⟨0⟩ "Pet", .claim "Pet1"]
    (registry.answer (.claim "Pet")).1 = "Pet2" ∧
      (registry.answer (.assign ⟨0⟩ "Dog")).1 = "Pet1" := by
  decide +kernel

end ClientModel.Derivation.NameRegistry
