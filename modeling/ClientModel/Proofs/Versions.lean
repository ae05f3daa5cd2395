import ClientModel.Proofs.Accounts

/-!
The versions in which an operation exists.

An operation exists from the version that adds it up to the last one before it is removed. The
versions of its method, and whether there is a method in the version that a run is about, are told
by the places of versions in the list of the service.
-/

namespace ClientModel

open Service (Definition VersionWindow)

/-! ## Windows -/

namespace Service.VersionWindow

variable (window : VersionWindow) (versions : List String)

/-- A place is not before that of the version that adds, but before that of the one that removes. -/
structure Includes (place : Nat) : Prop where
  notBefore : ∀ mark ∈ window.added, ∀ first, versions[first]? = some mark → first ≤ place
  before : ∀ mark ∈ window.removed, ∀ last, versions[last]? = some mark → place < last

/-- The place from which on there is the operation. -/
def first : Nat :=
  (window.added.bind versions.idxOf?).getD 0

/-- The place from which on there is the operation no more. -/
def last : Nat :=
  (window.removed.bind versions.idxOf?).getD versions.length

variable {window versions}

/-- Where no version comes twice, the place that is found is the only one. -/
theorem idxOf?_eq_some_iff (distinct : versions.Nodup) {mark : String} {place : Nat} :
    versions.idxOf? mark = some place ↔ versions[place]? = some mark := by
  rw [List.idxOf?_eq_some_iff, List.getElem?_eq_some_iff]
  -- The first place of a mark is a place, and no other place has it.
  constructor
  · rintro ⟨inside, isMark, -⟩
    exact ⟨inside, isMark⟩
  · rintro ⟨inside, isMark⟩
    refine ⟨inside, isMark, fun earlier below same => ?_⟩
    exact Nat.ne_of_lt below (distinct.getElem_inj_iff.mp (same.trans isMark.symm))

/-- What is to hold of all places of a mark is to hold of the one that is found, if any. -/
theorem places_iff (distinct : versions.Nodup) {mark : Option String} {holds : Nat → Prop} :
    (∀ name ∈ mark, ∀ place, versions[place]? = some name → holds place) ↔
      ∀ place ∈ mark.bind versions.idxOf?, holds place := by
  -- A place of the mark is the place that is found.
  constructor
  · intro all place found
    obtain ⟨name, isMark, isPlace⟩ := Option.bind_eq_some_iff.mp found
    exact all name isMark place ((idxOf?_eq_some_iff distinct).mp isPlace)
  · intro found name isMark place isPlace
    exact found place (Option.bind_eq_some_iff.mpr
      ⟨name, isMark, (idxOf?_eq_some_iff distinct).mpr isPlace⟩)

/-- A mark that is absent or unknown has no place, and takes no version away. -/
theorem includes_iff (distinct : versions.Nodup) {place : Nat} (inside : place < versions.length) :
    window.Includes versions place ↔
      window.first versions ≤ place ∧ place < window.last versions := by
  -- Each of the two marks bounds the places from one side, if it has a place itself.
  have added : (∀ first ∈ window.added.bind versions.idxOf?, first ≤ place) ↔
      window.first versions ≤ place := by
    unfold first
    cases window.added.bind versions.idxOf? <;> simp
  have removed : (∀ last ∈ window.removed.bind versions.idxOf?, place < last) ↔
      place < window.last versions := by
    unfold last
    cases window.removed.bind versions.idxOf? <;> simp [inside]
  rw [← added, ← removed, ← places_iff distinct, ← places_iff distinct]
  exact ⟨fun includes => ⟨includes.notBefore, includes.before⟩, fun both => ⟨both.1, both.2⟩⟩

/-- The place of a mark is one of the list, or its end. -/
theorem getD_idxOf?_le (mark : Option String) {otherwise : Nat}
    (bound : otherwise ≤ versions.length) :
    (mark.bind versions.idxOf?).getD otherwise ≤ versions.length := by
  -- Without a place it is the bound.
  cases found : mark.bind versions.idxOf? with
  | none => exact bound
  | some place =>
    obtain ⟨name, -, isPlace⟩ := Option.bind_eq_some_iff.mp found
    obtain ⟨inside, -⟩ := List.idxOf?_eq_some_iff.mp isPlace
    exact Nat.le_of_lt inside

/-- The first version of a window is at a place of the list, or at its end. -/
theorem first_le : window.first versions ≤ versions.length :=
  getD_idxOf?_le window.added (Nat.zero_le _)

/-- The last version of a window is at a place of the list, or at its end. -/
theorem last_le : window.last versions ≤ versions.length :=
  getD_idxOf?_le window.removed (Nat.le_refl _)

end Service.VersionWindow

/-! ## Choices of versions -/

/-- A run is about the version that is named, if it is listed, and else about the newest one. -/
inductive Options.Selects (options : Options) (versions : List String) : String → Prop where
  | named {name : String} (chosen : options.version = .specific name) (listed : name ∈ versions) :
      Selects options versions name
  | newest {version : String}
      (unlisted : ∀ name, options.version = .specific name → name ∉ versions)
      (last : versions.getLast? = some version) : Selects options versions version

/-- The version that is selected is the one asked for, or the newest. -/
theorem Options.selectedVersion_eq_some_iff {options : Options} {versions : List String}
    {version : String} :
    options.selectedVersion versions = some version ↔ options.Selects versions version := by
  unfold Options.selectedVersion
  -- A version that is asked for counts if the service has it.
  constructor
  · intro selected
    split at selected
    · rename_i name chosen
      split at selected
      · rename_i listed
        cases selected
        exact .named chosen (by simpa using listed)
      · rename_i unlisted
        refine .newest (fun other isOther => ?_) selected
        rw [chosen] at isOther
        cases isOther
        simpa using unlisted
    · rename_i chosen
      exact .newest (fun name isName => by rw [chosen] at isName; cases isName) selected
    · rename_i chosen
      exact .newest (fun name isName => by rw [chosen] at isName; cases isName) selected
  · -- Conversely, what is asked for decides, and only without it the newest is taken.
    intro selects
    cases selects with
    | named chosen listed => simp [chosen, listed]
    | newest unlisted last =>
      cases chosen : options.version with
      | latest => exact last
      | all => exact last
      | specific name => simpa [unlisted name chosen] using last

/-- Among some versions there is always one that the run is about. -/
theorem Options.exists_selects (options : Options) {versions : List String}
    (some : versions ≠ []) : ∃ version, options.Selects versions version ∧ version ∈ versions := by
  -- It is the one that is asked for, if the service has it, or the last.
  by_cases named : ∃ name, options.version = .specific name ∧ name ∈ versions
  · obtain ⟨name, chosen, listed⟩ := named
    exact ⟨name, .named chosen listed, listed⟩
  · refine ⟨versions.getLast some, .newest (fun name chosen listed => named ⟨name, chosen, listed⟩)
      (List.getLast?_eq_some_getLast some), List.getLast_mem some⟩

namespace Derivation

variable {context : Context} {operation : OperationId} {service : Service.Info}

/-! ## Operations -/

namespace Context

section

variable
  (belongs : context.definition.service? (context.definition.operationAt operation).container =
    some service)
include belongs

/-- The versions of an operation are a slice of those of its service. -/
theorem operationVersions_eq :
    context.operationVersions operation =
      (service.apiVersions.take
        ((context.definition.operationAt operation).versions.last service.apiVersions)).drop
        ((context.definition.operationAt operation).versions.first service.apiVersions) := by
  -- The versions are those between the marks of the operation, the first one included.
  unfold operationVersions
  dsimp only
  rw [belongs]
  rfl

/-- The versions of an operation are a part of the list that lies within it, and may be empty. -/
theorem operationVersions_isSlice (distinct : service.apiVersions.Nodup) :
    ∃ first last, first ≤ last ∧ last ≤ service.apiVersions.length ∧
      context.operationVersions operation = (service.apiVersions.take last).drop first ∧
      ∀ place < service.apiVersions.length, first ≤ place ∧ place < last ↔
        (context.definition.operationAt operation).versions.Includes service.apiVersions place := by
  rw [operationVersions_eq belongs]
  generalize (context.definition.operationAt operation).versions = window
  -- A window that ends before it begins is the same as one that ends where it begins.
  refine ⟨window.first service.apiVersions,
    max (window.first service.apiVersions) (window.last service.apiVersions), Nat.le_max_left _ _,
    Nat.max_le.mpr ⟨VersionWindow.first_le, VersionWindow.last_le⟩, ?_, fun place inside => ?_⟩
  · rcases Nat.le_total (window.first service.apiVersions) (window.last service.apiVersions) with
      ordered | inverted
    · rw [Nat.max_eq_right ordered]
    · rw [Nat.max_eq_left inverted, List.drop_eq_nil_of_le, List.drop_eq_nil_of_le]
      · exact List.length_take_le _ _
      · exact Nat.le_trans (List.length_take_le _ _) inverted
  · rw [VersionWindow.includes_iff distinct inside]
    omega

/-- An operation has just the versions that its window includes. -/
theorem mem_operationVersions (distinct : service.apiVersions.Nodup) {version : String}
    {place : Nat} (isPlace : service.apiVersions[place]? = some version) :
    version ∈ context.operationVersions operation ↔
      (context.definition.operationAt operation).versions.Includes service.apiVersions place := by
  -- The versions of an operation are a slice of those of its service.
  obtain ⟨inside, isVersion⟩ := List.getElem?_eq_some_iff.mp isPlace
  obtain ⟨first, last, -, -, slice, places⟩ :=
    operationVersions_isSlice belongs distinct
  rw [slice, ← places place inside, List.mem_iff_getElem?]
  constructor
  · rintro ⟨offset, isOffset⟩
    rw [List.getElem?_drop, List.getElem?_take] at isOffset
    split at isOffset
    · rename_i below
      -- The version is at one place only, so that this is the one that was given.
      have same := (VersionWindow.idxOf?_eq_some_iff distinct).mpr isOffset
      rw [(VersionWindow.idxOf?_eq_some_iff distinct).mpr isPlace] at same
      obtain rfl := Option.some.inj same
      exact ⟨Nat.le_add_right _ _, below⟩
    · cases isOffset
  · rintro ⟨notBefore, before⟩
    refine ⟨place - first, ?_⟩
    rw [List.getElem?_drop, Nat.add_sub_cancel' notBefore, List.getElem?_take, if_pos before]
    exact isPlace

/-- An operation is available just in the versions that it has. -/
theorem isAvailable_iff {version : String} (chooses : context.options.version ≠ .all)
    (selects : context.options.Selects service.apiVersions version) :
    context.isAvailable operation = true ↔ version ∈ context.operationVersions operation := by
  unfold isAvailable
  dsimp only
  -- There is a version that is selected, and the options do not ask for all.
  rw [belongs]
  dsimp only
  rw [Options.selectedVersion_eq_some_iff.mpr selects]
  simp [chooses]

/-- Without versions every operation is available. -/
theorem isAvailable_of_nil (none : service.apiVersions = []) :
    context.isAvailable operation = true := by
  -- There is nothing to select from.
  have unselected : context.options.selectedVersion service.apiVersions = Option.none := by
    cases selected : context.options.selectedVersion service.apiVersions with
    | none => rfl
    | some version =>
      rw [none] at selected
      cases Options.selectedVersion_eq_some_iff.mp selected with
      | named _ listed => cases listed
      | newest _ last => cases last
  unfold isAvailable
  dsimp only
  rw [belongs]
  dsimp only
  rw [unselected, Bool.or_true]

end

/-- Every operation is available where all versions are asked for. -/
theorem isAvailable_of_all (all : context.options.version = .all) :
    context.isAvailable operation = true := by
  -- To ask for all versions is to ask for nothing in particular.
  unfold isAvailable
  rw [all]
  rfl

/-! ## Methods -/

variable (context) in
/-- The versions of a method are those of its operation. -/
theorem apiVersions_telling : Telling context fun _ method _ =>
    ∀ operation, method.origin = some operation →
      method.apiVersions = context.operationVersions operation where
  lasting _ _ := Lasting.enduring (Lasting.const _)
  method container operation := by
    refine @method_of_origin context (fun operation method _ =>
      method.apiVersions = context.operationVersions operation) _ _ (method_told ?_ fun _ _ _ => id)
    -- The versions are set as the method is built, whatever came before.
    unfold buildMethod
    refine Yields.after fun parameters => Yields.after fun http => Yields.after fun response => ?_
    refine Yields.after fun current => ?_
    dsimp only
    split
    · exact Yields.after fun progress => Yields.pure fun _ => rfl
    · exact Yields.after fun progress => Yields.pure fun _ => rfl
  accessor container crossId apiVersions child state operation isOrigin := by cases isOrigin

end Context

/-- Only operations that are available have methods. -/
theorem isAvailable_of_method {clients : List Client} {state : State}
    (run : context.clients {} = (.ok clients, state)) {client : Client}
    (below : client ∈ Client.walkAll clients) {method : Method} (listed : method ∈ client.methods)
    (isOrigin : method.origin = some operation)
    (roots : context.roots =
      (rootClients context.definition context.choices).map RootClient.container) :
    context.isAvailable operation = true := by
  obtain ⟨records, recordedRun⟩ := recorded_run run
  obtain ⟨parts, same, each⟩ := Context.recordedClients_areRecorded.ok trivial recordedRun
  obtain ⟨rfl, rfl⟩ := Prod.mk.inj same
  have recorded := Context.areRecorded_of_forall₂ each
  rw [← roots] at recorded
  obtain ⟨record, isRecord, -, attempt, isAttempt, rfl, -⟩ :=
    only_of_recorded recorded below listed isOrigin
  -- What is attempted for a client was not left out before.
  have goes := List.mem_map_of_mem (f := Attempt.operation) isAttempt
  rw [(recorded.told record isRecord).operations, Context.operationsOf] at goes
  exact (List.mem_filter.mp goes).2

/--
An operation exists from the version that adds it, or the first one, up to the last one before it is
removed, or the newest one.

These are the versions of its method. A run about one version, which is the one that is named or
else the newest one, has the operation just if that version is among them.
-/
theorem operation_exists_within_window {definition : Definition} {options : Options}
    {operation : OperationId} {service : Service.Info}
    (belongs : definition.service? (definition.operationAt operation).container = some service)
    (distinct : service.apiVersions.Nodup) :
    let context := Context.of definition options
    let window := (definition.operationAt operation).versions
    (∃ first last, first ≤ last ∧ last ≤ service.apiVersions.length ∧
      context.operationVersions operation = (service.apiVersions.take last).drop first ∧
      ∀ place < service.apiVersions.length,
        first ≤ place ∧ place < last ↔ window.Includes service.apiVersions place) ∧
    (∀ package, derivePackage definition options = .ok package →
      ∀ client ∈ Client.walkAll package.clients, ∀ method ∈ client.methods,
        method.origin = some operation → context.isAvailable operation = true ∧
          method.apiVersions = context.operationVersions operation) ∧
    (options.version = .all → context.isAvailable operation = true) ∧
    (service.apiVersions = [] → context.isAvailable operation = true) ∧
    (options.version ≠ .all → service.apiVersions ≠ [] →
      ∃ place version, service.apiVersions[place]? = some version ∧
        options.Selects service.apiVersions version ∧
        (context.isAvailable operation = true ↔ window.Includes service.apiVersions place)) := by
  intro context window
  -- The slice and the versions of methods are told for any run; what is selected is looked at last.
  have owned : context.definition.service? (context.definition.operationAt operation).container =
    some service := belongs
  refine ⟨Context.operationVersions_isSlice owned distinct,
    fun package derived client below method listed isOrigin => ?_,
    fun all => Context.isAvailable_of_all all,
    fun none => Context.isAvailable_of_nil owned none,
    fun chooses some => ?_⟩
  · obtain ⟨clients, run, rfl⟩ := derivePackage_ok derived
    exact ⟨isAvailable_of_method run below listed isOrigin rfl,
      (Context.apiVersions_telling context).clients.ok trivial run client below method listed
        operation isOrigin⟩
  · obtain ⟨version, selects, listed⟩ := options.exists_selects some
    obtain ⟨place, isPlace⟩ := List.mem_iff_getElem?.mp listed
    refine ⟨place, version, isPlace, selects, ?_⟩
    rw [Context.isAvailable_iff owned chooses selects]
    exact Context.mem_operationVersions owned distinct isPlace

/-- A museum whose tours were given up before they began. -/
def museum : Definition where
  operations := #[
    { name := "visit", container := ⟨0⟩, verb := .get, path := "/halls"
      versions := { added := some "2023", removed := some "2024" } },
    { name := "tour", container := ⟨0⟩, verb := .get, path := "/tours"
      versions := { added := some "2024", removed := some "2022" } }]
  containers := #[
    { name := "Museum", operations := [⟨0⟩, ⟨1⟩]
      service := some { apiVersions := ["2022", "2023", "2024"] } }]

/-- In the museum a visit has the one version between its marks, and a tour is never on. -/
theorem operation_exists_within_window_museum :
    museum.service? ⟨0⟩ = some { apiVersions := ["2022", "2023", "2024"] } ∧
      ["2022", "2023", "2024"].Nodup ∧
      (∃ package, derivePackage museum { version := .specific "2023" } = .ok package ∧
        (∃ client ∈ Client.walkAll package.clients, ∃ method ∈ client.methods,
          method.origin = some ⟨0⟩) ∧
        ∀ client ∈ Client.walkAll package.clients, ∀ method ∈ client.methods,
          method.origin = some ⟨0⟩ → method.apiVersions = ["2023"]) ∧
      ¬(Context.of museum {}).isAvailable ⟨1⟩ = true := by
  have belongs : museum.service? ⟨0⟩ = some { apiVersions := ["2022", "2023", "2024"] } := rfl
  have distinct : ["2022", "2023", "2024"].Nodup := by decide
  -- That there is such a method is decided; its versions are told by the theorem.
  refine ⟨belongs, distinct, ?_, fun available => ?_⟩
  · have has : (derivePackage museum { version := .specific "2023" }).toOption.any fun package =>
        (Client.walkAll package.clients).any fun client => client.methods.any fun method =>
          method.origin == some ⟨0⟩ := by decide +kernel
    cases derived : derivePackage museum { version := .specific "2023" } with
    | error failure => simp [derived, Except.toOption] at has
    | ok package =>
      rw [derived] at has
      simp only [Except.toOption, Option.any_some, List.any_eq_true, beq_iff_eq] at has
      -- The theorem tells the versions of the method by those of the operation, which can be
      -- computed.
      refine ⟨package, rfl, has, fun client below method listed isOrigin => ?_⟩
      obtain ⟨-, same⟩ := (@operation_exists_within_window museum _ ⟨0⟩ _ belongs distinct).2.1
        package derived client below method listed isOrigin
      rw [same]
      decide
  · -- Whichever version is the newest, it is not before the first of the list.
    obtain ⟨place, version, -, -, window⟩ :=
      (@operation_exists_within_window museum {} ⟨1⟩ _ belongs distinct).2.2.2.2 (by decide)
        (by decide)
    exact absurd ((window.mp available).before "2022" rfl 0 rfl) (Nat.not_lt_zero place)

end Derivation

end ClientModel
