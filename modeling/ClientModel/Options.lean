import ClientModel.Document.Value

/-! Options of a run, and how they are read from a document. -/

namespace ClientModel

/-- The versions of a service that a run is about. -/
inductive VersionChoice where
  /-- The newest version. -/
  | latest
  /-- Operations of every version; defaults are still those of the newest. -/
  | all
  | specific (version : String)
  deriving DecidableEq

/-- The options of a run. -/
structure Options where
  /-- The target language; without one only customizations for all of them hold. -/
  scope : Option String := none
  /-- Whether the conventions of resource management hold, whatever the service says. -/
  resourceManagement : Option Bool := none
  /-- Usage and access of a model stop short of its base. -/
  sparesBase : Bool := false
  version : VersionChoice := .latest
  /-- Unions of literal strings become enums. -/
  flattensUnions : Bool := true
  /-- Operations get a method on raw requests unless something else is said. -/
  protocolMethods : Bool := true
  /-- Operations get a method on typed values unless something else is said. -/
  convenientMethods : Bool := true
  deriving DecidableEq

/-- The version that a run is about, out of the versions of a service from oldest to newest. -/
def Options.selectedVersion (options : Options) (versions : List String) : Option String :=
  match options.version with
  | .specific version => if versions.contains version then some version else versions.getLast?
  | .latest | .all => versions.getLast?

/-! ## Reading -/

namespace Document

/-- A truth value. -/
def boolean? : Document → Option Bool
  | .boolean value => some value
  | _ => none

/-- A text. -/
def text? : Document → Option String
  | .text value => some value
  | _ => none

/-- Something that may also be null. -/
def nullOr? {α : Type} (read : Document → Option α) : Document → Option (Option α)
  | .null => some none
  | document => (read document).map some

/-- A choice of versions: a word, or a record with the choice as its only field. -/
def versionChoice? : Document → Option VersionChoice
  | .text "latest" | .record [("latest", .null)] => some .latest
  | .text "all" | .record [("all", .null)] => some .all
  | .record [("specific", .text version)] => some (.specific version)
  | _ => none

end Document

namespace Options

/-- The names of the options in a record, in the order in which a list gives their values. -/
def names : List String :=
  ["scope", "arm", "disableUsageAccessPropagationToBase", "apiVersion", "flattenUnionAsEnum",
    "generateProtocolMethods", "generateConvenienceMethods"]

/-- The options with the values found under their names; one without a value has its default. -/
def ofFields? (field? : String → Option Document) : Option Options := do
  let read {α : Type} (name : String) (default : α) (value? : Document → Option α) : Option α :=
    match field? name with
    | some value => value? value
    | none => some default
  return {
    scope := ← read "scope" none (Document.nullOr? Document.text?)
    resourceManagement := ← read "arm" none (Document.nullOr? Document.boolean?)
    sparesBase := ← read "disableUsageAccessPropagationToBase" false Document.boolean?
    version := ← read "apiVersion" .latest Document.versionChoice?
    flattensUnions := ← read "flattenUnionAsEnum" true Document.boolean?
    protocolMethods := ← read "generateProtocolMethods" true Document.boolean?
    convenientMethods := ← read "generateConvenienceMethods" true Document.boolean?
  }

/-- The options that a document gives: a record of them, or a list of values from the first on. -/
def ofDocument? : Document → Option Options
  | .list values =>
    if values.length ≤ names.length then ofFields? fun name => (names.zip values).lookup name
    else none
  | .record fields | .table fields => ofFields? fun name => (Document.record fields).field? name
  | _ => none

end Options

end ClientModel
