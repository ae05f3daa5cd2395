import ClientModel.Diagnostic
import ClientModel.Package.Client
import ClientModel.Package.Node

/-! Packages: clients, the types they refer to, and what was to be reported on the way. -/

namespace ClientModel

/-- The outcome of a run. -/
structure Package where
  name : String
  clients : List Client
  /-- Every derived type, used or not. -/
  catalogue : Catalogue
  /-- The models that are used. -/
  models : List NodeId
  /-- The enums that are used. -/
  enums : List NodeId
  /-- The unions that are used and have a name. -/
  unions : List NodeId
  diagnostics : List Diagnostic

namespace Package

/-- Every client of the package, each before its own sub-clients. -/
def allClients (package : Package) : List Client :=
  Client.walkAll package.clients

/-- The first client of a name. -/
def client? (package : Package) (name : String) : Option Client :=
  package.allClients.find? fun client => client.name == name

/-- The first used model of a name. -/
def model? (package : Package) (name : String) : Option NodeId :=
  package.models.find? fun id =>
    (package.catalogue.model? id).any fun model => model.name == name

/-- The first used enum of a name. -/
def enumeration? (package : Package) (name : String) : Option NodeId :=
  package.enums.find? fun id =>
    (package.catalogue.nodeAt id).enumeration?.any fun enumeration => enumeration.name == name

/-- Something in the package was reported as an error. -/
def hasErrors (package : Package) : Bool :=
  package.diagnostics.any Diagnostic.isError

end Package

end ClientModel
