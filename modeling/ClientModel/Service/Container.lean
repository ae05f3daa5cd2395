import ClientModel.Service.Operation

/-! Namespaces, interfaces and the services that they may declare. -/

namespace ClientModel.Service

/-- A server: a template of its URL and the arguments that fill it. -/
structure Server where
  url : String
  arguments : List PropertyId := []
  description : Option String := none
  deriving DecidableEq

/-- Where an API key goes in a request. -/
inductive KeyLocation where
  | header
  | query
  | cookie
  deriving DecidableEq

/-- The word for the place of an API key. -/
def KeyLocation.label : KeyLocation → String
  | header => "header"
  | query => "query"
  | cookie => "cookie"

/-- The place of a word. -/
def KeyLocation.ofLabel? (label : String) : Option KeyLocation :=
  [header, query, cookie].find? fun location => location.label == label

/-- A way to authenticate that a service accepts. -/
inductive AuthScheme where
  | apiKey (location : KeyLocation) (name : String)
  | http (scheme : String)
  | oauth2 (scopes : List String)
  | noAuth
  deriving DecidableEq

/-- What a container says about the service it declares. -/
structure Info where
  title : Option String := none
  servers : List Server := []
  auth : List AuthScheme := []
  /-- The versions of the service, oldest first. -/
  apiVersions : List String := []
  /-- The conventions of resource management hold: subscriptions belong to clients. -/
  resourceManagement : Bool := false
  /-- Types that are wanted even though no operation may refer to them. -/
  orphanTypes : List TypeId := []
  deriving DecidableEq

/-- A container declaration: a namespace or an interface. -/
structure Container where
  name : String
  isInterface : Bool := false
  parent : Option ContainerId := none
  children : List ContainerId := []
  operations : List OperationId := []
  service : Option Info := none
  deriving DecidableEq

end ClientModel.Service
