import ClientModel.Package.Method

/-! Clients and their sub-clients. -/

namespace ClientModel

/-- How a client is made. -/
structure ClientInitialization where
  name : String
  initializedBy : Initialization
  /-- Endpoint, credential, version and subscription first, then whatever else the client takes. -/
  parameters : List Property

namespace ClientInitialization

/-- The parameter of a name. -/
def parameter? (initialization : ClientInitialization) (name : String) : Option Property :=
  initialization.parameters.find? fun parameter => parameter.name == name

/-- The parameter for the endpoint. -/
def endpoint? (initialization : ClientInitialization) : Option Property :=
  initialization.parameters.find? fun parameter => parameter.role == .endpoint

/-- The parameter for the credential. -/
def credential? (initialization : ClientInitialization) : Option Property :=
  initialization.parameters.find? fun parameter => parameter.role == .credential

/-- The parameter for the version of the service. -/
def apiVersion? (initialization : ClientInitialization) : Option Property :=
  initialization.parameters.find? Property.isApiVersion

end ClientInitialization

/-- A client with its methods and its sub-clients. -/
structure Client where
  name : String
  «namespace» : String
  origin : ContainerId
  crossId : String
  apiVersions : List String
  initialization : ClientInitialization
  methods : List Method
  children : List Client

namespace Client

mutual

/-- The client and all clients below it, each before its own sub-clients. -/
def walk : Client → List Client
  | client@⟨_, _, _, _, _, _, _, children⟩ => client :: walkAll children

/-- The clients of a list and all clients below them. -/
def walkAll : List Client → List Client
  | [] => []
  | client :: rest => walk client ++ walkAll rest

end

/-- The method of a name. -/
def method? (client : Client) (name : String) : Option Method :=
  client.methods.find? fun method => method.name == name

/-- The direct sub-client of a name. -/
def child? (client : Client) (name : String) : Option Client :=
  client.children.find? fun child => child.name == name

end Client

end ClientModel
