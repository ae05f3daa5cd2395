import ClientModel.Service.Property

/-! Declarations of operations and of the messages that they exchange. -/

namespace ClientModel.Service

/-- The method of an HTTP request. -/
inductive Verb where
  | get
  | put
  | post
  | patch
  | delete
  | head
  deriving DecidableEq

/-- The verb in lower case. -/
def Verb.label : Verb → String
  | get => "get"
  | put => "put"
  | post => "post"
  | patch => "patch"
  | delete => "delete"
  | head => "head"

/-- The verb of a word. -/
def Verb.ofLabel? (label : String) : Option Verb :=
  [get, put, post, patch, delete, head].find? fun verb => verb.label == label

/-- The place of a parameter in a request. -/
inductive Location where
  | path
  | query
  | header
  | body
  deriving DecidableEq

/-- The word for a place in a request. -/
def Location.label : Location → String
  | path => "path"
  | query => "query"
  | header => "header"
  | body => "body"

/-- The place of a word. -/
def Location.ofLabel? (label : String) : Option Location :=
  [path, query, header, body].find? fun location => location.label == label

/-- The place that a binding gives to a parameter; a status code has none in a request. -/
def Binding.location? : Binding → Option Location
  | .header _ => some .header
  | .query _ => some .query
  | .path _ => some .path
  | .body | .bodyRoot => some .body
  | .statusCode => none

/-- A parameter of a request; its place may be left unsaid. -/
structure WireSlot where
  property : PropertyId
  location : Option Location
  deriving DecidableEq

/-- A declared body of a request. -/
structure BodyDecl where
  /-- The property that stands for the body, if one was declared for it. -/
  property : Option PropertyId := none
  type : TypeId
  contentTypes : List String := []
  /-- The body is an anonymous model put together from single parameters. -/
  spread : Bool := false
  deriving DecidableEq

/-- The status codes that a response covers. -/
inductive Statuses where
  | code (status : Nat)
  | range (first last : Nat)
  | wildcard
  deriving DecidableEq

namespace Statuses

/-- How status codes are written. -/
def label : Statuses → String
  | .code status => toString status
  | .range first last => toString first ++ "-" ++ toString last
  | .wildcard => "*"

/-- The place of status codes in their order: single codes, then ranges, then the wildcard. -/
def rank : Statuses → Nat × Nat × Nat
  | .code status => (0, status, 0)
  | .range first last => (1, first, last)
  | .wildcard => (2, 0, 0)

/-- The first status codes come no later than the second. -/
def notAfter (left right : Statuses) : Bool :=
  let (leftKind, leftFirst, leftLast) := left.rank
  let (rightKind, rightFirst, rightLast) := right.rank
  leftKind < rightKind ||
    (leftKind == rightKind &&
      (leftFirst < rightFirst || (leftFirst == rightFirst && leftLast ≤ rightLast)))

/-- Status codes in order. -/
def sort (statuses : List Statuses) : List Statuses :=
  statuses.mergeSort notAfter

end Statuses

/-- The body of a response. -/
structure ResponseBody where
  type : TypeId
  contentTypes : List String := []
  deriving DecidableEq

/-- A declared response. -/
structure ResponseDecl where
  status : Statuses
  headers : List PropertyId := []
  body : Option ResponseBody := none
  description : Option String := none
  deriving DecidableEq

/-- What an operation says about its pages. -/
structure PagingDecl where
  /-- The names that lead from the body of a response to the items. -/
  itemSegments : List String := []
  nextLinkSegments : Option (List String) := none
  nextLinkOperation : Option OperationId := none
  deriving DecidableEq

/-- Where a directive takes the value of a polling parameter from. -/
inductive DirectiveSource where
  | request (parameter : String)
  | response (property : String)
  deriving DecidableEq

/-- An explicit rule that feeds a parameter of the polling operation. -/
structure Directive where
  target : String
  source : DirectiveSource
  deriving DecidableEq

/-- What an operation says about the operation that polls for its end. -/
structure PollingDecl where
  operation : OperationId
  directives : List Directive := []
  deriving DecidableEq

/-- The versions with an operation: from the one that adds it to before the one that removes it. -/
structure VersionWindow where
  added : Option String := none
  removed : Option String := none
  deriving DecidableEq

/-- An operation declaration. -/
structure Operation where
  name : String
  container : ContainerId
  /-- The parameters as declared, in order. -/
  parameters : List PropertyId := []
  verb : Verb
  path : String
  /-- The parameters of the request other than bodies. -/
  slots : List WireSlot := []
  bodies : List BodyDecl := []
  responses : List ResponseDecl := []
  paging : Option PagingDecl := none
  polling : Option PollingDecl := none
  versions : VersionWindow := {}
  deprecation : Option String := none
  doc : Option String := none
  deriving DecidableEq

end ClientModel.Service
