import ClientModel.Diagnostic

/-! Reasons why one method, or a whole run, has to be given up. -/

namespace ClientModel.Derivation

/-- A fault of the derivation itself, which no service definition of good form brings about. -/
inductive Violation where
  /-- Two nodes were made for one type declaration. -/
  | projectedTwice (type : TypeId) (first second : NodeId)
  /-- The enum that a member names as its own does not list it. -/
  | memberNotRegistered (member : TypeId)
  /-- The type refers to itself by way of neither a model nor a union. -/
  | unguardedCycle (type : TypeId)
  /-- The scalars that a scalar extends come back to themselves, and none has an encoding. -/
  | endlessBases (scalar : TypeId)
  /-- The search of a status comes back to a union that it is looking into. -/
  | endlessVariants (type : TypeId)
  | other (message : String)
  deriving DecidableEq

/-- The words for a fault. -/
def Violation.message : Violation → String
  | projectedTwice type first second =>
    s!"Decl(TypeDeclId({type.index})) projected twice ({first.label} and {second.label})"
  | memberNotRegistered member => s!"enum member {member.label} was not registered"
  | unguardedCycle type => s!"{type.label} refers to itself without a model or a union between"
  | endlessBases scalar => s!"{scalar.label} extends itself, and no encoding ends the way"
  | endlessVariants type => s!"{type.label} is searched for a status again and again"
  | other message => message

/--
A reason to give up.

All but a violation concern a single method: it is left out, and the rest of the package is derived.
-/
inductive Failure where
  /-- A parameter of a request is said to go nowhere. -/
  | unclassifiedParameter (operation parameter : String) (property : PropertyId)
  /-- A parameter has another kind than its place asks for. -/
  | unexpectedParameterKind (parameter expected found : String) (property : PropertyId)
  /-- Not every member of a body that is put together from parameters found its parameter. -/
  | spreadNotResolved (operation : String) (expected found : Nat) (target : OperationId)
  | noCorrespondingParameter (operation parameter : String) (target : OperationId)
  | divergentBodyTypes (operation : String) (target : OperationId)
  | violation (cause : Violation)
  deriving DecidableEq

namespace Failure

/-- The code under which a failure is reported. -/
def code : Failure → String
  | unclassifiedParameter _ _ _ | unexpectedParameterKind _ _ _ _ => Code.unexpectedParameterKind
  | spreadNotResolved _ _ _ _ => Code.spreadNotResolved
  | noCorrespondingParameter _ _ _ => Code.noCorrespondingParameter
  | divergentBodyTypes _ _ => Code.multipleBodyTypes
  | violation _ => Code.brokenInvariant

/-- The declaration that a failure points at. -/
def target : Failure → Option Declaration
  | unclassifiedParameter _ _ property | unexpectedParameterKind _ _ _ property =>
    some (.property property)
  | spreadNotResolved _ _ _ target | noCorrespondingParameter _ _ target
  | divergentBodyTypes _ target => some (.operation target)
  | violation _ => none

/-- The words for a failure. -/
def message : Failure → String
  | unclassifiedParameter operation parameter _ =>
    "parameter '" ++ parameter ++ "' of operation '" ++ operation ++ "' has no wire location"
  | unexpectedParameterKind parameter expected found _ =>
    "parameter '" ++ parameter ++ "' was expected to be " ++ expected ++ ", found " ++ found
  | spreadNotResolved operation expected found _ =>
    "spread body of '" ++ operation ++ "' resolved " ++ toString found ++ " of " ++
      toString expected ++ " members to method parameters"
  | noCorrespondingParameter operation parameter _ =>
    "wire parameter '" ++ parameter ++ "' of '" ++ operation ++
      "' has no corresponding method parameter"
  | divergentBodyTypes operation _ =>
    "operation '" ++ operation ++ "' declares bodies of different types"
  | violation cause => "projection invariant violated: " ++ cause.message

/-- The failure ends the whole run. -/
def endsRun : Failure → Bool
  | violation _ => true
  | _ => false

/-- The report of a failure. -/
def diagnostic (failure : Failure) : Diagnostic :=
  { target := failure.target
    severity := .error
    code := some failure.code
    message := failure.message }

end Failure

end ClientModel.Derivation
