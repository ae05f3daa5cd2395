import Mathlib.Data.List.Basic
import ClientModel.Package.Export
import ClientModel.Proofs.Documents
import ClientModel.Proofs.Names

/-!
Packages as documents lose nothing.

Each kind of value is written so that it is told from all others of its type, and each name comes
once in a record. So two packages that are read alike are one and the same package.
-/

namespace ClientModel

open Document (Faithful)
open Service (AuthScheme KeyLocation Literal Statuses Verb)

/-! ## Words -/

/-- The label of a range of statuses has a dash in it. -/
theorem dash_mem_range (first last : Nat) :
    '-' ∈ (Statuses.range first last).label.toList := by
  simp [Statuses.label]

/-- Statuses are told apart by their labels. -/
theorem Service.Statuses.eq_of_label_eq : ∀ left right : Statuses,
    left.label = right.label → left = right
  | .code _, .code _, same => by rw [toString_inj same]
  | .code status, .range first last, same =>
    absurd same (toString_ne (by decide) (dash_mem_range first last) status)
  | .range first last, .code status, same =>
    absurd same.symm (toString_ne (by decide) (dash_mem_range first last) status)
  | .range first last, .range first' last', same => by
    -- The label of a range is the numeral of its first status, a dash, and that of its last.
    have texts := congrArg String.toList same
    simp only [label, String.toList_append, List.append_assoc] at texts
    change (toString first).toList ++ '-' :: (toString last).toList =
      (toString first').toList ++ '-' :: (toString last').toList at texts
    -- The first dash is the one between the numerals.
    obtain ⟨firsts, _, lasts⟩ := (List.append_cons_inj_of_notMem
      (notMem_toString (by decide) first) (notMem_toString (by decide) last)).mp texts
    rw [toString_inj (String.toList_inj.mp firsts), toString_inj (String.toList_inj.mp lasts)]
  | .range first last, .wildcard, same =>
    absurd (same ▸ dash_mem_range first last) (by decide)
  | .code status, .wildcard, same =>
    absurd same (toString_ne (c := '*') (by decide) (by decide) status)
  | .wildcard, .code status, same =>
    absurd same.symm (toString_ne (c := '*') (by decide) (by decide) status)
  | .wildcard, .range first last, same =>
    absurd (same ▸ dash_mem_range first last) (by decide)
  | .wildcard, .wildcard, _ => rfl

/-- Kinds of builtin types are told apart by their words. -/
theorem BuiltinKind.label_inj {left right : BuiltinKind} :
    left.label = right.label ↔ left = right := by
  -- The kind of a word can be told from the word.
  have found (kind : BuiltinKind) :
      (any :: scalarKinds).find? (fun other => other.label == kind.label) = some kind := by
    cases kind <;> decide
  exact ⟨fun same => Option.some.inj ((found left).symm.trans (same ▸ found right)),
    congrArg label⟩

/-- Severities are told apart by their words. -/
theorem Severity.label_inj {left right : Severity} :
    left.label = right.label ↔ left = right := by
  cases left <;> cases right <;> decide

/-- Verbs are told apart by their words. -/
theorem Service.Verb.label_inj {left right : Verb} : left.label = right.label ↔ left = right := by
  cases left <;> cases right <;> decide

/-- Places of keys are told apart by their words. -/
theorem Service.KeyLocation.label_inj {left right : KeyLocation} :
    left.label = right.label ↔ left = right := by
  cases left <;> cases right <;> decide

/-- Kinds of sources are told apart by their words. -/
theorem LinkSourceKind.label_inj {left right : LinkSourceKind} :
    left.label = right.label ↔ left = right := by
  cases left <;> cases right <;> decide

/-- Ways to initialize a client are told apart by their bits. -/
theorem Initialization.bits_inj {left right : Initialization} :
    left.bits = right.bits ↔ left = right := by
  cases left <;> cases right <;> decide

/-! ## Values that stand everywhere -/

/-- The identifier of a node can be read back. -/
theorem NodeId.faithful : Faithful NodeId.document :=
  .of_nat fun ⟨_⟩ ⟨_⟩ same => congrArg NodeId.mk same

/-- The identifier of a type can be read back. -/
theorem TypeId.faithful : Faithful fun id : TypeId => Document.ofNat id.index :=
  .of_nat fun ⟨_⟩ ⟨_⟩ same => congrArg TypeId.mk same

/-- The identifier of a property can be read back. -/
theorem PropertyId.faithful : Faithful fun id : PropertyId => Document.ofNat id.index :=
  .of_nat fun ⟨_⟩ ⟨_⟩ same => congrArg PropertyId.mk same

/-- The identifier of an operation can be read back. -/
theorem OperationId.faithful : Faithful fun id : OperationId => Document.ofNat id.index :=
  .of_nat fun ⟨_⟩ ⟨_⟩ same => congrArg OperationId.mk same

/-- The identifier of a container can be read back. -/
theorem ContainerId.faithful : Faithful fun id : ContainerId => Document.ofNat id.index :=
  .of_nat fun ⟨_⟩ ⟨_⟩ same => congrArg ContainerId.mk same

/-- Usage can be read back, all bits of it. -/
theorem Usage.faithful : Faithful Usage.document :=
  .of_nat fun ⟨_⟩ ⟨_⟩ same => congrArg Usage.mk (UInt32.toNat_inj.mp same)

/-- An access can be read back, also where it is unset. -/
theorem Access.faithful : Faithful Access.document where
  inj left right := by cases left <;> cases right <;> simp [document]
  present access := by cases access <;> simp [document]

/-- Declarations of different kinds, or of different places, are told apart. -/
theorem Declaration.faithful : Faithful Declaration.document where
  inj left right := by
    rcases left with ⟨⟨i⟩⟩ | ⟨⟨i⟩⟩ | ⟨⟨i⟩⟩ | ⟨⟨i⟩⟩ <;>
      rcases right with ⟨⟨j⟩⟩ | ⟨⟨j⟩⟩ | ⟨⟨j⟩⟩ | ⟨⟨j⟩⟩ <;>
        simp [document, Document.plain_ofNat_inj]
  present declaration := by cases declaration <;> simp [document]

/-- Literals need no mark of their kind. -/
theorem Service.Literal.faithful : Faithful Literal.document where
  inj left right := by cases left <;> cases right <;> simp [document]
  present literal := by cases literal <;> simp [document]

/-! ## Reports -/

/-- A related remark can be read back. -/
theorem RelatedRemark.faithful : Faithful RelatedRemark.document where
  inj left right := by
    cases left
    cases right
    simp [document, Declaration.faithful.inj]
  present remark := by simp [document]

/-- A report can be read back. -/
theorem Diagnostic.faithful : Faithful Diagnostic.document where
  inj left right := by
    cases left
    cases right
    simp [document, Declaration.faithful.option,
      Severity.label_inj, RelatedRemark.faithful.list.inj]
  present diagnostic := by simp [document]

/-! ## Properties -/

/-- A role is told from all others by its word. -/
theorem Role.faithful : Faithful Role.document where
  inj left right := by cases left <;> cases right <;> simp [document, label]
  present role := by simp [document]

/-- A property is told from all others, whatever sources are written with it. -/
theorem Property.plain_documentWith_inj (sources sources' : List Document)
    (left right : Property) :
    (left.documentWith sources).plain = (right.documentWith sources').plain ↔
      sources.map Document.plain = sources'.map Document.plain ∧ left = right := by
  cases left
  cases right
  simp [documentWith, PropertyId.faithful.option, NodeId.faithful.option, NodeId.faithful.inj,
    Role.faithful.inj, Literal.faithful.option, and_left_comm]

/-- A property can be read back. -/
theorem Property.faithful : Faithful Property.document where
  inj left right := by simp [document, plain_documentWith_inj]
  present property := by simp [document, documentWith]

/-- A source is told from all others, with the whole parameter that it starts from. -/
theorem Source.faithful : Faithful Source.document where
  inj left right := by cases left <;> cases right <;> simp [document, Property.faithful.inj]
  present source := by cases source <;> simp [document]

/-- A parameter on the wire can be read back, with its sources. -/
theorem WireParameter.faithful : Faithful WireParameter.document where
  inj left right := by
    cases left
    cases right
    simp only [document, Property.plain_documentWith_inj, Source.faithful.map_inj, mk.injEq,
      and_comm]
  present parameter := by simp [document, Property.documentWith]

/-! ## Types -/

/-- A way to authenticate is told from all others by its word. -/
theorem Service.AuthScheme.faithful : Faithful AuthScheme.document where
  inj left right := by cases left <;> cases right <;> simp [document, KeyLocation.label_inj]
  present scheme := by cases scheme <;> simp [document]

/-- The subtypes of a model can be read back, in their order. -/
theorem ModelNode.subtypes_faithful : Faithful ModelNode.subtypesDocument :=
  .table (fun _ _ => id) NodeId.faithful

/-- A builtin type can be read back. -/
theorem BuiltinNode.faithful : Faithful fun node : BuiltinNode => .record node.fields where
  inj left right := by
    cases left
    cases right
    simp [fields, BuiltinKind.label_inj, NodeId.faithful.option]
  present node := by simp

/-- An enumeration can be read back. -/
theorem EnumNode.faithful : Faithful fun node : EnumNode => .record node.fields where
  inj left right := by
    cases left
    cases right
    simp [fields, BuiltinKind.label_inj, NodeId.faithful.list.inj, Usage.faithful.inj,
      Access.faithful.option]
  present node := by simp

/-- A value of an enumeration can be read back. -/
theorem EnumValueNode.faithful : Faithful fun node : EnumValueNode => .record node.fields where
  inj left right := by
    cases left
    cases right
    simp [fields, Literal.faithful.inj, NodeId.faithful.inj]
  present node := by simp

/-- A union can be read back. -/
theorem UnionNode.faithful : Faithful fun node : UnionNode => .record node.fields where
  inj left right := by
    cases left
    cases right
    simp [fields, NodeId.faithful.list.inj, Usage.faithful.inj, Access.faithful.option]
  present node := by simp

/-- A constant can be read back. -/
theorem ConstantNode.faithful : Faithful fun node : ConstantNode => .record node.fields where
  inj left right := by
    cases left
    cases right
    simp [fields, Literal.faithful.inj, BuiltinKind.label_inj]
  present node := by simp

/-- A model can be read back. -/
theorem ModelNode.faithful : Faithful fun node : ModelNode => .record node.fields where
  inj left right := by
    cases left
    cases right
    simp [fields, Property.faithful.list.inj, NodeId.faithful.option, subtypes_faithful.option,
      Usage.faithful.inj, Access.faithful.option]
  present node := by simp

/-- What a node stands for is told by its word, and then by its fields. -/
theorem NodeKind.faithful : Faithful NodeKind.document where
  inj left right := by
    rw [document, document, Document.plain_record_cons_inj]
    -- Kinds of different words are told by them; for the others it comes to the fields.
    cases left <;> cases right <;> simp only [tag, fields, Document.plain_text, true_and,
      Document.text.injEq, reduceCtorEq, false_and, and_false, String.reduceEq]
    case builtin.builtin => simp only [BuiltinNode.faithful.inj, builtin.injEq]
    case enumeration.enumeration => simp only [EnumNode.faithful.inj, enumeration.injEq]
    case enumValue.enumValue => simp only [EnumValueNode.faithful.inj, enumValue.injEq]
    case union.union => simp only [UnionNode.faithful.inj, union.injEq]
    case array.array => simp [NodeId.faithful.inj]
    case dict.dict => simp [NodeId.faithful.inj]
    case constant.constant => simp only [ConstantNode.faithful.inj, constant.injEq]
    case model.model => simp only [ModelNode.faithful.inj, model.injEq]
    case credential.credential => simp [AuthScheme.faithful.list.inj]
    case endpoint.endpoint left right =>
      cases left
      cases right
      simp [Property.faithful.list.inj]
  present kind := by simp [document]

/-- A node can be read back. -/
theorem Node.faithful : Faithful Node.document where
  inj left right := by
    cases left
    cases right
    simp [document, TypeId.faithful.option, NodeKind.faithful.inj]
  present node := by simp [document]

/-! ## Methods -/

/-- The header of a response can be read back. -/
theorem ResponseHeader.faithful : Faithful ResponseHeader.document where
  inj left right := by
    cases left
    cases right
    simp [document, PropertyId.faithful.option, NodeId.faithful.inj]
  present header := by simp [document]

/-- A response can be read back. -/
theorem HttpResponse.faithful : Faithful HttpResponse.document where
  inj left right := by
    cases left
    cases right
    simp [document, NodeId.faithful.option, ResponseHeader.faithful.list.inj]
  present response := by simp [document]

/-- Responses are told apart with the status codes that they cover. -/
theorem ResponseMap.faithful : Faithful ResponseMap.document :=
  .table Statuses.eq_of_label_eq HttpResponse.faithful

/-- The request and the responses of an operation can be read back. -/
theorem HttpOperation.faithful : Faithful HttpOperation.document where
  inj left right := by
    cases left
    cases right
    simp [document, OperationId.faithful.inj, Verb.label_inj, WireParameter.faithful.list.inj,
      WireParameter.faithful.option, ResponseMap.faithful.inj]
  present operation := by simp [document]

/-- The response of a method can be read back. -/
theorem MethodResponse.faithful : Faithful MethodResponse.document where
  inj left right := by
    cases left
    cases right
    simp [document, NodeId.faithful.option, Document.faithful_texts.option]
  present response := by simp [document]

/-- A reference to an operation can be read back. -/
theorem OperationRef.faithful : Faithful OperationRef.document where
  inj left right := by
    cases left
    cases right
    simp [document, OperationId.faithful.inj]
  present operation := by simp [document]

/-- Paging can be read back. -/
theorem Paging.faithful : Faithful Paging.document where
  inj left right := by
    cases left
    cases right
    simp [document, Document.faithful_texts.option, OperationRef.faithful.option]
  present paging := by simp [document]

/-- What is handed on to a parameter can be read back. -/
theorem PropertyMapping.faithful : Faithful PropertyMapping.document where
  inj left right := by
    cases left
    cases right
    simp [document, LinkSourceKind.label_inj, PropertyId.faithful.inj]
  present mapping := by simp [document]

/-- The place of a URL for polling can be read back. -/
theorem PollingUrl.faithful : Faithful PollingUrl.document where
  inj left right := by
    obtain ⟨left, _, _⟩ := left
    obtain ⟨right, _, _⟩ := right
    cases left <;> cases right <;> simp [document, PropertyId.faithful.inj]
  present url := by simp [document]

/-- A property of a monitor can be read back. -/
theorem MonitorProperty.faithful : Faithful MonitorProperty.document where
  inj left right := by
    cases left
    cases right
    simp [document, PropertyId.faithful.inj, NodeId.faithful.inj]
  present property := by simp [document]

/-- The names of states can be read back. -/
theorem States.faithful : Faithful States.document where
  inj left right := by
    cases left
    cases right
    simp [document]
  present states := by simp [document]

/-- A monitor can be read back. -/
theorem StatusMonitor.faithful : Faithful StatusMonitor.document where
  inj left right := by
    cases left
    cases right
    simp [document, NodeId.faithful.inj, MonitorProperty.faithful.inj, States.faithful.inj,
      MonitorProperty.faithful.option]
  present monitor := by simp [document]

/-- What is handed on to a polling operation can be read back. -/
theorem Polling.parameters_faithful : Faithful fun map : OrderedMap String PropertyMapping =>
    .table (map.entries.map fun (target, mapping) => (target, mapping.document)) :=
  .table (fun _ _ => id) PropertyMapping.faithful

/-- Polling can be read back. -/
theorem Polling.faithful : Faithful Polling.document where
  inj left right := by
    have parameters := parameters_faithful.inj left.parameters right.parameters
    cases left
    cases right
    simp only [document, Document.plain_record, Document.record.injEq, List.map_cons,
      List.map_nil, List.cons.injEq, Prod.mk.injEq, true_and, and_true, parameters,
      OperationRef.faithful.inj, PollingUrl.faithful.option, StatusMonitor.faithful.inj,
      NodeId.faithful.option, mk.injEq]
  present polling := by simp [document]

/-- What is told of a method of any kind can be read back. -/
theorem ServiceMethod.faithful : Faithful ServiceMethod.document where
  inj left right := by
    cases left
    cases right
    simp [document, HttpOperation.faithful.inj, MethodResponse.faithful.inj]
  present method := by simp [document]

/-- What a method does is told by its word, and then by what is written for it. -/
theorem MethodKind.faithful : Faithful MethodKind.document where
  inj left right := by
    cases left <;> cases right <;>
      simp [document, ServiceMethod.faithful.inj, Paging.faithful.inj, Polling.faithful.inj]
  present kind := by cases kind <;> simp [document]

/-- A method can be read back. -/
theorem Method.faithful : Faithful Method.document where
  inj left right := by
    cases left
    cases right
    simp [document, OperationId.faithful.option, Access.faithful.inj, Property.faithful.list.inj,
      MethodKind.faithful.inj]
  present method := by simp [document]

/-! ## Clients and packages -/

/-- The way a client is made can be read back. -/
theorem ClientInitialization.faithful : Faithful ClientInitialization.document where
  inj left right := by
    cases left
    cases right
    simp [document, Document.plain_ofNat_inj, Initialization.bits_inj, Property.faithful.list.inj]
  present initialization := by simp [document]

mutual

/-- A client is told from all others together with the clients below it. -/
theorem Client.eq_of_plain_eq : ∀ left right : Client,
    left.document.plain = right.document.plain → left = right
  | ⟨_, _, _, _, _, _, _, children⟩, ⟨_, _, _, _, _, _, _, children'⟩, same => by
    simp only [document, Document.plain_record, Document.record.injEq, List.map_cons,
      List.map_nil, List.cons.injEq, Prod.mk.injEq, true_and, and_true, Document.plain_text,
      Document.text.injEq, ContainerId.faithful.inj, Document.plain_ofTexts_inj,
      ClientInitialization.faithful.inj, Method.faithful.list.inj, Document.plain_list,
      Document.list.injEq] at same
    obtain ⟨rfl, rfl, rfl, rfl, rfl, rfl, rfl, below⟩ := same
    rw [eq_of_plain_documents_eq children children' below]

/-- Clients can be read back with all that are below them, by induction on the tree. -/
theorem Client.eq_of_plain_documents_eq : ∀ left right : List Client,
    (documents left).map Document.plain = (documents right).map Document.plain → left = right
  | [], [], _ => rfl
  | [], _ :: _, same | _ :: _, [], same => by simp [documents] at same
  | first :: rest, first' :: rest', same => by
    simp only [documents, List.map_cons, List.cons.injEq] at same
    rw [eq_of_plain_eq first first' same.1, eq_of_plain_documents_eq rest rest' same.2]

end

/-- A package can be read back. -/
theorem Package.faithful : Faithful Package.document where
  inj left right := by
    obtain ⟨name, clients, ⟨nodes⟩, models, enums, unions, reports⟩ := left
    obtain ⟨name', clients', ⟨nodes'⟩, models', enums', unions', reports'⟩ := right
    -- Field by field, since the record has the same names whatever is in it.
    refine ⟨fun same => ?_, fun same => same ▸ rfl⟩
    simp only [document, Document.plain_record, Document.record.injEq, List.map_cons,
      List.map_nil, List.cons.injEq, Prod.mk.injEq, true_and, and_true, Document.plain_text,
      Document.text.injEq, Document.plain_list, Document.list.injEq, Node.faithful.map_inj,
      NodeId.faithful.list.inj, Diagnostic.faithful.list.inj] at same
    obtain ⟨rfl, below, nodesSame, rfl, rfl, rfl, rfl⟩ := same
    rw [Client.eq_of_plain_documents_eq clients clients' below, Array.toList_inj.mp nodesSame]
  present package := by simp [document]

/-! ## Names -/

open Document (NamesOnce)

/-- No name is written twice with the identifier of a node. -/
@[simp] theorem NodeId.namesOnce (id : NodeId) : id.document.NamesOnce := by
  simp [document]

/-- No name is written twice with usage. -/
@[simp] theorem Usage.namesOnce (usage : Usage) : usage.document.NamesOnce := by
  simp [document]

/-- No name is written twice with an access. -/
@[simp] theorem Access.namesOnce (access : Access) : access.document.NamesOnce := by
  cases access <;> simp [document]

/-- No name is written twice with a reference to a declaration. -/
@[simp] theorem Declaration.namesOnce (declaration : Declaration) :
    declaration.document.NamesOnce := by
  cases declaration <;> simp [document]

/-- No name is written twice with a literal. -/
@[simp] theorem Service.Literal.namesOnce (literal : Literal) : literal.document.NamesOnce := by
  cases literal <;> simp [document]

/-- No name is written twice with a remark. -/
@[simp] theorem RelatedRemark.namesOnce (remark : RelatedRemark) :
    remark.document.NamesOnce := by
  simp [document]

/-- No name is written twice with a report. -/
@[simp] theorem Diagnostic.namesOnce (diagnostic : Diagnostic) :
    diagnostic.document.NamesOnce := by
  simp [document]

/-- No name is written twice with a role. -/
@[simp] theorem Role.namesOnce (role : Role) : role.document.NamesOnce := by
  cases role <;> simp [document]

/-- No name is written twice with a property, whatever its sources are written as. -/
theorem Property.namesOnce_documentWith (property : Property) {sources : List Document}
    (each : ∀ source ∈ sources, source.NamesOnce) :
    (property.documentWith sources).NamesOnce := by
  simpa [documentWith] using each

/-- No name is written twice with a property. -/
@[simp] theorem Property.namesOnce (property : Property) : property.document.NamesOnce :=
  property.namesOnce_documentWith (by simp)

/-- No name is written twice with a source. -/
@[simp] theorem Source.namesOnce (source : Source) : source.document.NamesOnce := by
  cases source <;> simp [document]

/-- No name is written twice with a parameter on the wire. -/
@[simp] theorem WireParameter.namesOnce (parameter : WireParameter) :
    parameter.document.NamesOnce :=
  parameter.property.namesOnce_documentWith (by simp)

/-- No name is written twice with a scheme of authentication. -/
@[simp] theorem Service.AuthScheme.namesOnce (scheme : AuthScheme) :
    scheme.document.NamesOnce := by
  cases scheme <;> simp [document]

/-- No name is written twice with what a node stands for. -/
@[simp] theorem NodeKind.namesOnce (kind : NodeKind) : kind.document.NamesOnce := by
  -- Only a model has a map in it, the keys of which are the names.
  cases kind with
  | model node =>
    have subtypes (map : OrderedMap String NodeId) : (ModelNode.subtypesDocument map).NamesOnce :=
      Document.namesOnce_table_of_keys (fun _ _ => id) (by simp)
    simp [document, fields, tag, ModelNode.fields, subtypes]
  | builtin node => simp [document, fields, tag, BuiltinNode.fields]
  | enumeration node => simp [document, fields, tag, EnumNode.fields]
  | enumValue node => simp [document, fields, tag, EnumValueNode.fields]
  | union node => simp [document, fields, tag, UnionNode.fields]
  | constant node => simp [document, fields, tag, ConstantNode.fields]
  | _ => simp [document, fields, tag]

/-- No name is written twice with a node. -/
@[simp] theorem Node.namesOnce (node : Node) : node.document.NamesOnce := by
  simp [document]

/-- No name is written twice with the header of a response. -/
@[simp] theorem ResponseHeader.namesOnce (header : ResponseHeader) :
    header.document.NamesOnce := by
  simp [document]

/-- No name is written twice with a response. -/
@[simp] theorem HttpResponse.namesOnce (response : HttpResponse) :
    response.document.NamesOnce := by
  simp [document]

/-- No name is written twice with responses by status, since statuses differ in their labels. -/
@[simp] theorem ResponseMap.namesOnce (responses : ResponseMap) :
    (ResponseMap.document responses).NamesOnce :=
  Document.namesOnce_table_of_keys Statuses.eq_of_label_eq (by simp)

/-- No name is written twice with the request of an operation. -/
@[simp] theorem HttpOperation.namesOnce (operation : HttpOperation) :
    operation.document.NamesOnce := by
  simp [document]

/-- No name is written twice with the response of a method. -/
@[simp] theorem MethodResponse.namesOnce (response : MethodResponse) :
    response.document.NamesOnce := by
  simp [document]

/-- No name is written twice with a reference to an operation. -/
@[simp] theorem OperationRef.namesOnce (operation : OperationRef) :
    operation.document.NamesOnce := by
  simp [document]

/-- No name is written twice with paging. -/
@[simp] theorem Paging.namesOnce (paging : Paging) : paging.document.NamesOnce := by
  simp [document]

/-- No name is written twice with what is handed on to a parameter. -/
@[simp] theorem PropertyMapping.namesOnce (mapping : PropertyMapping) :
    mapping.document.NamesOnce := by
  simp [document]

/-- No name is written twice with the place of a URL. -/
@[simp] theorem PollingUrl.namesOnce (url : PollingUrl) : url.document.NamesOnce := by
  simp [document]

/-- No name is written twice with a property of a monitor. -/
@[simp] theorem MonitorProperty.namesOnce (property : MonitorProperty) :
    property.document.NamesOnce := by
  simp [document]

/-- No name is written twice with the names of states. -/
@[simp] theorem States.namesOnce (states : States) : states.document.NamesOnce := by
  simp [document]

/-- No name is written twice with a monitor. -/
@[simp] theorem StatusMonitor.namesOnce (monitor : StatusMonitor) :
    monitor.document.NamesOnce := by
  simp [document]

/-- No name is written twice with polling. -/
@[simp] theorem Polling.namesOnce (progress : Polling) : progress.document.NamesOnce := by
  -- Parameters are the one table in it, and their targets are keys of a map.
  have parameters : (Document.table (progress.parameters.entries.map fun (target, mapping) =>
      (target, mapping.document))).NamesOnce :=
    Document.namesOnce_table_of_keys (fun _ _ => id) (by simp)
  simpa [document] using parameters

/-- No name is written twice with what is told of a method of any kind. -/
@[simp] theorem ServiceMethod.namesOnce (method : ServiceMethod) :
    method.document.NamesOnce := by
  simp [document]

/-- No name is written twice with the kind of a method. -/
@[simp] theorem MethodKind.namesOnce (kind : MethodKind) : kind.document.NamesOnce := by
  cases kind <;> simp [document]

/-- No name is written twice with a method. -/
@[simp] theorem Method.namesOnce (method : Method) : method.document.NamesOnce := by
  simp [document]

/-- No name is written twice with the way a client is made. -/
@[simp] theorem ClientInitialization.namesOnce (initialization : ClientInitialization) :
    initialization.document.NamesOnce := by
  simp [document]

mutual

/-- No name is written twice with a client, by induction on the tree. -/
theorem Client.namesOnce : ∀ client : Client, client.document.NamesOnce
  | ⟨_, _, _, _, _, _, _, children⟩ => by
    simpa [document] using namesOnce_documents children

/-- No name is written twice with any of several clients. -/
theorem Client.namesOnce_documents : ∀ clients : List Client,
    ∀ written ∈ documents clients, written.NamesOnce
  | [] => by simp [documents]
  | client :: rest => by
    -- By induction on the tree: a client first, and then those beside it.
    rw [documents, List.forall_mem_cons]
    exact ⟨namesOnce client, namesOnce_documents rest⟩

end

/-- No name is written twice with a package. -/
theorem Package.namesOnce (package : Package) : package.document.NamesOnce := by
  simpa [document] using Client.namesOnce_documents package.clients

/-! ## Packages apart -/

open Document (TellsApart)

/--
Packages that are read alike are the same, as long as every number in them is finite. So are the
parts of which they are made, and no name comes twice in one record.
-/
theorem documents_tell_packages_apart :
    TellsApart Package.document ∧
      (∀ left right : Statuses, left.label = right.label → left = right) ∧
      TellsApart NodeKind.document ∧
      TellsApart Role.document ∧
      TellsApart MethodKind.document ∧
      TellsApart Source.document ∧
      TellsApart AuthScheme.document ∧
      TellsApart Declaration.document ∧
      TellsApart Literal.document ∧
      ∀ package : Package, package.document.NamesOnce :=
  -- Each part was shown to be written faithfully; what remains is to gather them.
  ⟨Package.faithful.tellsApart, Statuses.eq_of_label_eq, NodeKind.faithful.tellsApart,
    Role.faithful.tellsApart, MethodKind.faithful.tellsApart, Source.faithful.tellsApart,
    AuthScheme.faithful.tellsApart, Declaration.faithful.tellsApart, Literal.faithful.tellsApart,
    Package.namesOnce⟩

/-- A package of one constant, which nothing refers to. -/
def gazette (edition : Literal) : Package where
  name := "Gazette"
  clients := []
  catalogue := ⟨#[{ kind := .constant { value := edition, valueKind := .string } }]⟩
  models := []
  enums := []
  unions := []
  diagnostics := []

/-- A text and a number are told apart, however alike they are written. -/
theorem documents_tell_packages_apart_gazette :
    (gazette (.text "1")).document.IsFinite ∧
      (gazette (.number ⟨0x3FF0000000000000⟩)).document.IsFinite ∧
      (gazette (.text "1")).document.value ≠
        (gazette (.number ⟨0x3FF0000000000000⟩)).document.value ∧
      (gazette (.text "1")).document.NamesOnce := by
  have text : (gazette (.text "1")).document.IsFinite := by decide
  have number : (gazette (.number ⟨0x3FF0000000000000⟩)).document.IsFinite := by decide
  obtain ⟨tells, _, _, _, _, _, _, _, _, once⟩ := documents_tell_packages_apart
  refine ⟨text, number, fun alike => ?_, once _⟩
  -- The packages would be the same, but their constants are not.
  have same := congrArg Package.catalogue (tells _ _ text number alike)
  simp [gazette] at same

/-- Only finite numbers can be told from nothing at all. -/
example : (Document.ofOption Literal.document (some (.number ⟨0x7FF8000000000000⟩))).value =
    (Document.ofOption Literal.document none).value := by
  rfl

end ClientModel
