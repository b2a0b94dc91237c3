/-
# The remote form of mappings

`toRemote` gives the JSON that the service takes: attributes that are not set are left out, fields
stand in the order of their names.  `ofRemote` reads what the service reports: a field without a
type is an object, a policy that is no text is taken by its literal.  `check` reads a mapping in the
form of its own fields.
-/
import SearchIndex.Mapping.Options
import SearchIndex.Mapping.Fields
import SearchIndex.Failure

namespace SearchIndex

/-- A member of an object, unless the value is null. -/
def member? (name : String) : Json → Json.Members
  | .null => []
  | j => [(name, j)]

/-- The attributes as members of the remote form, the type first. -/
def Attributes.toRemote (a : Attributes) : Json.Members :=
  ("type", .text a.type.name) ::
    (member? "index" (.ofBool? a.index) ++ member? "store" (.ofBool? a.store)
      ++ member? "doc_values" (.ofBool? a.docValues) ++ member? "analyzer" (.ofText? a.analyzer)
      ++ member? "format" (.ofText? a.format) ++ member? "null_value" a.nullValue)

/-- The remote form of each field, in the order of the fields. -/
def Fields.toRemote : Fields → Json.Members
  | .empty => []
  | .field name attributes children rest =>
    (name, .object (attributes.toRemote ++
      if children.isEmpty then []
      else [("properties", .object (Table.sorted children.toRemote))])) :: rest.toRemote

/-- The remote form of a field. -/
def Property.toRemote (p : Property) : Json :=
  .object (p.attributes.toRemote ++
    if p.children.isEmpty then []
    else [("properties", .object (Table.sorted p.children.toRemote))])

/-- The remote form of the mapping of an entity type. -/
def TypeMapping.toRemote (m : TypeMapping) : Json :=
  .object [("dynamic", .text m.dynamic),
    ("properties", .object (Table.sorted m.fields.toRemote))]

/-- The body that creates an index: its mappings in the order of the entity types. -/
def IndexSchema.toRemote (s : IndexSchema) : Json :=
  .object [("mappings", .object (Table.sorted (Table.mapValues TypeMapping.toRemote s.mappings)))]

/-! ## Checking attributes -/

/-- The type of a field: any text, of which the names of the known types are preferred. -/
def checkFieldType : Json → Checked FieldType
  | .text s => .valid ⟨s⟩
  | _ => .invalid [⟨[.name "str-enum[DataType]"], .notAMember⟩, ⟨[.name "str"], .stringType⟩]

/-- The attributes among the members of a field, given a check for the type. -/
def checkAttributes (type : Checked FieldType) (members : Json.Members) : Checked Attributes :=
  Attributes.mk <$> type
    <*> optional members "index" none (checkNullable checkBool)
    <*> optional members "store" none (checkNullable checkBool)
    <*> optional members "doc_values" none (checkNullable checkBool)
    <*> optional members "analyzer" none (checkNullable checkText)
    <*> optional members "format" none (checkNullable checkText)
    <*> optional members "null_value" .null checkAny

/-! ## What the service reports -/

/-- The attributes of a reported field. -/
def Attributes.ofRemote (members : Json.Members) : Except Failure Attributes :=
  let type := optional members "type" (FieldType.of .object) checkFieldType
  (checkAttributes type members).orFail "PropertyMapping"

mutual

/-- Reads a reported field: first the fields below it, then its own attributes. -/
def Property.ofRemote : Json → Except Failure Property
  | .object members => do
    let children ← propertiesOfRemote members
    let attributes ← Attributes.ofRemote members
    return ⟨attributes, children⟩
  | _ => .error (.misfit .notAnObject)

/-- Reads the fields that the members of a field or mapping report. -/
def propertiesOfRemote : List (String × Json) → Except Failure Fields
  | [] => .ok .empty
  | (name, j) :: rest =>
    if name = "properties" then
      match j with
      | .object members => fieldsOfRemote members
      | _ => .error (.misfit .notAnObject)
    else propertiesOfRemote rest

/-- Reads reported fields in order. -/
def fieldsOfRemote : List (String × Json) → Except Failure Fields
  | [] => .ok .empty
  | (name, j) :: rest => do
    let p ← Property.ofRemote j
    let others ← fieldsOfRemote rest
    return .field name p.attributes p.children others

end

/-- Reads the reported mapping of an entity type. -/
def TypeMapping.ofRemote : Json → Except Failure TypeMapping
  | .object members => do
    let dynamic := ((Table.get? members "dynamic").getD (.text "true")).display
    let fields ← propertiesOfRemote members
    return ⟨dynamic, fields⟩
  | _ => .error (.misfit .notAnObject)

/-- Reads the reported mappings of an index, in order. -/
def mappingsOfRemote : List (String × Json) → Except Failure (Table TypeMapping)
  | [] => .ok []
  | (name, j) :: rest => do
    let mapping ← TypeMapping.ofRemote j
    let others ← mappingsOfRemote rest
    return (name, mapping) :: others

/-! ## Mappings in the form of their own fields -/

mutual

/-- Checks a field: its attributes, then the fields below it. -/
def Property.check : Json → Checked Property
  | .object members =>
    Property.mk <$> checkAttributes (required members "type" checkFieldType) members
      <*> checkChildren members
  | _ => .issue .modelType

/-- Checks the fields that the members of a field or mapping hold. -/
def checkChildren : List (String × Json) → Checked Fields
  | [] => .valid .empty
  | (name, j) :: rest =>
    if name = "properties" then
      Checked.below (.name name)
        (match j with
        | .object members => checkFields members
        | _ => .issue .tableType)
    else checkChildren rest

/-- Checks fields in order. -/
def checkFields : List (String × Json) → Checked Fields
  | [] => .valid .empty
  | (name, j) :: rest =>
    (fun p others => .field name p.attributes p.children others)
      <$> (Property.check j).below (.name name) <*> checkFields rest

end

/-- Checks the mapping of an entity type. -/
def TypeMapping.check : Json → Checked TypeMapping :=
  checkModel fun members => TypeMapping.mk
    <$> optional members "dynamic" "strict" checkText
    <*> checkChildren members

/-- Checks a target schema. -/
def IndexSchema.check : Json → Checked IndexSchema :=
  checkModel fun members => IndexSchema.mk
    <$> required members "name" checkText
    <*> optional members "mappings" [] (checkTable TypeMapping.check)

end SearchIndex
