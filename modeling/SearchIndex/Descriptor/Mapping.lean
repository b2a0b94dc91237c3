/-
# The mapping of a descriptor

A descriptor becomes the mapping that the service takes.  The id field comes first, then the
declared fields in their order, then the tenant field when documents carry tenants.  The first
problem met in that order is reported.
-/
import SearchIndex.Descriptor
import SearchIndex.Text.LowerCase
import SearchIndex.Mapping.Options
import SearchIndex.Failure

namespace SearchIndex

/-- The field that holds the id of the tenant. -/
def tenantField : String := "__tenant_id"

/-- The format of a date for which none is declared. -/
def defaultDateFormat : String := "strict_date_optional_time||epoch_millis"

/-- The field type that a logical type names; `string` is decided by whether it is analyzed. -/
def logicalType? (name : String) (analyzed : Bool) : Option DataType :=
  if name = "string" then some (if analyzed then .text else .keyword)
  else if name = "int" then some .integer
  else DataType.ofName? name

/-- The field type of a declaration, whose logical type may be in any case. -/
def Declaration.dataType? (d : Declaration) : Option DataType :=
  logicalType? (Text.lowerCase d.type) d.analyzed

/-- The attributes of a field that holds no others. -/
def Declaration.attributes (d : Declaration) (type : DataType) : Attributes where
  type := .of type
  index := if d.indexed then none else some false
  store := if d.stored then some true else none
  docValues := if d.sortable then some true else none
  analyzer := if type = .text then d.analyzer else none
  format :=
    if type = .date then
      match d.dateFormat with
      | some f => some (if f.isEmpty then defaultDateFormat else f)
      | none => some defaultDateFormat
    else none
  nullValue := if type = .text then .null else d.nullMarker

/-- The fields that are declared.  `above` is the path of the field that holds them, with a point at
its end, and `taken` are the names already given there. -/
def Declarations.fields? (above : String) (taken : List String) :
    Declarations → Except MappingProblem Fields
  | .empty => .ok .empty
  | .field d children rest => do
    let path := above ++ d.name
    if d.name ∈ taken then throw (.declaredTwice path)
    let some type := d.dataType? | throw (.noEquivalent path d.type)
    if type.isContainer then
      let below ← children.fields? (path ++ ".") []
      let others ← rest.fields? above (d.name :: taken)
      return .field d.name (.ofType (.of type)) below others
    else
      unless children.isEmpty do throw (.embedded path d.type)
      if d.sortable && type = .text then throw (.sortableText path)
      let others ← rest.fields? above (d.name :: taken)
      return .field d.name (d.attributes type) .empty others

/-- The attributes of the field that holds the id. -/
def idAttributes : Attributes := { Attributes.ofType (.of .keyword) with store := some true }

/-- The mapping of a descriptor under the options of its index. -/
def EntityDescriptor.mapping? (e : EntityDescriptor) (options : SchemaOptions) :
    Except MappingProblem TypeMapping := do
  let declared ← e.fields.fields? "" [e.idField]
  let fields := Fields.field e.idField idAttributes .empty declared
  if options.multitenancy then
    if tenantField ∈ fields.names then throw (.reservedName tenantField)
    return ⟨"strict", fields.append tenantField ⟨.ofType (.of .keyword), .empty⟩⟩
  else return ⟨"strict", fields⟩

/-- The mapping of a descriptor; a problem is told with the entity type. -/
def EntityDescriptor.mapping (e : EntityDescriptor) (options : SchemaOptions) :
    Except Failure TypeMapping :=
  match e.mapping? options with
  | .ok mapping => .ok mapping
  | .error problem => .error (.noMapping e.entityType problem)

end SearchIndex
