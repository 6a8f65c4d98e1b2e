import ResourceFilter.NameMap

/-!
What a resource offers to filters: the fields that may be used, and the columns they are stored
in.
-/

namespace ResourceFilter

abbrev FieldMap := NameMap String

namespace FieldMap

def identity (fields : List String) : FieldMap :=
  NameMap.ofList (fields.map fun field => (field, field))

end FieldMap

/-- The allow-list of a resource, in order, and the columns of fields whose column has another
name. A column may also be given to a field that is not allowed. -/
structure Schema where
  fields : List String
  columns : FieldMap

namespace Schema

def empty : Schema where
  fields := []
  columns := .empty

def allow (schema : Schema) (field : String) : Schema :=
  if schema.fields.contains field then schema
  else { schema with fields := schema.fields ++ [field] }

def setColumn (schema : Schema) (field column : String) : Schema :=
  { schema with columns := schema.columns.insert field column }

def allowAs (schema : Schema) (field column : String) : Schema :=
  (schema.allow field).setColumn field column

def isAllowed (schema : Schema) (field : String) : Bool :=
  schema.fields.contains field

def column (schema : Schema) (field : String) : String :=
  (schema.columns.get? field).getD field

def columnMap (schema : Schema) : FieldMap :=
  NameMap.ofList (schema.fields.map fun field => (field, schema.column field))

def extend (schema : Schema) (fields : List String) (columns : List (String × String)) : Schema :=
  columns.foldl (fun schema entry => schema.allowAs entry.1 entry.2)
    (fields.foldl allow schema)

theorem get?_columnMap (schema : Schema) (field : String) :
    schema.columnMap.get? field =
      if field ∈ schema.fields then some (schema.column field) else none :=
  NameMap.get?_ofList_map schema.column schema.fields field

end Schema

end ResourceFilter
