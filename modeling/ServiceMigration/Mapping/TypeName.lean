import ServiceMigration.Service.TypeRef
import ServiceMigration.Text.Case
/-!
# Names of types

How the name of a Java type becomes the annotation of a generated field, and how the name of a
method becomes that of a function.  Every function here is total: an unknown type keeps its simple
name.
-/

namespace ServiceMigration

/-- The name of a type without its arguments and without its package. -/
def simpleName (name : String) : String :=
  String.ofList (Text.afterLast '.' (Text.trimBoth Text.isBlank (Text.beforeFirst '<' name.toList)))

def platformTypes : List (String × String) := [
  ("String", "str"), ("char", "str"), ("Character", "str"), ("CharSequence", "str"),
  ("int", "int"), ("Integer", "int"), ("long", "int"), ("Long", "int"),
  ("short", "int"), ("Short", "int"), ("byte", "int"), ("Byte", "int"), ("BigInteger", "int"),
  ("double", "float"), ("Double", "float"), ("float", "float"), ("Float", "float"),
  ("boolean", "bool"), ("Boolean", "bool"), ("BigDecimal", "Decimal"),
  ("Instant", "datetime"), ("LocalDateTime", "datetime"), ("OffsetDateTime", "datetime"),
  ("ZonedDateTime", "datetime"), ("Date", "datetime"), ("LocalDate", "date"),
  ("LocalTime", "time"), ("UUID", "UUID"), ("Object", "Any"), ("Map", "dict"),
  ("HashMap", "dict"), ("void", "None"), ("Void", "None")]

def anyAnnotation : String := "Any"

def annotationOfName (name : String) : String :=
  let simple := simpleName name
  if simple.isEmpty then anyAnnotation else (platformTypes.lookup simple).getD simple

def listOf (element : String) : String := "List[" ++ element ++ "]"

def TypeRef.annotated (t : TypeRef) : String :=
  match t.collection with
  | some c => listOf (annotationOfName c.element)
  | none => annotationOfName t.name

/-- Put an underscore before every capital of the Latin alphabet. -/
def markCapitals : List Char → List Char
  | [] => []
  | c :: rest => (if c.isUpper then ['_', c] else [c]) ++ markCapitals rest

/-- Of several underscores in a row keep one. -/
def singleUnderscores : List Char → List Char
  | '_' :: '_' :: rest => singleUnderscores ('_' :: rest)
  | c :: rest => c :: singleUnderscores rest
  | [] => []

/-- A name in words joined by underscores, all small. -/
def snakeCase (name : String) : String :=
  let marked := match name.toList with
    | [] => []
    | c :: rest => c :: markCapitals rest
  String.ofList (singleUnderscores (Text.lower (String.ofList marked)).toList)

end ServiceMigration
