import ServiceMigration.Mapping.TypeName
import ServiceMigration.Service.ModuleSpec
import ServiceMigration.Text.Word
/-!
# The data-transfer types that endpoints need

A chunk of a module carries the data-transfer types that its endpoints mention, those that the
fields of these mention, and so on.  They are admitted breadth first, in the order in which they are
mentioned; of several types of one simple name the first declared is meant.
-/

namespace ServiceMigration.Chunk

def startsIdentifier (c : Char) : Bool :=
  (c.toNat < 128 && c.isAlpha) || c == '_' || c == '$'

/-- A character that goes on an identifier; packages are part of it. -/
def continuesIdentifier (c : Char) : Bool := Text.isWordChar c || c == '$' || c == '.'

/-- The identifiers in a text, after the characters of one that has begun, latest first. -/
def identifiersFrom : Option (List Char) → List Char → List (List Char)
  | none, [] => []
  | some word, [] => [word.reverse]
  | none, c :: rest =>
    if startsIdentifier c then identifiersFrom (some [c]) rest else identifiersFrom none rest
  | some word, c :: rest =>
    if continuesIdentifier c then identifiersFrom (some (c :: word)) rest
    else word.reverse :: identifiersFrom none rest

/-- The simple names of the identifiers in a text, in order. -/
def namesIn (text : String) : List String :=
  (identifiersFrom none text.toList).map fun word => simpleName (String.ofList word)

/-- The names that a mention of a type may mean: those in its element, and those in its name. -/
def referencedNames (t : TypeRef) : List String :=
  match t.collection with
  | some c => (if c.element.isEmpty then [] else namesIn c.element) ++ namesIn t.name
  | none => namesIn t.name

/-- The types that an endpoint mentions, in order. -/
def mentions (e : Endpoint) : List TypeRef :=
  e.requestBody.toList ++ e.responseBody.toList ++ e.allParams.map (·.type)

/-- Data-transfer types by simple name; the first entry of a name counts. -/
def byName (dtos : List Dto) : List (String × Dto) := dtos.map fun d => (simpleName d.name, d)

/-- What has been admitted, and which of it has not been looked into. -/
structure Closure where
  admitted : List (String × Dto) := []
  pending : List Dto := []

namespace Closure

/-- Admit the data-transfer type of a name, if there is one and it is new. -/
def take (table : List (String × Dto)) (c : Closure) (name : String) : Closure :=
  if c.admitted.any (·.1 == name) then c
  else
    match table.lookup name with
    | some d => { admitted := c.admitted ++ [(name, d)], pending := c.pending ++ [d] }
    | none => c

def takeAll (table : List (String × Dto)) (c : Closure) (types : List TypeRef) : Closure :=
  (types.flatMap referencedNames).foldl (take table) c

/-- Look into what is pending, oldest first.  The fuel is the number of types that can be
admitted. -/
def run (table : List (String × Dto)) : Nat → Closure → Closure
  | 0, c => c
  | fuel + 1, c =>
    match c.pending with
    | [] => c
    | d :: rest =>
      run table fuel (takeAll table { c with pending := rest } (d.fields.map (·.type)))

end Closure

/-- The data-transfer types that some endpoints need, in the order of their admission. -/
def requiredDtos (endpoints : List Endpoint) (dtos : List Dto) : List Dto :=
  let table := byName dtos
  let start := Closure.takeAll table {} (endpoints.flatMap mentions)
  (Closure.run table dtos.length start).admitted.map (·.2)

end ServiceMigration.Chunk
