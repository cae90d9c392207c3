import ServiceMigration.Text.Cut
import ServiceMigration.Validation.Scalars
/-!
# Mentions of Java types

A type is mentioned by name; a mention of a collection also says which kind of collection and of
what elements.  An analysis spells this as a bare name or as a mapping, with parts missing, and the
reader fills in the rest: every mention that is read has a name that is not blank.
-/

namespace ServiceMigration

structure Collection where
  kind : String
  element : String
  deriving DecidableEq, Repr

structure TypeRef where
  name : String
  collection : Option Collection := none
  deriving DecidableEq, Repr

namespace TypeRef

/-- The text of a value that is a text and not blank. -/
def presentText? : Option Value → Option String
  | some (.scalar (.str s)) => if Text.isAllBlank s then none else some s
  | _ => none

/-- What stands between the first `<` and the last `>` of a name, without blanks around it. -/
def genericArgument? (name : String) : Option String :=
  match Text.between? '<' '>' name.toList with
  | none => none
  | some inner =>
    let argument := String.ofList (Text.trimBoth Text.isBlank inner)
    if argument.isEmpty then none else some argument

def anything : TypeRef := { name := "Object" }

def simple (name : String) : TypeRef :=
  if Text.isAllBlank name then anything else { name }

/-- The element of a collection: what is said, or else the argument in the name, the name itself, or
anything.  A name that is no text cannot stand for the element. -/
def elementOf (name element : Option Value) : Validation.Checked String :=
  match presentText? element with
  | some e => .ok e
  | none =>
    match (presentText? name).bind genericArgument? with
    | some e => .ok e
    | none =>
      match name with
      | none => .ok "Object"
      | some v => if v.isFalsy then .ok "Object" else Validation.readString v

def collectionFrom (name kind element : Option Value) : Validation.Checked TypeRef :=
  let kind := (presentText? kind).getD "List"
  (fun element : String =>
    { name := (presentText? name).getD (kind ++ "<" ++ element ++ ">")
      collection := some { kind, element } }) <$>
    (elementOf name element).within (.key "elementType")

/-- The value of the first of two keys that is there. -/
def either (first second : String) (entries : List (Scalar × Value)) : Option Value :=
  match Value.entry? (.str first) entries with
  | some v => some v
  | none => Value.entry? (.str second) entries

def readEntries (entries : List (Scalar × Value)) : Validation.Checked TypeRef :=
  let name := Value.entry? (.str "name") entries
  let kind := either "collectionType" "collection_type" entries
  let element := either "elementType" "element_type" entries
  let marked := !((Value.entry? (.str "collection") entries).map Value.isFalsy).getD true
  if marked || (presentText? kind).isSome then collectionFrom name kind element
  else .ok ((presentText? name).map simple |>.getD anything)

def read : Value → Validation.Checked TypeRef
  | .scalar (.str s) => .ok (simple s)
  | .dict entries => readEntries entries
  | _ => .fail (.notModel "TypeRef")

/-- A mention of a collection, named after its kind and its element. -/
def ofCollection (kind element : Value) : Validation.Checked TypeRef :=
  collectionFrom (some (.str (kind.text ++ "<" ++ element.text ++ ">"))) (some kind) (some element)

def toValue (t : TypeRef) : Value :=
  .object [
    ("name", .str t.name),
    ("collection", .bool t.collection.isSome),
    ("collectionType", .optional (fun c => .str c.kind) t.collection),
    ("elementType", .optional (fun c => .str c.element) t.collection)]

/-- The name that says what the type is made of: that of the element of a collection. -/
def contentName (t : TypeRef) : String :=
  match t.collection with
  | some c => c.element
  | none => t.name

end TypeRef

end ServiceMigration
