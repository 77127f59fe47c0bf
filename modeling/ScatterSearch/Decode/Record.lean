import ScatterSearch.Decode.Decoder

/-!
# Records

A record is read from an object by the names of its fields, or from an array by their order. Fields
are described one after the other, in the order of their declaration:

    Shard.mk <$> required "table" string <*> required "shard" string

Errors come out in the order of the document: each field is checked where it stands, a name that
comes twice is refused where it comes again, unknown names are passed over; only then are missing
fields noticed, in the order of declaration.
-/

namespace ScatterSearch

/-- What the reader of a record has to know about one field. -/
structure Field where
  name : String
  /-- may be missing when the record is given as an array -/
  spare : Bool
  /-- what is wrong with a value for the field -/
  check : Origin → Doc → Option DecodeError

/-- A description of a record's fields, and how its value is built once they were found. -/
structure Record (α : Type) where
  fields : List Field
  build : Origin → (String → Option Doc) → Except DecodeError α

namespace Record

variable {α β : Type}

instance : Functor Record where
  map f r := ⟨r.fields, fun o find => (r.build o find).map f⟩

instance : Applicative Record where
  pure a := ⟨[], fun _ _ => .ok a⟩
  seq f x := ⟨f.fields ++ (x ()).fields, fun o find => do
    let g ← f.build o find
    let a ← (x ()).build o find
    return g a⟩

/-- The error of a decoder on a document, if any. -/
def errorOf (d : Decoder α) (o : Origin) (doc : Doc) : Option DecodeError :=
  match d o doc with
  | .ok _ => none
  | .error e => some e

/-- A field that has to be there. -/
def required (name : String) (d : Decoder α) : Record α :=
  ⟨[⟨name, false, errorOf d⟩], fun o find =>
    match find name with
    | some doc => d o doc
    | none => .error (.missingField name)⟩

/-- A field that may be missing from an object, or be `null`. -/
def optional (name : String) (d : Decoder α) : Record (Option α) :=
  ⟨[⟨name, false, errorOf d.option⟩], fun o find =>
    match find name with
    | some doc => d.option o doc
    | none => .ok none⟩

/-- A field with a value of its own for when it is missing. -/
def withDefault (name : String) (d : Decoder α) (default : α) : Record α :=
  ⟨[⟨name, true, errorOf d⟩], fun o find =>
    match find name with
    | some doc => d o doc
    | none => .ok default⟩

/-- Goes through the fields of an object in order and stops at the first that is wrong. -/
def scan (fields : List Field) (o : Origin) (seen : List String) :
    List (String × Option Fault × Doc) → Except DecodeError Unit
  | [] => .ok ()
  | (name, bad, doc) :: rest => do
    rejectFault bad
    match fields.find? (·.name = name) with
    | none => do
      rejectFault (doc.firstFault false)
      scan fields o seen rest
    | some field =>
      if name ∈ seen then .error (.duplicateField name)
      else match field.check o doc with
        | some e => .error e
        | none => scan fields o (name :: seen) rest

/-- Goes through the items of an array along with the fields they stand for. `index` counts the
fields passed. -/
def align (expected : String) (o : Origin) (ending : Option Fault) (index : Nat) :
    List Field → List Doc → Except DecodeError Unit
  | [], _ => .ok ()
  | field :: fields, [] => do
    rejectFault ending
    if field.spare then align expected o ending (index + 1) fields []
    else .error (.wrongLength index expected)
  | field :: fields, doc :: docs =>
    match field.check o doc with
    | some e => .error e
    | none => align expected o ending (index + 1) fields docs

/-- Reads a record from the fields of an object. -/
def ofMap (r : Record α) (o : Origin) (fields : List (String × Option Fault × Doc))
    (ending : Option Fault) : Except DecodeError α := do
  scan r.fields o [] fields
  rejectFault ending
  r.build o fun name => (fields.find? (·.1 = name)).map (·.2.2)

/-- Reads a record from the items of an array. -/
def ofSeq (r : Record α) (expecting : String) (o : Origin) (items : List Doc)
    (ending : Option Fault) : Except DecodeError α := do
  let size := r.fields.length
  align (expecting ++ " with " ++ counted size "element") o ending 0 r.fields items
  Decoder.noSurplus o size items ending
  let named := (r.fields.map (·.name)).zip items
  r.build o fun name => (named.find? (·.1 = name)).map (·.2)

/-- The decoder of a record, under the name that messages have for it. -/
def decoder (expecting : String) (r : Record α) : Decoder α := fun o doc =>
  match Shape.of doc with
  | .map fields ending => r.ofMap o fields ending
  | .seq items ending => r.ofSeq expecting o items ending
  | s => .error (s.mismatch expecting)

end Record

end ScatterSearch
