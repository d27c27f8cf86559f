import DocStore.Config.Naming
import DocStore.Config.Toml
import DocStore.Filter.Compile

namespace DocStore

-- How saving writes a document that is there already.
inductive SaveMode where
  -- The new document takes the place of the old one.
  | replace
  -- Fields that the new document does not mention stay.
  | merge
  deriving DecidableEq

namespace SaveMode

def name : SaveMode → String
  | replace => "replace"
  | merge => "merge"

def ofText (s : String) : Except DbError SaveMode :=
  let word := Text.asciiLowercase (Text.trim s)
  match word with
  | "replace" => .ok replace
  | "merge" => .ok merge
  | _ => .error (.config (.unknownSaveMode word))

end SaveMode

namespace CompositePolicy

def name : CompositePolicy → String
  | permissive => "permissive"
  | strict => "strict"

def ofText (s : String) : Except DbError CompositePolicy :=
  let word := Text.asciiLowercase (Text.trim s)
  match word with
  | "permissive" => .ok permissive
  | "strict" => .ok strict
  | _ => .error (.config (.unknownPolicy word))

end CompositePolicy

structure Config where
  fieldNaming : FieldNaming := .asIs
  compositePolicy : CompositePolicy := .permissive
  saveMode : SaveMode := .replace
  disableTx : Bool := false
  fetchBatchSize : Nat := 64
  blobChunkSize : Nat := 1024
  watchPollMillis : Nat := 200
  deriving DecidableEq

namespace Config

def validate (c : Config) : Except DbError Config :=
  if c.fetchBatchSize = 0 then .error (.config (.notPositive "fetch_batch_size"))
  else if c.blobChunkSize = 0 then .error (.config (.notPositive "blob_chunk_size"))
  else .ok c

-- The choice that a value names, as a text or as the key of an empty table.
def choice? {α : Type} (choices : List (String × α)) : Toml → Option α
  | .string s => choices.lookup s
  | .table _ [(key, .table _ [])] => choices.lookup key
  | .table _ [(key, .array _ [])] => choices.lookup key
  | _ => none

def boolean? : Toml → Option Bool
  | .boolean b => some b
  | _ => none

def number? (limit : Nat) : Toml → Option Nat
  | .integer n => if 0 ≤ n ∧ n ≤ limit then some n.toNat else none
  | _ => none

-- The value of a key, or the default where the key is missing.
def setting? {α : Type} (fields : Toml.Fields) (key : String) (default : α) (read? : Toml → Option α) :
    Option α :=
  match fields.get? key with
  | none => some default
  | some v => read? v

def namings : List (String × FieldNaming) :=
  [.asIs, .lowercase, .snakeCase, .camelCase].map fun naming => (naming.name, naming)

def policies : List (String × CompositePolicy) :=
  [.permissive, .strict].map fun policy => (policy.name, policy)

def saveModes : List (String × SaveMode) := [.replace, .merge].map fun mode => (mode.name, mode)

-- Settings that are not mentioned keep their defaults; keys that are no
-- settings count as nothing.
def ofFields? (fields : Toml.Fields) : Option Config := do
  let d : Config := {}
  return {
    fieldNaming := ← setting? fields "field_naming" d.fieldNaming (choice? namings)
    compositePolicy := ← setting? fields "composite_policy" d.compositePolicy (choice? policies)
    saveMode := ← setting? fields "save_mode" d.saveMode (choice? saveModes)
    disableTx := ← setting? fields "disable_tx" d.disableTx boolean?
    fetchBatchSize :=
      ← setting? fields "fetch_batch_size" d.fetchBatchSize (number? Integer.maxUnsigned64)
    blobChunkSize := ← setting? fields "blob_chunk_size" d.blobChunkSize (number? Integer.maxUnsigned32)
    watchPollMillis :=
      ← setting? fields "watch_poll_ms" d.watchPollMillis (number? Integer.maxUnsigned64) }

def ofToml (text : String) : Except DbError Config :=
  match (Toml.parse? text).bind ofFields? with
  | some c => .ok c
  | none => .error (.config .notToml)

-- The contents of a file, if there is such a file.
def ofFile (contents : Option (List UInt8)) : Except DbError Config :=
  match contents with
  | none => .error (.file .missing)
  | some bytes =>
    match Text.utf8? bytes with
    | none => .error (.file .notText)
    | some text => ofToml text

abbrev Environment := OrderedMap String

-- A failure with the name of the variable in front of it.
def underName {α : Type} (name : String) (r : Except DbError α) : Except DbError α :=
  match r with
  | .error (.config cause) => .error (.config (.variableChoice name cause))
  | r => r

-- What a variable says, or the setting as it is.
def fromVariable {α : Type} (env : Environment) (name : String) (current : α)
    (read : String → Except DbError α) : Except DbError α :=
  match env.get? name with
  | none => .ok current
  | some s => read (Text.trim s)

def choiceFrom {α : Type} (env : Environment) (name : String) (current : α)
    (read : String → Except DbError α) : Except DbError α :=
  fromVariable env name current fun s => underName name (read s)

def numberFrom (env : Environment) (name : String) (current limit : Nat) : Except DbError Nat :=
  fromVariable env name current fun s =>
    match Integer.parseUnsigned limit s with
    | .ok n => .ok n
    | .error e => .error (.config (.variableNumber name e))

def isYes (s : String) : Bool := ["1", "true", "yes"].contains (Text.asciiLowercase s)

-- The variables are read one after the other, up to the first that makes no sense.
def overriddenBy (c : Config) (env : Environment) : Except DbError Config := do
  let fieldNaming ← choiceFrom env "FLEXDOC_FIELD_NAMING" c.fieldNaming FieldNaming.ofText
  let compositePolicy ←
    choiceFrom env "FLEXDOC_COMPOSITE_POLICY" c.compositePolicy CompositePolicy.ofText
  let saveMode ← choiceFrom env "FLEXDOC_SAVE_MODE" c.saveMode SaveMode.ofText
  let disableTx :=
    match env.get? "FLEXDOC_DISABLE_TX" with
    | none => c.disableTx
    | some s => isYes s
  let fetchBatchSize ←
    numberFrom env "FLEXDOC_FETCH_BATCH" c.fetchBatchSize Integer.maxUnsigned64
  let blobChunkSize ← numberFrom env "FLEXDOC_BLOB_CHUNK" c.blobChunkSize Integer.maxUnsigned32
  Config.validate
    { c with fieldNaming, compositePolicy, saveMode, disableTx, fetchBatchSize, blobChunkSize }

end Config

end DocStore
