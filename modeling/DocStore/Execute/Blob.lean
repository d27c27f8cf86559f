import DocStore.Client
import DocStore.Execute.Params
import DocStore.Query

namespace DocStore

structure BlobOptions where
  id : Option Value
  name : String
  metadata : Document
  chunkSize : Option Nat

namespace BlobOptions

-- Sizes that are no chunk sizes count as none; other types are refused.
def chunkSizeOf (size : Option Value) : Except DbError (Option Nat) :=
  let positive (n : Int) : Option Nat :=
    if 0 < n ∧ n ≤ Integer.maxUnsigned32 then some n.toNat else none
  match size with
  | none => .ok none
  | some .null => .ok none
  | some (.int32 n) => .ok (positive n.toInt)
  | some (.int64 n) => .ok (positive n.toInt)
  | some v => .error (.dispatch (.blobChunkSize v))

def documentOf : Value → Except DbError Document
  | .document d => .ok d
  | .null => .ok []
  | v => .error (.dispatch (.blobOptions v))

def ofPayload (payload : Value) : Except DbError BlobOptions := do
  let options ← documentOf payload
  let chunkSize ← chunkSizeOf (options.get? "size")
  return {
    id := (options.get? "id").filter (!·.isNull)
    name := (options.string? "name").getD ""
    metadata := (options.document? "metadata").getD []
    chunkSize }

-- The name, or else the text of the identifier.
def nameOrId (o : BlobOptions) : Option String :=
  if !o.name.isEmpty then some o.name
  else
    match o.id with
    | some (.string s) => if s.isEmpty then some (Value.string s).display else some s
    | some id => some id.display
    | none => none

end BlobOptions

namespace Blob

def nameLength : Nat := 32

def nameChar (n : Nat) : Char :=
  if n < 10 then Char.ofNat (48 + n)
  else if n < 36 then Char.ofNat (55 + n)
  else Char.ofNat (61 + n)

-- A name of letters and digits for a file without one, different for each number.
def inventedName (serial : Nat) : String :=
  String.ofList ((List.range nameLength).map fun i =>
    nameChar ((serial / Nat.pow 62 (nameLength - 1 - i) + 17 * i) % 62))

-- Drops what is stored under an identifier that is about to be written.
def forget (bucket : Bucket) (id : Option Value) : ClientM Unit := fun client =>
  match id with
  | none => (.ok (), client)
  | some id => (.ok (), { client with store := (client.store.deleteFile bucket.name id).2 })

def write (bucket : Bucket) (o : BlobOptions) (source : Option ByteSource) : ClientM Value := do
  match source with
  | none => throw (.precondition .blobSource)
  | some source =>
    forget bucket o.id
    Client.onStore "error upload file to blob storage" fun s =>
      let filename := o.nameOrId.getD (inventedName s.identifiers)
      s.upload bucket o.id filename o.metadata source

def openFor (s : Store) (bucket : Bucket) (o : BlobOptions) : Except StoreError Download :=
  match o.id with
  | some id => s.openById bucket.name id
  | none => s.openByName bucket.name o.name

-- Copies a file to the sink. The download is closed in any case.
def copy (download : Download) (sink : ByteSink) (s : Store) : Except StoreError CopyReport × Store :=
  let (copied, download) := download.copyTo sink
  (copied, (download.close s).2)

def read (bucket : Bucket) (o : BlobOptions) (output : Option ByteSink) : ClientM CopyReport := do
  match output with
  | none => throw (.precondition .blobSink)
  | some sink =>
    if o.id.isNone && o.name.isEmpty then throw (.precondition .blobReadTarget)
    let label := bucket.name ++ "-" ++ o.nameOrId.getD ""
    let download ← Client.onStore ("unable to open blob " ++ label) fun s => (openFor s bucket o, s)
    Client.onStore ("unable to read blob " ++ label) (copy download sink)

def removalTarget (o : BlobOptions) : Except DbError Value :=
  match o.id with
  | none => .error (.precondition .blobRemoveTarget)
  | some (.string s) =>
    if s.isEmpty then .error (.precondition .blobRemoveTarget) else .ok (.string s)
  | some id => .ok id

def remove (bucket : Bucket) (o : BlobOptions) : ClientM Unit := do
  let id ← removalTarget o
  Client.onStore "unable to remove blob" fun s => s.deleteFile bucket.name id

def truncate (bucket : Bucket) : ClientM Unit :=
  Client.onStore "unable to truncate blob storage" fun s => (.ok (), s.dropBucket bucket.name)

end Blob

end DocStore
