import DocStore.Store.Stream

namespace DocStore

-- A bucket opened for files of a given chunk size.
structure Bucket where
  name : String
  chunkSize : Nat

def Blob.holds (id : Value) (file : Blob) : Bool := file.id.same id

namespace Store

def files (s : Store) (bucket : String) : List Blob := s.buckets.getD bucket []

def setFiles (s : Store) (bucket : String) (files : List Blob) : Store :=
  { s with buckets := s.buckets.insert bucket files }

-- Stores what is read from the source, under a fresh identifier if none is given.
def upload (s : Store) (bucket : Bucket) (id : Option Value) (filename : String) (metadata : Document)
    (source : ByteSource) : Except StoreError Value × Store :=
  match source.read with
  | .error e => (.error e, s)
  | .ok data =>
    let id := id.getD (.objectId s.fresh)
    let s := { s with identifiers := s.identifiers + 1 }
    let files := s.files bucket.name
    if files.any (Blob.holds id) then (.error (.duplicate id), s.setFiles bucket.name files)
    else
      let file : Blob := ⟨id, filename, metadata, bucket.chunkSize, data⟩
      (.ok id, s.setFiles bucket.name (files ++ [file]))

def openById (s : Store) (bucket : String) (id : Value) : Except StoreError Download :=
  match (s.files bucket).find? (Blob.holds id) with
  | some file => .ok { rest := file.data }
  | none => .error (.noFileWithId id)

-- Of the files with the name, the one stored last.
def openByName (s : Store) (bucket filename : String) : Except StoreError Download :=
  match (s.files bucket).reverse.find? (·.filename == filename) with
  | some file => .ok { rest := file.data }
  | none => .error (.noFileNamed filename)

def deleteFile (s : Store) (bucket : String) (id : Value) : Except StoreError Unit × Store :=
  let files := s.files bucket
  let kept := files.filter fun file => !Blob.holds id file
  let s := s.setFiles bucket kept
  if kept.length = files.length then (.error (.noFileWithId id), s) else (.ok (), s)

def dropBucket (s : Store) (bucket : String) : Store :=
  { s with buckets := s.buckets.erase bucket }

-- The identifier and the name of every file in a bucket.
def fileNames (s : Store) (bucket : String) : List (Value × String) :=
  (s.files bucket).map fun file => (file.id, file.filename)

-- What is stored with a file besides its bytes.
def metadata? (s : Store) (bucket : String) (id : Value) : Option Document :=
  ((s.files bucket).find? (Blob.holds id)).map fun file =>
    OrderedMap.insert file.metadata "chunkSize" (.int64 (Int64.ofInt file.chunkSize))

end Store

end DocStore
