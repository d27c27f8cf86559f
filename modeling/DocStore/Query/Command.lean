import DocStore.Text.Case
import DocStore.Value

namespace DocStore

inductive CommandName where
  | aggregate
  | pipe
  | command
  | distinct
  | blobWrite
  | blobRead
  | blobRemove
  | blobTruncate
  | watch
  | other (name : String)
  deriving DecidableEq

namespace CommandName

def text : CommandName → String
  | aggregate => "aggregate"
  | pipe => "pipe"
  | command => "command"
  | distinct => "distinct"
  | blobWrite => "gfswrite"
  | blobRead => "gfsread"
  | blobRemove => "gfsremove"
  | blobTruncate => "gfstruncate"
  | watch => "watch"
  | other name => name

def ofText (s : String) : CommandName :=
  match Text.asciiLowercase s with
  | "aggregate" => aggregate
  | "pipe" => pipe
  | "command" => command
  | "distinct" => distinct
  | "gfswrite" => blobWrite
  | "gfsread" => blobRead
  | "gfsremove" => blobRemove
  | "gfsdelete" => blobRemove
  | "gfstruncate" => blobTruncate
  | "watch" => watch
  | _ => other s

-- Whether the name belongs to the family of blob commands, known or not.
def isBlob : CommandName → Bool
  | blobWrite => true
  | blobRead => true
  | blobRemove => true
  | blobTruncate => true
  | other name => Text.asciiLowercase (String.ofList (name.toList.take 3)) == "gfs"
  | _ => false

end CommandName

structure Command where
  name : CommandName
  payload : Value

inductive CommandKind where
  | insert
  | update
  | delete
  | save
  | command
  deriving DecidableEq

namespace CommandKind

def word : CommandKind → String
  | insert => "insert"
  | update => "update"
  | delete => "delete"
  | save => "save"
  | command => "command"

def title : CommandKind → String
  | insert => "Insert"
  | update => "Update"
  | delete => "Delete"
  | save => "Save"
  | command => "Command"

end CommandKind

end DocStore
