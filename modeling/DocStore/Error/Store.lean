import DocStore.Regex.Error
import DocStore.Value.Display

namespace DocStore

-- Handle of a session. Its text has the shape of a random identifier.
structure SessionId where
  serial : Nat
  deriving DecidableEq

def SessionId.text (id : SessionId) : String :=
  let digits := Nat.toDigits 16 id.serial
  "7d0f52c1-9be4-4a36-8c15-" ++
    String.ofList (List.replicate (12 - digits.length) '0' ++ digits)

inductive StoreErrorKind where
  | message
  | notFound
  | duplicateKey
  | unsupported
  | session
  | io
  | bson
  deriving DecidableEq

inductive StoreError where
  -- A failure that was asked for in advance.
  | injected (call : String)
  | emptyCommand
  | collectionExpected (command : String)
  | pipelineMissing
  | stageNotDocument
  | keyMissing
  | identifierImmutable
  | cursorClosed
  | changesClosed
  | arrayExpected (op : String)
  | documentExpected (op : String)
  | entriesExpected (op : String)
  | regexExpected
  | searchMissing
  | setTooLarge (op : String) (limit count : Nat)
  | regexInvalid (pattern : String) (error : RegexError)
  | incrementNotNumeric
  | tooManySortKeys (count limit : Nat)
  | mixedProjection
  | stageKeys
  | countExpected (stage : String)
  | countFieldExpected
  | groupKeyMissing
  | accumulatorForm (key : String)
  | unknownTopLevelOperator (name : String)
  | unknownOperator (name : String)
  | unknownUpdateOperator (name : String)
  | unknownStage (name : String)
  | unknownAccumulator (name : String)
  | unknownCommand (name : String)
  | duplicate (id : Value)
  | noFileWithId (id : Value)
  | noFileNamed (name : String)
  | unknownSession (id : SessionId)
  | sourceBroken
  | sinkBroken
  | downloadClosed

namespace StoreError

def kind : StoreError → StoreErrorKind
  | unknownTopLevelOperator _ => .unsupported
  | unknownOperator _ => .unsupported
  | unknownUpdateOperator _ => .unsupported
  | unknownStage _ => .unsupported
  | unknownAccumulator _ => .unsupported
  | unknownCommand _ => .unsupported
  | duplicate _ => .duplicateKey
  | noFileWithId _ => .notFound
  | noFileNamed _ => .notFound
  | unknownSession _ => .session
  | sourceBroken => .io
  | sinkBroken => .io
  | downloadClosed => .io
  | _ => .message

def reason : StoreError → String
  | injected call => "injected failure in " ++ call
  | emptyCommand => "empty command"
  | collectionExpected command => command ++ " needs a collection name"
  | pipelineMissing => "aggregate needs a pipeline"
  | stageNotDocument => "stages must be documents"
  | keyMissing => "distinct needs a key"
  | identifierImmutable => "the _id field is immutable"
  | cursorClosed => "cursor is closed"
  | changesClosed => "change stream is closed"
  | arrayExpected op => op ++ " needs an array"
  | documentExpected op => op ++ " needs a document"
  | entriesExpected op => op ++ " entries must be documents"
  | regexExpected => "$regex needs a string"
  | searchMissing => "$text needs $search"
  | setTooLarge op limit count =>
    op ++ " takes at most " ++ toString limit ++ " values, got " ++ toString count
  | regexInvalid pattern error => "invalid regex " ++ pattern ++ ": " ++ error.message
  | incrementNotNumeric => "$inc requires numeric"
  | tooManySortKeys count limit => "too many sort keys: " ++ toString count ++ " > " ++ toString limit
  | mixedProjection => "cannot mix inclusion and exclusion in a projection"
  | stageKeys => "a pipeline stage must have exactly one key"
  | countExpected stage => stage ++ " needs a non-negative integer"
  | countFieldExpected => "$count needs a field name"
  | groupKeyMissing => "$group needs an _id expression"
  | accumulatorForm key => "accumulator " ++ key ++ " must be \x7bop: expr\x7d"
  | unknownTopLevelOperator name => "unknown top-level operator " ++ name
  | unknownOperator name => "unknown operator " ++ name
  | unknownUpdateOperator name => "update operator " ++ name
  | unknownStage name => "pipeline stage " ++ name
  | unknownAccumulator name => "accumulator " ++ name
  | unknownCommand name => "cursor command " ++ name
  | duplicate id => id.display
  | noFileWithId id => "file with id " ++ id.display
  | noFileNamed name => "file named " ++ name
  | unknownSession id => "unknown session " ++ id.text
  | sourceBroken => "source broke"
  | sinkBroken => "disk full"
  | downloadClosed => "download stream is closed"

end StoreError

def StoreErrorKind.label : StoreErrorKind → String
  | message => ""
  | notFound => "not found: "
  | duplicateKey => "duplicate key: "
  | unsupported => "unsupported: "
  | session => "session error: "
  | io => "I/O error: "
  | bson => "BSON: "

def StoreError.message (e : StoreError) : String := e.kind.label ++ e.reason

end DocStore
