import DocStore.Error.Store
import DocStore.Filter.Operator
import DocStore.Number.Integer
import DocStore.Query.Aggregate
import DocStore.Query.Command

namespace DocStore

-- What is wrong with a filter or with another part of a query.
inductive Malformation where
  | notJson
  | listExpected (op : FilterOp) (got : Value)
  | boundsExpected (count : Nat)
  | searchExpected
  | patternOperand (got : Value)
  | needleMissing (field : String)
  | allExpectsList (field : String) (got : Value)
  | oneFilterExpected (count : Nat)
  | fieldExpected (op : AggregateOp)
  | projection (entry : String)
  | tooManySelected (count limit : Nat)
  | tooManySortKeys (count limit : Nat)
  -- A complaint that comes with the filter.
  | stated (reason : String)

def Malformation.reason : Malformation → String
  | notJson => "invalid filter json: not a filter"
  | listExpected op got => op.name ++ " expects a list, got " ++ got.display
  | boundsExpected count => "$range expects [low, high], got " ++ toString count ++ " values"
  | searchExpected => "$text expects a search string"
  | patternOperand got => "pattern operand must be text, got " ++ got.display
  | needleMissing field => "contains on " ++ field ++ " needs a value"
  | allExpectsList field got => "$all on " ++ field ++ " expects a list, got " ++ got.display
  | oneFilterExpected count => "$not takes exactly one filter, got " ++ toString count
  | fieldExpected op => op.name ++ " needs a field"
  | projection entry => "malformed projection " ++ entry
  | tooManySelected count limit =>
    "too many select fields: " ++ toString count ++ " > " ++ toString limit
  | tooManySortKeys count limit =>
    "too many sort keys: " ++ toString count ++ " > " ++ toString limit
  | stated reason => reason

-- Why one clause of a written filter is not usable.
inductive Rejection where
  | unknownOperator (name : String)
  | malformed (cause : Malformation)

-- What has to hold before a query may run.
inductive Precondition where
  | fieldForAll
  | payload (kind : CommandKind)
  | whereForUpdate
  | whereForDelete
  | updatableFields
  | identifier
  | distinctArgument
  | distinctField
  | blobSource
  | blobSink
  | blobReadTarget
  | blobRemoveTarget

def Precondition.reason : Precondition → String
  | fieldForAll => "field name is required for $all"
  | payload kind => kind.word ++ " needs a data payload"
  | whereForUpdate => "update need to have where clause"
  | whereForDelete =>
    "delete need to have where clause. To delete all data in a collection, " ++
      "use drop_collection instead of delete"
  | updatableFields => "no updatable fields in payload"
  | identifier => "_id field is required"
  | distinctArgument => "distinct only accepts a field name or a \x7bfield\x7d document"
  | distinctField => "field attribute is mandatory"
  | blobSource => "invalid reader"
  | blobSink => "invalid writer"
  | blobReadTarget => "blob read needs an id or a name"
  | blobRemoveTarget => "blob remove needs an id"

-- Why no operation can be chosen for a query.
inductive DispatchError where
  | mixedCommands (first second : CommandKind)
  | nothingToExecute
  | pipelineExpected
  | stageExpected (got : Value)
  | commandDocument (got : Value)
  | invalidCursorCommand (name : CommandName)
  | invalidCommand (name : CommandName)
  | unknownCommand (got : Value)
  | blobOptions (got : Value)
  | blobChunkSize (got : Value)

def DispatchError.reason : DispatchError → String
  | mixedCommands first second =>
    "query mixes " ++ first.title ++ " and " ++ second.title ++ " commands"
  | nothingToExecute => "no command to execute"
  | pipelineExpected => "pipeline command needs a pipe array"
  | stageExpected got => "pipeline stage must be a document, got " ++ got.display
  | commandDocument got => "command payload must be a document, got " ++ got.display
  | invalidCursorCommand name => "invalid command " ++ name.text
  | invalidCommand name => "invalid command: " ++ name.text
  | unknownCommand got => "unknown command " ++ got.display
  | blobOptions got => "blob command options must be a document, got " ++ got.display
  | blobChunkSize got => "blob chunk size must be an integer, got " ++ got.display

inductive DecodeError where
  | missing (field : String)
  | mismatch (field : String)
  | notJson

def DecodeError.reason : DecodeError → String
  | missing field => "missing field " ++ field
  | mismatch field => "unexpected value of " ++ field
  | notJson => "value without a form in JSON"

inductive PayloadError where
  | tooLarge
  | notDocument
  deriving DecidableEq

def PayloadError.reason : PayloadError → String
  | tooLarge => "number out of range"
  | notDocument => "not a document"

inductive FileError where
  | missing
  | notText
  deriving DecidableEq

def FileError.reason : FileError → String
  | missing => "No such file or directory (os error 2)"
  | notText => "stream did not contain valid UTF-8"

inductive ConfigError where
  | unknownNaming (name : String)
  | unknownPolicy (name : String)
  | unknownSaveMode (name : String)
  | variableNumber (name : String) (cause : IntegerError)
  -- A variable that does not name one of the choices.
  | variableChoice (name : String) (cause : ConfigError)
  | notPositive (field : String)
  | notToml

def ConfigError.reason : ConfigError → String
  | unknownNaming name => "unknown field naming " ++ name
  | unknownPolicy name => "unknown composite policy " ++ name
  | unknownSaveMode name => "unknown save mode " ++ name
  | variableNumber name cause => name ++ ": " ++ cause.message
  | variableChoice name cause => name ++ ": config error: " ++ cause.reason
  | notPositive field => field ++ " must be positive"
  | notToml => "not a configuration"

inductive TransactionError where
  | disabled
  | alreadyActive
  deriving DecidableEq

def TransactionError.reason : TransactionError → String
  | disabled => "tx is disabled"
  | alreadyActive => "a transaction is already active"

inductive DbError where
  | malformed (cause : Malformation)
  | unknownOperator (name : String)
  | precondition (cause : Precondition)
  | dispatch (cause : DispatchError)
  -- `activity` says in words what the refused call was for.
  | store (activity : String) (source : StoreError)
  | decode (cause : DecodeError)
  | fetch (reason : String)
  | payload (cause : PayloadError)
  | file (cause : FileError)
  | config (cause : ConfigError)
  | transaction (cause : TransactionError)

namespace DbError

def message : DbError → String
  | malformed cause => "translation error: " ++ cause.reason
  | unknownOperator name => "filter op " ++ name ++ " is not defined"
  | precondition cause => cause.reason
  | dispatch cause => "dispatch error: " ++ cause.reason
  | store activity source => activity ++ ". " ++ source.message
  | decode cause => "unable to decode output. " ++ cause.reason
  | fetch reason => "unable to fetch data. " ++ reason
  | payload cause => "BSON: " ++ cause.reason
  | file cause => "I/O error: " ++ cause.reason
  | config cause => "config error: " ++ cause.reason
  | transaction cause => "transaction error: " ++ cause.reason

def isPrecondition : DbError → Bool
  | precondition _ => true
  | _ => false

-- Whether the fault lies in how the query is written.
def isMalformed : DbError → Bool
  | malformed _ => true
  | unknownOperator _ => true
  | _ => false

end DbError

def Rejection.toError : Rejection → DbError
  | unknownOperator name => .unknownOperator name
  | malformed cause => .malformed cause

-- A failure as a clause keeps it.
def DbError.toRejection : DbError → Rejection
  | unknownOperator name => .unknownOperator name
  | malformed cause => .malformed cause
  | e => .malformed (.stated e.message)

end DocStore
