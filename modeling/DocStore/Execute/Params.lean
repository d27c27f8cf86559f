import DocStore.Store.Stream
import DocStore.Value.Extended
import DocStore.Error

namespace DocStore

structure Params where
  data : Option Document := none
  -- Changes one document only, and all the fields of the payload.
  singleUpdate : Bool := false
  source : Option ByteSource := none
  output : Option ByteSink := none

namespace Params

-- A payload in JSON, which has to be that of a document.
def payloadOfJson (json : Json) : Except DbError Document :=
  match Value.ofJson? json with
  | none => .error (.payload .tooLarge)
  | some (.document d) => .ok d
  | some _ => .error (.payload .notDocument)

def withJson (params : Params) (json : Json) : Except DbError Params := do
  return { params with data := some (← payloadOfJson json) }

end Params

end DocStore
