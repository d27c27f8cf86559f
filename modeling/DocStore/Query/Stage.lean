import DocStore.Query

namespace DocStore

namespace GroupedQuery

def reference (path : String) : Value := .string ("$" ++ path)

-- One entry of a select list: the target and its source, if they differ.
def selectEntry (entry : String) : Except DbError (Option (String × Value)) :=
  let field := Text.trim entry
  if field.isEmpty then .ok none
  else
    match Text.splitOnce? ':' field with
    | none => .ok (some (field, .int32 1))
    | some (source, label) =>
      let source := Text.trim source
      let label := Text.trim label
      if source.isEmpty || label.isEmpty || label.toList.contains ':' then
        .error (.malformed (.projection entry))
      else .ok (some (label, reference source))

def projectionFrom (d : Document) : List String → Except DbError Document
  | [] => .ok d
  | entry :: rest =>
    match selectEntry entry with
    | .error e => .error e
    | .ok none => projectionFrom d rest
    | .ok (some (target, source)) => projectionFrom (d.insert target source) rest

def unlessEmpty (d : Document) : Option Document := if d.isEmpty then none else some d

def projection (g : GroupedQuery) : Except DbError (Option Document) :=
  (projectionFrom [] g.select).map unlessEmpty

-- One sort key: the path and its direction.
def sortEntry (key : String) : Option (String × Value) :=
  match (Text.trim key).toList with
  | [] => none
  | ['-'] => none
  | '-' :: path => some (String.ofList path, .int32 (-1))
  | path => some (String.ofList path, .int32 1)

def sortFrom (keys : List String) : Document := OrderedMap.ofList (keys.filterMap sortEntry)

def sort (g : GroupedQuery) : Option Document := unlessEmpty (sortFrom g.order)

def underscored (path : String) : String := Text.replaceChar '.' '_' path

-- Keys without blanks around them; blank keys count as nothing.
def groupKeys (keys : List String) : List String := (keys.map Text.trim).filter (!·.isEmpty)

def groupKey (keys : List String) : Value :=
  match groupKeys keys with
  | [] => .string ""
  | keys => .document (OrderedMap.ofList (keys.map fun key => (underscored key, reference key)))

def accumulator (item : AggregateItem) : Except DbError Value :=
  match item.op with
  | .count => .ok (.document [("$sum", .int32 1)])
  | op =>
    if item.field.isEmpty then .error (.malformed (.fieldExpected op))
    else .ok (.document [(op.name, reference item.field)])

def addAccumulators (stage : Document) : List AggregateItem → Except DbError Document
  | [] => .ok stage
  | item :: rest =>
    match accumulator item with
    | .ok v => addAccumulators (stage.insert item.outputKey v) rest
    | .error e => .error e

-- The grouping stage. Later results replace earlier ones of the same name.
def groupStage (items : List AggregateItem) (keys : List String) : Except DbError Document :=
  addAccumulators [("_id", groupKey keys)] items

def stagesOf : List Value → Except DbError (List Document)
  | [] => .ok []
  | .document d :: rest => (stagesOf rest).map (d :: ·)
  | v :: _ => .error (.dispatch (.stageExpected v))

-- The stages of a pipeline command: the payload itself or its `pipe`.
def pipelineOf (payload : Value) : Except DbError (List Document) :=
  match payload with
  | .array stages => stagesOf stages
  | .document d =>
    match Document.array? d "pipe" with
    | some stages => stagesOf stages
    | none => .error (.dispatch .pipelineExpected)
  | _ => .error (.dispatch .pipelineExpected)

-- Text search has to lead a pipeline, so nothing may be put in front of it.
def isTextStage (stage : Document) : Bool :=
  stage.contains "$text" || ((stage.document? "$match").getD []).contains "$text"

def matchStage (selector : Document) : List Document :=
  if selector.isEmpty then [] else [[("$match", .document selector)]]

end GroupedQuery

end DocStore
