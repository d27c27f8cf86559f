import DocStore.Text.Blank
import DocStore.Value.Equality

namespace DocStore

namespace Path

def maxBytes : Nat := 1024
def maxSegments : Nat := 32

-- A segment that is a number also counts into an array when reading, never when writing.
def segments (path : String) : List String := Text.splitOnChar '.' path

def index? (segment : String) : Option Nat :=
  (Integer.parseUnsigned Integer.maxUnsigned64 segment).toOption

end Path

def Value.descend : Value → List String → Option Value
  | v, [] => some v
  | .document fields, segment :: rest =>
    match OrderedMap.get? fields segment with
    | some v => v.descend rest
    | none => none
  | .array items, segment :: rest =>
    match Path.index? segment with
    | some i =>
      match items[i]? with
      | some v => v.descend rest
      | none => none
    | none => none
  | _, _ :: _ => none

namespace Document

-- The value at a path that is neither empty nor too long nor too deep.
def getPath? (d : Document) (path : String) : Option Value :=
  let segments := Path.segments path
  if path.isEmpty || decide (Path.maxBytes < path.utf8ByteSize) ||
      decide (Path.maxSegments < segments.length) then none
  else (Value.document d).descend segments

-- The document under a key, or the empty one when something else or nothing
-- is there.
def subdocument (d : Document) (key : String) : Document := (d.document? key).getD []

-- Writes at the end of the segments and tells whether that changed anything.
-- Whatever is in the way and is no document gives way to one.
def put (d : Document) : List String → Value → Document × Bool
  | [], _ => (d, false)
  | [last], v => (d.insert last v, !Value.sameOption (d.get? last) (some v))
  | segment :: rest, v =>
    let (inner, changed) := put (d.subdocument segment) rest v
    (d.insert segment (.document inner), changed)

-- Removes at the end of the segments and tells whether something was there.
-- On the way down it makes documents as `put` does.
def drop (d : Document) : List String → Document × Bool
  | [] => (d, false)
  | [last] => (d.erase last, d.contains last)
  | segment :: rest =>
    let (inner, changed) := drop (d.subdocument segment) rest
    (d.insert segment (.document inner), changed)

def setPath (d : Document) (path : String) (v : Value) : Document × Bool :=
  d.put (Path.segments path) v

def unsetPath (d : Document) (path : String) : Document × Bool := d.drop (Path.segments path)

end Document

end DocStore
