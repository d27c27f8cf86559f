import DocStore.CharSet.Break
import DocStore.Text.AgeData

namespace DocStore.CharSet

-- Case, spaces, hyphens, underscores, characters beyond ASCII and a leading `is` count as
-- nothing in a name.
def normalizeRest (name : List Char) : String :=
  String.ofList
    ((name.filter fun c => Text.isAscii c && c != ' ' && c != '_' && c != '-').map Char.toLower)

-- What is left of a name. The `c` of `isc` would be a name of its own.
def normalize (name : String) : String :=
  match name.toList with
  | i :: s :: rest =>
    if i.toLower = 'i' ∧ s.toLower = 's' then
      let kept := normalizeRest rest
      if kept = "c" then "isc" else kept
    else normalizeRest (i :: s :: rest)
  | name => normalizeRest name

-- Whether a name that is normal already stands for one of the names.
def isNameIn (name : String) (names : List String) : Bool := names.any fun n => normalize n == name

def find? (sets : List Named) (name : String) : Option CharSet :=
  (sets.find? fun s => isNameIn name s.names).map (·.set)

def findScript? (name : String) : Option Text.Script :=
  Text.scripts.find? fun s => isNameIn name s.names

-- The ways to write a version: `6.0` or `V6_0`.
def versionNames (version : String) : List String := [version, "V" ++ Text.replaceChar '.' '_' version]

-- The characters that came with a version or with one before it.
def upToVersion? (name : String) : Option CharSet :=
  (Text.ages.findIdx? fun (version, _) => isNameIn name (versionNames version)).map fun i =>
    runs (Text.readRuns ((Text.ages.take (i + 1)).flatMap (·.2)))

-- The set that a single name stands for: a property, a general category or a script.
def named? (text : String) : Option CharSet :=
  let name := normalize text
  match find? properties name with
  | some set => some set
  | Option.none =>
    match find? categories name with
    | some set => some set
    | Option.none => (findScript? name).map ofScript

-- The characters for which a property has a value.
def withValue? (property value : String) : Option CharSet :=
  let property := normalize property
  let value := normalize value
  if isNameIn property ["General_Category", "gc"] then find? categories value
  else if isNameIn property ["Script", "sc"] then (findScript? value).map ofScript
  else if isNameIn property ["Script_Extensions", "scx"] then (findScript? value).map ofExtendedScript
  else if isNameIn property ["Age"] then upToVersion? value
  else if isNameIn property ["Grapheme_Cluster_Break", "GCB"] then find? graphemeBreaks value
  else if isNameIn property ["Word_Break", "WB"] then find? wordBreaks value
  else if isNameIn property ["Sentence_Break", "SB"] then find? sentenceBreaks value
  else Option.none

end DocStore.CharSet
