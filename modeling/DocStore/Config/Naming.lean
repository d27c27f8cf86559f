import DocStore.Error
import DocStore.Text.Blank

namespace DocStore

inductive FieldNaming where
  | asIs
  | lowercase
  | snakeCase
  | camelCase
  deriving DecidableEq

namespace FieldNaming

def name : FieldNaming → String
  | asIs => "as_is"
  | lowercase => "lowercase"
  | snakeCase => "snake_case"
  | camelCase => "camel_case"

-- An underscore goes in front of a capital that follows a small letter or a digit.
def snakeFrom (afterSmall : Bool) : List Char → List Char
  | [] => []
  | c :: rest =>
    if Text.isUppercase c then
      (if afterSmall then ['_'] else []) ++ Text.lower c ++ snakeFrom false rest
    else c :: snakeFrom (Text.isLowercase c || Integer.isDigit c) rest

-- Underscores and hyphens go, and the character behind them is made a
-- capital; the first character is made small.
def camelFrom (atStart raise isEmpty : Bool) : List Char → List Char
  | [] => []
  | c :: rest =>
    if c = '_' ∨ c = '-' then camelFrom false (!atStart) isEmpty rest
    else if raise then Text.upper c ++ camelFrom false false false rest
    else if isEmpty then Text.lower c ++ camelFrom false false false rest
    else c :: camelFrom false false false rest

def apply (naming : FieldNaming) (key : String) : String :=
  match naming with
  | asIs => key
  | lowercase => Text.lowercased key
  | snakeCase => String.ofList (snakeFrom false key.toList)
  | camelCase => String.ofList (camelFrom true false true key.toList)

-- Renames all keys but the identifier. Keys that become the same become one.
def renameKeys (naming : FieldNaming) (d : Document) : Document :=
  match naming with
  | asIs => d
  | naming =>
    OrderedMap.ofList (d.map fun field =>
      if field.1 = "_id" then field else (naming.apply field.1, field.2))

def ofText (s : String) : Except DbError FieldNaming :=
  let word := Text.replaceChar '-' '_' (Text.asciiLowercase (Text.trim s))
  match word with
  | "as_is" => .ok asIs
  | "asis" => .ok asIs
  | "" => .ok asIs
  | "lowercase" => .ok lowercase
  | "lower" => .ok lowercase
  | "snake_case" => .ok snakeCase
  | "snake" => .ok snakeCase
  | "camel_case" => .ok camelCase
  | "camel" => .ok camelCase
  | _ => .error (.config (.unknownNaming word))

end FieldNaming

end DocStore
