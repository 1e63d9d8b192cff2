import PlayServer.Bytes

/-!
# JSON documents

A JSON value and its two text forms: one line without blanks, and indented by two spaces a level.
Fields keep the order they are given in. Of the characters of a string only the quote, the
backslash and the control characters below the space are escaped. A number is given by its text.
-/

namespace PlayServer

/-- A JSON value. -/
inductive Json where
  | null
  | bool (value : Bool)
  | number (text : String)
  | string (value : String)
  | array (items : List Json)
  | object (fields : List (String × Json))
  deriving Repr, Inhabited

namespace Json

/-- A natural number. -/
def nat (n : Nat) : Json := number (toString n)

/-- A string, or null for none. -/
def string? : Option String → Json
  | some s => string s
  | none => null

/-- A character as it stands in a JSON string. -/
def escapeChar (c : Char) : List Char :=
  if c = '"' then ['\\', '"']
  else if c = '\\' then ['\\', '\\']
  else if c = '\n' then ['\\', 'n']
  else if c = '\r' then ['\\', 'r']
  else if c = '\t' then ['\\', 't']
  else if c.toNat = 8 then ['\\', 'b']
  else if c.toNat = 12 then ['\\', 'f']
  else if c.toNat < 32 then ['\\', 'u'] ++ (hexNumeral 4 c.toNat).toList
  else [c]

/-- A string between its quotes. -/
def quote (s : String) : String :=
  "\"" ++ String.ofList (s.toList.flatMap escapeChar) ++ "\""

mutual

/-- A value on one line. -/
def line : Json → String
  | null => "null"
  | bool value => if value then "true" else "false"
  | number text => text
  | string value => quote value
  | array items => "[" ++ ",".intercalate (lineItems items) ++ "]"
  | object fields => "\x7b" ++ ",".intercalate (lineFields fields) ++ "\x7d"

/-- Items on one line, apart. -/
def lineItems : List Json → List String
  | [] => []
  | item :: items => item.line :: lineItems items

/-- Fields on one line, apart. -/
def lineFields : List (String × Json) → List String
  | [] => []
  | (name, value) :: fields => (quote name ++ ":" ++ value.line) :: lineFields fields

end

/-- The start of a new line at a level. -/
def newLine (level : Nat) : String := "\n" ++ String.ofList (List.replicate (2 * level) ' ')

/-- Parts between brackets, each on a line of its own one level further in. -/
def block (level : Nat) (opening closing : String) (parts : List String) : String :=
  if parts.isEmpty then opening ++ closing
  else
    opening ++ newLine (level + 1) ++ ("," ++ newLine (level + 1)).intercalate parts ++
      newLine level ++ closing

mutual

/-- A value indented, from a level on. -/
def indentedAt (level : Nat) : Json → String
  | null => "null"
  | bool value => if value then "true" else "false"
  | number text => text
  | string value => quote value
  | array items => block level "[" "]" (indentedItems (level + 1) items)
  | object fields => block level "\x7b" "\x7d" (indentedFields (level + 1) fields)

/-- Items indented, apart. -/
def indentedItems (level : Nat) : List Json → List String
  | [] => []
  | item :: items => item.indentedAt level :: indentedItems level items

/-- Fields indented, apart. -/
def indentedFields (level : Nat) : List (String × Json) → List String
  | [] => []
  | (name, value) :: fields =>
    (quote name ++ ": " ++ value.indentedAt level) :: indentedFields level fields

end

/-- A value indented by two spaces a level. -/
def indented (j : Json) : String := j.indentedAt 0

end Json

end PlayServer
