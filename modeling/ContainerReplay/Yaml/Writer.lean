import ContainerReplay.Json.Basic
import ContainerReplay.Yaml.Style

/-!
# Writing YAML documents

A value as a YAML document in block style.  The items of a list stand in the column of its key,
and a value that stands behind a dash begins on the line of the dash.
-/

set_option autoImplicit false

namespace ContainerReplay.Yaml

def spaces (column : Nat) : String :=
  String.ofList (List.replicate column ' ')

def scalarLine (column : Nat) : Json → String
  | .null => "null\n"
  | .truth true => "true\n"
  | .truth false => "false\n"
  | .integer value => toString value ++ "\n"
  | .text content => String.ofList (writtenText column content)
  | .array _ => "[]\n"
  | .object _ => "\x7b\x7d\n"

mutual

/-- A value whose first line is begun and whose other lines begin in a column. -/
def block (column : Nat) : Json → String
  | .array [] => scalarLine column (.array [])
  | .array (item :: rest) => "- " ++ block (column + 2) item ++ blockItems column rest
  | .object [] => scalarLine column (.object [])
  | .object ((key, value) :: rest) =>
      key ++ ":" ++ behindKey column value ++ blockFields column rest
  | .null => scalarLine column .null
  | .truth value => scalarLine column (.truth value)
  | .integer value => scalarLine column (.integer value)
  | .text content => scalarLine column (.text content)

def behindKey (column : Nat) : Json → String
  | .array [] => " " ++ scalarLine column (.array [])
  | .array (item :: rest) =>
      "\n" ++ spaces column ++ "- " ++ block (column + 2) item ++ blockItems column rest
  | .object [] => " " ++ scalarLine column (.object [])
  | .object ((key, value) :: rest) =>
      "\n" ++ spaces (column + 2) ++ key ++ ":" ++ behindKey (column + 2) value ++
        blockFields (column + 2) rest
  | .null => " " ++ scalarLine (column + 2) .null
  | .truth value => " " ++ scalarLine (column + 2) (.truth value)
  | .integer value => " " ++ scalarLine (column + 2) (.integer value)
  | .text content => " " ++ scalarLine (column + 2) (.text content)

def blockItems (column : Nat) : List Json → String
  | [] => ""
  | item :: rest => spaces column ++ "- " ++ block (column + 2) item ++ blockItems column rest

def blockFields (column : Nat) : List (String × Json) → String
  | [] => ""
  | (key, value) :: rest =>
      spaces column ++ key ++ ":" ++ behindKey column value ++ blockFields column rest

end

def document (value : Json) : String :=
  block 0 value

end ContainerReplay.Yaml
