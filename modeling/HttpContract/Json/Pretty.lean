import HttpContract.Json.Value

/-! JSON documents over several lines, two blanks for every level. -/
namespace HttpContract
namespace Json

def newLine (level : Nat) : Text := '\n' :: List.replicate (2 * level) ' '

/-- Parts between brackets, each on a line of its own one level deeper. -/
def bracketed (level : Nat) (opening closing : Char) (parts : List Text) : Text :=
  if parts.isEmpty then [opening, closing]
  else
    let lines := parts.map (newLine (level + 1) ++ ·)
    [opening] ++ Text.join [','] lines ++ newLine level ++ [closing]

mutual

def prettyAt (level : Nat) : Json → Text
  | .null => "null"
  | .bool value => if value then "true" else "false"
  | .number lexeme => lexeme
  | .string value => quote value
  | .array items => bracketed level '[' ']' (prettyItems (level + 1) items)
  | .object members => bracketed level '\x7b' '\x7d' (prettyMembers (level + 1) members)

def prettyItems (level : Nat) : List Json → List Text
  | [] => []
  | item :: items => prettyAt level item :: prettyItems level items

def prettyMembers (level : Nat) : List (Text × Json) → List Text
  | [] => []
  | (name, value) :: members =>
    (quote name ++ ": " ++ prettyAt level value) :: prettyMembers level members

end

def pretty (value : Json) : Text := value.prettyAt 0

end Json
end HttpContract
