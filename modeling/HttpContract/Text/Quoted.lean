import HttpContract.Text.Decimal
import HttpContract.Unicode.Printable

/-! Text between double quotes, on one line and without anything invisible. -/
namespace HttpContract
namespace Text

/-- How a character stands between the quotes: what does not print is given by its number. -/
def quotedChar (c : Char) : Text :=
  if c = '\x00' then "\\0"
  else if c = '\t' then "\\t"
  else if c = '\r' then "\\r"
  else if c = '\n' then "\\n"
  else if c = '\\' then "\\\\"
  else if c = '"' then "\\\""
  else if Unicode.isPrintable c then [c]
  else "\\u\x7b" ++ hexadecimal c.toNat ++ "\x7d"

def quoted (text : Text) : Text := ['"'] ++ text.flatMap quotedChar ++ ['"']

def ticked (name : Text) : Text := "`" ++ name ++ "`"

end Text
end HttpContract
