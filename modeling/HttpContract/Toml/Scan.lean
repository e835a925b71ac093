import HttpContract.Text.Decimal

/-! The small pieces of a TOML document: blanks, comments, line ends, keys and quoted texts. A
scanner gives what it found with what is left behind it, or nothing. -/
namespace HttpContract
namespace Toml

abbrev Scan (α : Type) := Text → Option (α × Text)

/-- One step of a repetition: what it adds, whether it is the last one, and what is left. -/
structure ScanStep (α : Type) where
  items : List α
  isLast : Bool
  rest : Text

def repeatSteps {α : Type} (step : Text → Option (ScanStep α)) : (fuel : Nat) → Scan (List α)
  | 0, _ => none
  | fuel + 1, text => do
    let first ← step text
    if first.isLast then some (first.items, first.rest)
    else
      let (items, rest) ← repeatSteps step fuel first.rest
      some (first.items ++ items, rest)

/-- Repeats a step that takes at least one character, unless it is the last one. -/
def scanAll {α : Type} (step : Text → Option (ScanStep α)) : Scan (List α) :=
  fun text => repeatSteps step (text.length + 1) text

/-! Blanks, comments and line ends. -/

def isBlank (c : Char) : Bool := c == ' ' || c == '\t'

def skipBlanks (text : Text) : Text := text.dropWhile isBlank

/-- No control character except the tab. -/
def isPlainChar (c : Char) : Bool := c == '\t' || (0x20 ≤ c.toNat && c.toNat != 0x7F)

def skipComment : Text → Text
  | [] => []
  | c :: rest => if c = '#' then rest.dropWhile isPlainChar else c :: rest

def newline? : Text → Option Text
  | '\n' :: rest => some rest
  | '\r' :: '\n' :: rest => some rest
  | _ => none

/-- What follows the end of a line, blanks and a comment before it allowed. -/
def lineEnd? (text : Text) : Option Text :=
  match skipComment (skipBlanks text) with
  | [] => some []
  | rest => newline? rest

theorem newline?_length_lt {text rest : Text} (h : newline? text = some rest) :
    rest.length < text.length := by
  unfold newline? at h
  split at h <;> simp_all +arith

@[simp] theorem skipComment_length_le (text : Text) : (skipComment text).length ≤ text.length := by
  cases text with
  | nil => simp [skipComment]
  | cons c rest =>
    simp only [skipComment]
    split
    · exact Nat.le_succ_of_le (List.dropWhile_suffix isPlainChar).length_le
    · exact Nat.le_refl _

/-- What follows blanks, comments and newlines. A comment needs its newline. -/
def skipLines (text : Text) : Text :=
  match h : newline? (skipComment (skipBlanks text)) with
  | none => skipBlanks text
  | some rest =>
    have : rest.length < text.length := by
      have h1 := newline?_length_lt h
      have h2 := skipComment_length_le (skipBlanks text)
      have h3 : (skipBlanks text).length ≤ text.length :=
        (List.dropWhile_suffix isBlank).length_le
      omega
    skipLines rest
termination_by text.length

def skipEmptyLines : Text → Text
  | [] => []
  | '\r' :: '\n' :: rest => skipEmptyLines rest
  | c :: rest => if isBlank c || c == '\n' then skipEmptyLines rest else c :: rest

def mark? (mark : Char) : Text → Option Text
  | [] => none
  | c :: rest => if c = mark then some rest else none

/-! Quoted texts. -/

/-- The character with a number that is written in hexadecimal digits, surrogates excluded. -/
def scalar? (digits : Text) : Option Char := do
  let code ← Text.natOfDigits? 16 digits
  if code < 0xD800 ∨ (0xE000 ≤ code ∧ code ≤ 0x10FFFF) then some (Char.ofNat code) else none

def simpleEscape? : Char → Option Char
  | 'b' => some '\x08'
  | 'f' => some '\x0c'
  | 'n' => some '\n'
  | 'r' => some '\r'
  | 't' => some '\t'
  | '"' => some '"'
  | '\\' => some '\\'
  | _ => none

def escape : Scan Char
  | [] => none
  | c :: rest =>
    let code (width : Nat) : Option (Char × Text) :=
      if rest.length < width then none
      else (scalar? (rest.take width)).map fun c => (c, rest.drop width)
    if c = 'u' then code 4
    else if c = 'U' then code 8
    else (simpleEscape? c).map fun meant => (meant, rest)

/-- One character of a text on a single line, or its closing quote. Only double quotes know
escapes. -/
def quotedStep (quote : Char) (text : Text) : Option (ScanStep Char) :=
  match text with
  | [] => none
  | c :: rest =>
    if c = quote then some ⟨[], true, rest⟩
    else if c = '\\' ∧ quote = '"' then
      (escape rest).map fun (meant, rest) => ⟨[meant], false, rest⟩
    else if isPlainChar c then some ⟨[c], false, rest⟩
    else none

def quoted (quote : Char) : Scan Text := scanAll (quotedStep quote)

/-- One character of a text over several lines, or its end. Up to two quotes may stand right
before the closing ones. -/
def multilineStep (quote : Char) (text : Text) : Option (ScanStep Char) :=
  let quotes := (text.takeWhile (· == quote)).length
  match text with
  | [] => none
  | c :: rest =>
    if 3 ≤ quotes then
      let inside := min quotes 5 - 3
      some ⟨List.replicate inside quote, true, text.drop (inside + 3)⟩
    else match newline? text with
      | some rest => some ⟨['\n'], false, rest⟩
      | none =>
        if c = '\\' ∧ quote = '"' then
          match newline? (skipBlanks rest) with
          | some rest => some ⟨[], false, skipEmptyLines rest⟩
          | none => (escape rest).map fun (meant, rest) => ⟨[meant], false, rest⟩
        else if isPlainChar c then some ⟨[c], false, rest⟩
        else none

/-- Behind the three opening quotes; a newline right behind them is dropped. -/
def multiline (quote : Char) : Scan Text := fun text =>
  scanAll (multilineStep quote) ((newline? text).getD text)

/-- A text at its opening quote, over several lines if there are three quotes. -/
def quotedValue (quote : Char) : Scan Text := fun text =>
  match Text.strip? [quote, quote, quote] text with
  | some rest => multiline quote rest
  | none => (mark? quote text).bind (quoted quote)

/-! Keys. -/

def isBareChar (c : Char) : Bool := c.isAlphanum || c == '-' || c == '_'

def simpleKey : Scan Text := fun text =>
  match text with
  | [] => none
  | c :: rest =>
    if c = '"' ∨ c = '\'' then quoted c rest
    else
      let key := text.takeWhile isBareChar
      if key.isEmpty then none else some (key, text.dropWhile isBareChar)

def keyStep (text : Text) : Option (ScanStep Text) := do
  let (key, rest) ← simpleKey (skipBlanks text)
  let rest := skipBlanks rest
  match mark? '.' rest with
  | some rest => some ⟨[key], false, rest⟩
  | none => some ⟨[key], true, rest⟩

/-- How deep values may nest, and how many parts a key may have. -/
def maxDepth : Nat := 79

def key : Scan (List Text) := fun text => do
  let (parts, rest) ← scanAll keyStep text
  if parts.length ≤ maxDepth then some (parts, rest) else none

end Toml
end HttpContract
