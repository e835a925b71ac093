import HttpContract.Text.Lines

/-! Cutting a request-definition text into blocks at its headings. -/
namespace HttpContract

/-- One candidate test: its heading line, if it has one, its content lines, and the number of its
first line. -/
structure Block where
  heading : Option Text
  lines : List Text
  line : Nat
  deriving DecidableEq, Inhabited

inductive LineKind where
  | skip | boundary | content
  deriving DecidableEq, Inhabited

namespace Block

def mark : Text := "###"

/-- The headings that name a file rather than a test, unless the configuration says otherwise. -/
def defaultProtected : List Text := ["SEGAPI", "Use REST"]

def isProtected (protectedHeads : List Text) (line : Text) : Bool :=
  match Text.strip? mark line with
  | none => false
  | some rest =>
    protectedHeads.any fun head => !head.isEmpty && Text.startsWith head (Text.trimStart rest)

def lineKind (protectedHeads : List Text) (line : Text) : LineKind :=
  let trimmed := Text.trim line
  if trimmed.isEmpty || Text.startsWith ['@'] trimmed || isProtected protectedHeads trimmed then
    .skip
  else if Text.startsWith mark trimmed then .boundary
  else .content

/-- A block without content is no candidate. -/
def close : Option Block → List Block
  | none => []
  | some block => if block.lines.isEmpty then [] else [block]

/-- Adds a content line, opening a block without heading if none is open. -/
def addContent (opened : Option Block) (line : Text) (number : Nat) : Block :=
  match opened with
  | none => { heading := none, lines := [line], line := number }
  | some block => { block with lines := block.lines ++ [line] }

def ofLines (protectedHeads : List Text) (opened : Option Block) : List (Text × Nat) → List Block
  | [] => close opened
  | (line, number) :: rest =>
    match lineKind protectedHeads line with
    | .skip => ofLines protectedHeads opened rest
    | .boundary =>
      close opened ++
        ofLines protectedHeads (some { heading := some line, lines := [], line := number }) rest
    | .content => ofLines protectedHeads (some (addContent opened line number)) rest

def ofText (protectedHeads : List Text) (text : Text) : List Block :=
  ofLines protectedHeads none (Text.numbered (Text.separatedLines text))

end Block
end HttpContract
