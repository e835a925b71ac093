import HttpContract.Text.Basic

/-! Pages as sequences of tags and texts. Texts are escaped where they are written, so that no text
can be taken for a tag. -/
namespace HttpContract
namespace Markup

def escapeChar : Char → Text
  | '&' => "&amp;"
  | '<' => "&lt;"
  | '>' => "&gt;"
  | '"' => "&quot;"
  | '\'' => "&#39;"
  | c => [c]

def escape (text : Text) : Text := text.flatMap escapeChar

/-- A tag, given by what stands between its angle brackets, or a text. -/
inductive Piece where
  | tag (content : Text)
  | text (content : Text)
  deriving DecidableEq, Inhabited

namespace Piece

def render : Piece → Text
  | tag content => ['<'] ++ content ++ ['>']
  | text content => escape content

def newLine : Piece := text ['\n']

end Piece

def render (pieces : List Piece) : Text := pieces.flatMap Piece.render

/-- Pieces between an opening tag and its closing tag, the latter without the attributes. -/
def element (name attributes : Text) (content : List Piece) : List Piece :=
  [.tag (name ++ attributes)] ++ content ++ [.tag ('/' :: name)]

def elementLine (name attributes : Text) (content : List Piece) : List Piece :=
  element name attributes content ++ [.newLine]

end Markup
end HttpContract
