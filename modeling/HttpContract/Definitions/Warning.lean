import HttpContract.Text.Decimal

/-! What a reader of request definitions notices without refusing the text. -/
namespace HttpContract

inductive Warning where
  | malformedVariable (line : Nat)
  | unusableBlock (line : Nat)
  | extraRequestLine (line : Nat)
  | unresolvedVariable (name test : Text)
  deriving DecidableEq, Inhabited

namespace Warning

def unusableReason : Text := "no request line"

def text : Warning → Text
  | malformedVariable line =>
    "line " ++ Text.decimal line ++ ": malformed variable declaration ignored"
  | unusableBlock line =>
    "line " ++ Text.decimal line ++ ": block skipped (" ++ unusableReason ++ ")"
  | extraRequestLine line =>
    "line " ++ Text.decimal line ++ ": additional request line ignored"
  | unresolvedVariable name test =>
    test ++ ": variable `\x7b\x7b" ++ name ++ "\x7d\x7d` is not declared"

end Warning
end HttpContract
