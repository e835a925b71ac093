import HttpContract.Text.Decimal

/-! Terminal colours: escape sequences around a text. -/
namespace HttpContract

/-- The parameters of the sequence that switches a style on. -/
structure TextStyle where
  codes : List Nat
  deriving DecidableEq, Inhabited

namespace TextStyle

def bold : TextStyle := ⟨[1]⟩

def dimmed : TextStyle := ⟨[2]⟩

def red : TextStyle := ⟨[31]⟩

def green : TextStyle := ⟨[32]⟩

def boldRed : TextStyle := ⟨[1, 31]⟩

def boldGreen : TextStyle := ⟨[1, 32]⟩

def reset : Text := "\x1b[0m"

def opening (style : TextStyle) : Text :=
  "\x1b[" ++ Text.join [';'] (style.codes.map Text.decimal) ++ ['m']

/-- Switches the style on again behind everything in a text that switches it off. -/
def reopen (style : TextStyle) : Text → Text
  | [] => []
  | c :: text =>
    if Text.startsWith reset (c :: text) then
      reset ++ style.opening ++ reopen style (text.drop (reset.length - 1))
    else c :: reopen style text
termination_by text => text.length
decreasing_by all_goals simp only [List.length_cons, List.length_drop]; omega

def apply (style : TextStyle) (color : Bool) (text : Text) : Text :=
  if color then style.opening ++ style.reopen text ++ reset else text

/-- Whether an environment wants colours: `force` says so if it is anything but a zero; without it
they need a terminal, and no variable against them. -/
def isWanted (force always never : Option Text) (isTerminal : Bool) : Bool :=
  force.any (· != ['0']) || (isTerminal && never.isNone && always != some ['0'])

end TextStyle
end HttpContract
