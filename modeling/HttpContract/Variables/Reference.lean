import HttpContract.Variables.Table

/-! References to variables in a text, and their replacement by values. -/
namespace HttpContract

inductive TemplatePart where
  | plain (c : Char)
  | reference (name : Text)
  deriving DecidableEq, Inhabited

structure Interpolated where
  text : Text
  unresolved : List Text
  deriving DecidableEq, Inhabited

namespace TemplatePart

def isBrace (c : Char) : Bool := c == '\x7b' || c == '\x7d'

/-- Reads a reference at the start of a text: two opening braces, a name without braces that is
not empty, two closing braces. Gives the name and what follows. -/
def reference? : Text → Option (Text × Text)
  | '\x7b' :: '\x7b' :: inside =>
    let name := inside.takeWhile fun c => !isBrace c
    match inside.dropWhile fun c => !isBrace c with
    | '\x7d' :: '\x7d' :: rest => if name = [] then none else some (name, rest)
    | _ => none
  | _ => none

theorem length_lt_of_reference? {text name rest : Text} (h : reference? text = some (name, rest)) :
    rest.length < text.length := by
  unfold reference? at h
  split at h
  · rename_i inside
    have hle := (List.dropWhile_suffix (l := inside) fun c => !isBrace c).length_le
    split at h
    · rename_i tail heq
      dsimp only at h
      split at h
      · simp at h
      · simp only [Option.some.injEq, Prod.mk.injEq] at h
        obtain ⟨-, rfl⟩ := h
        rw [heq] at hle
        simp only [List.length_cons] at hle ⊢
        omega
    · simp at h
  · simp at h

/-- Cuts a text into its parts, taking each reference as far to the left as possible. -/
def ofText (text : Text) : List TemplatePart :=
  match h : reference? text with
  | some (name, rest) =>
    have := length_lt_of_reference? h
    .reference name :: ofText rest
  | none => match text with
    | [] => []
    | c :: rest => .plain c :: ofText rest
termination_by text.length

def source : TemplatePart → Text
  | .plain c => [c]
  | .reference name => ['\x7b', '\x7b'] ++ name ++ ['\x7d', '\x7d']

/-- The value of a known reference; every other part stays as it is. -/
def resolve (table : VariableTable) : TemplatePart → Text
  | .plain c => [c]
  | .reference name => (table.get? name).getD (source (.reference name))

def missing? (table : VariableTable) : TemplatePart → Option Text
  | .plain _ => none
  | .reference name => if (table.get? name).isNone then some name else none

end TemplatePart

namespace VariableTable

/-- Replaces all references at once: values are not searched for references again, and unknown
references stay. -/
def interpolate (table : VariableTable) (text : Text) : Interpolated :=
  let parts := TemplatePart.ofText text
  { text := parts.flatMap (TemplatePart.resolve table)
    unresolved := Text.distinct (parts.filterMap (TemplatePart.missing? table)) }

end VariableTable
end HttpContract
