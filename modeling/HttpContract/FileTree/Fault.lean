import HttpContract.Text.Basic

/-! What can go wrong with a file, and how it is reported. -/
namespace HttpContract

inductive FileFault where
  | notFound
  | occupied
  | notDirectory
  | isDirectory
  | nameTooLong
  | zeroInName
  | invalidText
  deriving DecidableEq, Inhabited

namespace FileFault

def message : FileFault → Text
  | notFound => "No such file or directory (os error 2)"
  | occupied => "File exists (os error 17)"
  | notDirectory => "Not a directory (os error 20)"
  | isDirectory => "Is a directory (os error 21)"
  | nameTooLong => "File name too long (os error 36)"
  | zeroInName => "file name contained an unexpected NUL byte"
  | invalidText => "stream did not contain valid UTF-8"

end FileFault
end HttpContract
