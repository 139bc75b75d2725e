namespace RetainerTable

/-- Why an operation on a file failed. -/
inductive Fault
  | notFound
  | notDirectory
  | isDirectory
  | alreadyExists
  | nameTooLong
  /-- The path holds a zero character. -/
  | zeroInPath
  /-- The file's bytes are no text. -/
  | notText
  /-- A cause of another kind, in the system's words. -/
  | other (words : String)
  deriving Repr, DecidableEq

namespace Fault

/-- The cause in the system's words. -/
def message : Fault → String
  | notFound => "No such file or directory (os error 2)"
  | alreadyExists => "File exists (os error 17)"
  | notDirectory => "Not a directory (os error 20)"
  | isDirectory => "Is a directory (os error 21)"
  | nameTooLong => "File name too long (os error 36)"
  | zeroInPath => "file name contained an unexpected NUL byte"
  | notText => "stream did not contain valid UTF-8"
  | other words => words

end Fault

end RetainerTable
