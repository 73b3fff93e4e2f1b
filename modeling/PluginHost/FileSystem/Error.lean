/-!
# Input and output errors

What can go wrong when a file or directory is used, with the wording and number of the system.
-/

namespace PluginHost

inductive IoError where
  | notFound
  | notDirectory
  | isDirectory
  | nameTooLong
  | tooManyLinks
  | notText
  | zeroInName
  | other (text : String)
deriving DecidableEq, Repr, Inhabited

/-- The wording of a system error with its number. -/
def IoError.system (text : String) (code : Nat) : String :=
  text ++ " (os error " ++ Nat.repr code ++ ")"

def IoError.text : IoError → String
  | .notFound => system "No such file or directory" 2
  | .notDirectory => system "Not a directory" 20
  | .isDirectory => system "Is a directory" 21
  | .nameTooLong => system "File name too long" 36
  | .tooManyLinks => system "Too many levels of symbolic links" 40
  | .notText => "stream did not contain valid UTF-8"
  | .zeroInName => "file name contained an unexpected NUL byte"
  | .other text => text

end PluginHost
