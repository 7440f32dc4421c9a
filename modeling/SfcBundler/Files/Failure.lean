/-!
# Why a file operation fails

## Main definitions

* `IoFailure`: the causes
* `IoFailure.message`: their wording, with the system's error number where there is one
-/

namespace SfcBundler

/-- A cause for which a file operation fails. -/
inductive IoFailure where
  | notFound
  | alreadyExists
  | notDirectory
  | isDirectory
  | nameTooLong
  | tooManyLinks
  | notText
  | nulInName
  | emptyPath
  | irregularSource
  | other (text : String)
deriving Repr, DecidableEq

/-- The wording of a failure. -/
def IoFailure.message : IoFailure → String
  | notFound => "No such file or directory (os error 2)"
  | alreadyExists => "File exists (os error 17)"
  | notDirectory => "Not a directory (os error 20)"
  | isDirectory => "Is a directory (os error 21)"
  | nameTooLong => "File name too long (os error 36)"
  | tooManyLinks => "Too many levels of symbolic links (os error 40)"
  | notText => "stream did not contain valid UTF-8"
  | nulInName => "file name contained an unexpected NUL byte"
  | emptyPath => "empty path"
  | irregularSource => "the source path is neither a regular file nor a symlink to a regular file"
  | other text => text

end SfcBundler
