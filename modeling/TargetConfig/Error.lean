/-! # What can go wrong with a target configuration

Errors are causes; the wording is in `message`. A problem with a document carries its reason twice,
once inside its own message and once as the cause behind it, and the report of a failure shows both.
-/

namespace TargetConfig

/-- What can go wrong when a file is read or written. -/
inductive FileError where
  | noSuchEntry
  | notDirectory
  | isDirectory
  | nameTooLong
  | tooManyLinks
  | permissionDenied
  | notUtf8
  | nulInName
  deriving DecidableEq, Repr

/-- The text of a file error, with the number that the system gives it, if it comes from there. -/
def FileError.message : FileError → String
  | noSuchEntry => "No such file or directory (os error 2)"
  | notDirectory => "Not a directory (os error 20)"
  | isDirectory => "Is a directory (os error 21)"
  | nameTooLong => "File name too long (os error 36)"
  | tooManyLinks => "Too many levels of symbolic links (os error 40)"
  | permissionDenied => "Permission denied (os error 13)"
  | notUtf8 => "stream did not contain valid UTF-8"
  | nulInName => "file name contained an unexpected NUL byte"

inductive ConfigError where
  /-- No backend generates code for the triple. -/
  | unsupportedTriple (triple : String)
  /-- A backend was needed, but none has been looked up with success. -/
  | unresolved (triple : String)
  /-- A text is no value of a setting. -/
  | invalidValue (setting : String) (value : String)
  /-- A document is not valid, or does not describe a configuration. -/
  | document (reason : String)
  /-- A configuration cannot be written as a document. -/
  | unwritable (reason : String)
  /-- A file could not be read or written. -/
  | file (cause : FileError)
  /-- There is no file at the path. -/
  | notFound (path : String)
  deriving DecidableEq, Repr

def ConfigError.message : ConfigError → String
  | unsupportedTriple triple => "unsupported target triple '" ++ triple ++ "'"
  | unresolved triple => "target for '" ++ triple ++ "' has not been resolved"
  | invalidValue setting value => "invalid " ++ setting ++ ": '" ++ value ++ "'"
  | document reason => "TOML parse error: " ++ reason
  | unwritable reason => "TOML serialization error: " ++ reason
  | file cause => "I/O error: " ++ cause.message
  | notFound path => "config file not found: " ++ path

end TargetConfig
