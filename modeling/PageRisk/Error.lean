set_option autoImplicit false

/-! # Errors

What can go wrong outside the analysis itself: files, stored values, messages and the configuration.
Every error ends a command with the same exit code. -/

namespace PageRisk

/-- Why an operation on files failed. -/
inductive FileError where
  | notFound
  | alreadyExists
  | notADirectory
  | isADirectory
  | nameTooLong
  /-- The path holds a NUL character. -/
  | nulInPath
  /-- The contents are not text. -/
  | notText
  /-- Any other failure, by its description. -/
  | other (description : String)
  deriving DecidableEq, Repr

/-- The description of a failure. -/
def FileError.message : FileError → String
  | notFound => "No such file or directory (os error 2)"
  | alreadyExists => "File exists (os error 17)"
  | notADirectory => "Not a directory (os error 20)"
  | isADirectory => "Is a directory (os error 21)"
  | nameTooLong => "File name too long (os error 36)"
  | nulInPath => "file name contained an unexpected NUL byte"
  | notText => "stream did not contain valid UTF-8"
  | other description => description

/-- An error, by the part of the program that raises it. -/
inductive GuardError where
  /-- The configuration cannot be used. -/
  | config (description : String)
  /-- The store refuses an operation, or does not hold what a store holds. -/
  | storage (description : String)
  /-- A message cannot be understood. -/
  | message (description : String)
  | file (error : FileError)
  /-- A text is not the JSON that was expected. -/
  | json (description : String)
  /-- A text is not the TOML that was expected. -/
  | toml
  deriving DecidableEq, Repr

/-- The wording of an error, after the part of the program that raises it. -/
def GuardError.text : GuardError → String
  | config description => "Configuration error: " ++ description
  | storage description => "Storage error: " ++ description
  | message description => "Invalid message: " ++ description
  | file error => "IO error: " ++ error.message
  | json description => "JSON error: " ++ description
  | toml => "TOML parse error"

/-- The exit code of a command that ends with an error. -/
def errorExitCode : UInt32 := 2

end PageRisk
