/-!
# Errors of the counter store

Every failure of the library is one constructor of `Error`, named for its cause. The text a
user sees is written in one place, `Error.message`, and the class name that callers dispatch on
in `Error.kind`. `Error.isCacheFailure` says which failures concern the cache alone: those the
engine may log and work around by reading the system of record instead.
-/

namespace CounterCache

/-- A failure, by cause. The payload is the detail shown after the class prefix. -/
inductive Error where
  | io (detail : String)
  | corruption (detail : String)
  | notFound (detail : String)
  | invalidArgument (detail : String)
  | invalidState (detail : String)
  | serialization (detail : String)
  | timeout (detail : String)
  | unavailable (detail : String)
  | script (detail : String)
  | wrongType (key : String)
  | notInteger (text : String)
  | repository (detail : String)
  | internal (detail : String)
  deriving DecidableEq, Repr, Inhabited

namespace Error

/-- The class name of an error, as callers and the wire format name it. -/
def kind : Error → String
  | .io _ => "Io"
  | .corruption _ => "Corruption"
  | .notFound _ => "NotFound"
  | .invalidArgument _ => "InvalidArgument"
  | .invalidState _ => "InvalidState"
  | .serialization _ => "Serialization"
  | .timeout _ => "Timeout"
  | .unavailable _ => "Unavailable"
  | .script _ => "Script"
  | .wrongType _ => "WrongType"
  | .notInteger _ => "NotInteger"
  | .repository _ => "Repository"
  | .internal _ => "Internal"

/-- The text of an error: a class prefix and the detail. -/
def message : Error → String
  | .io d => "IO error: " ++ d
  | .corruption d => "Data corruption: " ++ d
  | .notFound d => "Not found: " ++ d
  | .invalidArgument d => "Invalid argument: " ++ d
  | .invalidState d => "Invalid state: " ++ d
  | .serialization d => "Serialization error: " ++ d
  | .timeout d => "Timed out: " ++ d
  | .unavailable d => "Counter store unavailable: " ++ d
  | .script d => "Script error: " ++ d
  | .wrongType k => "WRONGTYPE operation against key '" ++ k ++ "' holding the wrong kind of value"
  | .notInteger t => "value is not an integer: " ++ t
  | .repository d => "Repository error: " ++ d
  | .internal d => "Internal error: " ++ d

/-- Failures of the cache itself. The system of record's own answers (missing or deleted
records, rejected arguments, an unavailable repository) are not among them. -/
def isCacheFailure : Error → Bool
  | .repository _ | .notFound _ | .invalidArgument _ | .invalidState _ => false
  | _ => true

/-- Builds an error from its class name and detail; `none` for an unknown class and for `Io`,
whose detail is never built from text. -/
def ofKind? (kind detail : String) : Option Error :=
  match kind with
  | "Corruption" => some (.corruption detail)
  | "NotFound" => some (.notFound detail)
  | "InvalidArgument" => some (.invalidArgument detail)
  | "InvalidState" => some (.invalidState detail)
  | "Serialization" => some (.serialization detail)
  | "Timeout" => some (.timeout detail)
  | "Unavailable" => some (.unavailable detail)
  | "Script" => some (.script detail)
  | "WrongType" => some (.wrongType detail)
  | "NotInteger" => some (.notInteger detail)
  | "Repository" => some (.repository detail)
  | "Internal" => some (.internal detail)
  | _ => none

theorem isCacheFailure_wrongType (k : String) : (wrongType k).isCacheFailure = true := rfl

end Error

end CounterCache
