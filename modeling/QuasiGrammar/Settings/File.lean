import QuasiGrammar.Files.Tree
import QuasiGrammar.Value.Printer
import QuasiGrammar.Yaml.Reader

/-
  QuasiGrammar.Settings.File
  ──────────────────────────
  A settings file is a YAML text in UTF-8 whose value is a map.  A file that
  is not there, or that says nothing, has no entries.  Whether it is there is
  asked first; a path that is too long for this question is no matter of the
  file, and its refusal is told as it is.
-/

namespace QuasiGrammar

open Text

/-- What is found where a settings file is looked for. -/
inductive SettingsFile where
  | missing
  | unreadable (r : Refusal)
  | octets (bs : List UInt8)
  deriving DecidableEq, Repr

namespace SettingsFile

/-- What is found at a path of a tree of files. -/
def find (t : FileTree) (p : Path) : SettingsFile :=
  match t.look p with
  | .ok (.file text) => .octets (encodeUtf8 text)
  -- A directory is there, and cannot be read; what is missing is no fault.
  | .ok .directory => .unreadable .isDirectory
  | .error .noEntry | .error .notDirectory => .missing
  | .error r => .unreadable r

/-- A problem with the settings file at a path. -/
def problem (p : Path) (detail : String) : Failure := .fresh (.ruleSource p detail)

/-- What is said of a text that is no YAML. -/
def malformedDetail : String := "<yaml error>"

/-- The failure of a fault in the text of the file at a path. -/
def failureOf (p : Path) : Yaml.Fault → Failure
  | .malformed => problem p malformedDetail
  | .defect d => .defect d
  | .strayHalf => .defect .strayHalf

/-- The value of octets that spell a YAML text. -/
def valueOf (p : Path) (bs : List UInt8) : Except Failure Value :=
  match decodeUtf8 bs with
  | .error fault => .error (.defect (.notUtf8 fault))
  | .ok cs => (Yaml.read (unixLines cs)).mapError (failureOf p)

/-- The entries of the settings file at a path. -/
def entries (p : Path) : SettingsFile → Except Failure (List (Value × Value))
  | .missing => .ok []
  | .unreadable .nameTooLong => .error (.system ⟨.nameTooLong, p⟩)
  | .unreadable r => .error (problem p (SystemFault.message ⟨r, p⟩))
  | .octets bs =>
      match valueOf p bs with
      | .error f => .error f
      | .ok .null => .ok []
      | .ok (.map entries) => .ok entries
      | .ok _ => .error (problem p "expected a mapping at the top level")

end SettingsFile

end QuasiGrammar
