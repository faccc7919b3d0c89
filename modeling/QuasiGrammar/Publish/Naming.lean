import QuasiGrammar.Publish.Store
import QuasiGrammar.Regex.Escape

/-
  QuasiGrammar.Publish.Naming
  ───────────────────────────
  The names that a store gives to its files, and the expression by which it
  knows them again: from the beginning of a line to its end, the prefix as it
  stands, a digest, and the end of all file names.
-/

namespace QuasiGrammar

/-- A text of the form of a digest. -/
def IsDigest (digest : String) : Prop :=
  digest.toList.length = digestLength ∧ digest.toList.all isDigestDigit = true

namespace Store

/-- A name that the store gives to the file of some digest. -/
def Generates (s : Store) (name : String) : Prop :=
  ∃ digest, IsDigest digest ∧ name = s.filenameFor digest

/-- What stands after the prefix in the expression. -/
def afterPrefix : List Char :=
  "-[0-9a-f]\x7b64\x7d".toList ++ (Regex.escapeText fileSuffix.toList ++ ['$'])

/-- The expression that the names of the store's files match. -/
def namePattern (s : Store) : List Char :=
  '^' :: (Regex.escapeText s.filePrefix.toList ++ afterPrefix)

end Store

end QuasiGrammar
