import QuasiGrammar.Digest.Sha256
import QuasiGrammar.Files.Directory
import QuasiGrammar.Publish.Program
import QuasiGrammar.Text.Split

/-
  QuasiGrammar.Publish.Store
  ──────────────────────────
  Grammars are published under the digest of their text, so that a text that
  has been published is found again by its name.  A new text replaces the one
  before it, in an order that leaves nothing behind which could be mistaken for
  a published grammar:

      exists?  unregister  list  delete …  write  register

  When the registry refuses the new file, the file is deleted again: the next
  attempt must not find it.  A failure is told to the user once, as a problem
  that names the file.
-/

namespace QuasiGrammar

open Text

/-! ## §1. Names. -/

/-- A store of grammars: its directory, the scope that its grammars stand for, the text that its
file names begin with, and the name under which it speaks to the user. -/
structure Store where
  directory : GrammarDirectory
  scopeName : String
  filePrefix : String
  notificationSource : String
  deriving DecidableEq, Repr, Inhabited

/-- The entry of a text: its digest, the name of its file and the path of that file. -/
structure StoreEntry where
  digest : String
  filename : String
  path : Path
  deriving DecidableEq, Repr

/-- The number of digits of a digest. -/
def digestLength : Nat := 64

/-- Whether a character is a digit of a digest: hexadecimal, in lower case. -/
def isDigestDigit (c : Char) : Bool := c.isDigit || ('a' ≤ c && c ≤ 'f')

namespace Store

/-- The end of all file names. -/
def fileSuffix : String := ".json"

/-- The name of the file of a digest. -/
def filenameFor (s : Store) (digest : String) : String :=
  s.filePrefix ++ "-" ++ digest ++ fileSuffix

/-- The entry of a text; none if its file name leads nowhere. -/
def entry (s : Store) (text : String) : Except Failure StoreEntry :=
  let digest := Digest.ofText text
  let filename := s.filenameFor digest
  match s.directory.resolve filename with
  | .error f => .error f
  | .ok path => .ok ⟨digest, filename, path⟩

/-- The entry of a loose text.  The digest is one of octets, so that a text without a UTF-8 form has
none, and is never published. -/
def entryOf (s : Store) (text : LooseText) : Except Failure StoreEntry :=
  match text.fault? with
  | some fault => .error (.defect (.noUtf8Form fault))
  | none => s.entry text.spelling

@[simp]
theorem entryOf_of (s : Store) (text : String) : s.entryOf (.of text) = s.entry text := by
  simp [entryOf]

theorem entryOf_of_fault (s : Store) {text : LooseText} {fault : EncodingFault}
    (h : text.fault? = some fault) : s.entryOf text = .error (.defect (.noUtf8Form fault)) := by
  simp [entryOf, h]

/-- Whether a name is one that the store gives to its files; a line feed may follow it. -/
def isGenerated (s : Store) (name : String) : Bool :=
  match dropText? (s.filePrefix ++ "-").toList name.toList with
  | none => false
  | some rest =>
      let digits := rest.take digestLength
      let tail := rest.drop digestLength
      -- What is taken of a shorter rest is shorter too.
      digits.length == digestLength && digits.all isDigestDigit &&
        (tail == fileSuffix.toList || tail == fileSuffix.toList ++ ['\n'])

/-! ## §2. Publishing. -/

/-- Deletes files one after another. -/
def deleteAll : List String → Work Unit
  | [] => pure ()
  | name :: rest => do
      ask (.delete name)
      deleteAll rest

/-- Deletes the files of the store and gives their names. -/
def removeGenerated (s : Store) : Work (List String) := do
  let names ← ask .list
  -- Files of others in the same directory are left alone.
  let generated := names.filter s.isGenerated
  deleteAll generated
  pure generated

/-- The failure of a registration. -/
def registrationProblem (e : StoreEntry) (message : String) : Failure :=
  .fresh (.publish .registration e.path message)

/-- Deletes the file of an entry that could not be registered.  What the directory or the system
refuses is let be; any other failure is one of the whole work. -/
def discard (e : StoreEntry) : Work Unit :=
  tryCatch (ask (.delete e.filename)) fun f =>
    if f.isProblem || f.isSystem then pure () else throw f

/-- Removes the grammar of the scope from the registry. -/
def unregister (s : Store) (e : StoreEntry) : Work Unit :=
  tryCatch (ask (.unregister s.scopeName)) fun f =>
    throw (registrationProblem e
      ("Unable to remove grammar " ++ s.scopeName ++ " (" ++ f.message ++ ")"))

/-- Registers the file of an entry, or deletes it again. -/
def register (e : StoreEntry) : Work Unit :=
  -- The file must not be found by the next attempt, which would take it for a registered one.
  tryCatch (ask (.register e.path)) fun _ => do
    discard e
    throw (registrationProblem e "Unable to add Grammar to registry")

/-- Replaces the published grammar by a text. -/
def replace (s : Store) (e : StoreEntry) (text : String) : Work Unit := do
  s.unregister e
  let _ ← s.removeGenerated
  ask (.write e.filename text)
  register e

/-- Replaces the published grammar by a text, unless its file is there; tells whether it did. -/
def renew (s : Store) (e : StoreEntry) (text : String) : Work Bool := do
  if ← ask (.exists e.filename) then pure false
  else
    s.replace e text
    pure true

/-- A failure as the user is told of it: a problem is told as it is, any other failure as a problem
of publishing. -/
def classify (e : StoreEntry) (f : Failure) : Failure :=
  if f.isProblem then f
  else if f.isSystem then
    .fresh (.publish .files e.path ("Unable to access grammar files (" ++ f.message ++ ")"))
  else .fresh (.publish .other e.path ("Unable to publish grammar (" ++ f.message ++ ")"))

/-- Tells the user of a failure, and fails with it. -/
def reportFailure (s : Store) (e : StoreEntry) (f : Failure) : Work Bool := do
  tell ⟨.warning, s.notificationSource, (classify e f).message⟩
  throw (classify e f).markReported

/-- Publishes a text and gives the name of its file. -/
def publish (s : Store) (text : String) : Work String :=
  match s.entry text with
  | .error f => throw f
  | .ok e => do
      -- A text that was found is not announced again.
      let renewed ← tryCatch (s.renew e text) (s.reportFailure e)
      if renewed then
        tell ⟨.info, s.notificationSource, "Grammar created at \n" ++ e.path.text⟩
      pure e.filename

end Store

end QuasiGrammar
