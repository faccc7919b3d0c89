import QuasiGrammar.Files.Tree

/-
  QuasiGrammar.Files.Directory
  ────────────────────────────
  The directory that grammars are published in.  A name is followed from the
  directory, which is made when the first file is written.  What the file
  system refuses is a problem of the directory, with the file it concerns;
  only a question about a name that is too long is refused as it is, and a
  name with a NUL is no name at all.

  A text is encoded when its file has been opened: if it has no UTF-8 form the
  file is empty from then on.  What is published has been encoded before, for
  its digest, so that `write` asks for a text of characters.
-/

namespace QuasiGrammar

open Text

/-- The directory of grammars at a path. -/
structure GrammarDirectory where
  root : Path
  deriving DecidableEq, Repr, Inhabited

namespace GrammarDirectory

/-- The path of a name. -/
def resolve (d : GrammarDirectory) (name : String) : Except Failure Path :=
  match d.root.resolve? name with
  | none => .error (.defect .nulInPath)
  | some p => .ok p

/-- The problem of a refused operation that concerns a file. -/
def problem (p : Path) (what : String) (f : SystemFault) : Failure :=
  .fresh (.publish .files p (what ++ " (" ++ f.message ++ ")"))

/-- Whether a refusal says that nothing is there. -/
def meansAbsent : Refusal → Bool
  | .noEntry | .notDirectory => true
  | _ => false

/-- Whether a name leads to a file. -/
def hasFile (d : GrammarDirectory) (t : FileTree) (name : String) : Except Failure Bool :=
  match d.resolve name with
  | .error f => .error f
  | .ok p =>
      match t.look p with
      | .ok (.file _) => .ok true
      | .ok .directory => .ok false
      | .error r => if meansAbsent r then .ok false else .error (.system ⟨r, p⟩)

/-- The names in the directory, in order; there are none in a directory that is not there. -/
def list (d : GrammarDirectory) (t : FileTree) : Except Failure (List String) :=
  match t.look d.root with
  | .ok .directory => .ok (t.children d.root)
  | .ok (.file _) =>
      .error (problem d.root "Unable to list grammars" ⟨.notDirectory, d.root⟩)
  | .error r => if meansAbsent r then .ok [] else .error (.system ⟨r, d.root⟩)

/-- What comes of a text once its file has been opened. -/
def encode (text : LooseText) : Except Failure Unit :=
  match text.fault? with
  | none => .ok ()
  | some fault => .error (.defect (.noUtf8Form fault))

/-- Writes a file, on a stack that has room for a number of calls inside the one that makes the
directory of the file. -/
def writeWithin (d : GrammarDirectory) (room : Option Nat) (t : FileTree) (name : String)
    (text : LooseText) : FileTree × Except Failure Unit :=
  match d.resolve name with
  | .error f => (t, .error f)
  | .ok p =>
      if t.exhausts room p.parent then (t, .error (.defect .stackExhausted))
      else
        -- The file is opened first, and empty until all of the text has been encoded.
        match t.place p text.written with
        | (t', .ok ()) => (t', encode text)
        | (t', .error f) => (t', .error (problem p "Unable to write grammar" f))

/-- Writes a file with a text of characters, with room for all calls. -/
def write (d : GrammarDirectory) (t : FileTree) (name text : String) :
    FileTree × Except Failure Unit :=
  d.writeWithin none t name (.of text)

section Write

variable {d : GrammarDirectory} {room : Option Nat} {t u : FileTree} {name : String} {p : Path}

theorem encode_of (s : String) : encode (.of s) = .ok () := by simp [encode]

theorem encode_of_fault {text : LooseText} {fault : EncodingFault} (h : text.fault? = some fault) :
    encode text = .error (.defect (.noUtf8Form fault)) := by
  simp [encode, h]

/-- The ways in which a write can end, with the tree and the result then. -/
inductive WriteOutcome (d : GrammarDirectory) (room : Option Nat) (t : FileTree) (name : String)
    (text : LooseText) : FileTree × Except Failure Unit → Prop
  | unresolved {f : Failure} (hp : d.resolve name = .error f) :
      WriteOutcome d room t name text (t, .error f)
  | exhausted {p : Path} (hp : d.resolve name = .ok p) (hroom : t.exhausts room p.parent = true) :
      WriteOutcome d room t name text (t, .error (.defect .stackExhausted))
  | placed {p : Path} {u : FileTree} (hp : d.resolve name = .ok p)
      (hroom : t.exhausts room p.parent = false) (h : t.place p text.written = (u, .ok ())) :
      WriteOutcome d room t name text (u, encode text)
  | refused {p : Path} {u : FileTree} {f : SystemFault} (hp : d.resolve name = .ok p)
      (hroom : t.exhausts room p.parent = false) (h : t.place p text.written = (u, .error f)) :
      WriteOutcome d room t name text (u, .error (problem p "Unable to write grammar" f))

/-- A name without a path is refused. -/
theorem writeWithin_unresolved {f : Failure} (hp : d.resolve name = .error f) (text : LooseText) :
    d.writeWithin room t name text = (t, .error f) := by
  simp [writeWithin, hp]

theorem writeWithin_exhausted (hp : d.resolve name = .ok p)
    (hroom : t.exhausts room p.parent = true) (text : LooseText) :
    d.writeWithin room t name text = (t, .error (.defect .stackExhausted)) := by
  simp [writeWithin, hp, hroom]

theorem writeWithin_placed {text : LooseText} (hp : d.resolve name = .ok p)
    (hroom : t.exhausts room p.parent = false) (h : t.place p text.written = (u, .ok ())) :
    d.writeWithin room t name text = (u, encode text) := by
  simp [writeWithin, hp, hroom, h]

theorem writeWithin_refused {text : LooseText} {f : SystemFault} (hp : d.resolve name = .ok p)
    (hroom : t.exhausts room p.parent = false) (h : t.place p text.written = (u, .error f)) :
    d.writeWithin room t name text = (u, .error (problem p "Unable to write grammar" f)) := by
  simp [writeWithin, hp, hroom, h]

/-- **All ways in which a write can end.** -/
theorem writeWithin_outcome (d : GrammarDirectory) (room : Option Nat) (t : FileTree)
    (name : String) (text : LooseText) :
    WriteOutcome d room t name text (d.writeWithin room t name text) := by
  cases hp : d.resolve name with
  | error f =>
    rw [writeWithin_unresolved hp]
    exact .unresolved hp
  | ok p =>
    cases hroom : t.exhausts room p.parent with
    | true =>
      rw [writeWithin_exhausted hp hroom]
      exact .exhausted hp hroom
    | false =>
      cases hplaced : t.place p text.written with
      | mk u result =>
        cases result with
        | ok =>
          rw [writeWithin_placed hp hroom hplaced]
          exact .placed hp hroom hplaced
        | error f =>
          rw [writeWithin_refused hp hroom hplaced]
          exact .refused hp hroom hplaced

theorem write_unresolved {f : Failure} (hp : d.resolve name = .error f) (text : String) :
    d.write t name text = (t, .error f) :=
  writeWithin_unresolved hp _

theorem write_placed {text : String} (hp : d.resolve name = .ok p)
    (h : t.place p text = (u, .ok ())) : d.write t name text = (u, .ok ()) := by
  rw [← LooseText.written_of text] at h
  rw [← encode_of text]
  exact writeWithin_placed hp rfl h

theorem write_refused {text : String} {f : SystemFault} (hp : d.resolve name = .ok p)
    (h : t.place p text = (u, .error f)) :
    d.write t name text = (u, .error (problem p "Unable to write grammar" f)) := by
  rw [← LooseText.written_of text] at h
  exact writeWithin_refused hp rfl h

end Write

/-- Deletes a file, if it is there. -/
def delete (d : GrammarDirectory) (t : FileTree) (name : String) :
    FileTree × Except Failure Unit :=
  match d.resolve name with
  | .error f => (t, .error f)
  | .ok p =>
      match t.remove p with
      | .ok t' => (t', .ok ())
      | .error .noEntry => (t, .ok ())
      | .error r => (t, .error (problem p "Unable to delete grammar" ⟨r, p⟩))

end GrammarDirectory

end QuasiGrammar
