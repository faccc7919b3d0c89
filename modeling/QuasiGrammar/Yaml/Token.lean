import QuasiGrammar.Number.Numeral
import QuasiGrammar.Text.Utf8
import QuasiGrammar.Yaml.Scalar

/-
  QuasiGrammar.Yaml.Token
  ───────────────────────
  The tokens of a YAML text.  Indentation becomes tokens of its own: a line
  that is indented more deeply opens a block, and one that is indented less
  closes blocks.

  A mapping needs no sign before its keys.  Whether a node was a key is known
  only when a colon comes after it on the same line; so the place of each
  possible key is kept, one for each depth of flow collections, and the token
  that marks the key is put in later.  A token is ready to be taken when no key
  can have begun at it or before it; a fault leaves the tokens that were ready
  when it was met.
-/

namespace QuasiGrammar.Yaml

open Number Text

/-! ## §1. Tokens. -/

/-- What a directive says. -/
inductive Directive where
  /-- The version of the language, by its first number. -/
  | version (major : Nat)
  /-- A handle that stands for the beginning of tags. -/
  | handle (name beginning : List Char)
  /-- Something else, which is passed over. -/
  | other
  deriving DecidableEq, Repr

/-- A token. -/
inductive Token where
  | directive (d : Directive)
  | documentStart
  | documentEnd
  | streamEnd
  | blockSequenceStart
  | blockMappingStart
  | blockEnd
  | flowSequenceStart
  | flowSequenceEnd
  | flowMappingStart
  | flowMappingEnd
  | blockEntry
  | flowEntry
  | key
  | value
  | alias (name : List Char)
  | anchor (name : List Char)
  /-- A tag, with the handle that it begins with, if it has one. -/
  | tag (handle : Option (List Char)) (suffix : List Char)
  | scalar (text : List Char) (plain : Bool)
  deriving DecidableEq, Repr

/-- A place at which a key may have begun: the number of its first token, whether there must be a
key, and where it is. -/
structure PossibleKey where
  number : Nat
  required : Bool
  index : Nat
  line : Nat
  column : Nat
  deriving Repr

/-- What is known in the middle of a text: the place, the depth of flow collections, the
indentation and those around it, whether a key may begin, the possible keys for each depth, the
tokens with the latest first, how many there are, and how many of them, from the earliest on, are
ready. -/
structure Lexer where
  cursor : Cursor
  flow : Nat
  indent : Int
  indents : List Int
  allowKey : Bool
  keys : List (Nat × PossibleKey)
  tokens : List Token
  count : Nat
  ready : Nat
  deriving Repr

namespace Lexer

/-- Before a text. -/
def start (cs : List Char) : Lexer := ⟨.start cs, 0, -1, [], true, [], [], 0, 0⟩

/-- Adds a token. -/
def emit (l : Lexer) (t : Token) : Lexer := { l with tokens := t :: l.tokens, count := l.count + 1 }

/-- Puts a token before the one with a number. -/
def insertAt (l : Lexer) (number : Nat) (t : Token) : Lexer :=
  { l with tokens := l.tokens.insertIdx (l.count - number) t, count := l.count + 1 }

/-! ## §2. Possible keys and indentation. -/

/-- The greatest number of characters of a key without a sign. -/
def maxKeyLength : Nat := 1024

/-- Whether a possible key can no longer be one: its line or its length is over. -/
def isStale (l : Lexer) (k : PossibleKey) : Bool :=
  k.line != l.cursor.line || maxKeyLength < l.cursor.index - k.index

/-- Forgets the possible keys that can no longer be one. -/
def dropStale (l : Lexer) : Step Lexer :=
  if l.keys.any fun k => l.isStale k.2 && k.2.required then refuse
  else .ok { l with keys := l.keys.filter fun k => !l.isStale k.2 }

/-- Forgets the possible key at the present depth. -/
def dropKey (l : Lexer) : Step Lexer :=
  if l.keys.any fun k => k.1 == l.flow && k.2.required then refuse
  else .ok { l with keys := l.keys.filter fun k => k.1 != l.flow }

/-- Keeps the present place as that of a possible key. -/
def saveKey (l : Lexer) : Step Lexer :=
  if !l.allowKey then .ok l
  else do
    let l ← l.dropKey
    let c := l.cursor
    let required := l.flow == 0 && l.indent == c.column
    pure { l with
      keys := (l.flow, ⟨l.count, required, c.index, c.line, c.column⟩) :: l.keys }

/-- Closes blocks that are indented more deeply than a column. -/
def unwind (column : Int) : List Int → Lexer → Lexer
  | [], l => l
  | outer :: rest, l =>
      if column < l.indent then
        unwind column rest { l.emit .blockEnd with indent := outer, indents := rest }
      else l

/-- Closes blocks, unless inside a flow collection. -/
def unwindTo (column : Int) (l : Lexer) : Lexer :=
  if l.flow = 0 then unwind column l.indents l else l

/-- Indents to a column, if that is deeper; tells whether it is. -/
def addIndent (column : Nat) (l : Lexer) : Bool × Lexer :=
  if l.indent < column then
    (true, { l with indents := l.indent :: l.indents, indent := column })
  else (false, l)

/-! ## §3. Parts of tokens. -/

/-- Whether a character may stand in a name. -/
def isNameChar (c : Char) : Bool := c.isAlphanum || c == '-' || c == '_'

/-- Whether a character may stand in a tag. -/
def isTagChar (c : Char) : Bool :=
  isNameChar c || ";/?:@&=+$,.!~*'()[]%".toList.contains c

/-- Characters that are written as octets in UTF-8, each as a percent sign and two hexadecimal
digits. -/
def percentOctets : Nat → Cursor → Step (List UInt8 × Cursor)
  | 0, c => .ok ([], c)
  | fuel + 1, c =>
      if c.peek = some '%' then
        let ds := (c.rest.drop 1).take 2
        if ds.length < 2 || !ds.all isHexDigit then refuse
        else do
          let (bs, c) ← percentOctets fuel (c.skip 3)
          pure (UInt8.ofNat (ofDigits 16 ds) :: bs, c)
      else .ok ([], c)

/-- The characters of a tag. -/
def tagChars : Nat → Cursor → Step (List Char × Cursor)
  | 0, c => .ok ([], c)
  | fuel + 1, c =>
      match c.peek with
      | none => .ok ([], c)
      | some '%' => do
          let (bs, c) ← percentOctets c.reach c
          match decodeUtf8 bs with
          | .error _ => refuse
          | .ok xs => do
              let (ys, c) ← tagChars fuel c
              pure (xs ++ ys, c)
      | some x =>
          if isTagChar x then do
            let (ys, c) ← tagChars fuel c.next
            pure (x :: ys, c)
          else .ok ([], c)

/-- The characters of a tag, one at least; characters that are written as octets count. -/
def tagText (c : Cursor) : Step (List Char × Cursor) := do
  if c.peek.any isTagChar then tagChars c.reach c else refuse

/-- A handle: an exclamation mark, alone or with a name and one more. -/
def tagHandle (c : Cursor) : Step (List Char × Cursor) :=
  if c.peek ≠ some '!' then refuse
  else if c.peekSecond = some ' ' then .ok (['!'], c.next)
  else
    let (name, after) := c.next.span isNameChar
    if after.peek = some '!' then .ok ('!' :: name ++ ['!'], after.next) else refuse

/-- A number in a directive. -/
def directiveNumber (c : Cursor) : Step (Nat × Cursor) :=
  let (ds, c) := c.span Char.isDigit
  if ds.isEmpty then refuse
  else if maxDigits < ds.length then .error (.defect (.tooManyDigits ds.length))
  else .ok (ofDigits 10 ds, c)

/-- The version in a directive. -/
def versionValue (c : Cursor) : Step (Directive × Cursor) := do
  let (major, c) ← directiveNumber c.dropBlanks
  if c.peek ≠ some '.' then refuse
  else
    let (_, c) ← directiveNumber c.next
    if endsField c.peek then pure (.version major, c) else refuse

/-- The handle in a directive and the beginning of tags that it stands for. -/
def handleValue (c : Cursor) : Step (Directive × Cursor) := do
  let (name, c) ← tagHandle c.dropBlanks
  if c.peek ≠ some ' ' then refuse
  else
    let (beginning, c) ← tagText c.dropBlanks
    if endsField c.peek then pure (.handle name beginning, c) else refuse

/-- A directive, from its sign on. -/
def directiveToken (c : Cursor) : Step (Token × Cursor) := do
  let (name, c) := c.next.span isNameChar
  if name.isEmpty || !endsField c.peek then refuse
  else
    let (d, c) ←
      if name = "YAML".toList then versionValue c
      else if name = "TAG".toList then handleValue c
      else pure (.other, c.dropLine)
    let c ← c.dropComment
    pure (.directive d, c)

/-- Whether a name of an anchor may end before a character. -/
def endsAnchor (x : Option Char) : Bool := endsWord x || x.any "?:,]\x7d%@\x60".toList.contains

/-- A name of an anchor, after the sign. -/
def anchorName (c : Cursor) : Step (List Char × Cursor) :=
  let (name, c) := c.next.span isNameChar
  if name.isEmpty || !endsAnchor c.peek then refuse else .ok (name, c)

/-- Whether a tag has a second exclamation mark. -/
def hasHandle (c : Cursor) : Bool :=
  (c.next.rest.takeWhile fun x => !endsField (some x)).contains '!'

/-- A tag, from its sign on. -/
def tagToken (c : Cursor) : Step (Token × Cursor) := do
  let (t, c) ←
    if c.peekSecond = some '<' then do
      let (suffix, c) ← tagText (c.skip 2)
      if c.peek = some '>' then pure (Token.tag none suffix, c.next) else refuse
    else if endsWord c.peekSecond then pure (Token.tag none ['!'], c.next)
    else if hasHandle c then do
      let (handle, c) ← tagHandle c
      let (suffix, c) ← tagText c
      pure (Token.tag (some handle) suffix, c)
    else do
      let (suffix, c) ← tagText c.next
      pure (Token.tag (some ['!']) suffix, c)
  if endsField c.peek then pure (t, c) else refuse

/-! ## §4. One token. -/

/-- The place before the next token, and whether a line was broken on the way. -/
def dropGap : Nat → Cursor → Bool × Cursor
  | 0, c => (false, c)
  | fuel + 1, c =>
      let c := c.dropBlanks
      let c := if c.peek = some '#' then c.dropLine else c
      match c.lineBreak? with
      | none => (false, c)
      | some (_, c) => (true, (dropGap fuel c).2)

/-- Moves to the next token. -/
def toNextToken (l : Lexer) : Lexer :=
  let c := l.cursor
  let c := if c.index = 0 && c.peek = some byteOrderMark then c.next else c
  let (broken, c) := dropGap c.reach c
  { l with cursor := c, allowKey := l.allowKey || (broken && l.flow == 0) }

/-- Takes a number of characters as a token. -/
def take (l : Lexer) (count : Nat) (t : Token) : Lexer :=
  { l.emit t with cursor := l.cursor.skip count }

/-- A token that stands between documents. -/
def betweenDocuments (l : Lexer) : Step Lexer := do
  let l ← (l.unwindTo (-1)).dropKey
  pure { l with allowKey := false }

/-- The beginning of a flow collection. -/
def openFlow (t : Token) (l : Lexer) : Step Lexer := do
  let l ← l.saveKey
  pure { l.take 1 t with flow := l.flow + 1, allowKey := true }

/-- The end of a flow collection. -/
def closeFlow (t : Token) (l : Lexer) : Step Lexer := do
  let l ← l.dropKey
  pure { l.take 1 t with flow := l.flow - 1, allowKey := false }

/-- A comma in a flow collection. -/
def flowComma (l : Lexer) : Step Lexer := do
  let l ← { l with allowKey := true }.dropKey
  pure (l.take 1 .flowEntry)

/-- Opens a block at the present column, if that is a deeper indentation; a key must be allowed. -/
def openBlock (t : Token) (l : Lexer) : Step Lexer :=
  if l.flow ≠ 0 then .ok l
  else if !l.allowKey then refuse
  else
    match l.addIndent l.cursor.column with
    | (true, l) => .ok (l.emit t)
    | (false, l) => .ok l

/-- The sign of an entry of a block sequence. -/
def entrySign (l : Lexer) : Step Lexer := do
  let l ← l.openBlock .blockSequenceStart
  let l ← { l with allowKey := true }.dropKey
  pure (l.take 1 .blockEntry)

/-- The sign of a key. -/
def keySign (l : Lexer) : Step Lexer := do
  let l ← l.openBlock .blockMappingStart
  let l ← { l with allowKey := l.flow == 0 }.dropKey
  pure (l.take 1 .key)

/-- The sign of a value.  If a key may have begun at this depth, it has. -/
def valueSign (l : Lexer) : Step Lexer :=
  match l.keys.lookup l.flow with
  | some k =>
      let l := { l with keys := l.keys.filter fun e => e.1 != l.flow }
      let l := l.insertAt k.number .key
      let l :=
        if l.flow = 0 then
          match l.addIndent k.column with
          | (true, l) => l.insertAt k.number .blockMappingStart
          | (false, l) => l
        else l
      .ok ({ l with allowKey := false }.take 1 .value)
  | none => do
      let l ← l.openBlock .blockMappingStart
      let l ← { l with allowKey := l.flow == 0 }.dropKey
      pure (l.take 1 .value)

/-- A token that may begin a key, and after which none may begin. -/
def nodeToken (read : Cursor → Step (Token × Cursor)) (l : Lexer) : Step Lexer := do
  let l ← l.saveKey
  let (t, c) ← read l.cursor
  pure { l.emit t with cursor := c, allowKey := false }

/-- A block scalar. -/
def blockToken (fold : Bool) (l : Lexer) : Step Lexer := do
  let l ← { l with allowKey := true }.dropKey
  let (text, c) ← blockScalar fold l.indent l.cursor
  pure { l.emit (.scalar text false) with cursor := c }

/-- A quoted scalar. -/
def quotedToken (double : Bool) (c : Cursor) : Step (Token × Cursor) := do
  let (text, c) ← quotedScalar double c
  pure (.scalar text false, c)

/-- A plain scalar. -/
def plainToken (l : Lexer) : Step Lexer := do
  let l ← l.saveKey
  let (text, broken, c) := plainScalar (l.flow != 0) (l.indent + 1) l.cursor
  pure { l.emit (.scalar text true) with cursor := c, allowKey := broken }

/-- The signs that no plain scalar begins with. -/
def indicators : List Char := "-?:,[]\x7b\x7d#&*!|>'\"%@\x60".toList

/-- Whether a plain scalar begins at a place. -/
def beginsPlain (l : Lexer) : Bool :=
  match l.cursor.peek with
  | none => false
  | some x =>
      !(endsWord (some x) || indicators.contains x)
        || (!endsWord l.cursor.peekSecond
            && (x == '-' || (l.flow == 0 && (x == '?' || x == ':'))))

/-- Whether a sign before a blank or the end of a line comes next; inside a flow collection
anything may follow it. -/
def atSign (l : Lexer) (flowToo : Bool) : Bool :=
  endsWord l.cursor.peekSecond || (flowToo && l.flow != 0)

/-- Reads the token that comes next, which begins with a character. -/
def token (x : Char) (l : Lexer) : Step Lexer :=
  let c := l.cursor
  let lineStart := c.column == 0
  match x with
  | '%' =>
      if lineStart then do
        let l ← l.betweenDocuments
        let (t, c) ← directiveToken l.cursor
        pure { l.emit t with cursor := c }
      else refuse
  | '[' => l.openFlow .flowSequenceStart
  | '\x7b' => l.openFlow .flowMappingStart
  | ']' => l.closeFlow .flowSequenceEnd
  | '\x7d' => l.closeFlow .flowMappingEnd
  | ',' => l.flowComma
  | '*' => l.nodeToken fun c => do let (n, c) ← anchorName c; pure (.alias n, c)
  | '&' => l.nodeToken fun c => do let (n, c) ← anchorName c; pure (.anchor n, c)
  | '!' => l.nodeToken tagToken
  | '\'' => l.nodeToken (quotedToken false)
  | '"' => l.nodeToken (quotedToken true)
  | _ =>
      if lineStart && c.atMarker '-' then do
        let l ← l.betweenDocuments
        pure (l.take 3 .documentStart)
      else if lineStart && c.atMarker '.' then do
        let l ← l.betweenDocuments
        pure (l.take 3 .documentEnd)
      else if x == '-' && l.atSign false then l.entrySign
      else if x == '?' && l.atSign true then l.keySign
      else if x == ':' && l.atSign true then l.valueSign
      else if x == '|' && l.flow == 0 then l.blockToken false
      else if x == '>' && l.flow == 0 then l.blockToken true
      else if l.beginsPlain then l.plainToken
      else refuse

/-- The end of the text, at which all tokens are ready. -/
def finish (l : Lexer) : Step Lexer := do
  let l ← (l.unwindTo (-1)).dropKey
  let l := l.emit .streamEnd
  pure { l with ready := l.count }

/-! ## §5. All tokens. -/

/-- The number of tokens before the first at which a key may have begun. -/
def settled (l : Lexer) : Nat := l.keys.foldl (fun n k => min n k.2.number) l.count

/-- Makes tokens ready, if there are any that are not. -/
def settle (l : Lexer) : Step Lexer := do
  if l.count ≤ l.ready then pure l
  else
    let l ← l.dropStale
    pure { l with ready := l.settled }

/-- Reads on to the next token. -/
def step (l : Lexer) : Step Lexer := do
  let l ← l.toNextToken.dropStale
  let l := l.unwindTo l.cursor.column
  match l.cursor.peek with
  | none => l.finish
  | some x =>
      let l ← l.token x
      l.settle

/-- Whether the end of the text has been read. -/
def isFinished (l : Lexer) : Bool := l.tokens.head? == some .streamEnd

/-- Reads tokens, at most so many, up to the end of the text or to a fault. -/
def run : Nat → Lexer → Lexer × Option Fault
  | 0, l => (l, none)
  | fuel + 1, l =>
      match l.step with
      | .error f => (l, some f)
      | .ok l => if l.isFinished then (l, none) else run fuel l

end Lexer

/-- The tokens of a text that are ready at its end or at the first fault, which comes with them. -/
def tokens (cs : List Char) : List Token × Option Fault :=
  let (l, fault) := Lexer.run (cs.length + 2) (.start cs)
  (l.tokens.reverse.take l.ready, fault)

end QuasiGrammar.Yaml
