import QuasiGrammar.Failure
import QuasiGrammar.Number.Numeral
import QuasiGrammar.Regex.Fault
import QuasiGrammar.Regex.Syntax
import QuasiGrammar.Regex.Token
import QuasiGrammar.Text.CharName
import QuasiGrammar.Text.Identifier
import QuasiGrammar.Total

/-
  QuasiGrammar.Regex.Reader
  ─────────────────────────
  Reads a regular expression into its syntax.

  The reader stands before a token, and a step takes it.  A fault is found at
  the place where the reader stands, or some characters before it; the first
  fault in reading order decides.  A lone backslash at the end is a fault as
  soon as the reader stands before it.
-/

namespace QuasiGrammar.Regex

open Number Text

/-! ## §1. The reader. -/

/-- Why reading stops. -/
inductive Refused where
  | fault (f : Fault)
  /-- The expression is beyond what an engine can count. -/
  | defect (d : Defect)
  deriving DecidableEq, Repr

/-- Where a reader stands, and what it knows of the expression so far. -/
structure Scan where
  /-- The tokens that have not been read. -/
  rest : List Token
  /-- Whether a lone backslash follows the last token. -/
  broken : Bool
  /-- The number of characters before the next token. -/
  place : Nat
  /-- The number of the next group. -/
  nextGroup : Nat
  /-- The named groups, the latest first. -/
  names : List (List Char × Nat)
  /-- The widths of the groups that have been closed. -/
  widths : List (Nat × Width)
  /-- Inside a lookbehind, the number of its first group. -/
  lookbehind : Option Nat
  /-- The groups that conditions name by number, with the first place of each, the latest
  first. -/
  conditions : List (Nat × Nat)
  /-- The flags of the whole expression. -/
  flags : List Char
  deriving Repr

/-- A step of the reader. -/
abbrev Read (α : Type) := StateT Scan (Except Refused) α

/-- A fault at a place. -/
def failAt {α : Type} (cause : Cause) (place : Nat) : Read α :=
  throw (.fault ⟨cause, some place⟩)

/-- A fault some characters before the place where the reader stands. -/
def failBack {α : Type} (cause : Cause) (back : Nat) : Read α := do
  failAt cause ((← get).place - back)

/-- Refuses to stand before a lone backslash. -/
def settle : Read Unit := do
  let s ← get
  if s.rest.isEmpty && s.broken then failAt .loneBackslash s.place else pure ()

/-- The next token. -/
def peek : Read (Option Token) := do return (← get).rest.head?

/-- Takes some tokens. -/
def skip (count : Nat) : Read Unit := do
  modify fun s =>
    { s with
      rest := s.rest.drop count
      place := s.place + total Token.width (s.rest.take count) }
  settle

/-- Takes the next token, if there is one. -/
def take : Read (Option Token) := do
  match ← peek with
  | none => pure none
  | some t =>
      skip 1
      pure (some t)

/-- Takes the next token if it is a given character. -/
def accept (c : Char) : Read Bool := do
  if (← peek) = some (.plain c) then
    skip 1
    pure true
  else pure false

/-- The character of a plain token that is of a kind. -/
def Token.ofKind? (kind : Char → Bool) : Token → Option Char
  | .plain c => if kind c then some c else none
  | .escaped _ => none

/-- Takes at most `limit` characters of a kind. -/
def takeKind (limit : Nat) (kind : Char → Bool) : Read (List Char) := do
  let run := ((← get).rest.take limit).takeWhile fun t => (t.ofKind? kind).isSome
  if run.isEmpty then pure []
  else
    skip run.length
    pure (tokenChars run)

/-- Takes a name of a sort and the character that ends it. -/
def takeName (terminator : Char) (sort : String) : Read (List Char) := do
  let s ← get
  let body := s.rest.takeWhile (· != .plain terminator)
  let name := tokenChars body
  if body.length = s.rest.length then
    skip body.length
    if name.isEmpty then failBack (.missingName sort) 0
    else failBack (.unterminatedName terminator) name.length
  else
    skip (body.length + 1)
    if name.isEmpty then failBack (.missingName sort) 1
    else pure name

/-! ## §2. Escapes. -/

/-- The largest number of a code point. -/
def maxCodePoint : Nat := 0x10ffff

/-- The largest number that an engine takes for a code point. -/
def maxCodeNumber : Nat := 0x7fffffff

/-- The control character that a letter after a backslash stands for. -/
def controlEscape? : Char → Option Nat
  | 'a' => some 0x07
  | 'b' => some 0x08
  | 'f' => some 0x0c
  | 'n' => some 0x0a
  | 'r' => some 0x0d
  | 't' => some 0x09
  | 'v' => some 0x0b
  | _ => none

/-- The class of characters that a letter after a backslash stands for. -/
def classEscape? : Char → Option Member
  | 'd' => some (.cls .digit false)
  | 'D' => some (.cls .digit true)
  | 's' => some (.cls .space false)
  | 'S' => some (.cls .space true)
  | 'w' => some (.cls .word false)
  | 'W' => some (.cls .word true)
  | _ => none

/-- The anchor that a letter after a backslash stands for. -/
def anchorEscape? : Char → Option Anchor
  | 'A' => some .textStart
  | 'Z' => some .textEnd
  | 'b' => some .wordEdge
  | 'B' => some .notWordEdge
  | _ => none

/-- A code point by exactly so many hexadecimal digits. -/
def hexEscape (letter : Char) (count : Nat) : Read Nat := do
  let ds ← takeKind count isHexDigit
  let text := '\\' :: letter :: ds
  if ds.length < count then failBack (.incompleteEscape text) text.length
  else
    let n := ofDigits 16 ds
    if n > maxCodeNumber then throw (.defect .codePointTooLarge)
    else if n > maxCodePoint then failBack (.badEscape text) text.length
    else pure n

/-- A code point by the name of its character. -/
def nameEscape : Read Nat := do
  if ← accept '\x7b' then
    let name ← takeName '\x7d' "character name"
    match charNamed? name with
    | some c => pure c.toNat
    | none => failBack (.undefinedCharacter name) (name.length + 4)
  else failBack .missingBrace 0

/-- A code point by octal digits, of which some have been taken. -/
def octalEscape (ds : List Char) : Read Nat := do
  let n := ofDigits 8 ds
  if n > 0o377 then failBack (.octalTooLarge ('\\' :: ds)) (ds.length + 1) else pure n

/-- A code point by a letter or sign after a backslash that has no other meaning. -/
def plainEscape (c : Char) : Read Nat := do
  if c.isAlphanum then failBack (.badEscape ['\\', c]) 2 else pure c.toNat

/-- An escape that spells a code point by digits or by name. -/
def codeEscape? (c : Char) : Option (Read Nat) :=
  match c with
  | 'x' => some (hexEscape 'x' 2)
  | 'u' => some (hexEscape 'u' 4)
  | 'U' => some (hexEscape 'U' 8)
  | 'N' => some nameEscape
  | _ => none

/-- The member of a set that an escape stands for, after its first character. -/
def setEscape (c : Char) : Read Member := do
  match controlEscape? c, classEscape? c, codeEscape? c with
  | some n, _, _ => pure (.single n)
  | none, some m, _ => pure m
  | none, none, some code => return .single (← code)
  | none, none, none =>
      if isOctDigit c then
        let ds ← takeKind 2 isOctDigit
        return .single (← octalEscape (c :: ds))
      else return .single (← plainEscape c)

/-- Refuses to refer to a group that is open, or that the same lookbehind has opened. -/
def checkLookbehind (index : Nat) : Read Unit := do
  let s ← get
  match s.lookbehind with
  | none => pure ()
  | some first =>
      if (s.widths.lookup index).isNone then failBack .openGroup 0
      else if index ≥ first then failBack .sameLookbehind 0
      else pure ()

/-- A reference to a group by its number, after the digits. -/
def groupReference (ds : List Char) : Read Item := do
  let s ← get
  let index := ofDigits 10 ds
  if index < s.nextGroup then
    if (s.widths.lookup index).isNone then failBack .openGroup (ds.length + 1)
    else
      checkLookbehind index
      pure (.reference index false)
  else failBack (.invalidReference index) ds.length

/-- An escape by digits: an octal code point after a zero or of three octal digits, else a
reference to a group by one or two digits. -/
def digitEscape (c : Char) : Read Item := do
  if c = '0' then
    let ds ← takeKind 2 isOctDigit
    return .literal (← octalEscape (c :: ds))
  else
    match ← takeKind 1 Char.isDigit with
    | [] => groupReference [c]
    | ds =>
        if (c :: ds).all isOctDigit then
          match ← takeKind 1 isOctDigit with
          | [] => groupReference (c :: ds)
          | third => return .literal (← octalEscape (c :: ds ++ third))
        else groupReference (c :: ds)

/-- The item that an escape stands for, after its first character. -/
def itemEscape (c : Char) : Read Item := do
  match anchorEscape? c, classEscape? c, controlEscape? c, codeEscape? c with
  | some a, _, _, _ => pure (.anchor a)
  | none, some m, _, _ => pure (.set false [m])
  | none, none, some n, _ => pure (.literal n)
  | none, none, none, some code => return .literal (← code)
  | none, none, none, none =>
      if c.isDigit then digitEscape c else return .literal (← plainEscape c)

/-! ## §3. Sets. -/

/-- The member that a token of a set stands for. -/
def setToken : Token → Read Member
  | .escaped c => setEscape c
  | .plain c => pure (.single c.toNat)

/-- The range between two members that were written as two tokens. -/
def rangeOf (first last : Token) (low high : Member) : Read Member := do
  let text := first.chars ++ ['-'] ++ last.chars
  match low, high with
  | .single a, .single b =>
      if b < a then failBack (.badRange text) text.length else pure (.range a b)
  | _, _ => failBack (.badRange text) text.length

/-- The members of a set up to its closing bracket.  `start` is the place of the opening bracket,
and the members read so far are given with the latest first. -/
def setMembers (start : Nat) : Nat → List Member → Read (List Member)
  | 0, _ => failAt .unterminatedSet start
  | fuel + 1, acc => do
      match ← take with
      | none => failAt .unterminatedSet start
      | some t =>
          if t = .plain ']' && !acc.isEmpty then pure acc.reverse
          else
            let m ← setToken t
            if ← accept '-' then
              match ← take with
              | none => failAt .unterminatedSet start
              | some u =>
                  if u = .plain ']' then pure ((.single '-'.toNat :: m :: acc).reverse)
                  else
                    let n ← setToken u
                    let r ← rangeOf t u m n
                    setMembers start fuel (r :: acc)
            else setMembers start fuel (m :: acc)

/-- A set, after its opening bracket. -/
def readSet : Read Item := do
  let start := (← get).place - 1
  let negated ← accept '^'
  let members ← setMembers start ((← get).rest.length + 1) []
  pure (.set negated members)

/-! ## §4. Repetitions. -/

/-- A repeat count; none is written as no digits. -/
def readCount (ds : List Char) : Read (Option Nat) := do
  if ds.isEmpty then pure none
  else if ds.length > maxDigits then throw (.fault ⟨.tooManyDigits ds.length, none⟩)
  else
    let n := ofDigits 10 ds
    if n ≥ countLimit then throw (.defect .repeatTooLarge) else pure (some n)

/-- The digits of an upper bound, after a comma; without a comma they are those of the lower one. -/
def readUpper (limit : Nat) (low : List Char) : Read (List Char) := do
  if ← accept ',' then takeKind limit Char.isDigit else pure low

/-- The bounds that digits spell; `start` is the place after the opening brace. -/
def boundsOf (start : Nat) (low high : List Char) : Read (Nat × Option Nat) := do
  let min ← readCount low
  match ← readCount high with
  | none => pure (min.getD 0, none)
  | some max =>
      if max < min.getD 0 then failAt .minAboveMax start else pure (min.getD 0, some max)

/-- The bounds in braces, after the opening one, if they are well formed; else nothing is
taken and the brace stands for itself. -/
def readBounds : Read (Option (Nat × Option Nat)) := do
  let before ← get
  if before.rest.head? = some (.plain '\x7d') then pure none
  else
    let low ← takeKind before.rest.length Char.isDigit
    let high ← readUpper before.rest.length low
    if ← accept '\x7d' then return some (← boundsOf before.place low high)
    else
      set before
      pure none

/-- The bounds that a repeat sign stands for; `none` for a brace that stands for itself. -/
def readQuantifier : Char → Read (Option (Nat × Option Nat))
  | '?' => pure (some (0, some 1))
  | '*' => pure (some (0, none))
  | '+' => pure (some (1, none))
  | _ => readBounds

/-- How a repetition chooses, by the sign after it. -/
def readGreed : Read Greed := do
  if ← accept '?' then pure .reluctant
  else if ← accept '+' then pure .possessive
  else pure .greedy

/-- The item under a repetition: a group without number and flags gives way to its items. -/
def repeated : Item → List Item
  | .group none [] [] body => body
  | i => [i]

/-- Repeats the latest item; `start` is the place of the sign. -/
def repeatLast (start low : Nat) (high : Option Nat) (acc : List Item) : Read (List Item) := do
  match acc with
  | [] => failAt .nothingToRepeat start
  | i :: before =>
      if i.isAnchor then failAt .nothingToRepeat start
      else if i.isRepetition then failAt .multipleRepeat start
      else
        let greed ← readGreed
        pure (.repetition greed low high (repeated i) :: before)

/-! ## §5. Flags. -/

/-- The letters of all flags. -/
def flagLetters : List Char := ['i', 'L', 'm', 's', 'x', 'a', 't', 'u']

/-- The flags of which one at most is on: how classes of characters are understood. -/
def typeFlags : List Char := ['a', 'L', 'u']

/-- The flags that only the whole expression can have. -/
def globalFlags : List Char := ['t']

/-- The letter of a flag, if the token is one. -/
def Token.flag? (t : Token) : Option Char := t.ofKind? flagLetters.contains

/-- Whether a token is a letter of any script. -/
def Token.isLetter (t : Token) : Bool := (t.ofKind? Text.isLetter).isSome

/-- Flags that are turned on, from a first letter on: the flags and the character that ends
them. -/
def flagsOn : Nat → Char → List Char → Read (List Char × Char)
  | 0, _, _ => failBack .missingFlagEnd 0
  | fuel + 1, letter, acc => do
      if letter = 'L' then failBack .localeFlag 0
      else
        let acc := if acc.contains letter then acc else acc ++ [letter]
        if typeFlags.contains letter && acc.any (fun f => typeFlags.contains f && f != letter) then
          failBack .clashingTypes 0
        else
          match ← take with
          | none => failBack .missingFlagEnd 0
          | some t =>
              match t.ofKind? [')', '-', ':'].contains, t.flag? with
              | some c, _ => pure (acc, c)
              | none, some next => flagsOn fuel next acc
              | none, none =>
                  failBack (if t.isLetter then .unknownFlag else .missingFlagEnd) t.width

/-- Flags that are turned off, from a first letter on, up to the colon. -/
def flagsOff : Nat → Char → List Char → Read (List Char)
  | 0, _, _ => failBack .missingColon 0
  | fuel + 1, letter, acc => do
      if typeFlags.contains letter then failBack .typeTurnedOff 0
      else
        let acc := if acc.contains letter then acc else acc ++ [letter]
        match ← take with
        | none => failBack .missingColon 0
        | some t =>
            if t = .plain ':' then pure acc
            else
              match t.flag? with
              | some next => flagsOff fuel next acc
              | none => failBack (if t.isLetter then .unknownFlag else .missingColon) t.width

/-- Flags that are turned on, if any, and the character that ends them. -/
def readOn (fuel : Nat) (first : Char) : Read (List Char × Char) :=
  if first = '-' then pure ([], '-') else flagsOn fuel first []

/-- Flags that are turned off, if any, after the character that ends those turned on. -/
def readOff (fuel : Nat) (stop : Char) : Read (List Char) := do
  if stop = '-' then
    match ← take with
    | none => failBack .missingFlag 0
    | some t =>
        match t.flag? with
        | some letter => flagsOff fuel letter []
        | none => failBack (if t.isLetter then .unknownFlag else .missingFlag) t.width
  else pure []

/-! ## §6. Groups. -/

/-- Opens a capturing group, and gives its number. -/
def openGroup (name : Option (List Char)) : Read Nat := do
  let s ← get
  let index := s.nextGroup
  match name with
  | none =>
      set { s with nextGroup := index + 1 }
      pure index
  | some n =>
      match s.names.lookup n with
      | some first => failBack (.redefinedGroup n index first) (n.length + 1)
      | none =>
          set { s with nextGroup := index + 1, names := (n, index) :: s.names }
          pure index

/-- The width of a closed group; an open one counts as empty. -/
def Scan.groupWidth (s : Scan) (index : Nat) : Width := (s.widths.lookup index).getD ⟨0, 0⟩

/-- Closes a capturing group. -/
def closeGroup (index : Nat) (body : List Item) : Read Unit :=
  modify fun s => { s with widths := (index, widthOf s.groupWidth body) :: s.widths }

/-- Takes the parenthesis that closes a group; `start` is the place of the opening one. -/
def expectClosing (start : Nat) : Read Unit := do
  if ← accept ')' then pure () else failAt .unterminatedGroup start

/-- Refuses a name that is no identifier. -/
def checkName (name : List Char) : Read Unit := do
  if isIdentifier name then pure () else failBack (.badGroupName name) (name.length + 1)

/-- The number of a named group. -/
def groupNamed (name : List Char) : Read Nat := do
  match (← get).names.lookup name with
  | some index => pure index
  | none => failBack (.unknownGroup name) (name.length + 1)

/-- The group that a reference names, after the equals sign. -/
def namedReference : Read Nat := do
  let name ← takeName ')' "group name"
  checkName name
  let index ← groupNamed name
  if ((← get).widths.lookup index).isNone then failBack .openGroup (name.length + 1)
  else
    checkLookbehind index
    pure index

/-- The largest number of a group. -/
def maxGroup : Nat := 2147483647

/-- The group of a condition, after its opening parenthesis, and whether it was told by its name. -/
def conditionGroup : Read (Nat × Bool) := do
  let name ← takeName ')' "group name"
  if isIdentifier name then return (← groupNamed name, true)
  else
    match readInt 10 name with
    | .error _ => failBack (.badGroupName name) (name.length + 1)
    | .ok i =>
        if i < 0 then failBack (.badGroupName name) (name.length + 1)
        else
          let index := i.toNat
          if index = 0 then failBack .badGroupNumber (name.length + 1)
          else if index ≥ maxGroup then failBack (.invalidReference index) (name.length + 1)
          else
            modify fun s =>
              if (s.conditions.lookup index).isSome then s
              else { s with conditions := (index, s.place - name.length - 1) :: s.conditions }
            pure (index, false)

/-- Takes a comment and its closing parenthesis; `start` is the place of the opening one. -/
def skipComment (start : Nat) : Read Unit := do
  let s ← get
  let body := s.rest.takeWhile (· != .plain ')')
  if body.length = s.rest.length then
    skip body.length
    failAt .unterminatedComment start
  else skip (body.length + 1)

/-- Takes the rest of a line with its line feed. -/
def skipLine : Read Unit := do
  let s ← get
  let body := s.rest.takeWhile (· != .plain '\n')
  skip (body.length + 1)

/-- White space that flag `x` lets an expression hold. -/
def isPadding (c : Char) : Bool :=
  c == ' ' || c == '\t' || c == '\n' || c == '\r' || c == '\x0b' || c == '\x0c'

/-- What an opening parenthesis can stand for, once the signs after it have been taken. -/
inductive Opening where
  /-- A group to be read up to its closing parenthesis. -/
  | group (name : Option (List Char))
  | plain (on off : List Char)
  | atomic
  | look (ahead negated : Bool)
  | conditional
  /-- A reference to a group by its name, which is complete. -/
  | reference (index : Nat)
  /-- Nothing: a comment. -/
  | comment
  /-- Flags of the whole expression. -/
  | flags
  deriving Repr

/-- Whether flags of the whole expression have been read. -/
def Opening.isFlags : Opening → Bool
  | .flags => true
  | _ => false

/-- The sign of a lookbehind, after its angle bracket. -/
def readLookbehind : Read Opening := do
  match ← take with
  | none => failBack .unexpectedEnd 0
  | some (.plain '=') => pure (.look false false)
  | some (.plain '!') => pure (.look false true)
  | some t => failBack (.unknownExtension ('<' :: t.chars)) (t.width + 2)

/-- A named group or a reference to one, after the letter. -/
def readNamed : Read Opening := do
  if ← accept '<' then
    let name ← takeName '>' "group name"
    checkName name
    pure (.group (some name))
  else if ← accept '=' then
    return .reference (← namedReference)
  else
    match ← take with
    | none => failBack .unexpectedEnd 0
    | some t => failBack (.unknownExtension ('P' :: t.chars)) (t.width + 2)

/-- Flags from their first character on, which are those of a group or of the whole expression. -/
def readFlags (first : Char) : Read Opening := do
  let fuel := (← get).rest.length + 1
  let (on, stop) ← readOn fuel first
  if stop = ')' then
    modify fun s => { s with flags := s.flags ++ on }
    pure .flags
  else if on.any globalFlags.contains then failBack .globalTurnedOn 1
  else
    let off ← readOff fuel stop
    if off.any globalFlags.contains then failBack .globalTurnedOff 1
    else if on.any off.contains then failBack .turnedOnAndOff 1
    else pure (.plain on off)

/-- The signs after an opening parenthesis at the place `start`. -/
def readOpening (start : Nat) : Read Opening := do
  if ← accept '?' then
    match ← take with
    | none => failBack .unexpectedEnd 0
    | some (.plain 'P') => readNamed
    | some (.plain ':') => pure (.plain [] [])
    | some (.plain '#') =>
        skipComment start
        pure .comment
    | some (.plain '=') => pure (.look true false)
    | some (.plain '!') => pure (.look true true)
    | some (.plain '<') => readLookbehind
    | some (.plain '(') => pure .conditional
    | some (.plain '>') => pure .atomic
    | some t =>
        match t.ofKind? (fun c => flagLetters.contains c || c == '-') with
        | none => failBack (.unknownExtension t.chars) (t.width + 1)
        | some c => readFlags c
  else pure (.group none)

/-- Reads inside a lookahead or lookbehind; the outermost lookbehind counts. -/
def inLook {α : Type} (ahead : Bool) (body : Read α) : Read α := do
  if !ahead && (← get).lookbehind.isNone then
    modify fun s => { s with lookbehind := some s.nextGroup }
    let a ← body
    modify fun s => { s with lookbehind := none }
    pure a
  else body

/-- Reads the second sequence of a condition, if there is one. -/
def afterBar (sequence : Read (List Item)) : Read (List Item) := do
  if ← accept '|' then
    let no ← sequence
    if (← peek) = some (.plain '|') then failBack .tooManyBranches 0 else pure no
  else pure []

/-- Whether flag `x` holds inside a group. -/
def verboseInside (verbose : Bool) (on off : List Char) : Bool :=
  (verbose || on.contains 'x') && !off.contains 'x'

/-! ## §7. Sequences and choices. -/

/-- What a sign of repetition at the place `start` makes of the items before it, the latest of which
comes first. -/
def readRepetition (c : Char) (start : Nat) (acc : List Item) : Read (List Item) := do
  match ← readQuantifier c with
  | none => pure (.literal c.toNat :: acc)
  | some (low, high) => repeatLast start low high acc

/-- What an opening parenthesis at the place `start` adds to the items before it, and whether flag
`x` holds then.  `first` tells whether flags of the whole expression may still stand here, and
`group` reads what is no such flags. -/
def readParenthesis (group : Opening → Read (Option Item)) (verbose first : Bool) (start : Nat)
    (acc : List Item) : Read (Bool × List Item) := do
  let opening ← readOpening start
  if opening.isFlags then
    if first && acc.isEmpty then return ((← get).flags.contains 'x', acc)
    else failAt .lateFlags start
  else return (verbose, (← group opening).toList ++ acc)

/-- What a token at the place `start` adds to the items before it, and whether flag `x` holds then;
while it holds, white space and comments count for nothing. -/
def readToken (group : Opening → Read (Option Item)) (verbose first : Bool) (start : Nat)
    (acc : List Item) : Token → Read (Bool × List Item)
  | .escaped c => return (verbose, (← itemEscape c) :: acc)
  | .plain c => do
      if verbose && isPadding c then pure (verbose, acc)
      else if verbose && c = '#' then
        skipLine
        pure (verbose, acc)
      else
        match c with
        | '.' => pure (verbose, .any :: acc)
        | '^' => pure (verbose, .anchor .lineStart :: acc)
        | '$' => pure (verbose, .anchor .lineEnd :: acc)
        | '[' => return (verbose, (← readSet) :: acc)
        | '(' => readParenthesis group verbose first start acc
        | '*' | '+' | '?' | '\x7b' => return (verbose, ← readRepetition c start acc)
        | c => pure (verbose, .literal c.toNat :: acc)

mutual

/-- The items up to the end, a bar or a closing parenthesis.  `first` tells whether flags of the
whole expression may still stand here, and the items read so far are given with the latest
first. -/
def readItems : Nat → Bool → Bool → List Item → Read (List Item)
  | 0, _, _, acc => pure acc.reverse
  | fuel + 1, verbose, first, acc => do
      match ← peek with
      | none | some (.plain '|') | some (.plain ')') => pure acc.reverse
      | some t =>
          let start := (← get).place
          skip 1
          let (verbose, acc) ←
            readToken (readGroup fuel verbose start) verbose first start acc t
          readItems fuel verbose first acc

/-- What an opening parenthesis at the place `start` stands for. -/
def readGroup : Nat → Bool → Nat → Opening → Read (Option Item)
  | 0, _, start, _ => failAt .unterminatedGroup start
  | fuel + 1, verbose, start, opening => do
      match opening with
      | .comment | .flags => pure none
      | .reference index => pure (some (.reference index true))
      | .group name => do
          let index ← openGroup name
          let body ← readChoice fuel verbose false
          expectClosing start
          closeGroup index body
          pure (some (.group (some index) [] [] body))
      | .plain on off => do
          let body ← readChoice fuel (verboseInside verbose on off) false
          expectClosing start
          pure (some (.group none on off body))
      | .atomic => do
          let body ← readChoice fuel verbose false
          expectClosing start
          pure (some (.atomic body))
      | .look ahead negated => do
          let body ← inLook ahead (readChoice fuel verbose false)
          expectClosing start
          pure (some (.look ahead negated body))
      | .conditional => do
          let (index, named) ← conditionGroup
          checkLookbehind index
          let yes ← readItems fuel verbose false []
          let no ← afterBar (readItems fuel verbose false [])
          expectClosing start
          pure (some (.conditional index named yes no))

/-- Sequences with bars between them, up to the end or a closing parenthesis. -/
def readChoice : Nat → Bool → Bool → Read (List Item)
  | 0, _, _ => pure []
  | fuel + 1, verbose, top => do
      let head ← readItems fuel verbose top []
      let tail ← readAlternatives fuel verbose top
      if tail.isEmpty then pure head else pure [.branch (head :: tail)]

/-- The sequences after the first one, each after a bar. -/
def readAlternatives : Nat → Bool → Bool → Read (List (List Item))
  | 0, _, _ => pure []
  | fuel + 1, verbose, top => do
      if ← accept '|' then
        let scan ← get
        let verbose := if top then scan.flags.contains 'x' else verbose
        let head ← readItems fuel verbose false []
        let tail ← readAlternatives fuel verbose top
        pure (head :: tail)
      else pure []

end

/-! ## §8. Expressions. -/

/-- An expression that has been read: its items, the widths of its groups and its flags. -/
structure Expression where
  items : List Item
  widths : List (Nat × Width)
  flags : List Char
  /-- One more than the number of groups. -/
  nextGroup : Nat
  deriving Repr

/-- The width of a group of an expression. -/
def Expression.groupWidth (e : Expression) (index : Nat) : Width :=
  (e.widths.lookup index).getD ⟨0, 0⟩

/-- The earliest condition on a group that the expression does not have. -/
def danglingCondition? (s : Scan) : Option (Nat × Nat) :=
  s.conditions.reverse.find? fun c => c.1 ≥ s.nextGroup

/-- The expression with some items, if they are all of it. -/
def finish (items : List Item) : Read Expression := do
  let s ← get
  if s.flags.contains 'a' && s.flags.contains 'u' then
    throw (.fault ⟨.clashingGlobalTypes, none⟩)
  else if !s.rest.isEmpty then failBack .unbalanced 0
  else
    match danglingCondition? s with
    | some (index, place) => failAt (.invalidReference index) place
    | none => pure ⟨items, s.widths, s.flags, s.nextGroup⟩

/-- A whole expression. -/
def readExpression (fuel : Nat) : Read Expression := do
  settle
  finish (← readChoice fuel false true)

/-- The reader before an expression. -/
def Scan.start (source : List Char) : Scan :=
  let (ts, broken) := tokens source
  ⟨ts, broken, 0, 1, [], [], none, [], []⟩

/-- Reads an expression. -/
def parse (source : List Char) : Except Refused Expression :=
  (readExpression (4 * source.length + 8)).run' (Scan.start source)

end QuasiGrammar.Regex
