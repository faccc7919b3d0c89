import QuasiGrammar.Regex.Reader

/-
  QuasiGrammar.Regex.Match
  ────────────────────────
  What an expression matches.  An item leads from a point of the text to others,
  and all of these are listed, the preferred ones first: a choice lists its
  alternatives in turn, and a repetition goes on before it stops, or the other
  way round.  A sequence goes through the lists in depth; what is possessive, and
  a group that is atomic, keeps the first point only.

      paths     all points that an item leads to
      match?    the first one, from the beginning of a text
      ends      where matches end that may begin anywhere

  What the classes of characters are, and which characters differ in case alone,
  is for the alphabet to say.
-/

namespace QuasiGrammar.Regex

/-! ## §1. Characters. -/

/-- How characters are understood. -/
structure Alphabet where
  /-- Whether a character is of a class. -/
  isIn : CharClass → Char → Bool
  /-- The code points that a character stands for when case counts for nothing, its own among
  them. -/
  variants : Char → List Nat

/-- Whether a character is of a class, as far as ASCII goes. -/
def isInAscii : CharClass → Char → Bool
  | .digit, c => c.isDigit
  | .space, c => c == ' ' || ('\t' ≤ c && c ≤ '\r')
  | .word, c => c.isAlphanum || c == '_'

/-- The alphabet of ASCII. -/
def Alphabet.ascii : Alphabet where
  isIn := isInAscii
  variants c := [c.toLower.toNat, c.toUpper.toNat]

/-- Whether a character is of a class under some flags. -/
def Alphabet.isOf (a : Alphabet) (flags : List Char) (k : CharClass) (c : Char) : Bool :=
  if flags.contains 'a' then isInAscii k c else a.isIn k c

/-- The code points that a character stands for under some flags. -/
def Alphabet.codes (a : Alphabet) (flags : List Char) (c : Char) : List Nat :=
  if flags.contains 'i' then a.variants c else [c.toNat]

/-- Whether a member of a set has a character. -/
def Member.has (a : Alphabet) (flags : List Char) (c : Char) : Member → Bool
  | .single n => (a.codes flags c).contains n
  | .range low high => (a.codes flags c).any fun n => low ≤ n && n ≤ high
  | .cls k complement => a.isOf flags k c != complement

/-- The flags inside a group. -/
def flagsInside (flags on off : List Char) : List Char :=
  let kept := if on.any typeFlags.contains then flags.filter (!typeFlags.contains ·) else flags
  (kept ++ on).filter (!off.contains ·)

/-! ## §2. Points. -/

/-- A point in a text: the characters before it, the latest first, those after it, and what the
groups hold, the latest first. -/
structure Point where
  before : List Char
  after : List Char
  groups : List (Nat × List Char)
  deriving DecidableEq, Repr

namespace Point

/-- The beginning of a text. -/
def start (text : List Char) : Point := ⟨[], text, []⟩

/-- The point after the next character, if that is one of those wanted. -/
def next (wanted : Char → Bool) (p : Point) : List Point :=
  match p.after with
  | [] => []
  | c :: rest => if wanted c then [{ p with before := c :: p.before, after := rest }] else []

/-- The point some characters before. -/
def back (count : Nat) (p : Point) : Point :=
  { p with before := p.before.drop count, after := (p.before.take count).reverse ++ p.after }

/-- The characters between a point and one after it. -/
def textTo (p q : Point) : List Char := (q.before.take (q.before.length - p.before.length)).reverse

/-- A group holds what has been matched since a point. -/
def hold (start : Point) (index : Nat) (p : Point) : Point :=
  { p with groups := (index, start.textTo p) :: p.groups }

/-- Whether there is a word on exactly one side of the point. -/
def isWordEdge (a : Alphabet) (flags : List Char) (p : Point) : Bool :=
  p.before.head?.any (a.isOf flags .word) != p.after.head?.any (a.isOf flags .word)

end Point

/-- Whether an anchor holds at a point.  The text ends before a last line feed too, as far as the end
of the line is concerned, and an empty text has no edges of words, nor places without them. -/
def Anchor.holds (a : Alphabet) (flags : List Char) (p : Point) : Anchor → Bool
  | .lineStart => p.before.isEmpty || (flags.contains 'm' && p.before.head? == some '\n')
  | .lineEnd =>
      p.after.isEmpty || p.after == ['\n'] || (flags.contains 'm' && p.after.head? == some '\n')
  | .textStart => p.before.isEmpty
  | .textEnd => p.after.isEmpty
  | .wordEdge => p.isWordEdge a flags
  | .notWordEdge => !(p.before.isEmpty && p.after.isEmpty) && !p.isWordEdge a flags

/-! ## §3. Repetitions. -/

section Turns

variable (step : Point → List Point)

/-- Exactly so many turns. -/
def exactly : Nat → Point → List Point
  | 0, p => [p]
  | n + 1, p => (step p).flatMap (exactly n)

/-- At most so many turns, many or few first.  A turn that matches nothing is the last one. -/
def atMost (many : Bool) : Nat → Point → List Point
  | 0, p => [p]
  | n + 1, p =>
      let more := (step p).flatMap fun q =>
        if q.after.length < p.after.length then atMost many n q else [q]
      if many then more ++ [p] else p :: more

/-- A number of turns within bounds, many or few first. -/
def turns (many : Bool) (low : Nat) (high : Option Nat) (p : Point) : List Point :=
  (exactly step low p).flatMap fun q =>
    -- No more turns than characters are left can match something.
    atMost step many ((high.map (· - low)).getD (q.after.length + 1)) q

end Turns

/-- The points that the way of choosing leaves. -/
def Greed.turns (step : Point → List Point) (low : Nat) (high : Option Nat) (p : Point) :
    Greed → List Point
  | .greedy => Regex.turns step true low high p
  | .reluctant => Regex.turns step false low high p
  | .possessive => (Regex.turns step true low high p).take 1

/-! ## §4. Items. -/

/-- What is left of a point by a look at the text around it. -/
def Point.afterLook (p : Point) (negated : Bool) (seen : List Point) : List Point :=
  match negated, seen with
  | false, [] => []
  | false, q :: _ => [{ p with groups := q.groups }]
  | true, [] => [p]
  | true, _ :: _ => []

mutual

/-- All points that an item leads to under some flags, the preferred ones first. -/
def Item.paths (a : Alphabet) : Item → List Char → Point → List Point
  | .literal n, flags, p => p.next fun c => (a.codes flags c).contains n
  | .any, flags, p => p.next fun c => flags.contains 's' || c != '\n'
  | .set negated members, flags, p => p.next fun c => members.any (·.has a flags c) != negated
  | .anchor anchor, flags, p => if anchor.holds a flags p then [p] else []
  | .group none on off body, flags, p => allPaths a body (flagsInside flags on off) p
  | .group (some index) on off body, flags, p =>
      (allPaths a body (flagsInside flags on off) p).map (p.hold index)
  | .atomic body, flags, p => (allPaths a body flags p).take 1
  | .repetition greed low high body, flags, p => greed.turns (allPaths a body flags) low high p
  | .branch alternatives, flags, p => eachPaths a alternatives flags p
  | .look true negated body, flags, p => p.afterLook negated (allPaths a body flags p)
  | .look false negated body, flags, p =>
      p.afterLook negated <|
        (List.range (p.before.length + 1)).flatMap fun count =>
          (allPaths a body flags (p.back count)).filter (·.after.length = p.after.length)
  | .reference index _, flags, p =>
      match p.groups.lookup index with
      | none => []
      | some text =>
          text.foldl
            (fun points c => points.flatMap
              (Point.next fun d => (a.codes flags c).any (a.codes flags d).contains)) [p]
  | .conditional index _ yes no, flags, p =>
      if (p.groups.lookup index).isSome then allPaths a yes flags p else allPaths a no flags p

/-- All points that a sequence leads to. -/
def allPaths (a : Alphabet) : List Item → List Char → Point → List Point
  | [], _, p => [p]
  | i :: rest, flags, p => (i.paths a flags p).flatMap (allPaths a rest flags)

/-- All points that a choice leads to. -/
def eachPaths (a : Alphabet) : List (List Item) → List Char → Point → List Point
  | [], _, _ => []
  | s :: rest, flags, p => allPaths a s flags p ++ eachPaths a rest flags p

end

/-! ## §5. Expressions. -/

namespace Expression

/-- All points that an expression leads to from the beginning of a text. -/
def paths (a : Alphabet) (e : Expression) (text : List Char) : List Point :=
  allPaths a e.items e.flags (Point.start text)

/-- The match of an expression at the beginning of a text. -/
def match? (a : Alphabet) (e : Expression) (text : List Char) : Option Point :=
  (e.paths a text).head?

/-- Whether an expression can match a text as a whole. -/
def matchesAll (a : Alphabet) (e : Expression) (text : List Char) : Bool :=
  (e.paths a text).any (·.after.isEmpty)

/-- The numbers of characters before the ends of all matches in a text, wherever they begin. -/
def ends (a : Alphabet) (e : Expression) (text : List Char) : List Nat :=
  (List.range (text.length + 1)).flatMap fun start =>
    (allPaths a e.items e.flags ⟨(text.take start).reverse, text.drop start, []⟩).map
      (·.before.length)

end Expression

end QuasiGrammar.Regex
