import ExpectedDamage.Document.Json.Reader
/-!
# Tokens of YAML

The structure of a YAML text lies in its indentation and in a few marks. Here it
is made explicit: blocks get tokens for their beginning and their end, and a key
that is recognised by the colon behind it gets its token in front of it.

`Scan` is the state of reading from left to right. A token that may turn out to be
a key is remembered as a `Candidate` of its nesting level until its line ends.
Anchors, tags, directives and block scalars are not part of the documents that
records come in, and are refused like malformed text.
-/

namespace ExpectedDamage.Document.Yaml

/-- A token of a text. -/
inductive Token where
  | documentStart
  | documentEnd
  | blockListStart
  | blockMapStart
  | blockEnd
  | flowListStart
  | flowListEnd
  | flowMapStart
  | flowMapEnd
  | item
  | comma
  | key
  | value
  /-- A scalar; a plain one may stand for something else than a text. -/
  | scalar (text : String) (plain : Bool)
  deriving DecidableEq, Repr

/-- A token that is a key if a colon follows it. -/
structure Candidate where
  /-- The place among the tokens. -/
  index : Nat
  /-- Whether nothing but a key may stand there. -/
  required : Bool
  place : Nat
  line : Nat
  column : Nat
  deriving DecidableEq, Repr

/-- The state of reading. -/
structure Scan where
  rest : List Char
  place : Nat := 0
  line : Nat := 0
  column : Nat := 0
  /-- The number of open brackets. -/
  depth : Nat := 0
  /-- The indentation of the innermost block, and of those around it. -/
  indent : Int := -1
  outer : List Int := []
  keyAllowed : Bool := true
  /-- The candidate of each depth, the innermost first. -/
  candidates : List (Nat × Candidate) := []
  tokens : List Token := []
  deriving Repr

def isBreak (c : Char) : Bool := c = '\n' || c = '\u0085' || c = '\u2028' || c = '\u2029'

def isSpaceOrBreak (c : Char) : Bool := c = ' ' || c = '\t' || isBreak c

/-- Whether the text ends or goes on with a space or a line break. -/
def atGap : List Char → Bool
  | [] => true
  | c :: _ => isSpaceOrBreak c

/-- Whether the character may occur in a text at all. -/
def isPrintable (c : Char) : Bool :=
  c = '\t' || c = '\n' || c = '\r' || c = '\u0085' ||
    (32 ≤ c.toNat && c.toNat ≠ 127 && !(128 ≤ c.toNat && c.toNat < 160)
      && c.toNat ≠ 0xFFFE && c.toNat ≠ 0xFFFF)

namespace Scan

/-- The state after one character. -/
def skip (s : Scan) : Scan :=
  match s.rest with
  | [] => s
  | c :: rest =>
    if isBreak c then { s with rest, place := s.place + 1, line := s.line + 1, column := 0 }
    else if c = '\uFEFF' then { s with rest, place := s.place + 1 }
    else { s with rest, place := s.place + 1, column := s.column + 1 }

/-- The state with keys allowed next, or not. -/
def allowing (s : Scan) (allowed : Bool) : Scan := { s with keyAllowed := allowed }

def skipMany (s : Scan) : Nat → Scan
  | 0 => s
  | n + 1 => s.skip.skipMany n

/-- The state after the characters of a kind at the beginning of the rest. -/
def skipWhile (s : Scan) (p : Char → Bool) : Scan := s.skipMany (s.rest.takeWhile p).length

/-- The state after one more token. -/
def push (s : Scan) (t : Token) : Scan := { s with tokens := s.tokens ++ [t] }

/-- Whether the line begins with three marks that divide documents. -/
def atDivider (s : Scan) (mark : String) : Bool :=
  s.column = 0 && mark.toList.isPrefixOf s.rest && atGap (s.rest.drop 3)

/-- The candidate of the present depth. -/
def candidate? (s : Scan) : Option Candidate :=
  (s.candidates.find? (·.1 == s.depth)).map Prod.snd

def dropCandidate (s : Scan) : Scan :=
  { s with candidates := s.candidates.filter fun c => c.1 ≠ s.depth }

/-- The state without the candidate of the present depth, which must not be required. -/
def giveUpCandidate? (s : Scan) : Option Scan :=
  if s.candidate?.any Candidate.required then none else some s.dropCandidate

/-- The state without candidates that are too far behind. -/
def dropStale? (s : Scan) : Option Scan :=
  let isStale (c : Candidate) : Bool := c.line ≠ s.line || 1024 < s.place - c.place
  if s.candidates.any fun c => isStale c.2 && c.2.required then none
  else some { s with candidates := s.candidates.filter fun c => !isStale c.2 }

/-- The next token as a candidate, where keys are allowed. -/
def offerCandidate? (s : Scan) : Option Scan :=
  if s.keyAllowed then
    s.giveUpCandidate?.map fun s =>
      let candidate : Candidate :=
        ⟨s.tokens.length, s.depth = 0 && s.indent = s.column, s.place, s.line, s.column⟩
      { s with candidates := (s.depth, candidate) :: s.candidates }
  else some s

/-- The state after the ends of all blocks that are indented beyond a column. -/
def unwind (column : Int) : List Int → Scan → Scan
  | [], s => s
  | outer :: rest, s =>
    if column < s.indent then
      unwind column rest ({ s with indent := outer, outer := rest }.push .blockEnd)
    else s

/-- The ends of blocks, outside of brackets. -/
def unwindTo (s : Scan) (column : Int) : Scan :=
  if s.depth = 0 then unwind column s.outer s else s

/-- The state with a block opened at a column, unless it is open already, and whether
it was opened. -/
def open? (s : Scan) (column : Nat) : Option Scan :=
  if s.indent < column then some { s with indent := column, outer := s.indent :: s.outer }
  else none

/-- The state with a block opened at the present column by a token. -/
def openWith (s : Scan) (t : Token) : Scan :=
  match s.open? s.column with
  | some opened => opened.push t
  | none => s

/-- The state after spaces, comments and line breaks. -/
def toNextToken : Nat → Scan → Scan
  | 0, s => s
  | bound + 1, s =>
    let s := s.skipWhile (· = ' ')
    let s := if s.rest.head? = some '#' then s.skipWhile fun c => !isBreak c else s
    if (s.rest.head?).any isBreak then
      toNextToken bound { s.skip with keyAllowed := s.keyAllowed || s.depth = 0 }
    else s

/-- The characters of a plain scalar up to a gap or a mark. -/
def plainRun (inFlow : Bool) : List Char → List Char
  | [] => []
  | c :: rest =>
    let endsAtColon := c = ':' &&
      (atGap rest || (inFlow && (rest.head?).any fun d => ",[]\x7b\x7d".toList.contains d))
    if isSpaceOrBreak c || endsAtColon || (inFlow && ",?[]\x7b\x7d".toList.contains c) then []
    else c :: plainRun inFlow rest

/-- The line breaks that a scalar goes over: one of them is a space, further ones stay. -/
def foldBreaks (first : Char) (further : List Char) : List Char :=
  if first ≠ '\n' then first :: further else if further.isEmpty then [' '] else further

/-- Line breaks, with spaces between them, up to the next text or divider. -/
def plainBreaks (read : List Char) : Nat → Scan → Option (List Char) × Scan
  | 0, s => (some read, s)
  | bound + 1, s =>
    match s.rest with
    | ' ' :: _ => plainBreaks read bound s.skip
    | c :: _ =>
      if isBreak c then
        let next := s.skip
        let normal := if c = '\u0085' then '\n' else c
        if next.atDivider "---" || next.atDivider "..." then (none, next)
        else plainBreaks (read ++ [normal]) bound next
      else (some read, s)
    | [] => (some read, s)

/-- What stands between two parts of a plain scalar, nothing if it ends. -/
def plainGap (s : Scan) : List Char × Scan :=
  let spaces := s.rest.takeWhile (· = ' ')
  let s := s.skipMany spaces.length
  match s.rest with
  | c :: _ =>
    if isBreak c then
      let next := s.skip.allowing true
      if next.atDivider "---" || next.atDivider "..." then ([], next)
      else
        match plainBreaks [] next.rest.length next with
        | (some further, last) => (foldBreaks (if c = '\u0085' then '\n' else c) further, last)
        | (none, last) => ([], last)
    else (spaces, s)
  | [] => (spaces, s)

/-- The rest of a plain scalar, after the text and the gap that were read. -/
def plainFrom (read gap : List Char) : Nat → Scan → List Char × Scan
  | 0, s => (read, s)
  | bound + 1, s =>
    if s.rest.head? = some '#' then (read, s)
    else
      match plainRun (0 < s.depth) s.rest with
      | [] => (read, s)
      | run =>
        let read := read ++ gap ++ run
        let (gap, next) := plainGap ((s.skipMany run.length).allowing false)
        if gap.isEmpty || next.rest.head? = some '#'
            || (next.depth = 0 && (next.column : Int) < s.indent + 1) then
          (read, next)
        else plainFrom read gap bound next

/-- Line breaks in a quoted scalar, with blanks around them. -/
def quotedBreaks? (read : List Char) : Nat → Scan → Option (List Char × Scan)
  | 0, s => some (read, s)
  | bound + 1, s =>
    if s.atDivider "---" || s.atDivider "..." then none
    else
      let s := s.skipWhile fun c => c = ' ' || c = '\t'
      match s.rest with
      | c :: _ =>
        if isBreak c then quotedBreaks? (read ++ [if c = '\u0085' then '\n' else c]) bound s.skip
        else some (read, s)
      | [] => some (read, s)

def escaped? : Char → Option Char
  | '0' => some '\x00'
  | 'a' => some '\x07'
  | 'b' => some '\x08'
  | 't' | '\t' => some '\t'
  | 'n' => some '\n'
  | 'v' => some '\x0b'
  | 'f' => some '\x0c'
  | 'r' => some '\r'
  | 'e' => some '\x1b'
  | ' ' => some ' '
  | '"' => some '"'
  | '\\' => some '\\'
  | '/' => some '/'
  | 'N' => some '\u0085'
  | '_' => some '\u00a0'
  | 'L' => some '\u2028'
  | 'P' => some '\u2029'
  | _ => none

/-- The number of digits of an escape by a code. -/
def codeLength? : Char → Option Nat
  | 'x' => some 2
  | 'u' => some 4
  | 'U' => some 8
  | _ => none

/-- The character of a code written with a number of hexadecimal digits. -/
def codeAt? (length : Nat) (text : List Char) : Option Char := do
  let digits ← (text.take length).mapM Json.hexValue?
  if digits.length = length then
    some (Json.ofCode (digits.foldl (fun value d => 16 * value + d) 0))
  else none

/-- The escape after a backslash: its text and the state after it. -/
def escape? (s : Scan) : Option (List Char × Scan) :=
  match s.rest with
  | [] => none
  | c :: rest =>
    match escaped? c, codeLength? c with
    | some e, _ => some ([e], s.skip)
    | none, some length => (codeAt? length rest).map fun code => ([code], s.skipMany (length + 1))
    | none, none => if isBreak c then quotedBreaks? [] s.rest.length s.skip else none

/-- The rest of a quoted scalar, up to its closing quote. -/
def quotedFrom? (double : Bool) (read : List Char) : Nat → Scan → Option (List Char × Scan)
  | 0, _ => none
  | bound + 1, s =>
    match s.rest with
    | [] => none
    | '"' :: _ =>
      if double then some (read, s.skip) else quotedFrom? double (read ++ ['"']) bound s.skip
    | '\'' :: rest =>
      if double then quotedFrom? double (read ++ ['\'']) bound s.skip
      else if rest.head? = some '\'' then
        quotedFrom? double (read ++ ['\'']) bound (s.skipMany 2)
      else some (read, s.skip)
    | '\\' :: _ =>
      if double then
        match s.skip.escape? with
        | some (text, next) => quotedFrom? double (read ++ text) bound next
        | none => none
      else quotedFrom? double (read ++ ['\\']) bound s.skip
    | c :: _ =>
      if isSpaceOrBreak c then
        let blanks := s.rest.takeWhile fun c => c = ' ' || c = '\t'
        let next := s.skipMany blanks.length
        match next.rest with
        | [] => none
        | d :: _ =>
          if isBreak d then
            match quotedBreaks? [] next.rest.length next.skip with
            | some (further, last) =>
              quotedFrom? double
                (read ++ foldBreaks (if d = '\u0085' then '\n' else d) further) bound last
            | none => none
          else quotedFrom? double (read ++ blanks) bound next
      else quotedFrom? double (read ++ [c]) bound s.skip

def openBracket? (s : Scan) (t : Token) : Option Scan :=
  s.offerCandidate?.map fun s => { s.skip.push t with depth := s.depth + 1, keyAllowed := true }

def closeBracket? (s : Scan) (t : Token) : Option Scan :=
  if s.depth = 0 then none
  else
    s.giveUpCandidate?.map fun s =>
      { s.skip.push t with depth := s.depth - 1, keyAllowed := false }

def itemMark? (s : Scan) : Option Scan :=
  if s.depth = 0 && !s.keyAllowed then none
  else
    let s := if s.depth = 0 then s.openWith .blockListStart else s
    (s.allowing true).giveUpCandidate?.map fun s => s.skip.push .item

def keyMark? (s : Scan) : Option Scan :=
  if s.depth = 0 && !s.keyAllowed then none
  else
    let s := if s.depth = 0 then s.openWith .blockMapStart else s
    (s.allowing (s.depth = 0)).giveUpCandidate?.map fun s => s.skip.push .key

/-- A colon behind a candidate, which it makes a key. -/
def keyedColon (s : Scan) (c : Candidate) : Scan :=
  let s := s.dropCandidate
  let before := s.tokens.take c.index
  let after := s.tokens.drop c.index
  match if s.depth = 0 then s.open? c.column else none with
  | some opened => { opened with tokens := before ++ [.blockMapStart, .key] ++ after }
  | none => { s with tokens := before ++ [.key] ++ after }

/-- A colon in front of a value. -/
def colon? (s : Scan) : Option Scan :=
  match s.candidate? with
  | some c => some (((s.keyedColon c).allowing false).skip.push .value)
  | none =>
    if s.depth = 0 && !s.keyAllowed then none
    else
      let s := if s.depth = 0 then s.openWith .blockMapStart else s
      (s.allowing (s.depth = 0)).giveUpCandidate?.map fun s => s.skip.push .value

/-- The three marks that divide documents. -/
def divider? (s : Scan) (t : Token) : Option Scan :=
  (s.unwindTo (-1)).giveUpCandidate?.map fun s => ((s.skipMany 3).push t).allowing false

def quoted? (s : Scan) (double : Bool) : Option Scan :=
  s.offerCandidate?.bind fun s =>
    (quotedFrom? double [] s.rest.length s.skip).map fun (text, next) =>
      (next.allowing false).push (.scalar (String.ofList text) false)

def plain? (s : Scan) : Option Scan :=
  s.offerCandidate?.map fun s =>
    let (text, next) := plainFrom [] [] (s.rest.length + 1) (s.allowing false)
    next.push (.scalar (String.ofList text) true)

/-- Whether a plain scalar begins with a mark that needs a text close behind it. -/
def beginsPlain (s : Scan) (c : Char) (rest : List Char) : Bool :=
  (!isSpaceOrBreak c && !"-?:,[]\x7b\x7d#&*!|>'\"%@\x60".toList.contains c)
    || (!atGap rest && (c = '-' || (s.depth = 0 && (c = '?' || c = ':'))))

/-- The state after the token at the beginning of the rest. -/
def token? (s : Scan) (c : Char) (rest : List Char) : Option Scan :=
  if s.atDivider "---" then s.divider? .documentStart
  else if s.atDivider "..." then s.divider? .documentEnd
  else if c = '[' then s.openBracket? .flowListStart
  else if c = '\x7b' then s.openBracket? .flowMapStart
  else if c = ']' then s.closeBracket? .flowListEnd
  else if c = '\x7d' then s.closeBracket? .flowMapEnd
  else if c = ',' then
    (s.allowing true).giveUpCandidate?.map fun s => s.skip.push .comma
  else if c = '-' && atGap rest then s.itemMark?
  else if c = '?' && (0 < s.depth || atGap rest) then s.keyMark?
  else if c = ':' && (0 < s.depth || atGap rest) then s.colon?
  else if c = '\'' then s.quoted? false
  else if c = '"' then s.quoted? true
  else if s.beginsPlain c rest then s.plain?
  else none

/-- The state at the end of the text. -/
def run? : Nat → Scan → Option Scan
  | 0, _ => none
  | bound + 1, s =>
    (toNextToken (s.rest.length + 1) s).dropStale?.bind fun s =>
      let s := s.unwindTo s.column
      match s.rest with
      | [] => (s.unwindTo (-1)).giveUpCandidate?
      | c :: rest => (s.token? c rest).bind (run? bound)

end Scan

/-- The tokens of a text, if it is well formed. -/
def tokens? (text : List Char) : Option (List Token) :=
  if text.all isPrintable then
    let text := if text.head? = some '\uFEFF' then text.drop 1 else text
    (Scan.run? (text.length + 1) { rest := text }).map Scan.tokens
  else none

end ExpectedDamage.Document.Yaml
