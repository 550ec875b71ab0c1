/-
**The tokens of a settings text.**

A settings text is indented blocks of `name: value` fields and `- item` entries, flow lists and maps
between brackets, and plain or quoted scalars; `#` starts a comment, and `---` a document.
`Token.scan` cuts it up:

* a block starts where the indentation grows, and ends where it shrinks (`Scan.unwind`);
* a scalar or bracket turns out to be a key only when the colon after it is met, on the same line
  (`Scan.candidates`); the key's mark is put in front of it then (`Scan.value`);
* a plain or quoted scalar may go on over several lines, which are joined by blanks;
* where the text cannot be cut up, the tokens end with `Token.broken` (`Scan.breakOff`).
-/

namespace WatchedNode.Config

/-- A token of a settings text. -/
inductive Token
  | scalar (content : String) (isPlain : Bool)
  | key
  | value
  | startList
  | startMap
  | endBlock
  | item
  | openList
  | closeList
  | openMap
  | closeMap
  | separator
  | startDocument
  | endDocument
  | endText
  | broken
  deriving Repr, DecidableEq

/-! ## Characters -/

/-- A line ends here. -/
def isBreak (letter : Char) : Bool :=
  letter = '\n' || letter = '\r' || letter = '\x85' || letter = '\u2028' || letter = '\u2029'

/-- Nothing that belongs to a token stands here: a blank, a tab, a line end, or the text's end. -/
def isGap : Option Char → Bool
  | none => true
  | some letter => letter = ' ' || letter = '\t' || isBreak letter

/-- A character that has a meaning of its own in a flow collection. -/
def isFlowMark (letter : Char) : Bool :=
  letter = ',' || letter = '[' || letter = ']' || letter = '{' || letter = '}'

/-- The line end that a line end character stands for. -/
def lineEnd (letter : Char) : Char :=
  if letter = '\u2028' || letter = '\u2029' then letter else '\n'

/-- A document mark stands at the front: three of the same letter and a gap. -/
def isDocumentMark (mark : Char) : List Char → Bool
  | first :: second :: third :: rest =>
    first = mark && second = mark && third = mark && isGap rest.head?
  | _ => false

/-- Either of the two document marks stands at the front. -/
def isAnyDocumentMark (letters : List Char) : Bool :=
  isDocumentMark '-' letters || isDocumentMark '.' letters

/-! ## The scanner's state -/

/-- A token that may turn out to be a key. -/
structure Candidate where
  place : Nat
  line : Nat
  column : Nat
  left : Nat
  required : Bool
  deriving Repr

/-- A text that is being cut up. -/
structure Scan where
  rest : List Char
  line : Nat := 0
  column : Nat := 0
  indent : Int := -1
  indents : List Int := []
  depth : Nat := 0
  keyAllowed : Bool := true
  candidates : List (Nat × Candidate) := []
  tokens : List Token := []
  deriving Repr

namespace Scan

/-- The character that comes next. -/
def next (scan : Scan) : Option Char := scan.rest.head?

/-- Goes on by one character. -/
def advance (scan : Scan) : Scan :=
  match scan.rest with
  | [] => scan
  | letter :: rest =>
    if isBreak letter then { scan with rest, line := scan.line + 1, column := 0 }
    else { scan with rest, column := scan.column + 1 }

/-- Goes on by a number of characters. -/
def advanceBy (scan : Scan) : Nat → Scan
  | 0 => scan
  | count + 1 => scan.advance.advanceBy count

/-- Goes on while a class of characters lasts. -/
def skipWhile (scan : Scan) (skipped : Char → Bool) : Scan :=
  scan.advanceBy (scan.rest.takeWhile skipped).length

/-- A token at the end. -/
def emit (scan : Scan) (token : Token) : Scan := { scan with tokens := scan.tokens ++ [token] }

/-- A token at an earlier place. -/
def insert (scan : Scan) (place : Nat) (token : Token) : Scan :=
  { scan with tokens := scan.tokens.take place ++ token :: scan.tokens.drop place }

/-! ## Indentation -/

/-- Opens a block at a column, if it is further in; says whether it was. -/
def deepen (scan : Scan) (column : Nat) : Bool × Scan :=
  if scan.indent < column then
    (true, { scan with indent := column, indents := scan.indent :: scan.indents })
  else (false, scan)

/-- Closes the blocks that stand further in than a column. -/
def unwindFrom (column : Int) : List Int → Scan → Scan
  | [], scan => scan
  | outer :: indents, scan =>
    if column < scan.indent then
      unwindFrom column indents ({ scan with indent := outer, indents }.emit .endBlock)
    else scan

/-- Closes the blocks that stand further in than a column; inside brackets there are none. -/
def unwind (scan : Scan) (column : Int) : Scan :=
  if scan.depth = 0 then unwindFrom column scan.indents scan else scan

/-! ## Keys -/

/-- The longest distance between the start of a key and its colon. -/
def keyLimit : Nat := 1024

/-- The candidate of the present depth. -/
def candidate? (scan : Scan) : Option Candidate :=
  (scan.candidates.find? (·.1 = scan.depth)).map (·.2)

/-- The present depth has no candidate any more. -/
def dropCandidate (scan : Scan) : Scan :=
  { scan with candidates := scan.candidates.filter (·.1 ≠ scan.depth) }

/-- Gives up the candidate of the present depth, unless it has to be a key. -/
def giveUp (scan : Scan) : Option Scan :=
  match scan.candidate? with
  | some candidate => if candidate.required then none else some scan.dropCandidate
  | none => some scan

/-- The candidate is on an earlier line, or too far back. -/
def isStale (scan : Scan) (candidate : Candidate) : Bool :=
  candidate.line ≠ scan.line || keyLimit < candidate.left - scan.rest.length

/-- Gives up the candidates that are too old, unless one of them has to be a key. -/
def giveUpStale (scan : Scan) : Option Scan :=
  if scan.candidates.any fun entry => scan.isStale entry.2 && entry.2.required then none
  else some { scan with candidates := scan.candidates.filter fun entry => !scan.isStale entry.2 }

/-- The next token may turn out to be a key. -/
def propose (scan : Scan) : Option Scan :=
  if scan.keyAllowed then do
    let scan ← scan.giveUp
    let candidate : Candidate :=
      { place := scan.tokens.length, line := scan.line, column := scan.column,
        left := scan.rest.length,
        required := scan.depth = 0 && scan.indent = scan.column }
    return { scan with candidates := (scan.depth, candidate) :: scan.candidates }
  else some scan

/-! ## Marks -/

/-- A bracket opens. -/
def openFlow (scan : Scan) (token : Token) : Option Scan := do
  let scan ← scan.propose
  return { scan with depth := scan.depth + 1, keyAllowed := true }.emit token |>.advance

/-- A bracket closes. -/
def closeFlow (scan : Scan) (token : Token) : Option Scan := do
  let scan ← scan.giveUp
  return { scan with depth := scan.depth - 1, keyAllowed := false }.emit token |>.advance

/-- A comma between the entries of a flow collection. -/
def separator (scan : Scan) : Option Scan := do
  let scan ← scan.giveUp
  return { scan with keyAllowed := true }.emit .separator |>.advance

/-- The mark of a list entry in a block. -/
def item (scan : Scan) : Option Scan := do
  let scan ← if scan.depth = 0 then
      if scan.keyAllowed then
        let (opened, scan) := scan.deepen scan.column
        some (if opened then scan.emit .startList else scan)
      else none
    else some scan
  let scan ← { scan with keyAllowed := true }.giveUp
  return (scan.emit .item).advance

/-- The mark of an explicit key. -/
def key (scan : Scan) : Option Scan := do
  let scan ← if scan.depth = 0 then
      if scan.keyAllowed then
        let (opened, scan) := scan.deepen scan.column
        some (if opened then scan.emit .startMap else scan)
      else none
    else some scan
  let scan ← { scan with keyAllowed := scan.depth = 0 }.giveUp
  return (scan.emit .key).advance

/-- The colon before a value: what stands before it becomes a key, where it can be one. -/
def value (scan : Scan) : Option Scan :=
  match scan.candidate? with
  | some candidate =>
    let scan := scan.dropCandidate.insert candidate.place .key
    let scan := if scan.depth = 0 then
        let (opened, scan) := scan.deepen candidate.column
        if opened then scan.insert candidate.place .startMap else scan
      else scan
    some ({ scan with keyAllowed := false }.emit .value).advance
  | none => do
    let scan ← if scan.depth = 0 then
        if scan.keyAllowed then
          let (opened, scan) := scan.deepen scan.column
          some (if opened then scan.emit .startMap else scan)
        else none
      else some scan
    let scan ← { scan with keyAllowed := scan.depth = 0 }.giveUp
    return (scan.emit .value).advance

/-- A document mark. -/
def documentMark (scan : Scan) (token : Token) : Option Scan := do
  let scan ← (scan.unwind (-1)).giveUp
  return { scan with keyAllowed := false }.emit token |>.advanceBy 3

/-! ## Plain scalars -/

/-- The letters of a plain scalar up to a gap or a mark. -/
def plainWord (inFlow : Bool) : List Char → List Char
  | [] => []
  | letter :: rest =>
    if isGap (some letter) then []
    else if letter = ':' && (isGap rest.head? || (inFlow && rest.head?.any isFlowMark)) then []
    else if inFlow && (isFlowMark letter || letter = '?') then []
    else letter :: plainWord inFlow rest

/-- The line ends and blanks between two lines of a scalar; a document mark ends it. -/
def blankLines : Nat → Scan → Option (List Char × Scan)
  | 0, _ => none
  | fuel + 1, scan =>
    match scan.next with
    | some letter =>
      if letter = ' ' then blankLines fuel scan.advance
      else if isBreak letter then
        let after := scan.advance
        if isAnyDocumentMark after.rest then none
        else (blankLines fuel after).map fun (breaks, scan) => (lineEnd letter :: breaks, scan)
      else some ([], scan)
    | none => some ([], scan)

/-- How a line end inside a scalar is read: as a blank, unless empty lines follow it. -/
def folded (first : Char) (breaks : List Char) : List Char :=
  if lineEnd first ≠ '\n' then lineEnd first :: breaks
  else if breaks.isEmpty then [' '] else breaks

/-- The blanks after a word of a plain scalar, and the place where it may go on. -/
def plainGap (scan : Scan) : List Char × Scan :=
  let blanks := scan.rest.takeWhile (· = ' ')
  let after := scan.advanceBy blanks.length
  match after.next with
  | some letter =>
    if isBreak letter then
      let below := { after.advance with keyAllowed := true }
      if isAnyDocumentMark below.rest then ([], below)
      else match blankLines (below.rest.length + 1) below with
        | none => ([], below)
        | some (breaks, onward) => (folded letter breaks, onward)
    else (blanks, after)
  | none => (blanks, after)

/-- The words of a plain scalar, with what stands between them. -/
def plainWords (least : Int) : Nat → List Char → Scan → List Char × Scan
  | 0, _, scan => ([], scan)
  | fuel + 1, between, scan =>
    let word := if scan.next = some '#' then [] else plainWord (scan.depth ≠ 0) scan.rest
    if word.isEmpty then ([], scan)
    else
      let (gap, onward) := plainGap ({ scan with keyAllowed := false }.advanceBy word.length)
      let (rest, last) :=
        if gap.isEmpty || onward.next = some '#' || (onward.depth = 0 && onward.column < least)
        then ([], onward) else plainWords least fuel gap onward
      (between ++ word ++ rest, last)

/-- A plain scalar. -/
def plain (scan : Scan) : Option Scan := do
  let scan ← scan.propose
  let (content, scan) :=
    plainWords (scan.indent + 1) (scan.rest.length + 1) [] { scan with keyAllowed := false }
  return scan.emit (.scalar (String.ofList content) true)

/-! ## Quoted scalars -/

/-- The character that a short escape stands for. -/
def shortEscape? : Char → Option Char
  | '0' => some '\x00'
  | 'a' => some '\x07'
  | 'b' => some '\x08'
  | 't' => some '\t'
  | '\t' => some '\t'
  | 'n' => some '\n'
  | 'v' => some '\x0b'
  | 'f' => some '\x0c'
  | 'r' => some '\r'
  | 'e' => some '\x1b'
  | ' ' => some ' '
  | '\x22' => some '\x22'
  | '\\' => some '\\'
  | '/' => some '/'
  | 'N' => some '\x85'
  | '_' => some '\xa0'
  | 'L' => some '\u2028'
  | 'P' => some '\u2029'
  | _ => none

/-- The number of digits of a numbered escape. -/
def escapeDigits? : Char → Option Nat
  | 'x' => some 2
  | 'u' => some 4
  | 'U' => some 8
  | _ => none

/-- The value of a digit in base sixteen. -/
def hexValue? (letter : Char) : Option Nat :=
  let code := letter.toNat
  if 48 ≤ code ∧ code ≤ 57 then some (code - 48)
  else if 97 ≤ code ∧ code ≤ 102 then some (code - 87)
  else if 65 ≤ code ∧ code ≤ 70 then some (code - 55)
  else none

/-- The character of a numbered escape. -/
def numbered? (digits : List Char) (count : Nat) : Option Char :=
  let shown := digits.take count
  if shown.length < count then none
  else (shown.mapM hexValue?).map fun values =>
    Char.ofNat (values.foldl (fun number value => 16 * number + value) 0)

/-- The blanks and line ends after a line end inside quotes, where no document mark may stand. -/
def quotedBreaks : Nat → Scan → Option (List Char × Scan)
  | 0, _ => none
  | fuel + 1, scan =>
    if isAnyDocumentMark scan.rest then none
    else
      let scan := scan.skipWhile fun letter => letter = ' ' || letter = '\t'
      match scan.next with
      | some letter =>
        if isBreak letter then
          (quotedBreaks fuel scan.advance).map fun (breaks, last) =>
            (lineEnd letter :: breaks, last)
        else some ([], scan)
      | none => some ([], scan)

/-- What stands between quotes, up to the closing one. -/
def quotedLetters (isDouble : Bool) : Nat → Scan → Option (List Char × Scan)
  | 0, _ => none
  | fuel + 1, scan =>
    match scan.rest with
    | [] => none
    | letter :: rest =>
      let put (letters : List Char) (scan : Scan) : Option (List Char × Scan) :=
        (quotedLetters isDouble fuel scan).map fun (more, last) => (letters ++ more, last)
      if isGap (some letter) then
        let blanks := scan.rest.takeWhile fun letter => letter = ' ' || letter = '\t'
        let after := scan.advanceBy blanks.length
        match after.next with
        | none => none
        | some here =>
          if isBreak here then do
            let (breaks, onward) ← quotedBreaks (after.rest.length + 1) after.advance
            put (folded here breaks) onward
          else put blanks after
      else if !isDouble && letter = '\x27' then
        if rest.head? = some '\x27' then put ['\x27'] (scan.advanceBy 2)
        else some ([], scan.advance)
      else if isDouble && letter = '\x22' then some ([], scan.advance)
      else if isDouble && letter = '\\' then
        match rest with
        | [] => none
        | code :: digits =>
          match shortEscape? code, escapeDigits? code with
          | some meant, _ => put [meant] (scan.advanceBy 2)
          | none, some count => do
            let meant ← numbered? digits count
            put [meant] (scan.advanceBy (2 + count))
          | none, none =>
            if isBreak code then do
              let (breaks, onward) ← quotedBreaks (digits.length + 1) (scan.advanceBy 2)
              put breaks onward
            else none
      else put [letter] scan.advance

/-- A quoted scalar. -/
def quoted (scan : Scan) (isDouble : Bool) : Option Scan := do
  let scan ← scan.propose
  let (content, scan) ←
    quotedLetters isDouble (scan.rest.length + 1) { scan.advance with keyAllowed := false }
  return scan.emit (.scalar (String.ofList content) false)

/-! ## The whole text -/

/-- Goes on to the next token: over blanks, comments and line ends. -/
def toToken : Nat → Scan → Scan
  | 0, scan => scan
  | fuel + 1, scan =>
    let scan := scan.skipWhile (· = ' ')
    let scan := if scan.next = some '#' then scan.skipWhile (!isBreak ·) else scan
    match scan.next with
    | some letter =>
      if isBreak letter then
        toToken fuel { scan.advance with keyAllowed := scan.keyAllowed || scan.depth = 0 }
      else scan
    | none => scan

/-- A plain scalar can start here. -/
def startsPlain (scan : Scan) : Bool :=
  match scan.rest with
  | [] => false
  | letter :: rest =>
    let isMark := "-?:,[]{}#&*!|>%@".toList.contains letter || letter = '\x27' || letter = '\x22'
      || letter = '\x60'
    !isMark || (!isGap rest.head?
      && (letter = '-' || (scan.depth = 0 && (letter = '?' || letter = ':'))))

/-- One more token, where the text has not ended. -/
def token (scan : Scan) (letter : Char) : Option Scan :=
  let beforeGap := isGap (scan.rest.drop 1).head?
  let inFlow := scan.depth ≠ 0
  if scan.column = 0 && isDocumentMark '-' scan.rest then scan.documentMark .startDocument
  else if scan.column = 0 && isDocumentMark '.' scan.rest then scan.documentMark .endDocument
  else if letter = '[' then scan.openFlow .openList
  else if letter = '{' then scan.openFlow .openMap
  else if letter = ']' then scan.closeFlow .closeList
  else if letter = '}' then scan.closeFlow .closeMap
  else if letter = ',' then scan.separator
  else if letter = '-' && beforeGap then scan.item
  else if letter = '?' && (inFlow || beforeGap) then scan.key
  else if letter = ':' && (inFlow || beforeGap) then scan.value
  else if letter = '\x27' then scan.quoted false
  else if letter = '\x22' then scan.quoted true
  else if letter ≠ '\t' && scan.startsPlain then scan.plain
  else none

/-- The tokens of a text that cannot be cut up further: none from the first one on that might still
have turned out to be a key. -/
def breakOff (scan : Scan) : List Token :=
  let candidates := scan.candidates.filter fun entry => entry.2.required || !scan.isStale entry.2
  let known := candidates.foldl (fun least entry => min least entry.2.place) scan.tokens.length
  scan.tokens.take known ++ [.broken]

/-- The text up to the next token, without the candidates and blocks that end before it. -/
def onward (scan : Scan) : Option Scan := do
  let scan ← (toToken (scan.rest.length + 1) scan).giveUpStale
  return scan.unwind scan.column

/-- The text at its end. -/
def finish (scan : Scan) : Option Scan := do
  let scan ← (scan.unwind (-1)).giveUp
  return scan.emit .endText

/-- All tokens; the fuel bounds their number. -/
def all : Nat → Scan → List Token
  | 0, scan => scan.breakOff
  | fuel + 1, scan =>
    match scan.onward with
    | none => scan.breakOff
    | some ahead =>
      match ahead.next with
      | none => (ahead.finish.map (·.tokens)).getD scan.breakOff
      | some letter =>
        match ahead.token letter with
        | none => scan.breakOff
        | some further => all fuel further

end Scan

/-- A text without the byte order mark that may stand in front of it. -/
def unmarked : List Char → List Char
  | '\ufeff' :: rest => rest
  | letters => letters

/-- The tokens of a text. -/
def Token.scan (text : String) : List Token :=
  Scan.all (text.length + 1) { rest := unmarked text.toList }

end WatchedNode.Config
