import LoxFront.Schema.Token
import LoxFront.Schema.Token.LookAlike
import LoxFront.Text.Identifier
import LoxFront.Text.Normalize
/-!
Reading the text of a macro call into pieces: identifiers (raw ones after `r#`) and lifetimes,
both in composed normal form, literals (numbers, strings, characters, byte and raw forms),
punctuation characters and delimiters. Blanks and comments separate pieces; a doc comment is a
piece of its own.

Faults are reported with the offset where they stand, and most let reading go on: an unknown
character is skipped, or read as the token it looks like; a literal with a bad digit or escape
is kept but marked malformed, which later makes the macro fail. An unterminated literal or
comment stops reading. Identifiers that hold emoji are read as identifiers; they are reported
only after expansion, so never before the answer is settled, and are not faults here.
-/
namespace LoxFront.Schema

inductive Piece where
  | ident (name : String) (raw : Bool)
  | lifetime (name : String)
  | literal (text : String)
  | punct (c : Char)
  | opening (d : Delimiter)
  | closing (d : Delimiter)
  | doc (inner : Bool) (text : String)

structure Located where
  piece : Piece
  start : Nat
  stop : Nat

structure Fault where
  message : String
  offset : Nat

/-- What reading a text gives: its pieces, the faults reported while reading in order, whether
reading stopped at the last of them, whether a literal is malformed, and whether a no-break
space has been reported (later ones are blanks). -/
structure Lexed where
  pieces : List Located := []
  faults : List Fault := []
  stopped : Bool := false
  malformed : Bool := false
  nbspSeen : Bool := false

def isIdStart (c : Char) : Bool := c == '_' || Text.isXidStart c

def isIdContinue (c : Char) : Bool := Text.isXidContinue c

def punctChars : List Char :=
  [';', ',', '.', '@', '#', '~', '?', ':', '$', '=', '!', '<', '>', '-', '&', '|', '+', '*', '/',
   '^', '%']

def shownChar (c : Char) : String :=
  if 0x20 ≤ c.toNat && c.toNat ≤ 0x7e then c.toString
  else if c = '\t' then "\\t" else if c = '\r' then "\\r" else if c = '\n' then "\\n"
  else "\\u" ++ "\x7b" ++ String.ofList (Nat.toDigits 16 c.toNat) ++ "\x7d"

def quotedChar (c : Char) : String := "`" ++ shownChar c ++ "`"

/-- The result of reading one piece: its pieces (usually one, none for blanks and comments), the
number of characters read (at least one), the faults it reports, whether reading must stop,
whether the piece is a malformed literal, and whether it reported a no-break space. -/
structure Read where
  pieces : List Piece := []
  length : Nat
  faults : List Fault := []
  stop : Bool := false
  malformed : Bool := false
  nbsp : Bool := false

/-- Characters consumed by a nested block comment body whose depth is `depth`, up to and
including the closing delimiter that brings it to zero; `none` when it never closes. -/
def blockBody : List Char → Nat → Option Nat
  | [], _ => none
  | '/' :: '*' :: rest, depth => (blockBody rest (depth + 1)).map (· + 2)
  | '*' :: '/' :: rest, depth =>
    if depth ≤ 1 then some 2 else (blockBody rest (depth - 1)).map (· + 2)
  | _ :: rest, depth => (blockBody rest depth).map (· + 1)

def isHexDigit (c : Char) : Bool :=
  c.isDigit || ('a' ≤ c && c ≤ 'f') || ('A' ≤ c && c ≤ 'F')

def hexValue (c : Char) : Nat :=
  if c.isDigit then c.toNat - '0'.toNat
  else if 'a' ≤ c && c ≤ 'f' then c.toNat - 'a'.toNat + 10
  else c.toNat - 'A'.toNat + 10

def decimalRun (cs : List Char) : List Char × Bool :=
  let run := cs.takeWhile fun c => c.isDigit || c == '_'
  (run, run.any Char.isDigit)

def hexRun (cs : List Char) : List Char × Bool :=
  let run := cs.takeWhile fun c => isHexDigit c || c == '_'
  (run, run.any isHexDigit)

/-- The exponent after an `e` or `E` of a number in base `base`: its length and whether it holds
a digit. The letter starts an exponent when a sign follows it, or, in a decimal number, digits;
otherwise it starts a suffix (`none`). -/
def exponentAfter (base : Nat) (cs : List Char) : Option (Nat × Bool) :=
  match cs with
  | s :: rest =>
    if s = '+' || s = '-' then
      let (run, digits) := decimalRun rest
      some (1 + run.length, digits)
    else
      let (run, digits) := decimalRun cs
      if digits && base = 10 then some (run.length, true) else none
  | [] => none

def suffixLength (cs : List Char) : Nat :=
  match cs with
  | c :: rest => if isIdStart c then 1 + (rest.takeWhile isIdContinue).length else 0
  | [] => 0

def withSuffix (whole : List Char) (len pos : Nat) : String × Nat × List Fault :=
  let n := suffixLength (whole.drop len)
  if n = 1 && (whole.drop len).head? == some '_' then
    (String.ofList (whole.take len), len + 1,
      [⟨"underscore literal suffix is not allowed", pos + len⟩])
  else (String.ofList (whole.take (len + n)), len + n, [])

structure NumberShape where
  length : Nat
  base : Nat
  isFloat : Bool := false
  emptyExponent : Bool := false
  empty : Bool := false

/-- The shape of a number whose digits take `len` characters and are followed by `after`: a
fraction after a dot that is not part of `..` and not followed by an identifier, and an exponent.
Any base may have both, which makes it a float; hexadecimal digits take up an `e` themselves. -/
def numberTail (base len : Nat) (after : List Char) : NumberShape :=
  match after with
  | '.' :: s2 =>
    if s2.head? == some '.' || (s2.head?.map isIdStart).getD false then
      { length := len, base }
    else
      match s2 with
      | d :: _ =>
        if d.isDigit then
          let (frac, _) := decimalRun s2
          let n := len + 1 + frac.length
          match s2.drop frac.length with
          | e :: s3 =>
            if e = 'e' || e = 'E' then
              match exponentAfter base s3 with
              | some (k, digits) =>
                { length := n + 1 + k, base, isFloat := true, emptyExponent := !digits }
              | none => { length := n, base, isFloat := true }
            else { length := n, base, isFloat := true }
          | [] => { length := n, base, isFloat := true }
        else { length := len + 1, base, isFloat := true }
      | [] => { length := len + 1, base, isFloat := true }
  | e :: s2 =>
    if e = 'e' || e = 'E' then
      match exponentAfter base s2 with
      | some (k, digits) => { length := len + 1 + k, base, isFloat := true, emptyExponent := !digits }
      | none => { length := len, base }
    else { length := len, base }
  | [] => { length := len, base }

def numberShape (c : Char) (rest : List Char) : NumberShape :=
  let prefixed : Option Nat :=
    if c = '0' then
      match rest with
      | 'b' :: _ => some 2
      | 'o' :: _ => some 8
      | 'x' :: _ => some 16
      | _ => none
    else none
  match prefixed with
  | some base =>
    let r := rest.drop 1
    let (run, digits) := if base = 16 then hexRun r else decimalRun r
    if digits then numberTail base (2 + run.length) (r.drop run.length)
    else { length := 2 + run.length, base, empty := true }
  | none =>
    let (run, _) := decimalRun rest
    numberTail 10 (1 + run.length) (rest.drop run.length)

def baseName (base : Nat) : String :=
  if base = 16 then "hexadecimal" else if base = 8 then "octal" else "binary"

def readNumber (c : Char) (rest : List Char) (pos : Nat) : Read :=
  let whole := c :: rest
  let shape := numberShape c rest
  let faults : List Fault :=
    if shape.empty then [⟨"no valid digits found for number", pos⟩]
    else if shape.isFloat then
      (if shape.emptyExponent then [⟨"expected at least one digit in exponent", pos⟩] else []) ++
      (if shape.base = 10 then []
        else [⟨baseName shape.base ++ " float literal is not supported", pos⟩])
    else if shape.base = 2 || shape.base = 8 then
      (((whole.take shape.length).drop 2).zipIdx.filter fun (d, _) =>
        d.isDigit && shape.base ≤ d.toNat - '0'.toNat).map
        fun (_, i) => ⟨"invalid digit for a base " ++ toString shape.base ++ " literal", pos + 2 + i⟩
    else []
  let (text, len, suffixFaults) := withSuffix whole shape.length pos
  { pieces := [.literal text], length := len, faults := faults ++ suffixFaults,
    malformed := !faults.isEmpty }

inductive QuoteKind where
  | char
  | byte
  | str
  | byteStr
  | rawStr
  | rawByteStr
  deriving DecidableEq

def QuoteKind.isByte : QuoteKind → Bool
  | .byte | .byteStr | .rawByteStr => true
  | _ => false

def badEscapeChar (what : String) (c : Char) (pos : Nat) : Fault :=
  ⟨"invalid character in " ++ what ++ " escape: " ++ quotedChar c, pos⟩

def unicodeDigits (kind : QuoteKind) (pos : Nat) :
    List Char → Nat → Nat → Nat → Nat × Option Fault
  | [], taken, _, _ => (taken, some ⟨"unterminated unicode escape", pos⟩)
  | c :: rest, taken, digits, value =>
    if c = '_' then unicodeDigits kind pos rest (taken + 1) digits value
    else if c = '\x7d' then
      let message :=
        if digits > 6 then some "overlong unicode escape"
        else if kind.isByte then some "unicode escape in byte string"
        else if value > 0x10FFFF || (0xD800 ≤ value && value ≤ 0xDFFF) then
          some "invalid unicode character escape"
        else none
      (taken + 1, message.map fun m => ⟨m, pos⟩)
    else if !isHexDigit c then (taken + 1, some (badEscapeChar "unicode" c (pos + 1 + taken)))
    else
      let digits := digits + 1
      unicodeDigits kind pos rest (taken + 1) digits
        (if digits > 6 then value else value * 16 + hexValue c)

def unicodeEscape (kind : QuoteKind) (cs : List Char) (pos : Nat) : Nat × Option Fault :=
  match cs with
  | '\x7b' :: rest =>
    match rest with
    | [] => (2, some ⟨"unterminated unicode escape", pos⟩)
    | d :: more =>
      if d = '_' then (3, some ⟨"invalid start of unicode escape: " ++ quotedChar d, pos + 3⟩)
      else if d = '\x7d' then (3, some ⟨"empty unicode escape", pos⟩)
      else if !isHexDigit d then (3, some (badEscapeChar "unicode" d (pos + 3)))
      else unicodeDigits kind pos more 3 1 (hexValue d)
  | _ :: _ => (2, some ⟨"incorrect unicode escape sequence", pos⟩)
  | [] => (1, some ⟨"incorrect unicode escape sequence", pos⟩)

def escapeAt (kind : QuoteKind) (cs : List Char) (pos : Nat) : Nat × Option Fault :=
  match cs with
  | [] => (0, some ⟨"invalid trailing slash in literal", pos⟩)
  | e :: rest =>
    if ['"', 'n', 'r', 't', '\\', '\'', '0'].contains e then (1, none)
    else if e = 'x' then
      match rest with
      | [] => (1, some ⟨"numeric character escape is too short", pos⟩)
      | hi :: rest =>
        if !isHexDigit hi then (2, some (badEscapeChar "numeric character" hi (pos + 2)))
        else
          match rest with
          | [] => (2, some ⟨"numeric character escape is too short", pos⟩)
          | lo :: _ =>
            if !isHexDigit lo then (3, some (badEscapeChar "numeric character" lo (pos + 3)))
            else if !(kind == .byte || kind == .byteStr) && 0x7f < hexValue hi * 16 + hexValue lo
            then (3, some ⟨"out of range hex escape", pos⟩)
            else (3, none)
    else if e = 'u' then unicodeEscape kind rest pos
    else
      (1, some ⟨(if kind == .byte || kind == .byteStr then "unknown byte escape"
        else "unknown character escape") ++ ": " ++ quotedChar e, pos + 1⟩)

/-- The fault of the content `cs` of a character or byte literal, which starts at `pos`: it must
be one character or one escape, and line breaks, tabs, quotes and carriage returns must be
escaped. -/
def charContentFault (kind : QuoteKind) (cs : List Char) (pos : Nat) : Option Fault :=
  match cs with
  | [] => some ⟨"empty character literal", pos⟩
  | c :: rest =>
    let (taken, fault) : Nat × Option Fault :=
      if c = '\\' then
        let (n, f) := escapeAt kind rest pos
        (1 + n, f)
      else if c = '\n' || c = '\t' || c = '\'' then
        (1, some ⟨(if kind == .byte then "byte" else "character") ++
          " constant must be escaped: " ++ quotedChar c, pos⟩)
      else if c = '\r' then (1, some ⟨"character constant must be escaped: " ++ quotedChar c, pos⟩)
      else if kind.isByte && c.toNat ≥ 0x80 then
        (1, some ⟨"non-ASCII character in byte literal", pos⟩)
      else (1, none)
    match fault with
    | some f => some f
    | none =>
      if taken < cs.length then some ⟨"character literal may only contain one codepoint", pos⟩
      else none

/-- The faults of the content `cs` of a string or byte string, which starts at `pos`, in order.
A backslash before a line break skips the line break and the ASCII blanks after it. -/
def stringFaults (kind : QuoteKind) (cs : List Char) (pos : Nat) : List Fault :=
  match cs with
  | [] => []
  | '\\' :: rest =>
    if rest.head? == some '\n' then
      let blanks := rest.takeWhile fun d => d = ' ' || d = '\t' || d = '\n' || d = '\r'
      stringFaults kind (rest.drop blanks.length) (pos + 1 + blanks.length)
    else
      let (n, f) := escapeAt kind rest pos
      f.toList ++ stringFaults kind (rest.drop n) (pos + 1 + n)
  | c :: rest =>
    (if c = '\r' then [⟨"bare CR not allowed in string, use " ++ quotedChar c ++ " instead", pos⟩]
     else if kind.isByte && c.toNat ≥ 0x80 then
       [⟨"non-ASCII character in byte string literal", pos⟩]
     else []) ++ stringFaults kind rest (pos + 1)
termination_by cs.length
decreasing_by all_goals simp only [List.length_cons, List.length_drop]; omega

def rawFaults (kind : QuoteKind) : List Char → Nat → List Fault
  | [], _ => []
  | c :: rest, pos =>
    (if c = '\r' then [⟨"bare CR not allowed in raw string", pos⟩]
     else if kind.isByte && c.toNat ≥ 0x80 then
       [⟨"non-ASCII character in raw byte string literal", pos⟩]
     else []) ++ rawFaults kind rest (pos + 1)

def quotedBody : List Char → Option Nat
  | [] => none
  | '"' :: _ => some 0
  | '\\' :: _ :: rest => (quotedBody rest).map (· + 2)
  | '\\' :: [] => none
  | _ :: rest => (quotedBody rest).map (· + 1)

def readQuoted (whole : List Char) (lead : Nat) (pos : Nat) : Read :=
  let body := whole.drop (lead + 1)
  match quotedBody body with
  | none =>
    { length := whole.length, stop := true,
      faults := [⟨if lead = 0 then "unterminated double quote string"
        else "unterminated double quote byte string", pos + lead⟩] }
  | some n =>
    let faults := stringFaults (if lead = 0 then .str else .byteStr) (body.take n) (pos + lead + 1)
    let (text, len, suffixFaults) := withSuffix whole (lead + 1 + n + 1) pos
    { pieces := [.literal text], length := len, faults := faults ++ suffixFaults,
      malformed := !faults.isEmpty }

def rawString (cs : List Char) : Except (Option Char) Nat :=
  let hashes := (cs.takeWhile (· == '#')).length
  match cs.drop hashes with
  | '"' :: body =>
    let closing := '"' :: List.replicate hashes '#'
    let rec find : List Char → Nat → Option Nat
      | [], _ => none
      | d :: rest, n => if (d :: rest).take closing.length == closing then some n
          else find rest (n + 1)
    match find body 0 with
    | some n => .ok (hashes + 1 + n + closing.length)
    | none => .error none
  | d :: _ => .error (some d)
  | [] => .error (some '\x00')

def readRaw (whole : List Char) (lead : Nat) (pos : Nat) : Read :=
  let after := whole.drop (lead + 1)
  match rawString after with
  | .ok n =>
    let hashes := (after.takeWhile (· == '#')).length
    let contentStart := lead + 1 + hashes + 1
    let content := (whole.drop contentStart).take (n - 2 * hashes - 2)
    let faults := rawFaults (if lead = 0 then .rawStr else .rawByteStr) content (pos + contentStart)
    let (text, len, suffixFaults) := withSuffix whole (lead + 1 + n) pos
    { pieces := [.literal text], length := len, faults := faults ++ suffixFaults,
      malformed := !faults.isEmpty }
  | .error (some d) =>
    { length := whole.length, stop := true,
      faults := [⟨"found invalid character; only " ++ "`#`" ++
        " is allowed in raw string delimitation: " ++ shownChar d, pos⟩] }
  | .error none =>
    { length := whole.length, faults := [⟨"unterminated raw string", pos⟩], stop := true }

def singleQuoted : List Char → Option Nat
  | [] => none
  | '\'' :: _ => some 1
  | '/' :: _ => none
  | '\n' :: rest => if rest.head? == some '\'' then (singleQuoted rest).map (· + 1) else none
  | '\\' :: _ :: rest => (singleQuoted rest).map (· + 2)
  | '\\' :: [] => none
  | _ :: rest => (singleQuoted rest).map (· + 1)

/-- Whether a literal with the fault `f` in its content still reads as a literal: one character
that merely should have been escaped does. -/
def stillReads (f : Fault) : Bool :=
  f.message.startsWith "character constant must be escaped" ||
    f.message.startsWith "byte constant must be escaped"

/-- Reads a character literal or a lifetime after a quote preceded by `lead` characters. A quote
followed by an identifier character is a lifetime, unless a quote closes the identifier. -/
def readQuote (whole : List Char) (lead : Nat) (pos : Nat) : Read :=
  let after := whole.drop (lead + 1)
  let canBeLifetime := match after with
    | a :: b :: _ => b != '\'' && (isIdStart a || a.isDigit)
    | [a] => isIdStart a || a.isDigit
    | [] => false
  if !canBeLifetime || lead > 0 then
    let oneChar := match after with
      | a :: '\'' :: _ => a != '\\'
      | _ => false
    let bodyLen := if oneChar then some 2 else singleQuoted after
    match bodyLen with
    | some n =>
      let fault := charContentFault (if lead = 0 then .char else .byte) (after.take (n - 1))
        (pos + lead + 1)
      let (text, len, suffixFaults) := withSuffix whole (lead + 1 + n) pos
      { pieces := [.literal text], length := len, faults := fault.toList ++ suffixFaults,
        malformed := fault.any (!stillReads ·) }
    | none =>
      { length := whole.length, stop := true,
        faults := [⟨if lead = 0 then "unterminated character literal"
          else "unterminated byte constant", pos + lead⟩] }
  else
    match after with
    | a :: rest =>
      let word := a :: rest.takeWhile isIdContinue
      let afterWord := rest.drop (word.length - 1)
      if afterWord.head? == some '\'' then
        let fault := charContentFault .char word (pos + 1)
        { pieces := [.literal (String.ofList (whole.take (word.length + 2)))],
          length := word.length + 2, faults := fault.toList, malformed := fault.any (!stillReads ·) }
      else { pieces := [.lifetime (Text.toNfc (String.ofList word))], length := 1 + word.length }
    | [] =>
      { length := 1, faults := [⟨"unterminated character literal", pos⟩], stop := true }

def isEmojiWordChar (d : Char) : Bool :=
  isIdContinue d || (d.toNat ≥ 0x80 && Text.isEmoji d) || d.toNat == 0x200d

def readWord (whole : List Char) (pos : Nat) (raw : Bool) : Read :=
  let start := if raw then 2 else 0
  let body := whole.drop start
  let plain := (body.take 1) ++ (body.drop 1).takeWhile isIdContinue
  let rest := body.drop plain.length
  let emojiNext := match rest with
    | d :: _ => !raw && d.toNat ≥ 0x80 && Text.isEmoji d
    | [] => false
  if emojiNext then
    let name := plain ++ rest.takeWhile isEmojiWordChar
    { pieces := [.ident (Text.toNfc (String.ofList name)) raw], length := name.length }
  else
    let name := Text.toNfc (String.ofList plain)
    { pieces := [.ident name raw], length := start + plain.length,
      faults := if raw && unrawWords.contains name then
          [⟨"`" ++ name ++ "`" ++ " cannot be a raw identifier", pos⟩] else [] }

def lookAlikePieces (s : String) : List Piece :=
  match s.toList with
  | ['_'] => [.ident "_" false]
  | ['('] => [.opening .paren]
  | ['['] => [.opening .bracket]
  | ['\x7b'] => [.opening .brace]
  | [')'] => [.closing .paren]
  | [']'] => [.closing .bracket]
  | ['\x7d'] => [.closing .brace]
  | cs => if cs.all punctChars.contains then cs.map .punct else []

/-- Reads an unknown character `c` at `pos`, followed by `rest`. It is reported once together
with the same characters right after it, and read as the token it looks like, if any. Once a
no-break space has been reported, later ones are blanks. -/
def readUnknown (c : Char) (rest : List Char) (pos : Nat) (nbspSeen : Bool) : Read :=
  if c.toNat = 0xA0 && nbspSeen then { length := 1 }
  else
    { pieces := ((lookAlike c).map lookAlikePieces).getD [],
      length := 1 + (rest.takeWhile (· == c)).length,
      faults := [⟨"unknown start of token: " ++ shownChar c, pos⟩],
      nbsp := c.toNat = 0xA0 }

def readEmojiWord (c : Char) (rest : List Char) (pos : Nat) (nbspSeen : Bool) : Read :=
  let name := c :: rest.takeWhile isEmojiWordChar
  if name.length = 1 && (lookAlike c).isSome then readUnknown c rest pos nbspSeen
  else { pieces := [.ident (Text.toNfc (String.ofList name)) false], length := name.length }

def docFaults (block : Bool) (content : List Char) (pos : Nat) : List Fault :=
  (content.zipIdx.filter fun (d, _) => d = '\r').map fun (_, i) =>
    ⟨"bare CR not allowed in " ++ (if block then "block " else "") ++ "doc-comment", pos + i⟩

def readLineComment (whole : List Char) (pos : Nat) : Read :=
  let body := (whole.drop 2).takeWhile (· != '\n')
  let doc : Option Bool := match body with
    | '/' :: rest => if rest.head? != some '/' then some false else none
    | '!' :: _ => some true
    | _ => none
  match doc with
  | some inner =>
    { pieces := [.doc inner (String.ofList (body.drop 1))], length := 2 + body.length,
      faults := docFaults false (body.drop 1) (pos + 3) }
  | none => { length := 2 + body.length }

def readBlockComment (whole : List Char) (pos : Nat) : Read :=
  let after := whole.drop 2
  let docStyle : Option Bool := match after with
    | '!' :: _ => some true
    | '*' :: d :: _ => if d == '*' || d == '/' then none else some false
    | ['*'] => some false
    | _ => none
  match blockBody after 1 with
  | some n =>
    let content := (after.drop 1).take (n - 3)
    match docStyle with
    | some inner =>
      { pieces := [.doc inner (String.ofList content)], length := 2 + n,
        faults := docFaults true content (pos + 3) }
    | none => { length := 2 + n }
  | none =>
    { length := whole.length, stop := true,
      faults := [⟨if docStyle.isSome then "unterminated block doc-comment"
        else "unterminated block comment", pos⟩] }

def singlePiece (c : Char) : Option Piece :=
  if c = '(' then some (.opening .paren)
  else if c = '[' then some (.opening .bracket)
  else if c = '\x7b' then some (.opening .brace)
  else if c = ')' then some (.closing .paren)
  else if c = ']' then some (.closing .bracket)
  else if c = '\x7d' then some (.closing .brace)
  else if punctChars.contains c then some (.punct c)
  else none

def readPiece (whole : List Char) (pos : Nat) (nbspSeen : Bool) : Read :=
  match whole with
  | [] => { length := 1 }
  | c :: rest =>
    let next := rest.head?
    let second := (rest.drop 1).head?
    if c = '/' && next == some '/' then readLineComment whole pos
    else if c = '/' && next == some '*' then readBlockComment whole pos
    else if Text.isPatternWhiteSpace c then { length := 1 }
    else if c = 'r' && next == some '#' && (second.map isIdStart).getD false then
      readWord whole pos true
    else if c = 'r' && (next == some '#' || next == some '"') then readRaw whole 0 pos
    else if c = 'b' && next == some '\'' then readQuote whole 1 pos
    else if c = 'b' && next == some '"' then readQuoted whole 1 pos
    else if c = 'b' && next == some 'r' && (second == some '#' || second == some '"') then
      readRaw whole 1 pos
    else if c = 'c' && next == some 'r' && (second == some '#' || second == some '"') then
      { pieces := [.ident "c" false], length := 1 }
    else if isIdStart c then readWord whole pos false
    else if c.isDigit then readNumber c rest pos
    else if c = '\'' then readQuote whole 0 pos
    else if c = '"' then readQuoted whole 0 pos
    else match singlePiece c with
      | some p => { pieces := [p], length := 1 }
      | none =>
        if c.toNat ≥ 0x80 && Text.isEmoji c then readEmojiWord c rest pos nbspSeen
        else readUnknown c rest pos nbspSeen

/-- The located pieces of one read at `pos` of `length` characters: all start at `pos`; each but
the last touches the next, so that a look-alike of `==` reads as two joined characters. -/
def placePieces (pos length : Nat) : List Piece → List Located
  | [] => []
  | [p] => [⟨p, pos, pos + length⟩]
  | p :: rest => ⟨p, pos, pos⟩ :: placePieces pos length rest

def lexFrom : Nat → List Char → Nat → Lexed → Lexed
  | 0, _, _, acc => acc
  | _, [], _, acc => acc
  | fuel + 1, c :: rest, pos, acc =>
    let r := readPiece (c :: rest) pos acc.nbspSeen
    let length := max r.length 1
    let acc :=
      { acc with pieces := acc.pieces ++ placePieces pos length r.pieces,
                 faults := acc.faults ++ r.faults,
                 malformed := acc.malformed || r.malformed,
                 nbspSeen := acc.nbspSeen || r.nbsp }
    if r.stop then { acc with stopped := true }
    else lexFrom fuel ((c :: rest).drop length) (pos + length) acc

def lex (text : List Char) : Lexed := lexFrom (text.length + 1) text 0 {}

end LoxFront.Schema
