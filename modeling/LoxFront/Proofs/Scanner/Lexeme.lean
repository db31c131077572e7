import LoxFront.Token.Scanner
import Mathlib.Data.Nat.Find
import Mathlib.Data.List.Infix
import Mathlib.Data.List.TakeWhile

/-! The token language of the scanner as a set of lexemes: operators and punctuation, text
between two double quotes with no double quote inside, numerals with an optional fraction, and
words. A longest-match lexer reads the longest prefix of the input that is a lexeme; the lemmas
below find that prefix for every kind of first character. -/
namespace LoxFront.Lexeme

def operators : List (List Char × TokenKind) :=
  [(['('],.leftParen),([')'],.rightParen),(['{'],.leftBrace),(['}'],.rightBrace),(['.'],.dot),
   ([','],.comma),(['-'],.minus),(['+'],.plus),([';'],.semicolon),(['?'],.question),
   ([':'],.colon),(['*'],.star),(['!'],.bang),(['='],.equal),(['<'],.less),(['>'],.greater),
   (['/'],.slash),(['*','*'],.starStar),(['!','='],.bangEqual),(['=','='],.equalEqual),
   (['<','='],.lessEqual),(['>','='],.greaterEqual)]

def operatorKind? (p : List Char) : Option TokenKind := operators.lookup p

def isString : List Char → Bool
  | '"' :: body => body.count '"' == 1 && body.getLast? == some '"'
  | _ => false

def isDigits (ds : List Char) : Bool := !ds.isEmpty && ds.all Char.isDigit

def isFraction : List Char → Bool
  | [] => true
  | '.' :: digits => isDigits digits
  | _ => false

def isNumeral (p : List Char) : Bool :=
  isDigits (p.takeWhile Char.isDigit) && isFraction (p.dropWhile Char.isDigit)

def isWord : List Char → Bool
  | c :: cs => (c.isAlpha || c == '_') && cs.all fun d => d.isAlpha || d == '_' || d.isDigit
  | [] => false

def isLexeme (p : List Char) : Bool :=
  (operatorKind? p).isSome || isString p || isNumeral p || isWord p

/-- The length of the longest prefix of `cs` that is a lexeme, zero when no prefix is. -/
def longest (cs : List Char) : Nat := Nat.findGreatest (fun n => isLexeme (cs.take n)) cs.length

def valueOf (p : List Char) : Binary64 :=
  let whole := p.takeWhile Char.isDigit
  let fraction := (p.dropWhile Char.isDigit).drop 1
  Binary64.ofDecimal (Binary64.digitsValue (whole ++ fraction)) (-fraction.length)

def kindOf (p : List Char) : TokenKind :=
  if isWord p then (TokenKind.keyword? (String.ofList p)).getD .identifier
  else if isNumeral p then .number
  else if isString p then .string
  else (operatorKind? p).getD .invalid

def literalOf (p : List Char) : Option Literal :=
  if isNumeral p then some (.number (valueOf p))
  else if isString p then some (.string (String.ofList (p.drop 1).dropLast))
  else none

def tokenOf (p : List Char) (line : Nat) : Token := ⟨kindOf p,String.ofList p,literalOf p,line⟩

theorem operatorKind_isSome {p : List Char} :
    (operatorKind? p).isSome ↔ p ∈ operators.map Prod.fst := by
  rw [operatorKind?,List.lookup_isSome_iff,List.mem_map]
  constructor
  · rintro ⟨entry,member,same⟩
    exact ⟨entry,member,(beq_iff_eq.mp same).symm⟩
  · rintro ⟨entry,member,same⟩
    exact ⟨entry,member,beq_iff_eq.mpr same.symm⟩

theorem longest_append {p rest : List Char} (lexeme : isLexeme p)
    (maximal : ∀ e, e ≠ [] → e <+: rest → ¬isLexeme (p ++ e)) :
    longest (p ++ rest) = p.length := by
  unfold longest
  rw [Nat.findGreatest_eq_iff]
  refine ⟨by simp,fun _ => by simpa using lexeme,?_⟩
  intro n longer within
  have taken : (p ++ rest).take n = p ++ rest.take (n - p.length) := by
    rw [List.take_append,List.take_of_length_le (by omega)]
  rw [taken]
  apply maximal _ _ (List.take_prefix _ _)
  intro empty
  have size := congrArg List.length empty
  simp only [List.length_append] at within
  simp only [List.length_take,List.length_nil] at size
  omega

theorem longest_eq_zero {cs : List Char} (none : ∀ q, q ≠ [] → q <+: cs → ¬isLexeme q) :
    longest cs = 0 := by
  unfold longest
  rw [Nat.findGreatest_eq_zero_iff]
  intro n positive within
  apply none _ _ (List.take_prefix _ _)
  intro empty
  have size := congrArg List.length empty
  simp only [List.length_take,List.length_nil] at size
  omega

theorem maximal_of_longest {p rest : List Char} (nonempty : p ≠ [])
    (read : longest (p ++ rest) = p.length) :
    isLexeme p ∧ ∀ e, e ≠ [] → e <+: rest → ¬isLexeme (p ++ e) := by
  unfold longest at read
  obtain ⟨-,lexeme,maximal⟩ := Nat.findGreatest_eq_iff.mp read
  refine ⟨by simpa using lexeme (by simpa using nonempty),?_⟩
  intro e extra prefixed
  obtain ⟨rest',rfl⟩ := prefixed
  have bigger : p.length < (p ++ e).length := by
    simp [List.length_append,List.length_pos_iff.mpr extra]
  have taken := maximal bigger (by simp)
  simpa [List.take_append,List.take_of_length_le] using taken

/-- Operators are one or two characters long, start with an operator of one character, and hold
no digit, letter, underscore, double quote or blank. -/
theorem operators_shape : ∀ key ∈ operators.map Prod.fst,
    key.take 1 ∈ operators.map Prod.fst ∧ key.length ≤ 2 ∧
      key.all fun d => !d.isDigit && !Scanner.isWordStart d && d != '"' && d != ' ' := by
  decide

theorem isString_head {c : Char} {x : List Char} (string : isString (c :: x)) : c = '"' := by
  by_cases quote : c = '"'
  · exact quote
  · simp [isString,quote] at string

theorem isString_quote {x : List Char} :
    isString ('"' :: x) ↔ ∃ body, x = body ++ ['"'] ∧ '"' ∉ body := by
  simp only [isString,Bool.and_eq_true,beq_iff_eq]
  constructor
  · rintro ⟨once,last⟩
    obtain ⟨body,rfl⟩ := List.getLast?_eq_some_iff.mp last
    refine ⟨body,rfl,?_⟩
    rw [List.count_append] at once
    simpa [List.count_eq_zero] using once
  · rintro ⟨body,rfl,outside⟩
    simp [List.count_append,List.count_eq_zero.mpr outside]

theorem isNumeral_head {c : Char} {x : List Char} (numeral : isNumeral (c :: x)) :
    c.isDigit := by
  by_contra other
  simp [isNumeral,isDigits,List.takeWhile_cons_of_neg other] at numeral

theorem isWord_cons {c : Char} {x : List Char} :
    isWord (c :: x) = (Scanner.isWordStart c && x.all Scanner.isWordPart) := rfl

theorem isString_cons_of_ne {c : Char} {x : List Char} (quote : c ≠ '"') :
    isString (c :: x) = false := by
  cases found : isString (c :: x) with
  | false => rfl
  | true => exact absurd (isString_head found) quote

theorem isNumeral_cons_of_not_digit {c : Char} {x : List Char} (digit : c.isDigit = false) :
    isNumeral (c :: x) = false := by
  cases found : isNumeral (c :: x) with
  | false => rfl
  | true => simp [isNumeral_head found] at digit

theorem operatorKind_cons_isSome {c : Char} {x : List Char}
    (plain : c.isDigit ∨ Scanner.isWordStart c ∨ c = '"') :
    (operatorKind? (c :: x)).isSome = false := by
  cases found : (operatorKind? (c :: x)).isSome with
  | false => rfl
  | true =>
    have shape := (operators_shape _ (operatorKind_isSome.mp found)).2.2
    simp only [List.all_cons,Bool.and_eq_true,Bool.not_eq_true',bne_iff_ne] at shape
    rcases plain with digit | start | rfl
    · simp [digit] at shape
    · simp [start] at shape
    · simp at shape

theorem isLexeme_quote {x : List Char} : isLexeme ('"' :: x) = isString ('"' :: x) := by
  simp [isLexeme,operatorKind_cons_isSome (.inr (.inr rfl)),
    isNumeral_cons_of_not_digit (c := '"') (by decide),isWord_cons,Scanner.isWordStart]

theorem isLexeme_head {c : Char} {x : List Char} (lexeme : isLexeme (c :: x)) :
    isLexeme [c] ∨ c = '"' := by
  simp only [isLexeme,Bool.or_eq_true] at lexeme
  rcases lexeme with ((symbol | string) | numeral) | word
  · have shape := operators_shape _ (operatorKind_isSome.mp symbol)
    left
    simp only [isLexeme,Bool.or_eq_true]
    exact .inl (.inl (.inl (operatorKind_isSome.mpr (by simpa using shape.1))))
  · exact .inr (isString_head string)
  · left
    have digit := isNumeral_head numeral
    simp [isLexeme,isNumeral,isDigits,isFraction,List.takeWhile_cons_of_pos digit,digit]
  · left
    rw [isWord_cons,Bool.and_eq_true] at word
    simp [isLexeme,isWord_cons,word.1]

theorem wordStart_of_digit {c : Char} (digit : c.isDigit) : Scanner.isWordStart c = false := by
  have underscore : c ≠ '_' := by rintro rfl; exact absurd digit (by decide)
  -- the letters lie above the digits, read off the definitions of the classes
  have alpha : c.isAlpha = (c.isUpper || c.isLower) := rfl
  have upper : c.isUpper = decide (c.val ≥ 'A'.val ∧ c.val ≤ 'Z'.val) := rfl
  have lower : c.isLower = (decide (c.val ≥ 'a'.val) && decide (c.val ≤ 'z'.val)) := rfl
  simp only [Char.isDigit,Scanner.isWordStart,alpha,upper,lower,
    Bool.or_eq_false_iff,decide_eq_false_iff_not,beq_eq_false_iff_ne] at *
  grind

theorem wordStart_shape {c : Char} (start : Scanner.isWordStart c) : c.isDigit = false ∧ c ≠ '"' :=
  ⟨Bool.eq_false_iff.mpr fun digit => by simp [wordStart_of_digit digit] at start,
    by rintro rfl; exact absurd start (by decide)⟩

theorem isLexeme_of_symbol {c : Char} {x : List Char} (digit : c.isDigit = false)
    (start : Scanner.isWordStart c = false) (quote : c ≠ '"') :
    isLexeme (c :: x) = (operatorKind? (c :: x)).isSome := by
  simp [isLexeme,isString_cons_of_ne quote,isNumeral_cons_of_not_digit digit,isWord_cons,start]

theorem isLexeme_symbol {o : Char} {x : List Char} (symbol : [o] ∈ operators.map Prod.fst) :
    isLexeme (o :: x) ↔ o :: x ∈ operators.map Prod.fst := by
  have shape := (operators_shape _ symbol).2.2
  simp only [List.all_cons,List.all_nil,Bool.and_true,Bool.and_eq_true,Bool.not_eq_eq_eq_not,
    Bool.not_true,bne_iff_ne] at shape
  rw [isLexeme_of_symbol shape.1.1.1 shape.1.1.2 shape.1.2,operatorKind_isSome]

theorem isLexeme_digit {c : Char} {x : List Char} (digit : c.isDigit) :
    isLexeme (c :: x) = isNumeral (c :: x) := by
  have quote : c ≠ '"' := by rintro rfl; exact absurd digit (by decide)
  simp [isLexeme,operatorKind_cons_isSome (.inl digit),isString_cons_of_ne quote,isWord_cons,
    wordStart_of_digit digit]

theorem isLexeme_wordStart {c : Char} {x : List Char} (start : Scanner.isWordStart c) :
    isLexeme (c :: x) = isWord (c :: x) := by
  obtain ⟨digit,quote⟩ := wordStart_shape start
  simp [isLexeme,operatorKind_cons_isSome (.inr (.inl start)),isString_cons_of_ne quote,
    isNumeral_cons_of_not_digit digit]

theorem isNumeral_mem {q : List Char} {d : Char} (numeral : isNumeral q) (member : d ∈ q) :
    d.isDigit ∨ d = '.' := by
  rw [← List.takeWhile_append_dropWhile (p := Char.isDigit) (l := q),List.mem_append] at member
  rcases member with whole | after
  · exact .inl (List.mem_takeWhile_imp whole)
  · simp only [isNumeral,Bool.and_eq_true] at numeral
    generalize q.dropWhile Char.isDigit = tail at numeral after
    cases tail with
    | nil => simp at after
    | cons h fraction =>
      by_cases dot : h = '.'
      · subst h
        simp only [isFraction,isDigits,Bool.and_eq_true,List.all_eq_true] at numeral
        rcases List.mem_cons.mp after with point | inside
        · exact .inr point
        · exact .inl (numeral.2.2 d inside)
      · simp [isFraction,dot] at numeral

theorem isWord_mem {q : List Char} {d : Char} (word : isWord q) (member : d ∈ q) :
    Scanner.isWordPart d := by
  cases q with
  | nil => simp at member
  | cons c x =>
    rw [isWord_cons,Bool.and_eq_true,List.all_eq_true] at word
    rcases List.mem_cons.mp member with rfl | inside
    · simp [Scanner.isWordPart,word.1]
    · exact word.2 d inside

/-- A character that only strings hold: no digit, point or word character, and in no operator. -/
def isStringOnly (d : Char) : Bool :=
  !d.isDigit && d != '.' && !Scanner.isWordPart d && !operators.any fun o => o.1.contains d

theorem isString_of_mem {q : List Char} {d : Char} (lexeme : isLexeme q) (member : d ∈ q)
    (only : isStringOnly d) : isString q := by
  simp only [isStringOnly,Bool.and_eq_true,Bool.not_eq_true',bne_iff_ne,List.any_eq_false] at only
  obtain ⟨⟨⟨digit,point⟩,part⟩,symbols⟩ := only
  simp only [isLexeme,Bool.or_eq_true] at lexeme
  rcases lexeme with ((symbol | string) | numeral) | word
  · obtain ⟨entry,listed,rfl⟩ := List.mem_map.mp (operatorKind_isSome.mp symbol)
    exact absurd (List.elem_iff.mpr member) (by simpa using symbols entry listed)
  · exact string
  · rcases isNumeral_mem numeral member with digit' | point'
    · simp [digit] at digit'
    · exact absurd point' point
  · simp [isWord_mem word member] at part

theorem isString_append {p e : List Char} (string : isString p) (extra : e ≠ []) :
    isString (p ++ e) = false := by
  cases p with
  | nil => simp [isString] at string
  | cons c x =>
    obtain rfl := isString_head string
    simp only [isString,Bool.and_eq_true,beq_iff_eq] at string ⊢
    obtain ⟨last,before,rfl⟩ : ∃ last before, e = before ++ [last] :=
      ⟨e.getLast extra,e.dropLast,(List.dropLast_append_getLast extra).symm⟩
    simp only [List.cons_append,List.getLast?_append,List.getLast?_singleton,List.count_append,
      string.1,Option.some_or,Bool.and_eq_false_iff,beq_eq_false_iff_ne]
    by_cases quote : last = '"'
    · subst last
      left
      simp
    · right
      simpa using quote

/-! ### The longest lexeme for each first character -/

theorem longest_single {o : Char} {rest : List Char} (symbol : [o] ∈ operators.map Prod.fst)
    (alone : ∀ key ∈ operators.map Prod.fst, key.head? = some o → key = [o]) :
    longest (o :: rest) = 1 := by
  show longest ([o] ++ rest) = [o].length
  apply longest_append ((isLexeme_symbol symbol).mpr symbol)
  intro e extra _ lexeme
  have same := alone _ ((isLexeme_symbol symbol).mp lexeme) rfl
  simp [extra] at same

theorem longest_pair {o second : Char} {rest : List Char} (symbol : [o] ∈ operators.map Prod.fst)
    (pair : [o,second] ∈ operators.map Prod.fst)
    (only : ∀ key ∈ operators.map Prod.fst, key.head? = some o → key = [o] ∨ key = [o,second]) :
    longest (o :: rest) = if rest.head? = some second then 2 else 1 := by
  cases rest with
  | nil =>
    show longest ([o] ++ []) = _
    rw [longest_append ((isLexeme_symbol symbol).mpr symbol)]
    · simp
    · intro e extra prefixed
      simp [List.prefix_nil.mp prefixed] at extra
  | cons d rest =>
    by_cases paired : d = second
    · subst d
      show longest ([o,second] ++ rest) = _
      rw [longest_append ((isLexeme_symbol symbol).mpr pair)]
      · simp
      · intro e extra _ lexeme
        rcases only _ ((isLexeme_symbol symbol).mp lexeme) rfl with same | same <;>
          simp [extra] at same
    · show longest ([o] ++ d :: rest) = _
      rw [longest_append ((isLexeme_symbol symbol).mpr symbol)]
      · simp [paired]
      · intro e extra prefixed lexeme
        obtain ⟨h,t,rfl⟩ := List.exists_cons_of_ne_nil extra
        obtain ⟨rfl,-⟩ := List.cons_prefix_cons.mp prefixed
        rcases only _ ((isLexeme_symbol symbol).mp lexeme) rfl with same | same <;>
          simp_all

theorem longest_closed {body rest : List Char} (outside : '"' ∉ body) :
    longest ('"' :: (body ++ '"' :: rest)) = body.length + 2 := by
  have split : '"' :: (body ++ '"' :: rest) = ('"' :: (body ++ ['"'])) ++ rest := by simp
  have string : isString ('"' :: (body ++ ['"'])) := isString_quote.mpr ⟨body,rfl,outside⟩
  rw [split,longest_append]
  · simp
  · rw [isLexeme_quote]
    exact string
  · intro e extra _ lexeme
    rw [List.cons_append,isLexeme_quote,← List.cons_append,isString_append string extra] at lexeme
    simp at lexeme

theorem longest_open {rest : List Char} (outside : '"' ∉ rest) : longest ('"' :: rest) = 0 := by
  apply longest_eq_zero
  intro q nonempty prefixed lexeme
  obtain ⟨c,x,rfl⟩ := List.exists_cons_of_ne_nil nonempty
  obtain ⟨rfl,inner⟩ := List.cons_prefix_cons.mp prefixed
  rw [isLexeme_quote,isString_quote] at lexeme
  obtain ⟨body,rfl,-⟩ := lexeme
  exact outside (inner.subset (List.mem_append_right body (List.mem_singleton_self '"')))

theorem longest_stray {c : Char} {rest : List Char} (alone : isLexeme [c] = false)
    (quote : c ≠ '"') : longest (c :: rest) = 0 := by
  apply longest_eq_zero
  intro q nonempty prefixed lexeme
  obtain ⟨d,x,rfl⟩ := List.exists_cons_of_ne_nil nonempty
  obtain ⟨rfl,-⟩ := List.cons_prefix_cons.mp prefixed
  rcases isLexeme_head lexeme with single | same
  · simp [alone] at single
  · exact quote same

theorem stop_of_dropWhile {p : Char → Bool} {rest after t : List Char} {h : Char}
    (same : h :: t ++ after = rest.dropWhile p) : p h = false := by
  have head := List.head_dropWhile_not p (l := rest) (by rw [← same]; simp)
  simp only [← same,List.cons_append,List.head_cons] at head
  simpa using head

theorem longest_word {c : Char} {rest : List Char} (start : Scanner.isWordStart c) :
    longest (c :: rest) = 1 + (rest.takeWhile Scanner.isWordPart).length := by
  have split : c :: rest = (c :: rest.takeWhile Scanner.isWordPart) ++
      rest.dropWhile Scanner.isWordPart := by simp
  rw [split,longest_append]
  · simp [Nat.add_comm]
  · rw [isLexeme_wordStart start,isWord_cons,start,Bool.true_and]
    exact List.all_takeWhile
  · intro e extra prefixed lexeme
    obtain ⟨h,t,rfl⟩ := List.exists_cons_of_ne_nil extra
    obtain ⟨after,same⟩ := prefixed
    have stop := stop_of_dropWhile same
    rw [List.cons_append,isLexeme_wordStart start,isWord_cons,Bool.and_eq_true,
      List.all_eq_true] at lexeme
    have part := lexeme.2 h (by simp)
    simp [stop] at part

theorem fractionOf_cases (cs : List Char) :
    (Scanner.fractionOf cs = ([],cs) ∧ ∀ d t, cs = '.' :: d :: t → d.isDigit = false) ∨
      ∃ d t, cs = '.' :: d :: t ∧ d.isDigit ∧
        Scanner.fractionOf cs = ('.' :: d :: t.takeWhile Char.isDigit,t.dropWhile Char.isDigit) := by
  unfold Scanner.fractionOf
  split
  · rename_i d t
    by_cases digit : d.isDigit
    · exact .inr ⟨d,t,rfl,digit,by simp [digit]⟩
    · refine .inl ⟨by simp [digit],?_⟩
      intro d' t' same
      simp only [List.cons.injEq] at same
      simpa [← same.2.1] using digit
  · rename_i other
    exact .inl ⟨rfl,fun d t same => absurd same (other d t)⟩

theorem fractionOf_append (cs : List Char) :
    (Scanner.fractionOf cs).1 ++ (Scanner.fractionOf cs).2 = cs := by
  rcases fractionOf_cases cs with ⟨plain,-⟩ | ⟨d,t,rfl,-,read⟩
  · simp [plain]
  · simp [read]

theorem isNumeral_append {whole tail : List Char} (nonempty : whole ≠ [])
    (digits : ∀ d ∈ whole, d.isDigit) (stop : ∀ h t, tail = h :: t → h.isDigit = false) :
    isNumeral (whole ++ tail) = isFraction tail := by
  have taken : tail.takeWhile Char.isDigit = [] := by
    cases tail with
    | nil => rfl
    | cons h t => simp [stop h t rfl]
  have dropped : tail.dropWhile Char.isDigit = tail := by
    cases tail with
    | nil => rfl
    | cons h t => simp [stop h t rfl]
  have run : isDigits whole := by simpa [isDigits,nonempty] using digits
  simp only [isNumeral,List.takeWhile_append_of_pos digits,List.dropWhile_append_of_pos digits,
    taken,dropped,List.append_nil,run,Bool.true_and]

theorem longest_numeral {c : Char} {rest : List Char} (digit : c.isDigit) :
    longest (c :: rest) = 1 + (rest.takeWhile Char.isDigit).length +
      (Scanner.fractionOf (rest.dropWhile Char.isDigit)).1.length := by
  have digits : ∀ d ∈ c :: rest.takeWhile Char.isDigit, d.isDigit := by
    intro d member
    rcases List.mem_cons.mp member with rfl | inside
    · exact digit
    · exact List.mem_takeWhile_imp inside
  -- what a numeral of these digits may be followed by
  have numeral (tail : List Char) (stop : ∀ h t, tail = h :: t → h.isDigit = false) :
      isLexeme ((c :: rest.takeWhile Char.isDigit) ++ tail) = isFraction tail := by
    rw [List.cons_append,isLexeme_digit digit,← List.cons_append,
      isNumeral_append (by simp) digits stop]
  rcases fractionOf_cases (rest.dropWhile Char.isDigit) with ⟨plain,bare⟩ | ⟨d,t,point,fraction,read⟩
  · have split : c :: rest = (c :: rest.takeWhile Char.isDigit) ++ rest.dropWhile Char.isDigit := by
      simp
    rw [plain,split,longest_append]
    · simp [Nat.add_comm]
    · simpa [isFraction] using numeral [] (by simp)
    · intro e extra prefixed lexeme
      obtain ⟨h,t,rfl⟩ := List.exists_cons_of_ne_nil extra
      obtain ⟨after,same⟩ := prefixed
      have stop := stop_of_dropWhile same
      rw [numeral (h :: t) (fun h' t' equal => by cases equal; exact stop)] at lexeme
      by_cases dot : h = '.'
      · subst h
        cases t with
        | nil => simp [isFraction,isDigits] at lexeme
        | cons f fs =>
          simp only [isFraction,isDigits,Bool.and_eq_true,List.all_cons] at lexeme
          simp [bare f (fs ++ after) (by simp [← same])] at lexeme
      · simp [isFraction,dot] at lexeme
  · have split : c :: rest = ((c :: rest.takeWhile Char.isDigit) ++ '.' :: d :: t.takeWhile Char.isDigit) ++
        t.dropWhile Char.isDigit := by
      conv_lhs => rw [← List.takeWhile_append_dropWhile (p := Char.isDigit) (l := rest),point]
      simp
    have after (e : List Char) : ∀ h t', ('.' :: d :: (t.takeWhile Char.isDigit ++ e)) = h :: t' →
        h.isDigit = false := by
      intro h t' equal
      cases equal
      decide
    rw [read,split,longest_append]
    · simp
      omega
    · have := numeral ('.' :: d :: t.takeWhile Char.isDigit)
        (fun h t' equal => after [] h t' (by simpa using equal))
      simp only [isFraction,isDigits,List.isEmpty_cons,Bool.not_false,List.all_cons,fraction,
        List.all_takeWhile,Bool.and_self] at this
      exact this
    · intro e extra prefixed lexeme
      obtain ⟨h,t',rfl⟩ := List.exists_cons_of_ne_nil extra
      obtain ⟨rest',same⟩ := prefixed
      have stop := stop_of_dropWhile same
      rw [show (c :: rest.takeWhile Char.isDigit ++ '.' :: d :: t.takeWhile Char.isDigit) ++ h :: t' =
          (c :: rest.takeWhile Char.isDigit) ++ '.' :: d :: (t.takeWhile Char.isDigit ++ h :: t') by simp,
        numeral _ (after _)] at lexeme
      simp only [isFraction,isDigits,Bool.and_eq_true,List.all_eq_true] at lexeme
      have := lexeme.2 h (by simp)
      simp [stop] at this

theorem toLower_of_digit {c : Char} (digit : c.isDigit) : c.toLower = c := by
  simp only [Char.isDigit,Bool.and_eq_true,decide_eq_true_eq] at digit
  unfold Char.toLower
  split
  · rename_i upper
    exact absurd upper (by grind)
  · rfl

theorem ofString?_numeral {p : List Char} (numeral : isNumeral p) :
    Binary64.ofString? (String.ofList p) = some (valueOf p) := by
  obtain ⟨c,x,rfl⟩ : ∃ c x, p = c :: x := by
    cases p with
    | nil => simp [isNumeral,isDigits] at numeral
    | cons c x => exact ⟨c,x,rfl⟩
  have digit := isNumeral_head numeral
  -- a digit first rules out a sign and the words `inf`, `infinity` and `nan`
  have unsigned : Binary64.ofString? (String.ofList (c :: x)) = Binary64.unsignedOf? (c :: x) := by
    have sign : c ≠ '-' ∧ c ≠ '+' := by
      constructor <;> (rintro rfl; exact absurd digit (by decide))
    simp only [Binary64.ofString?,String.toList_ofList]
    split
    · simp_all
    · simp_all
    · simp
  have word (w : String) (letter : (w.toList.head?.all fun d => !d.isDigit)) :
      String.ofList ((c :: x).map Char.toLower) ≠ w := by
    intro same
    have listed := congrArg String.toList same
    rw [String.toList_ofList,List.map_cons,toLower_of_digit digit] at listed
    simp [← listed,digit] at letter
  rw [unsigned,Binary64.unsignedOf?]
  simp only [word "inf" (by decide),word "infinity" (by decide),word "nan" (by decide),
    decide_false,Bool.or_self,Bool.false_eq_true,if_false]
  simp only [isNumeral,Bool.and_eq_true] at numeral
  obtain ⟨whole,fraction⟩ := numeral
  have nonempty : ((c :: x).takeWhile Char.isDigit).isEmpty = false := by
    simp [List.takeWhile_cons_of_pos digit]
  simp only [valueOf]
  generalize (c :: x).dropWhile Char.isDigit = tail at fraction ⊢
  cases tail with
  | nil => simp [nonempty]
  | cons h fs =>
    by_cases point : h = '.'
    · subst h
      simp only [isFraction,isDigits,Bool.and_eq_true,List.all_eq_true] at fraction
      have taken : fs.takeWhile Char.isDigit = fs := List.takeWhile_eq_self_iff.mpr fraction.2
      have dropped : fs.dropWhile Char.isDigit = [] := List.dropWhile_eq_nil_iff.mpr fraction.2
      simp [taken,dropped,nonempty]
    · simp [isFraction,point] at fraction

/-! ### Kinds and literals -/

theorem symbol_shape {p : List Char} (symbol : p ∈ operators.map Prod.fst) :
    isWord p = false ∧ isNumeral p = false ∧ isString p = false := by
  have shape := operators_shape _ symbol
  obtain ⟨o,x,rfl⟩ : ∃ o x, p = o :: x := by
    cases p with
    | nil => exact absurd symbol (by decide)
    | cons o x => exact ⟨o,x,rfl⟩
  have first := List.all_eq_true.mp shape.2.2 o (by simp)
  simp only [Bool.and_eq_true,Bool.not_eq_true',bne_iff_ne] at first
  exact ⟨by simp [isWord_cons,first.1.1.2],isNumeral_cons_of_not_digit first.1.1.1,
    isString_cons_of_ne first.1.2⟩

theorem kindOf_symbol {p : List Char} (symbol : p ∈ operators.map Prod.fst) :
    kindOf p = (operatorKind? p).getD .invalid := by
  obtain ⟨word,numeral,string⟩ := symbol_shape symbol
  simp [kindOf,word,numeral,string]

theorem literalOf_symbol {p : List Char} (symbol : p ∈ operators.map Prod.fst) :
    literalOf p = none := by
  obtain ⟨-,numeral,string⟩ := symbol_shape symbol
  simp [literalOf,numeral,string]

theorem kindOf_numeral {p : List Char} (numeral : isNumeral p) : kindOf p = .number := by
  cases p with
  | nil => simp [isNumeral,isDigits] at numeral
  | cons c x => simp [kindOf,numeral,isWord_cons,wordStart_of_digit (isNumeral_head numeral)]

theorem literalOf_word {c : Char} {x : List Char} (start : Scanner.isWordStart c) :
    literalOf (c :: x) = none := by
  obtain ⟨digit,quote⟩ := wordStart_shape start
  simp [literalOf,isNumeral_cons_of_not_digit digit,isString_cons_of_ne quote]

theorem kindOf_quote {body : List Char} (outside : '"' ∉ body) :
    kindOf ('"' :: (body ++ ['"'])) = .string := by
  simp [kindOf,isWord_cons,Scanner.isWordStart,isNumeral_cons_of_not_digit (c := '"') (by decide),
    isString_quote.mpr ⟨body,rfl,outside⟩]

theorem literalOf_quote {body : List Char} (outside : '"' ∉ body) :
    literalOf ('"' :: (body ++ ['"'])) = some (.string (String.ofList body)) := by
  simp [literalOf,isNumeral_cons_of_not_digit (c := '"') (by decide),
    isString_quote.mpr ⟨body,rfl,outside⟩]

theorem keyword_ne_endOfFile (w : String) : TokenKind.keyword? w ≠ some .endOfFile := by
  unfold TokenKind.keyword?
  split <;> simp

theorem operatorKind_ne_endOfFile (p : List Char) : operatorKind? p ≠ some .endOfFile := by
  intro found
  obtain ⟨front,back,table,-⟩ := List.lookup_eq_some_iff.mp found
  have listed : (p,TokenKind.endOfFile) ∈ operators := by simp [table]
  have kinds : ∀ q ∈ operators, q.2 ≠ .endOfFile := by decide
  exact kinds _ listed rfl

theorem kindOf_ne_endOfFile (p : List Char) : kindOf p ≠ .endOfFile := by
  unfold kindOf
  split_ifs
  · cases named : TokenKind.keyword? (String.ofList p) with
    | none => simp
    | some k => simpa [named] using keyword_ne_endOfFile (String.ofList p)
  · simp
  · simp
  · cases named : operatorKind? p with
    | none => simp
    | some k => simpa [named] using operatorKind_ne_endOfFile p

theorem longest_pos {c : Char} {rest : List Char} (lexeme : isLexeme [c]) :
    0 < longest (c :: rest) :=
  Nat.le_findGreatest (by simp) (by simpa using lexeme)

/-- A lexeme that extends another holds no character that only strings hold: only strings hold
one, and no string extends a lexeme. -/
theorem not_mem_extension {p e : List Char} {d : Char} (nonempty : p ≠ []) (extra : e ≠ [])
    (lexeme : isLexeme p) (longer : isLexeme (p ++ e)) (only : isStringOnly d) : d ∉ p ++ e := by
  intro member
  have string := isString_of_mem longer member only
  obtain ⟨c,x,rfl⟩ := List.exists_cons_of_ne_nil nonempty
  obtain rfl : c = '"' := isString_head string
  rw [isLexeme_quote] at lexeme
  rw [isString_append lexeme extra] at string
  exact Bool.false_ne_true string

/-- A longest lexeme stays the longest when a character that only strings hold follows the text
it was read from: a longer lexeme would reach over that character. -/
theorem longest_append_stop {p q r : List Char} {d : Char} (nonempty : p ≠ [])
    (read : longest (p ++ q) = p.length) (only : isStringOnly d) :
    longest (p ++ (q ++ d :: r)) = p.length := by
  obtain ⟨lexeme,maximal⟩ := maximal_of_longest nonempty read
  apply longest_append lexeme
  intro e extra prefixed longer
  -- a prefix of `q ++ d :: r` is a prefix of `q`, or reaches `d`
  rcases List.prefix_or_prefix_of_prefix prefixed (List.prefix_append q (d :: r)) with short | long
  · exact maximal e extra short longer
  · obtain ⟨after,rfl⟩ := long
    cases after with
    | nil => exact maximal _ extra (by simp) longer
    | cons h t =>
      obtain rfl : h = d :=
        (List.cons_prefix_cons.mp ((List.prefix_append_right_inj q).mp prefixed)).1
      exact not_mem_extension nonempty extra lexeme longer only (by simp)

end LoxFront.Lexeme
