/-!
Kinds of tokens: punctuation, operators, literals, keywords, the end of input and a kind that
scanning never produces. Each kind has the upper-case name that token texts show and the
capitalised name that structure dumps show; the eighteen reserved words map to their kinds.
-/
namespace LoxFront

/-- The kind of a token. -/
inductive TokenKind where
  | leftParen | rightParen | leftBrace | rightBrace
  | comma | dot | minus | plus | semicolon | slash | star
  | question | colon
  | bang | bangEqual
  | equal | equalEqual
  | greater | greaterEqual
  | less | lessEqual
  | starStar
  | identifier | string | number
  | kwAnd | kwBreak | kwClass | kwContinue | kwElse | kwFalse | kwFun | kwFor | kwIf | kwNil
  | kwOr | kwPrint | kwReturn | kwSuper | kwThis | kwTrue | kwVar | kwWhile
  | endOfFile
  /-- A kind that scanning never produces. -/
  | invalid
  deriving DecidableEq

namespace TokenKind

def all : List TokenKind :=
  [leftParen, rightParen, leftBrace, rightBrace, comma, dot, minus, plus, semicolon, slash, star,
   question, colon, bang, bangEqual, equal, equalEqual, greater, greaterEqual, less, lessEqual,
   starStar, identifier, string, number, kwAnd, kwBreak, kwClass, kwContinue, kwElse, kwFalse,
   kwFun, kwFor, kwIf, kwNil, kwOr, kwPrint, kwReturn, kwSuper, kwThis, kwTrue, kwVar, kwWhile,
   endOfFile, invalid]

def name : TokenKind → String
  | leftParen => "LEFT_PAREN" | rightParen => "RIGHT_PAREN"
  | leftBrace => "LEFT_BRACE" | rightBrace => "RIGHT_BRACE"
  | comma => "COMMA" | dot => "DOT" | minus => "MINUS" | plus => "PLUS"
  | semicolon => "SEMICOLON" | slash => "SLASH" | star => "STAR"
  | question => "QUESTION" | colon => "COLON"
  | bang => "BANG" | bangEqual => "BANG_EQUAL"
  | equal => "EQUAL" | equalEqual => "EQUAL_EQUAL"
  | greater => "GREATER" | greaterEqual => "GREATER_EQUAL"
  | less => "LESS" | lessEqual => "LESS_EQUAL"
  | starStar => "STAR_STAR"
  | identifier => "IDENTIFIER" | string => "STRING" | number => "NUMBER"
  | kwAnd => "AND" | kwBreak => "BREAK" | kwClass => "CLASS" | kwContinue => "CONTINUE"
  | kwElse => "ELSE" | kwFalse => "FALSE" | kwFun => "FUN" | kwFor => "FOR" | kwIf => "IF"
  | kwNil => "NIL" | kwOr => "OR" | kwPrint => "PRINT" | kwReturn => "RETURN"
  | kwSuper => "SUPER" | kwThis => "THIS" | kwTrue => "TRUE" | kwVar => "VAR"
  | kwWhile => "WHILE"
  | endOfFile => "EOF" | invalid => "INVALID"

def dumpName : TokenKind → String
  | leftParen => "LeftParen" | rightParen => "RightParen"
  | leftBrace => "LeftBrace" | rightBrace => "RightBrace"
  | comma => "Comma" | dot => "Dot" | minus => "Minus" | plus => "Plus"
  | semicolon => "Semicolon" | slash => "Slash" | star => "Star"
  | question => "Question" | colon => "Colon"
  | bang => "Bang" | bangEqual => "BangEqual"
  | equal => "Equal" | equalEqual => "EqualEqual"
  | greater => "Greater" | greaterEqual => "GreaterEqual"
  | less => "Less" | lessEqual => "LessEqual"
  | starStar => "StarStar"
  | identifier => "Identifier" | string => "String" | number => "Number"
  | kwAnd => "And" | kwBreak => "Break" | kwClass => "Class" | kwContinue => "Continue"
  | kwElse => "Else" | kwFalse => "False" | kwFun => "Fun" | kwFor => "For" | kwIf => "If"
  | kwNil => "Nil" | kwOr => "Or" | kwPrint => "Print" | kwReturn => "Return"
  | kwSuper => "Super" | kwThis => "This" | kwTrue => "True" | kwVar => "Var"
  | kwWhile => "While"
  | endOfFile => "EndOfFile" | invalid => "Invalid"

def ofName? (s : String) : Option TokenKind := all.find? (·.name == s)

def keyword? : String → Option TokenKind
  | "and" => some kwAnd | "break" => some kwBreak | "class" => some kwClass
  | "continue" => some kwContinue | "else" => some kwElse | "false" => some kwFalse
  | "for" => some kwFor | "fun" => some kwFun | "if" => some kwIf | "nil" => some kwNil
  | "or" => some kwOr | "print" => some kwPrint | "return" => some kwReturn
  | "super" => some kwSuper | "this" => some kwThis | "true" => some kwTrue
  | "var" => some kwVar | "while" => some kwWhile
  | _ => none

end TokenKind
end LoxFront
