import LoxFront.Proofs.Scanner.Rescan

/-! Decoding the lexemes that carry a value. A number lexeme is read as a binary64 number, and a
string's text is cut out of its lexeme between the two quotes, by byte offsets. Main statement:
neither can fail. Every number the scanner reads is a numeral, digits with at most one fraction,
and every numeral reads as a number, so the fatal error of an undecodable number never comes; and
the bytes just after the opening quote and just before the closing one of every string token are
character boundaries in order, the text between them being the token's literal. -/
namespace LoxFront
namespace Scanner
open LongestMatch Lexeme

theorem slice_between_quotes {s body : String} (quoted : s = "\"" ++ body ++ "\"") :
    ∃ b e : s.Pos, b.offset.byteIdx = 1 ∧ e.offset.byteIdx = s.utf8ByteSize - 1 ∧ b ≤ e ∧
      s.extract b e = body := by
  subst quoted
  have quote : "\"".utf8ByteSize = 1 := by decide
  have size : ("\"" ++ body ++ "\"").utf8ByteSize = body.utf8ByteSize + 2 := by
    simp only [String.utf8ByteSize_append,quote]
    omega
  -- each boundary splits the text into two texts, the first ending at it
  have first : (String.Pos.Raw.mk 1).IsValid ("\"" ++ body ++ "\"") :=
    String.Pos.Raw.isValid_iff_exists_append.mpr ⟨"\"",body ++ "\"",by rw [String.append_assoc],
      by simp [String.Pos.Raw.ext_iff,quote]⟩
  have last : (String.Pos.Raw.mk (body.utf8ByteSize + 1)).IsValid ("\"" ++ body ++ "\"") :=
    String.Pos.Raw.isValid_iff_exists_append.mpr ⟨"\"" ++ body,"\"",rfl,by
      simp only [String.Pos.Raw.ext_iff,String.byteIdx_rawEndPos,String.utf8ByteSize_append,quote]
      omega⟩
  refine ⟨⟨_,first⟩,⟨_,last⟩,rfl,by simp [size],?_,?_⟩
  · simp [String.Pos.le_iff,String.Pos.Raw.le_iff]
  · apply String.toByteArray_inj.mp
    simp only [String.toByteArray_extract,String.toByteArray_append]
    rw [ByteArray.extract_append,
      ByteArray.extract_append_eq_right (by simp [quote]) (by simp [quote]; omega)]
    have past : body.utf8ByteSize + 1 - (1 + body.utf8ByteSize) = 0 := by omega
    simp [quote,past]

/-- What the decoding of an item guarantees. A number token's lexeme is a numeral that reads as a
number, the token's literal; a string token's literal is the slice of its lexeme between the
bytes just after the first quote and just before the last, both character boundaries in order;
and an error is never the fatal one. -/
def Decoded : Except Error Token → Prop
  | .ok t =>
    (t.kind = .number → isNumeral t.lexeme.toList ∧
      ∃ x, Binary64.ofString? t.lexeme = some x ∧ t.literal = some (.number x)) ∧
    (t.kind = .string → ∃ b e : t.lexeme.Pos, b.offset.byteIdx = 1 ∧
      e.offset.byteIdx = t.lexeme.utf8ByteSize - 1 ∧ b ≤ e ∧
      t.literal = some (.string (t.lexeme.extract b e)))
  | .error e => e.isFatal = false

theorem keyword_ne_number_string (w : String) :
    TokenKind.keyword? w ≠ some .number ∧ TokenKind.keyword? w ≠ some .string := by
  unfold TokenKind.keyword?
  split <;> simp

theorem operatorKind_ne_number_string (p : List Char) :
    operatorKind? p ≠ some .number ∧ operatorKind? p ≠ some .string := by
  have kinds : ∀ q ∈ operators, q.2 ≠ .number ∧ q.2 ≠ .string := by decide
  have listed {k : TokenKind} (found : operatorKind? p = some k) : (p,k) ∈ operators := by
    obtain ⟨front,back,table,-⟩ := List.lookup_eq_some_iff.mp found
    simp [table]
  exact ⟨fun found => (kinds _ (listed found)).1 rfl,fun found => (kinds _ (listed found)).2 rfl⟩

theorem kindOf_value {p : List Char} :
    (kindOf p = .number → isNumeral p) ∧ (kindOf p = .string → isString p) := by
  have keyword := keyword_ne_number_string (String.ofList p)
  have operator := operatorKind_ne_number_string p
  unfold kindOf
  split_ifs with word numeral string
  · constructor <;> intro named <;> cases found : TokenKind.keyword? (String.ofList p) <;>
      simp_all
  · simp_all
  · simp_all
  · constructor <;> intro named <;> cases found : operatorKind? p <;> simp_all

theorem lexed_decoded {t : Token} (lexed : Lexed t) : Decoded (.ok t) := by
  obtain ⟨-,kind,literal⟩ := lexed
  refine ⟨fun number => ?_,fun string => ?_⟩
  · have numeral := kindOf_value.1 (kind ▸ number)
    refine ⟨numeral,valueOf t.lexeme.toList,?_,?_⟩
    · simpa using ofString?_numeral numeral
    · simp [literal,literalOf,numeral]
  · have quoted := kindOf_value.2 (kind ▸ string)
    obtain ⟨x,shape⟩ : ∃ x, t.lexeme.toList = '"' :: x := by
      cases lexeme : t.lexeme.toList with
      | nil => simp [lexeme,isString] at quoted
      | cons c x =>
        rw [lexeme] at quoted
        exact ⟨x,by rw [isString_head quoted]⟩
    obtain ⟨body,rfl,outside⟩ := isString_quote.mp (shape ▸ quoted)
    -- the lexeme is the quoted text, and its literal the text between the quotes
    have spelled : t.lexeme = "\"" ++ String.ofList body ++ "\"" := by
      rw [← String.ofList_toList (s := t.lexeme),shape]
      simp [String.ofList_append,String.append_assoc]
    rw [literal,shape,literalOf_quote outside]
    obtain ⟨b,e,start,stop,ordered,sliced⟩ := slice_between_quotes spelled
    exact ⟨b,e,start,stop,ordered,by rw [sliced]⟩

/-- Every item of a scan is decoded: its tokens are read from their own lexemes, and its errors
are lexical. -/
theorem items_decoded (input : List Char) (line : Nat) :
    ∀ x ∈ (items input line).1, Decoded x := by
  intro x member
  cases x with
  | ok t => exact lexed_decoded (items_lexed input line t (mem_tokensOf.mpr member))
  | error e =>
    have lexical : e.kind = .lexical := items_yieldable input line _ member
    simp [Decoded,Error.isFatal,lexical]

theorem number_ok {c : Char} (digit : c.isDigit) (input : List Char) (line : Nat) :
    ∃ t, (number c input line).item = some (.ok t) := by
  obtain ⟨item,-,-⟩ := @agrees_number c input line digit
  have start : 0 < longest (c :: input) := longest_pos (by
    simp [isLexeme_digit digit,isNumeral,isDigits,isFraction,List.takeWhile_cons_of_pos digit,
      List.dropWhile_cons_of_pos digit,digit])
  obtain ⟨blank,slash⟩ := plain_of_start (.inl digit)
  exact ⟨tokenOf ((c :: input).take (longest (c :: input))) line,
    by simp [item,move,blank,slash,start]⟩

/-- Decoding never fails: every call that reads a number yields a token, and on every source
each number token is a numeral read as a number, each string token's literal is the slice of its
lexeme between the bytes after its first quote and before its last, both character boundaries
in order, and no error is the fatal one. -/
theorem decoding_never_fails :
    (∀ c input line, c.isDigit → ∃ t, (number c input line).item = some (.ok t)) ∧
    ∀ s, ∀ x ∈ itemsOf s, Decoded x :=
  ⟨fun _ input line digit => number_ok digit input line,fun s => items_decoded s.toList 1⟩

theorem decoding_never_fails_accented :
    '4'.isDigit ∧ (∃ t, (number '4' ['.','2'] 1).item = some (.ok t)) ∧
    (.ok ⟨.string,"\"é\"",some (.string "é"),1⟩ ∈ itemsOf "\"é\"" ∧
      Decoded (.ok ⟨.string,"\"é\"",some (.string "é"),1⟩)) := by
  have member : .ok ⟨.string,"\"é\"",some (.string "é"),1⟩ ∈ itemsOf "\"é\"" := by
    simp [itemsOf,items,step,string,List.dropWhile]
  exact ⟨by decide,decoding_never_fails.1 '4' ['.','2'] 1 (by decide),member,
    decoding_never_fails.2 _ _ member⟩

end Scanner
end LoxFront
