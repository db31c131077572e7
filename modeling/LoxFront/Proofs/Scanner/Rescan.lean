import LoxFront.Proofs.Diagnostics

/-! Scanning the lexemes of a scan again. Main statement: the lexemes of the tokens of any scan,
written out with a blank between each two, scan back to tokens of the same kinds, lexemes and
literals, one for one, followed by the end-of-input token, and report no error. Each lexeme is cut
where it is only because of what followed it, so the argument is that a blank stops every lexeme:
only strings hold a blank, no string extends a lexeme, and so the longest lexeme before a blank is
the lexeme itself. -/
namespace LoxFront
namespace LongestMatch
open Lexeme

/-- A token read from its own lexeme: the lexeme is a lexeme of the language, and the kind and
the literal are those the language gives it. -/
def Lexed (t : Token) : Prop :=
  isLexeme t.lexeme.toList ∧ t.kind = kindOf t.lexeme.toList ∧ t.literal = literalOf t.lexeme.toList

theorem lexed_tokenOf {p : List Char} (lexeme : isLexeme p) (line : Nat) : Lexed (tokenOf p line) := by
  simp [Lexed,tokenOf,lexeme]

theorem move_token_lexeme {c : Char} {rest : List Char} {line : Nat} {t : Token}
    (read : (move c rest line).1 = some (.ok t)) :
    isLexeme ((c :: rest).take (move c rest line).2) := by
  unfold move at read ⊢
  split_ifs at read ⊢ with blank comment lexeme
  · exact Nat.findGreatest_of_ne_zero rfl (Nat.pos_iff_ne_zero.mp lexeme)
  · simp at read
  · simp at read

theorem items_lexed (input : List Char) (line : Nat) :
    ∀ t ∈ Scanner.tokensOf (Scanner.items input line).1, Lexed t := by
  induction input,line using Scanner.locatedFrom.induct with
  | case1 line => simp [Scanner.items]
  | case2 c input line s ih =>
    obtain ⟨-,dropped,counted⟩ := step_agrees c input line
    simp only [s,dropped,counted] at ih
    rw [items_cons]
    intro t member
    rw [Scanner.mem_tokensOf,List.mem_append] at member
    rcases member with here | later
    · have read : (move c input line).1 = some (.ok t) := Option.mem_toList.mp here
      rw [move_token read]
      exact lexed_tokenOf (move_token_lexeme read) line
    · exact ih t (Scanner.mem_tokensOf.mpr later)

theorem isBlank_head_of_lexeme {c : Char} {x : List Char} (lexeme : isLexeme (c :: x)) :
    isBlank c = false := by
  cases blank : isBlank c with
  | false => rfl
  | true =>
    have only : isStringOnly c := by
      rcases isBlank_iff.mp blank with rfl | rfl | rfl | rfl <;> decide
    obtain rfl := isString_head (isString_of_mem lexeme List.mem_cons_self only)
    simp [isBlank] at blank

theorem eq_nil_of_lexeme_slash {x : List Char} (lexeme : isLexeme ('/' :: x)) : x = [] := by
  have listed := (isLexeme_symbol (o := '/') (by decide)).mp lexeme
  have alone : ∀ key ∈ operators.map Prod.fst, key.head? = some '/' → key = ['/'] := by decide
  simpa using alone _ listed rfl

theorem move_lexeme {c : Char} {x rest : List Char} (lexeme : isLexeme (c :: x))
    (after : rest = [] ∨ rest.head? = some ' ') (line : Nat) :
    move c (x ++ rest) line = (some (.ok (tokenOf (c :: x) line)),x.length + 1) := by
  have blank := isBlank_head_of_lexeme lexeme
  have comment : ¬(c = '/' ∧ (x ++ rest).head? = some '/') := by
    rintro ⟨rfl,head⟩
    obtain rfl := eq_nil_of_lexeme_slash lexeme
    rcases after with rfl | spaced <;> simp_all
  have alone : longest ((c :: x) ++ []) = (c :: x).length :=
    longest_append lexeme fun e extra prefixed => absurd (List.prefix_nil.mp prefixed) extra
  -- a blank after the lexeme stops any longer one
  have whole : longest (c :: (x ++ rest)) = x.length + 1 := by
    rcases after with rfl | spaced
    · simpa using alone
    · obtain ⟨r,rfl⟩ : ∃ r, rest = ' ' :: r := by
        cases rest with
        | nil => simp at spaced
        | cons d r => exact ⟨r,by simpa using spaced⟩
      simpa using longest_append_stop (q := []) (r := r) (d := ' ') (by simp) alone (by decide)
  have taken : (c :: (x ++ rest)).take (x.length + 1) = c :: x := by simp
  simp only [move,blank,comment,whole,taken,Bool.false_eq_true,if_false,Nat.zero_lt_succ,
    if_true]

theorem items_lexeme {p r : List Char} (lexeme : isLexeme p)
    (after : r = [] ∨ r.head? = some ' ') (line : Nat) :
    (Scanner.items (p ++ r) line).1 =
      .ok (tokenOf p line) :: (Scanner.items r (line + p.count '\n')).1 := by
  obtain ⟨c,x,rfl⟩ : ∃ c x, p = c :: x := by
    cases p with
    | nil => exact absurd lexeme (by decide)
    | cons c x => exact ⟨c,x,rfl⟩
  rw [List.cons_append,items_cons,move_lexeme lexeme after]
  simp

theorem items_blank (rest : List Char) (line : Nat) :
    Scanner.items (' ' :: rest) line = Scanner.items rest line := by
  rw [items_cons]
  simp [move,isBlank]

/-- The lexemes of tokens read from their own lexemes, written with a blank between each two, scan
to one token each, in order, of the same kind, lexeme and literal. -/
theorem items_intercalate (ts : List Token) (lexed : ∀ t ∈ ts, Lexed t) (line : Nat) :
    List.Forall₂ (fun x t => ∃ u, x = .ok u ∧
        u.kind = t.kind ∧ u.lexeme = t.lexeme ∧ u.literal = t.literal)
      (Scanner.items ([' '].intercalate (ts.map fun t => t.lexeme.toList)) line).1 ts := by
  induction ts generalizing line with
  | nil => simp [Scanner.items]
  | cons t ts ih =>
    obtain ⟨lexeme,kinds,literals⟩ := lexed t List.mem_cons_self
    have first : ∃ u, (.ok (tokenOf t.lexeme.toList line) : Except Error Token) = .ok u ∧
        u.kind = t.kind ∧ u.lexeme = t.lexeme ∧ u.literal = t.literal :=
      ⟨_,rfl,kinds.symm,by simp [tokenOf],literals.symm⟩
    have later := ih fun u member => lexed u (List.mem_cons_of_mem t member)
    cases ts with
    | nil =>
      have read := items_lexeme lexeme (r := []) (.inl rfl) line
      rw [List.append_nil] at read
      rw [List.map_singleton,List.intercalate_singleton,read]
      exact .cons first (by simp [Scanner.items])
    | cons u us =>
      rw [List.map_cons,List.map_cons,List.intercalate_cons_cons,List.append_assoc,
        items_lexeme lexeme (.inr rfl),List.singleton_append,items_blank]
      exact .cons first (later _)

theorem forall₂_tokensOf {R : Token → Token → Prop} {items : List (Except Error Token)}
    {ts : List Token} (read : List.Forall₂ (fun x t => ∃ u, x = .ok u ∧ R u t) items ts) :
    Scanner.errorsOf items = [] ∧ List.Forall₂ R (Scanner.tokensOf items) ts := by
  induction read with
  | nil => simp
  | cons head _ ih =>
    obtain ⟨u,rfl,related⟩ := head
    exact ⟨by simp [ih.1],.cons related ih.2⟩

end LongestMatch

namespace Diagnostics
open Scanner LongestMatch Lexeme

/-- The lexemes of a scan, written out with a blank between each two, scan back to tokens of the
same kinds, lexemes and literals, one for each token and in order, then the end-of-input token,
and leave the sink as it was: every lexeme stands on its own once it is set apart. -/
theorem scan_lexemes_rescan (d d' : Diagnostics) (s : String) :
    ∃ ts, (d.scan s).1 = .ok ts ∧
      ∃ us line, d'.scan (" ".intercalate ((ts.filter fun t => t.kind != .endOfFile).map Token.lexeme)) =
          (.ok (us ++ [Token.eof line]),d') ∧
        List.Forall₂ (fun u t => u.kind = t.kind ∧ u.lexeme = t.lexeme ∧ u.literal = t.literal) us
          (ts.filter fun t => t.kind != .endOfFile) := by
  -- the tokens of the scan, without the end-of-input token
  have proper : ((tokensOf (itemsOf s) ++ [Token.eof (lastLine s)]).filter
      fun t => t.kind != .endOfFile) = tokensOf (itemsOf s) := by
    have kinds : ∀ t ∈ tokensOf (itemsOf s), t.kind ≠ .endOfFile :=
      fun t member => items_yieldable s.toList 1 _ (mem_tokensOf.mp member)
    simpa [Token.eof] using kinds
  -- the joined lexemes scan to one token each, and to no error
  have read := items_intercalate (tokensOf (itemsOf s)) (items_lexed s.toList 1) 1
  obtain ⟨clean,tokens⟩ := forall₂_tokensOf read
  have joined : (" ".intercalate ((tokensOf (itemsOf s)).map Token.lexeme)).toList =
      [' '].intercalate ((tokensOf (itemsOf s)).map fun t => t.lexeme.toList) := by
    rw [String.toList_intercalate,List.map_map]
    rfl
  refine ⟨tokensOf (itemsOf s) ++ [Token.eof (lastLine s)],by rw [scan_eq],?_⟩
  rw [proper]
  refine ⟨tokensOf (itemsOf (" ".intercalate ((tokensOf (itemsOf s)).map Token.lexeme))),
    lastLine (" ".intercalate ((tokensOf (itemsOf s)).map Token.lexeme)),?_,?_⟩
  · rw [scan_eq,itemsOf,joined,clean,List.append_nil]
  · rw [itemsOf,joined]
    exact tokens

end Diagnostics
end LoxFront
