import LoxFront.Schema.Tree
/-!
Reading a schema from the calls of its readers. A reader runs from a remembered token, the first
token left unread in a finished group, if any; it reads cleanly when it runs from none and leaves
none (`Clean`), and a reader that never forgets a remembered token (`Keeps`) lets a clean run of a
sequence be split into clean runs of its parts (`clean_bind`). Each primitive of the grammar (a
name, a punctuation, a group, the check that a group was read to its end) is characterised by what
it reads cleanly, and so are lists of items separated by a punctuation with a trailing one allowed
(`separated_of_clean`, `clean_of_separated`), from what the list relies on of reading one item.
-/
namespace LoxFront.Schema

/-- A run of `m` from no remembered token that yields `x` and leaves none. -/
def Clean {α : Type} (m : Parser α) (x : α) : Prop := m.run none = .ok (x,none)

def Keeps {α : Type} (m : Parser α) : Prop := ∀ sp x p, m.run (some sp) = .ok (x,p) → p.isSome

/-! ### Runs of readers -/

theorem run_pure {α : Type} (x : α) (p : Option Span) : (pure x : Parser α).run p = .ok (x,p) :=
  rfl

theorem run_throw {α : Type} (e : SyntaxError) (p : Option Span) :
    (throw e : Parser α).run p = .error e :=
  rfl

theorem run_bind {α β : Type} (m : Parser α) (f : α → Parser β) (p : Option Span) :
    (m >>= f).run p = match m.run p with
      | .ok (a,q) => (f a).run q
      | .error e => .error e := by
  rw [StateT.run_bind]
  cases m.run p <;> rfl

theorem except_pure {ε α : Type} (x : α) : (pure x : Except ε α) = .ok x := rfl

theorem except_throw {ε α : Type} (e : ε) : (throw e : Except ε α) = .error e := rfl

theorem except_ok_bind {ε α β : Type} (x : α) (f : α → Except ε β) :
    (Except.ok x >>= f) = f x :=
  rfl

theorem except_error_bind {ε α β : Type} (e : ε) (f : α → Except ε β) :
    (Except.error e >>= f) = .error e :=
  rfl

theorem fail_ne_ok {α : Type} (s : Stream) (msg : String) (p : Option Span) (x : α × Option Span) :
    (s.fail msg : Parser α).run p ≠ .ok x := by
  unfold Stream.fail
  split <;> simp only [run_throw,ne_eq,reduceCtorEq,not_false_eq_true]

/-! ### Sequences -/

theorem keeps_pure {α : Type} (x : α) : Keeps (pure x : Parser α) := by
  intro sp y p read
  simp only [run_pure,Except.ok.injEq,Prod.mk.injEq] at read
  simp [← read.2]

theorem keeps_bind {α β : Type} {m : Parser α} {f : α → Parser β} (first : Keeps m)
    (next : ∀ a, Keeps (f a)) : Keeps (m >>= f) := by
  intro sp y p read
  rw [run_bind] at read
  split at read
  · rename_i a q ran
    obtain ⟨sp',rfl⟩ := Option.isSome_iff_exists.mp (first sp (a,q).1 q ran)
    exact next a sp' y p read
  · simp at read

theorem keeps_of_stays {α : Type} {m : Parser α} (stays : ∀ p x q, m.run p = .ok (x,q) → q = p) :
    Keeps m := by
  intro sp x p read
  simp [stays _ _ _ read]

theorem clean_pure {α : Type} {x y : α} : Clean (pure x : Parser α) y ↔ x = y := by
  simp [Clean,except_pure]

theorem clean_bind {α β : Type} {m : Parser α} {f : α → Parser β} {y : β}
    (next : ∀ a, Keeps (f a)) :
    Clean (m >>= f) y ↔ ∃ a, Clean m a ∧ Clean (f a) y := by
  unfold Clean
  rw [run_bind]
  constructor
  · intro read
    split at read
    · rename_i a q ran
      cases q with
      | none => exact ⟨a,ran,read⟩
      | some sp => simpa using next a sp y none read
    · simp at read
  · rintro ⟨a,first,second⟩
    rw [first]
    exact second

theorem clean_bind_of {α β : Type} {m : Parser α} {f : α → Parser β} {a : α} {y : β}
    (first : Clean m a) (second : Clean (f a) y) : Clean (m >>= f) y := by
  unfold Clean at *
  rw [run_bind,first]
  exact second

/-! ### The primitives, read cleanly -/

theorem clean_ident {s s' : Stream} {n : Name} :
    Clean s.ident (n,s') ↔
      isPlainIdent n.text n.raw ∧ s.trees = .ident n.text n.raw n.span :: s'.trees ∧
        s'.scope = s.scope := by
  obtain ⟨text,raw,sp⟩ := n
  obtain ⟨rest,scope⟩ := s'
  unfold Clean Stream.ident
  split
  · rename_i name raw' sp' tail trees
    split
    · simp only [run_pure,Except.ok.injEq,Prod.mk.injEq,Name.mk.injEq,Stream.mk.injEq,trees,
        List.cons.injEq,TokenTree.ident.injEq]
      constructor
      · rintro ⟨⟨⟨rfl,rfl,rfl⟩,rfl,rfl⟩,-⟩
        simp_all
      · rintro ⟨plain,⟨⟨rfl,rfl,rfl⟩,rfl⟩,rfl⟩
        simp
    · refine ⟨fun read => absurd read (fail_ne_ok _ _ _ _),?_⟩
      rintro ⟨plain,shape,-⟩
      simp only [trees,List.cons.injEq,TokenTree.ident.injEq] at shape
      obtain ⟨⟨rfl,rfl,-⟩,-⟩ := shape
      simp_all
  · refine ⟨fun read => absurd read (fail_ne_ok _ _ _ _),?_⟩
    rintro ⟨-,shape,-⟩
    rename_i other
    exact absurd shape (by cases raw <;> simp_all)

theorem keeps_ident (s : Stream) : Keeps s.ident := by
  refine keeps_of_stays fun p x q read => ?_
  unfold Stream.ident at read
  split at read
  · split at read
    · simp only [run_pure,Except.ok.injEq,Prod.mk.injEq] at read
      exact read.2.symm
    · exact absurd read (fail_ne_ok _ _ _ _)
  · exact absurd read (fail_ne_ok _ _ _ _)

theorem punctAt_single {ts : List TokenTree} {c : Char} :
    punctAt ts [c] ↔ ∃ j sp rest, ts = .punct c j sp :: rest := by
  match ts with
  | .punct d j sp :: rest =>
    simp only [punctAt,beq_iff_eq,List.cons.injEq,TokenTree.punct.injEq]
    constructor
    · rintro rfl
      exact ⟨j,sp,rest,⟨rfl,rfl,rfl⟩,rfl⟩
    · rintro ⟨-,-,-,⟨rfl,-,-⟩,-⟩
      rfl
  | [] => simp [punctAt]
  | .ident .. :: _ | .literal .. :: _ | .group .. :: _ => simp [punctAt]

theorem punctAt_arrow {ts : List TokenTree} :
    punctAt ts ['=','>'] ↔ ∃ sp j sp' rest, ts = .punct '=' true sp :: .punct '>' j sp' :: rest := by
  match ts with
  | .punct d j sp :: rest =>
    simp only [punctAt,Bool.and_eq_true,beq_iff_eq,punctAt_single]
    constructor
    · rintro ⟨⟨rfl,rfl⟩,j',sp',rest',rfl⟩
      exact ⟨sp,j',sp',rest',rfl⟩
    · rintro ⟨sp,j',sp',rest',same⟩
      simp only [List.cons.injEq,TokenTree.punct.injEq] at same
      obtain ⟨⟨rfl,rfl,rfl⟩,rfl⟩ := same
      simp
  | [] => simp [punctAt]
  | .ident .. :: _ | .literal .. :: _ | .group .. :: _ => simp [punctAt]

theorem clean_punct {s s' : Stream} {p : String} :
    Clean (s.punct p) s' ↔ punctAt s.trees p.toList ∧ s' = s.advance p.length := by
  unfold Clean Stream.punct
  split
  · rename_i found
    simp only [run_pure,Except.ok.injEq,Prod.mk.injEq,and_true,found,true_and]
    exact eq_comm
  · rename_i missing
    simp only [missing,run_throw,reduceCtorEq,Bool.false_eq_true,false_and]

theorem keeps_punct (s : Stream) (p : String) : Keeps (s.punct p) := by
  refine keeps_of_stays fun q x q' read => ?_
  unfold Stream.punct at read
  split at read
  · simp only [run_pure,Except.ok.injEq,Prod.mk.injEq] at read
    exact read.2.symm
  · simp only [run_throw,reduceCtorEq] at read

theorem colon_toList : ":".toList = [':'] := by simp

theorem comma_toList : ",".toList = [','] := by simp

theorem semicolon_toList : ";".toList = [';'] := by simp

theorem arrow_toList : "=>".toList = ['=','>'] := by simp

theorem clean_punct_single {s s' : Stream} {sepText : String} {sep : Char}
    (one : sepText.toList = [sep]) :
    Clean (s.punct sepText) s' ↔
      ∃ j sp, s.trees = .punct sep j sp :: s'.trees ∧ s'.scope = s.scope := by
  have length : sepText.length = 1 := by rw [← String.length_toList,one]; rfl
  rw [clean_punct,one,punctAt_single,length]
  constructor
  · rintro ⟨⟨j,sp,rest,shape⟩,rfl⟩
    exact ⟨j,sp,by simp [Stream.advance,shape],rfl⟩
  · rintro ⟨j,sp,shape,scope⟩
    refine ⟨⟨j,sp,_,shape⟩,?_⟩
    cases s'
    simp_all [Stream.advance]

theorem clean_arrow {s s' : Stream} :
    Clean (s.punct "=>") s' ↔
      ∃ sp j sp', s.trees = .punct '=' true sp :: .punct '>' j sp' :: s'.trees ∧
        s'.scope = s.scope := by
  have length : "=>".length = 2 := by rw [← String.length_toList,arrow_toList]; rfl
  rw [clean_punct,arrow_toList,punctAt_arrow,length]
  constructor
  · rintro ⟨⟨sp,j,sp',rest,shape⟩,rfl⟩
    exact ⟨sp,j,sp',by simp [Stream.advance,shape],rfl⟩
  · rintro ⟨sp,j,sp',shape,scope⟩
    refine ⟨⟨sp,j,sp',_,shape⟩,?_⟩
    cases s'
    simp_all [Stream.advance]

theorem clean_group {s s' c : Stream} {d : Delimiter} :
    Clean (s.group d) (c,s') ↔
      ∃ o, s.trees = .group d c.trees o c.scope :: s'.trees ∧ s'.scope = s.scope := by
  obtain ⟨inner,cl⟩ := c
  obtain ⟨rest,scope⟩ := s'
  unfold Clean Stream.group
  split
  · rename_i d' trees' o' cl' tail trees
    split
    · rename_i same
      simp only [beq_iff_eq] at same
      subst same
      simp only [run_pure,Except.ok.injEq,Prod.mk.injEq,Stream.mk.injEq,trees,List.cons.injEq,
        TokenTree.group.injEq]
      constructor
      · rintro ⟨⟨⟨rfl,rfl⟩,rfl,rfl⟩,-⟩
        simp
      · rintro ⟨o,⟨⟨-,rfl,-,rfl⟩,rfl⟩,rfl⟩
        simp
    · refine ⟨fun read => absurd read (fail_ne_ok _ _ _ _),?_⟩
      rintro ⟨o,shape,-⟩
      simp_all
  · rename_i other
    refine ⟨fun read => absurd read (fail_ne_ok _ _ _ _),?_⟩
    rintro ⟨o,shape,-⟩
    exact absurd shape (other _ _ _ _ _)

theorem keeps_group (s : Stream) (d : Delimiter) : Keeps (s.group d) := by
  refine keeps_of_stays fun p x q read => ?_
  unfold Stream.group at read
  split at read
  · split at read
    · simp only [run_pure,Except.ok.injEq,Prod.mk.injEq] at read
      exact read.2.symm
    · exact absurd read (fail_ne_ok _ _ _ _)
  · exact absurd read (fail_ne_ok _ _ _ _)

theorem clean_release {c : Stream} : Clean (release c) () ↔ c.trees = [] := by
  unfold Clean release
  split
  · rename_i t tail unread
    simp [unread,StateT.run_bind,except_ok_bind,except_pure]
  · rename_i read
    simp only [read,iff_true]
    rfl

theorem keeps_release (c : Stream) : Keeps (release c) := by
  intro sp x p read
  unfold release at read
  split at read
  · simp only [StateT.run_bind,StateT.run_get,except_pure,except_ok_bind,Option.isNone_some,
      Bool.false_eq_true,if_false,run_pure,Except.ok.injEq,Prod.mk.injEq] at read
    simp [← read.2]
  · simp only [run_pure,Except.ok.injEq,Prod.mk.injEq] at read
    simp [← read.2]

/-! ### Lists separated by a punctuation -/

def SepOrEnd (sep : Char) (f : List TokenTree) : Prop :=
  f = [] ∨ ∃ j sp rest, f = .punct sep j sp :: rest

inductive Separated (item : List TokenTree → Prop) (sep : Char) : List TokenTree → Prop
  | nil : Separated item sep []
  | last {xs : List TokenTree} : item xs → Separated item sep xs
  | cons {xs rest : List TokenTree} {j : Bool} {sp : Span} : item xs → Separated item sep rest →
      Separated item sep (xs ++ .punct sep j sp :: rest)

/-- What reading a list relies on of reading one of its items: the remembered token is kept,
reading consumes a prefix of the stream and keeps its end, items are not empty, and an item is
read exactly up to a separator or the end of the list, whatever follows. -/
structure ReadsItems {α : Type} (item : Stream → Parser (α × Stream))
    (IsItem : List TokenTree → Prop) (sep : Char) : Prop where
  keeps : ∀ s, Keeps (item s)
  advances : ∀ s a s', Clean (item s) (a,s') →
    s'.scope = s.scope ∧ ∃ xs, s.trees = xs ++ s'.trees
  nonempty : ∀ xs, IsItem xs → xs ≠ []
  reads : ∀ xs f sc, SepOrEnd sep f →
    (IsItem xs ↔ ∃ a, Clean (item ⟨xs ++ f,sc⟩) (a,⟨f,sc⟩))

section Terminated

variable {α : Type} {item : Stream → Parser (α × Stream)} {IsItem : List TokenTree → Prop}
  {sepText : String} {sep : Char}

theorem keeps_parseTerminated (keeps : ∀ s, Keeps (item s)) (fuel : Nat) (s : Stream) :
    Keeps (parseTerminated item sepText fuel s) := by
  induction fuel generalizing s with
  | zero => exact keeps_pure _
  | succ fuel ih =>
    unfold parseTerminated
    split
    · exact keeps_pure _
    · refine keeps_bind (keeps s) fun (a,s') => ?_
      dsimp only
      split
      · exact keeps_pure _
      · exact keeps_bind (keeps_punct _ _) fun s'' =>
          keeps_bind (ih s'') fun _ => keeps_pure _

/-- A list read to its end is a list of items separated by `sep`. -/
theorem separated_of_clean (one : sepText.toList = [sep]) (spec : ReadsItems item IsItem sep) :
    ∀ fuel ts sc as s', Clean (parseTerminated item sepText fuel ⟨ts,sc⟩) (as,s') → s'.trees = [] →
      Separated IsItem sep ts := by
  intro fuel
  induction fuel with
  | zero =>
    intro ts sc as s' read finished
    simp only [parseTerminated,clean_pure,Prod.mk.injEq] at read
    obtain ⟨-,rfl⟩ := read
    obtain rfl : ts = [] := finished
    exact .nil
  | succ fuel ih =>
    intro ts sc as s' read finished
    unfold parseTerminated at read
    split at read
    · rename_i empty
      obtain rfl : ts = [] := by simpa [Stream.isEmpty] using empty
      exact .nil
    rw [clean_bind fun r => by
      obtain ⟨a,s⟩ := r
      dsimp only
      split
      · exact keeps_pure _
      · exact keeps_bind (keeps_punct _ _) fun _ =>
          keeps_bind (keeps_parseTerminated spec.keeps _ _) fun _ => keeps_pure _] at read
    obtain ⟨⟨a,⟨after,scope'⟩⟩,first,rest⟩ := read
    obtain ⟨scope,xs,split⟩ := spec.advances _ _ _ first
    dsimp only at scope split
    subst scope' split
    -- the item ends the list, or a separator follows it
    have item (f : SepOrEnd sep after) : IsItem xs := (spec.reads xs after sc f).mpr ⟨a,first⟩
    dsimp only at rest
    split at rest
    · rename_i ended
      obtain rfl : after = [] := by simpa [Stream.isEmpty] using ended
      have single : Separated IsItem sep xs := .last (item (.inl rfl))
      simpa using single
    · rw [clean_bind fun _ => keeps_bind (keeps_parseTerminated spec.keeps _ _) fun _ => keeps_pure _]
        at rest
      obtain ⟨⟨more,scope''⟩,separator,rest⟩ := rest
      obtain ⟨j,sp,shape,scope⟩ := (clean_punct_single one).mp separator
      dsimp only at shape scope
      subst shape scope
      rw [clean_bind fun _ => keeps_pure _] at rest
      obtain ⟨⟨others,s''⟩,later,last⟩ := rest
      obtain ⟨-,rfl⟩ := Prod.mk.inj (clean_pure.mp last)
      exact .cons (item (.inr ⟨j,sp,more,rfl⟩)) (ih more _ _ _ later finished)

/-- A list of items separated by `sep` is read to its end, with enough fuel. -/
theorem clean_of_separated (one : sepText.toList = [sep]) (spec : ReadsItems item IsItem sep)
    {ts : List TokenTree} (list : Separated IsItem sep ts) :
    ∀ fuel sc, ts.length < fuel →
      ∃ as, Clean (parseTerminated item sepText fuel ⟨ts,sc⟩) (as,⟨[],sc⟩) := by
  induction list with
  | nil =>
    intro fuel sc bound
    obtain ⟨fuel,rfl⟩ : ∃ n, fuel = n + 1 := ⟨fuel - 1,by simp at bound; omega⟩
    exact ⟨[],by simp [parseTerminated,Stream.isEmpty,clean_pure]⟩
  | last isItem =>
    rename_i xs
    intro fuel sc bound
    obtain ⟨fuel,rfl⟩ : ∃ n, fuel = n + 1 := ⟨fuel - 1,by omega⟩
    obtain ⟨a,read⟩ := (spec.reads xs [] sc (.inl rfl)).mp isItem
    rw [List.append_nil] at read
    have filled : (⟨xs,sc⟩ : Stream).isEmpty = false := by
      simpa [Stream.isEmpty] using spec.nonempty xs isItem
    unfold parseTerminated
    rw [if_neg (by simp [filled])]
    exact ⟨[a],clean_bind_of read (by simp [Stream.isEmpty,clean_pure])⟩
  | cons isItem list ih =>
    rename_i xs rest j sp
    intro fuel sc bound
    obtain ⟨fuel,rfl⟩ : ∃ n, fuel = n + 1 := ⟨fuel - 1,by omega⟩
    obtain ⟨a,read⟩ := (spec.reads xs _ sc (.inr ⟨j,sp,rest,rfl⟩)).mp isItem
    have filled : (⟨xs ++ .punct sep j sp :: rest,sc⟩ : Stream).isEmpty = false := by
      simp [Stream.isEmpty]
    have fits : rest.length < fuel := by
      have := List.length_pos_iff.mpr (spec.nonempty xs isItem)
      simp at bound
      omega
    obtain ⟨others,later⟩ := ih fuel sc fits
    have separator : Clean ((⟨.punct sep j sp :: rest,sc⟩ : Stream).punct sepText) ⟨rest,sc⟩ :=
      (clean_punct_single one).mpr ⟨j,sp,rfl,rfl⟩
    unfold parseTerminated
    rw [if_neg (by simp [filled])]
    refine ⟨a :: others,clean_bind_of read ?_⟩
    simp only [Stream.isEmpty,List.isEmpty_cons,Bool.false_eq_true,if_false]
    exact clean_bind_of separator (clean_bind_of later (clean_pure.mpr rfl))

end Terminated

end LoxFront.Schema
