import LoxFront.Proofs.Schema.Reading
/-!
The grammar of schemas. A schema is a name, a comma, and in square brackets its nodes separated by
semicolons; a node is a name, `=>`, and in braces its fields separated by commas; a field is a
name, a colon and a type. Either list may be empty and may end in its separator, and nothing may
follow the brackets. Main statement: the reader of schemas accepts exactly these token trees, for
every reader of types that keeps a remembered token, reads a prefix of its stream, and ends a type
where a comma or the end of its group follows, whatever comes after (`TypeReader.Reliable`).
-/
namespace LoxFront.Schema

/-! ### Fields -/

def ReadsType (readType : TypeReader) (τ f : List TokenTree) (sc : Span) : Prop :=
  ∃ r, Clean (readType ⟨τ ++ f,sc⟩) (r,⟨f,sc⟩)

def IsType (readType : TypeReader) (τ : List TokenTree) : Prop := ReadsType readType τ [] .call

/-- What the reader of schemas relies on of the reader of types. A type reader keeps the first
token left unread in a group, reads a prefix of its stream and keeps its end, and ends a type
where a comma or the end of the group follows it: what it reads there does not depend on what
follows, nor on where the group ends. -/
structure TypeReader.Reliable (readType : TypeReader) : Prop where
  keeps : ∀ s, Keeps (readType s)
  advances : ∀ s r s', Clean (readType s) (r,s') →
    s'.scope = s.scope ∧ ∃ τ, s.trees = τ ++ s'.trees
  stops : ∀ τ f f' sc sc', SepOrEnd ',' f → SepOrEnd ',' f' → ReadsType readType τ f sc →
    ReadsType readType τ f' sc'

inductive IsField (readType : TypeReader) : List TokenTree → Prop
  | mk {name : String} {raw j : Bool} {sp sp' : Span} {τ : List TokenTree} :
      isPlainIdent name raw → IsType readType τ →
      IsField readType (.ident name raw sp :: .punct ':' j sp' :: τ)

section Fields
variable {readType : TypeReader}

theorem keeps_field (reliable : TypeReader.Reliable readType) (s : Stream) :
    Keeps (Field.parse readType s) :=
  keeps_bind (keeps_ident s) fun _ => keeps_bind (keeps_punct _ _) fun _ =>
    keeps_bind (reliable.keeps _) fun _ => keeps_pure _

theorem field_of_clean (reliable : TypeReader.Reliable readType) {s s' : Stream} {field : Field}
    (read : Clean (Field.parse readType s) (field,s')) :
    s'.scope = s.scope ∧ ∃ name raw sp j sp' τ, isPlainIdent name raw ∧
      s.trees = .ident name raw sp :: .punct ':' j sp' :: (τ ++ s'.trees) ∧
      ReadsType readType τ s'.trees s.scope := by
  -- split the run step by step: every step after the one split off keeps a remembered token
  rw [Field.parse,clean_bind fun _ => keeps_bind (keeps_punct _ _) fun _ =>
    keeps_bind (reliable.keeps _) fun _ => keeps_pure _] at read
  obtain ⟨⟨n,s1⟩,named,read⟩ := read
  rw [clean_bind fun _ => keeps_bind (reliable.keeps _) fun _ => keeps_pure _] at read
  obtain ⟨s2,colon,read⟩ := read
  rw [clean_bind fun _ => keeps_pure _] at read
  obtain ⟨⟨r,s3⟩,typed,done⟩ := read
  obtain ⟨-,rfl⟩ := Prod.mk.inj (clean_pure.mp done)
  obtain ⟨plain,shape1,scope1⟩ := clean_ident.mp named
  obtain ⟨j,sp',shape2,scope2⟩ := (clean_punct_single colon_toList).mp colon
  obtain ⟨scope3,τ,shape3⟩ := reliable.advances _ _ _ typed
  obtain ⟨rest,sc⟩ := s3
  obtain ⟨after,sc2⟩ := s2
  dsimp only at scope2 scope3 shape2 shape3
  subst shape3 scope3
  refine ⟨by rw [scope2,scope1],n.text,n.raw,n.span,j,sp',τ,plain,by rw [shape1,shape2],r,?_⟩
  rw [← scope1,← scope2]
  exact typed

theorem clean_of_field {name : String} {raw j : Bool} {sp sp' : Span} {τ f : List TokenTree}
    {sc : Span} (plain : isPlainIdent name raw) (typed : ReadsType readType τ f sc) :
    ∃ field, Clean (Field.parse readType ⟨.ident name raw sp :: .punct ':' j sp' :: (τ ++ f),sc⟩)
      (field,⟨f,sc⟩) := by
  obtain ⟨r,typed⟩ := typed
  have named : Clean (Stream.ident ⟨.ident name raw sp :: .punct ':' j sp' :: (τ ++ f),sc⟩)
      (⟨name,raw,sp⟩,⟨.punct ':' j sp' :: (τ ++ f),sc⟩) := clean_ident.mpr ⟨plain,rfl,rfl⟩
  refine ⟨⟨⟨name,raw,sp⟩,r.trees⟩,clean_bind_of named ?_⟩
  have colon : Clean (Stream.punct ⟨.punct ':' j sp' :: (τ ++ f),sc⟩ ":") ⟨τ ++ f,sc⟩ :=
    (clean_punct_single colon_toList).mpr ⟨j,sp',rfl,rfl⟩
  refine clean_bind_of colon ?_
  exact clean_bind_of typed (clean_pure.mpr rfl)

theorem readsItems_field (reliable : TypeReader.Reliable readType) :
    ReadsItems (Field.parse readType) (IsField readType) ',' where
  keeps := keeps_field reliable
  advances s field s' read := by
    obtain ⟨scope,name,raw,sp,j,sp',τ,-,shape,-⟩ := field_of_clean reliable read
    exact ⟨scope,.ident name raw sp :: .punct ':' j sp' :: τ,by simp [shape]⟩
  nonempty xs field := by
    cases field
    exact List.cons_ne_nil _ _
  reads xs f sc after := by
    constructor
    · rintro ⟨plain,typed⟩
      simpa using clean_of_field plain (reliable.stops _ _ _ _ _ (.inl rfl) after typed)
    · rintro ⟨field,read⟩
      obtain ⟨-,name,raw,sp,j,sp',τ,plain,shape,typed⟩ := field_of_clean reliable read
      dsimp only at shape typed
      obtain rfl : xs = .ident name raw sp :: .punct ':' j sp' :: τ := by
        simpa using List.append_cancel_right (shape.trans (by simp))
      exact .mk plain (reliable.stops _ _ _ _ _ after (.inl rfl) typed)

end Fields

/-! ### Nodes and schemas -/

inductive IsNode (readType : TypeReader) : List TokenTree → Prop
  | mk {name : String} {raw j : Bool} {sp sp₁ sp₂ o c : Span} {fields : List TokenTree} :
      isPlainIdent name raw → Separated (IsField readType) ',' fields →
      IsNode readType
        [.ident name raw sp,.punct '=' true sp₁,.punct '>' j sp₂,.group .brace fields o c]

section Nodes
variable {readType : TypeReader}

theorem keeps_node (reliable : TypeReader.Reliable readType) (s : Stream) :
    Keeps (Node.parse readType s) :=
  keeps_bind (keeps_ident s) fun _ => keeps_bind (keeps_punct _ _) fun _ =>
    keeps_bind (keeps_group _ _) fun _ =>
      keeps_bind (keeps_parseTerminated (keeps_field reliable) _ _) fun _ =>
        keeps_bind (keeps_release _) fun _ => keeps_pure _

theorem node_of_clean (reliable : TypeReader.Reliable readType) {s s' : Stream} {node : Node}
    (read : Clean (Node.parse readType s) (node,s')) :
    s'.scope = s.scope ∧ ∃ xs, s.trees = xs ++ s'.trees ∧ IsNode readType xs := by
  rw [Node.parse,clean_bind fun _ => keeps_bind (keeps_punct _ _) fun _ =>
    keeps_bind (keeps_group _ _) fun _ =>
      keeps_bind (keeps_parseTerminated (keeps_field reliable) _ _) fun _ =>
        keeps_bind (keeps_release _) fun _ => keeps_pure _] at read
  obtain ⟨⟨n,s1⟩,named,read⟩ := read
  rw [clean_bind fun _ => keeps_bind (keeps_group _ _) fun _ =>
    keeps_bind (keeps_parseTerminated (keeps_field reliable) _ _) fun _ =>
      keeps_bind (keeps_release _) fun _ => keeps_pure _] at read
  obtain ⟨s2,arrow,read⟩ := read
  rw [clean_bind fun _ => keeps_bind (keeps_parseTerminated (keeps_field reliable) _ _) fun _ =>
    keeps_bind (keeps_release _) fun _ => keeps_pure _] at read
  obtain ⟨⟨⟨inner,close⟩,s3⟩,grouped,read⟩ := read
  rw [clean_bind fun _ => keeps_bind (keeps_release _) fun _ => keeps_pure _] at read
  obtain ⟨⟨fields,left⟩,listed,read⟩ := read
  rw [clean_bind fun _ => keeps_pure _] at read
  obtain ⟨⟨⟩,released,done⟩ := read
  obtain ⟨-,rfl⟩ := Prod.mk.inj (clean_pure.mp done)
  -- the fields were read to the end of the braces, or the release would have failed
  obtain ⟨plain,shape1,scope1⟩ := clean_ident.mp named
  obtain ⟨sp₁,j,sp₂,shape2,scope2⟩ := clean_arrow.mp arrow
  obtain ⟨o,shape3,scope3⟩ := clean_group.mp grouped
  have fieldList := separated_of_clean comma_toList (readsItems_field reliable) _ _ _ _ _ listed
    (clean_release.mp released)
  refine ⟨by rw [scope3,scope2,scope1],
    [.ident n.text n.raw n.span,.punct '=' true sp₁,.punct '>' j sp₂,.group .brace inner o close],?_,
    .mk plain fieldList⟩
  rw [shape1,shape2,shape3]
  rfl

theorem clean_of_node (reliable : TypeReader.Reliable readType) {xs : List TokenTree}
    (node : IsNode readType xs) (f : List TokenTree) (sc : Span) :
    ∃ n, Clean (Node.parse readType ⟨xs ++ f,sc⟩) (n,⟨f,sc⟩) := by
  obtain @⟨name,raw,j,sp,sp₁,sp₂,o,c,fields,plain,fieldList⟩ := node
  obtain ⟨parsed,listed⟩ := clean_of_separated comma_toList (readsItems_field reliable) fieldList
    (fields.length + 1) c (Nat.lt_succ_self _)
  have named : Clean (Stream.ident ⟨.ident name raw sp :: .punct '=' true sp₁ :: .punct '>' j sp₂ ::
      .group .brace fields o c :: f,sc⟩) (⟨name,raw,sp⟩,⟨.punct '=' true sp₁ :: .punct '>' j sp₂ ::
      .group .brace fields o c :: f,sc⟩) := clean_ident.mpr ⟨plain,rfl,rfl⟩
  have arrow : Clean (Stream.punct ⟨.punct '=' true sp₁ :: .punct '>' j sp₂ ::
      .group .brace fields o c :: f,sc⟩ "=>") ⟨.group .brace fields o c :: f,sc⟩ :=
    clean_arrow.mpr ⟨sp₁,j,sp₂,rfl,rfl⟩
  have grouped : Clean (Stream.group ⟨.group .brace fields o c :: f,sc⟩ .brace)
      (⟨fields,c⟩,⟨f,sc⟩) := clean_group.mpr ⟨o,rfl,rfl⟩
  refine ⟨⟨⟨name,raw,sp⟩,parsed⟩,
    clean_bind_of named (clean_bind_of arrow (clean_bind_of grouped ?_))⟩
  exact clean_bind_of listed (clean_bind_of (clean_release.mpr rfl) (clean_pure.mpr rfl))

theorem readsItems_node (reliable : TypeReader.Reliable readType) :
    ReadsItems (Node.parse readType) (IsNode readType) ';' where
  keeps := keeps_node reliable
  advances s n s' read := by
    obtain ⟨scope,xs,shape,-⟩ := node_of_clean reliable read
    exact ⟨scope,xs,shape⟩
  nonempty xs node := by
    cases node
    exact List.cons_ne_nil _ _
  reads xs f sc _ := by
    refine ⟨fun node => clean_of_node reliable node f sc,?_⟩
    rintro ⟨n,read⟩
    obtain ⟨-,ys,shape,node⟩ := node_of_clean reliable read
    obtain rfl : xs = ys := List.append_cancel_right shape
    exact node

end Nodes

/-- A schema: a name, a comma, and in square brackets its nodes separated by semicolons. -/
inductive IsSchema (readType : TypeReader) : List TokenTree → Prop
  | mk {name : String} {raw j : Bool} {sp sp' o c : Span} {nodes : List TokenTree} :
      isPlainIdent name raw → Separated (IsNode readType) ';' nodes →
      IsSchema readType [.ident name raw sp,.punct ',' j sp',.group .bracket nodes o c]

section Schemas
variable {readType : TypeReader}

theorem schema_of_clean (reliable : TypeReader.Reliable readType) {s s' : Stream} {t : Tree}
    (read : Clean (Tree.parseFrom readType s) (t,s')) :
    ∃ xs, s.trees = xs ++ s'.trees ∧ IsSchema readType xs := by
  rw [Tree.parseFrom,clean_bind fun _ => keeps_bind (keeps_punct _ _) fun _ =>
    keeps_bind (keeps_group _ _) fun _ =>
      keeps_bind (keeps_parseTerminated (keeps_node reliable) _ _) fun _ =>
        keeps_bind (keeps_release _) fun _ => keeps_pure _] at read
  obtain ⟨⟨n,s1⟩,named,read⟩ := read
  rw [clean_bind fun _ => keeps_bind (keeps_group _ _) fun _ =>
    keeps_bind (keeps_parseTerminated (keeps_node reliable) _ _) fun _ =>
      keeps_bind (keeps_release _) fun _ => keeps_pure _] at read
  obtain ⟨s2,comma,read⟩ := read
  rw [clean_bind fun _ => keeps_bind (keeps_parseTerminated (keeps_node reliable) _ _) fun _ =>
    keeps_bind (keeps_release _) fun _ => keeps_pure _] at read
  obtain ⟨⟨⟨inner,close⟩,s3⟩,grouped,read⟩ := read
  rw [clean_bind fun _ => keeps_bind (keeps_release _) fun _ => keeps_pure _] at read
  obtain ⟨⟨nodes,left⟩,listed,read⟩ := read
  rw [clean_bind fun _ => keeps_pure _] at read
  obtain ⟨⟨⟩,released,done⟩ := read
  obtain ⟨-,rfl⟩ := Prod.mk.inj (clean_pure.mp done)
  obtain ⟨plain,shape1,-⟩ := clean_ident.mp named
  obtain ⟨j,sp',shape2,-⟩ := (clean_punct_single comma_toList).mp comma
  obtain ⟨o,shape3,-⟩ := clean_group.mp grouped
  have nodeList := separated_of_clean semicolon_toList (readsItems_node reliable) _ _ _ _ _ listed
    (clean_release.mp released)
  refine ⟨[.ident n.text n.raw n.span,.punct ',' j sp',.group .bracket inner o close],?_,
    .mk plain nodeList⟩
  rw [shape1,shape2,shape3]
  rfl

theorem clean_of_schema (reliable : TypeReader.Reliable readType) {xs : List TokenTree}
    (schema : IsSchema readType xs) (f : List TokenTree) (sc : Span) :
    ∃ t, Clean (Tree.parseFrom readType ⟨xs ++ f,sc⟩) (t,⟨f,sc⟩) := by
  obtain @⟨name,raw,j,sp,sp',o,c,nodes,plain,nodeList⟩ := schema
  obtain ⟨parsed,listed⟩ := clean_of_separated semicolon_toList (readsItems_node reliable) nodeList
    (nodes.length + 1) c (Nat.lt_succ_self _)
  have named : Clean (Stream.ident ⟨.ident name raw sp :: .punct ',' j sp' ::
      .group .bracket nodes o c :: f,sc⟩) (⟨name,raw,sp⟩,⟨.punct ',' j sp' ::
      .group .bracket nodes o c :: f,sc⟩) := clean_ident.mpr ⟨plain,rfl,rfl⟩
  have comma : Clean (Stream.punct ⟨.punct ',' j sp' :: .group .bracket nodes o c :: f,sc⟩ ",")
      ⟨.group .bracket nodes o c :: f,sc⟩ := (clean_punct_single comma_toList).mpr ⟨j,sp',rfl,rfl⟩
  have grouped : Clean (Stream.group ⟨.group .bracket nodes o c :: f,sc⟩ .bracket)
      (⟨nodes,c⟩,⟨f,sc⟩) := clean_group.mpr ⟨o,rfl,rfl⟩
  refine ⟨⟨⟨name,raw,sp⟩,parsed⟩,
    clean_bind_of named (clean_bind_of comma (clean_bind_of grouped ?_))⟩
  exact clean_bind_of listed (clean_bind_of (clean_release.mpr rfl) (clean_pure.mpr rfl))

/-- Reading a schema succeeds exactly when its reading from the call leaves no group with a token
unread and nothing after the schema. -/
theorem parseWith_eq_ok {trees : List TokenTree} {t : Tree} :
    Tree.parseWith readType trees = .ok t ↔
      ∃ s, Clean (Tree.parseFrom readType ⟨trees,.call⟩) (t,s) ∧ s.trees = [] := by
  unfold Tree.parseWith Clean
  constructor
  · intro read
    cases ran : (Tree.parseFrom readType ⟨trees,.call⟩).run none with
    | error e => simp [ran,except_error_bind] at read
    | ok r =>
      -- a remembered token or a tree after the schema is an error
      obtain ⟨⟨tree,⟨rest,sc⟩⟩,pending⟩ := r
      rw [ran] at read
      cases pending with
      | some sp => simp [except_ok_bind,except_throw,except_error_bind] at read
      | none =>
        cases rest with
        | cons x xs =>
          simp only [except_ok_bind,except_throw,except_error_bind] at read
          cases read
        | nil =>
          simp only [except_ok_bind,except_pure,Except.ok.injEq] at read
          exact ⟨⟨[],sc⟩,by rw [read],rfl⟩
  · rintro ⟨⟨rest,sc⟩,ran,finished⟩
    dsimp only at finished
    subst finished
    rw [ran]
    rfl

end Schemas

/-- The reader of schemas accepts exactly the schemas of the grammar, whenever its reader of types
keeps the first unread token, reads a prefix of its stream and ends a type before a comma or the
end of its group: a name, a comma, and in square brackets nodes separated by semicolons, each a
name, `=>` and in braces fields separated by commas, each a name, a colon and a type; either list
may be empty and may end in its separator, and nothing may follow the brackets. On every other
list of token trees it fails. -/
theorem parse_accepts_iff_schema :
    ∀ readType : TypeReader, TypeReader.Reliable readType → ∀ trees : List TokenTree,
      (∃ t, Tree.parseWith readType trees = .ok t) ↔ IsSchema readType trees := by
  intro readType reliable trees
  constructor
  · rintro ⟨t,read⟩
    obtain ⟨⟨rest,sc⟩,ran,finished⟩ := parseWith_eq_ok.mp read
    dsimp only at finished
    subst finished
    obtain ⟨xs,shape,schema⟩ := schema_of_clean reliable ran
    obtain rfl : trees = xs := by simpa using shape
    exact schema
  · intro schema
    obtain ⟨t,ran⟩ := clean_of_schema reliable schema [] .call
    rw [List.append_nil] at ran
    exact ⟨t,parseWith_eq_ok.mpr ⟨_,ran,rfl⟩⟩

def identType (s : Stream) : Parser (TypeOut × Stream) := do
  let (_,s') ← s.ident
  pure ({ trees := s.trees.take 1, bound := true, path := true },s')

theorem readsType_identType {τ f : List TokenTree} {sc : Span} :
    ReadsType identType τ f sc ↔
      ∃ name raw sp, isPlainIdent name raw ∧ τ = [.ident name raw sp] := by
  constructor
  · rintro ⟨r,read⟩
    rw [identType,clean_bind fun _ => keeps_pure _] at read
    obtain ⟨⟨n,s1⟩,named,done⟩ := read
    obtain ⟨-,rfl⟩ := Prod.mk.inj (clean_pure.mp done)
    obtain ⟨plain,shape,-⟩ := clean_ident.mp named
    exact ⟨n.text,n.raw,n.span,plain,
      List.append_cancel_right (shape.trans List.singleton_append.symm)⟩
  · rintro ⟨name,raw,sp,plain,rfl⟩
    have named : Clean (Stream.ident ⟨.ident name raw sp :: f,sc⟩) (⟨name,raw,sp⟩,⟨f,sc⟩) :=
      clean_ident.mpr ⟨plain,rfl,rfl⟩
    exact ⟨_,clean_bind_of named (clean_pure.mpr rfl)⟩

theorem identType_reliable : TypeReader.Reliable identType where
  keeps s := keeps_bind (keeps_ident s) fun _ => keeps_pure _
  advances s r s' read := by
    rw [identType,clean_bind fun _ => keeps_pure _] at read
    obtain ⟨⟨n,s1⟩,named,done⟩ := read
    obtain ⟨-,rfl⟩ := Prod.mk.inj (clean_pure.mp done)
    obtain ⟨-,shape,scope⟩ := clean_ident.mp named
    exact ⟨scope,[.ident n.text n.raw n.span],by rw [shape]; rfl⟩
  stops τ f f' sc sc' _ _ typed := readsType_identType.mpr (readsType_identType.mp typed)

theorem parse_accepts_iff_schema_trailing :
    identType ⟨[.ident "u8" false (.at 17),.punct ',' false (.at 19)],.at 21⟩ none =
      Stream.parseFieldType ⟨[.ident "u8" false (.at 17),.punct ',' false (.at 19)],.at 21⟩ none ∧
    TypeReader.Reliable identType ∧
    IsSchema identType [.ident "Expr" false (.at 0),.punct ',' false (.at 4),
      .group .bracket [.ident "A" false (.at 7),.punct '=' true (.at 9),.punct '>' false (.at 10),
        .group .brace [.ident "x" false (.at 14),.punct ':' false (.at 15),.ident "u8" false (.at 17),
          .punct ',' false (.at 19)] (.at 12) (.at 21),
        .punct ';' false (.at 22),.ident "B" false (.at 24),.punct '=' true (.at 26),
        .punct '>' false (.at 27),.group .brace [] (.at 29) (.at 30),.punct ';' false (.at 31)]
        (.at 6) (.at 32)] ∧
    ∃ t, Tree.parseWith identType [.ident "Expr" false (.at 0),.punct ',' false (.at 4),
      .group .bracket [.ident "A" false (.at 7),.punct '=' true (.at 9),.punct '>' false (.at 10),
        .group .brace [.ident "x" false (.at 14),.punct ':' false (.at 15),.ident "u8" false (.at 17),
          .punct ',' false (.at 19)] (.at 12) (.at 21),
        .punct ';' false (.at 22),.ident "B" false (.at 24),.punct '=' true (.at 26),
        .punct '>' false (.at 27),.group .brace [] (.at 29) (.at 30),.punct ';' false (.at 31)]
        (.at 6) (.at 32)] = .ok t := by
  have plain (w : String) (unreserved : w ∉ strictWords) : isPlainIdent w false := by
    simp [isPlainIdent,unreserved]
  have typed : IsType identType [.ident "u8" false (.at 17)] :=
    readsType_identType.mpr ⟨"u8",false,.at 17,plain "u8" (by simp [strictWords]),rfl⟩
  have fieldA : Separated (IsField identType) ','
      [.ident "x" false (.at 14),.punct ':' false (.at 15),.ident "u8" false (.at 17),
        .punct ',' false (.at 19)] :=
    @Separated.cons _ _ [.ident "x" false (.at 14),.punct ':' false (.at 15),.ident "u8" false (.at 17)]
      [] false (.at 19) (.mk (plain "x" (by simp [strictWords])) typed) .nil
  have nodeB : Separated (IsNode identType) ';'
      [.ident "B" false (.at 24),.punct '=' true (.at 26),.punct '>' false (.at 27),
        .group .brace [] (.at 29) (.at 30),.punct ';' false (.at 31)] :=
    @Separated.cons _ _ [.ident "B" false (.at 24),.punct '=' true (.at 26),.punct '>' false (.at 27),
      .group .brace [] (.at 29) (.at 30)] [] false (.at 31) (.mk (plain "B" (by simp [strictWords])) .nil)
      .nil
  have nodes := @Separated.cons _ _ [.ident "A" false (.at 7),.punct '=' true (.at 9),
    .punct '>' false (.at 10),.group .brace [.ident "x" false (.at 14),.punct ':' false (.at 15),
      .ident "u8" false (.at 17),.punct ',' false (.at 19)] (.at 12) (.at 21)] _ false (.at 22)
    (.mk (plain "A" (by simp [strictWords])) fieldA) nodeB
  have schema := @IsSchema.mk identType "Expr" false false (.at 0) (.at 4) (.at 6) (.at 32) _
    (plain "Expr" (by simp [strictWords])) nodes
  exact ⟨rfl,identType_reliable,schema,
    (parse_accepts_iff_schema identType identType_reliable _).mpr schema⟩

end LoxFront.Schema
