import WorldEngine.Query.Filter
import WorldEngine.Except

/-! The CQL compiler: a query, as its tokens, compiled into the filter tree, its component names
then resolved against the registered components. The parser is recursive descent under a fuel
bound, which the token count always covers. -/

namespace WorldEngine

/-- Modelled from the spec: the tokens of the CQL grammar. -/
inductive CqlToken
  | exact
  | contains
  | lparen
  | rparen
  | comma
  | notOp
  | andOp
  | orOp
  | name (name : String)
deriving DecidableEq, Repr

/-- Modelled from the spec: the compile errors. `unexpected none` is the end of the input;
`exhausted` is the fuel bound, which compilation never reaches. -/
inductive CqlError
  | unexpected (token : Option CqlToken)
  | unknownComponent (name : String)
  | exhausted
deriving DecidableEq, Repr

inductive CqlOperator
  | and
  | or
deriving DecidableEq, Repr

def CqlOperator.ofToken : CqlToken → Option CqlOperator
  | .andOp => some .and
  | .orOp => some .or
  | _ => none

def CqlOperator.token : CqlOperator → CqlToken
  | .and => .andOp
  | .or => .orOp

def CqlOperator.apply {α : Type} : CqlOperator → FilterTree α → FilterTree α → FilterTree α
  | .and => .and
  | .or => .or

/-- Modelled from the spec: `name (',' name)* ')'`. -/
def parseNameList : List CqlToken → Except CqlError (List String × List CqlToken)
  | .name name :: .comma :: rest => do
      let (names, rest) ← parseNameList rest
      pure (name :: names, rest)
  | .name name :: .rparen :: rest => pure ([name], rest)
  | .name _ :: rest => .error (.unexpected rest.head?)
  | tokens => .error (.unexpected tokens.head?)

/-- Modelled from the spec: the arguments of `EXACT` and `CONTAINS`, a variadic list of
comma-separated component names up to `)`, which may be empty. -/
def parseNames : List CqlToken → Except CqlError (List String × List CqlToken)
  | .rparen :: rest => pure ([], rest)
  | tokens => parseNameList tokens

mutual

/-- Modelled from the spec: a primary, or `!` and the next factor. -/
def parseFactor : Nat → List CqlToken → Except CqlError (FilterTree String × List CqlToken)
  | 0, _ => .error .exhausted
  | _ + 1, .exact :: .lparen :: rest => do
      let (names, rest) ← parseNames rest
      pure (.exact names, rest)
  | _ + 1, .contains :: .lparen :: rest => do
      let (names, rest) ← parseNames rest
      pure (.contains names, rest)
  | fuel + 1, .notOp :: rest => do
      let (filter, rest) ← parseFactor fuel rest
      pure (.not filter, rest)
  | fuel + 1, .lparen :: rest => do
      let (first, rest) ← parseFactor fuel rest
      let (filter, rest) ← parseOperations fuel first rest
      match rest with
      | .rparen :: rest => pure (filter, rest)
      | rest => .error (.unexpected rest.head?)
  | _ + 1, .exact :: rest | _ + 1, .contains :: rest => .error (.unexpected rest.head?)
  | _ + 1, tokens => .error (.unexpected tokens.head?)

/-- Modelled from the spec: `(('&' | '|') factor)*`, folded from the left onto `left`. -/
def parseOperations : Nat → FilterTree String → List CqlToken →
    Except CqlError (FilterTree String × List CqlToken)
  | 0, _, _ => .error .exhausted
  | fuel + 1, left, token :: rest =>
      match CqlOperator.ofToken token with
      | some operator => do
          let (right, rest) ← parseFactor fuel rest
          parseOperations fuel (operator.apply left right) rest
      | none => pure (left, token :: rest)
  | _ + 1, left, [] => pure (left, [])

end

/-- Modelled from the spec: `factor (('&' | '|') factor)*`. -/
def parseTerm (fuel : Nat) (tokens : List CqlToken) :
    Except CqlError (FilterTree String × List CqlToken) := do
  let (first, rest) ← parseFactor fuel tokens
  parseOperations fuel first rest

/-- Modelled from the spec: the whole query is one term. -/
def parseCql (tokens : List CqlToken) : Except CqlError (FilterTree String) := do
  let (filter, rest) ← parseTerm (tokens.length + 1) tokens
  match rest with
  | [] => pure filter
  | token :: _ => .error (.unexpected (some token))

/-- Modelled from the spec: a component name looked up among the registered components. -/
def resolveName (lookup : String → Option ComponentType) (name : String) :
    Except CqlError ComponentType :=
  match lookup name with
  | some componentType => pure componentType
  | none => .error (.unknownComponent name)

/-- Modelled from the spec: the names of the tree resolved, left to right. -/
def FilterTree.resolve (lookup : String → Option ComponentType) :
    FilterTree String → Except CqlError (FilterTree ComponentType)
  | .exact names => .exact <$> names.mapM (resolveName lookup)
  | .contains names => .contains <$> names.mapM (resolveName lookup)
  | .not filter => .not <$> filter.resolve lookup
  | .and left right => do
      let left ← left.resolve lookup
      let right ← right.resolve lookup
      pure (.and left right)
  | .or left right => do
      let left ← left.resolve lookup
      let right ← right.resolve lookup
      pure (.or left right)

/-- Modelled from the spec: a query compiled to the filter tree of its components. -/
def compileCql (lookup : String → Option ComponentType) (tokens : List CqlToken) :
    Except CqlError (FilterTree ComponentType) :=
  parseCql tokens >>= FilterTree.resolve lookup

def nameTokens : List String → List CqlToken
  | [] => []
  | [name] => [.name name]
  | name :: names => .name name :: .comma :: nameTokens names

/-- A tree written in CQL, each binary operation in parentheses. -/
def FilterTree.tokens : FilterTree String → List CqlToken
  | .exact names => .exact :: .lparen :: nameTokens names ++ [.rparen]
  | .contains names => .contains :: .lparen :: nameTokens names ++ [.rparen]
  | .not filter => .notOp :: filter.tokens
  | .and left right => .lparen :: left.tokens ++ .andOp :: right.tokens ++ [.rparen]
  | .or left right => .lparen :: left.tokens ++ .orOp :: right.tokens ++ [.rparen]

/-! The steps of the parser. -/

@[simp] theorem ofToken_token (operator : CqlOperator) :
    CqlOperator.ofToken operator.token = some operator := by
  cases operator <;> rfl

theorem parseOperations_stop (fuel : Nat) (left : FilterTree String) (rest : List CqlToken)
    (stops : ∀ token ∈ rest.head?, CqlOperator.ofToken token = none) :
    parseOperations (fuel + 1) left rest = .ok (left, rest) := by
  cases rest with
  | nil => rfl
  | cons token rest => simp only [parseOperations, stops token rfl, except_pure]

theorem parseOperations_operator (fuel : Nat) (left : FilterTree String) (operator : CqlOperator)
    (rest : List CqlToken) :
    parseOperations (fuel + 1) left (operator.token :: rest) = (do
      let (right, rest) ← parseFactor fuel rest
      parseOperations fuel (operator.apply left right) rest) := by
  simp only [parseOperations, ofToken_token]

theorem parseNameList_comma (name : String) (rest : List CqlToken) :
    parseNameList (.name name :: .comma :: rest) = (do
      let (names, rest) ← parseNameList rest
      pure (name :: names, rest)) := rfl

theorem parseFactor_exact (fuel : Nat) (rest : List CqlToken) :
    parseFactor (fuel + 1) (.exact :: .lparen :: rest) = (do
      let (names, rest) ← parseNames rest
      pure (.exact names, rest)) := rfl

theorem parseFactor_contains (fuel : Nat) (rest : List CqlToken) :
    parseFactor (fuel + 1) (.contains :: .lparen :: rest) = (do
      let (names, rest) ← parseNames rest
      pure (.contains names, rest)) := rfl

theorem parseFactor_not (fuel : Nat) (rest : List CqlToken) :
    parseFactor (fuel + 1) (.notOp :: rest) = (do
      let (filter, rest) ← parseFactor fuel rest
      pure (.not filter, rest)) := rfl

theorem parseFactor_lparen (fuel : Nat) (rest : List CqlToken) :
    parseFactor (fuel + 1) (.lparen :: rest) = (do
      let (first, rest) ← parseFactor fuel rest
      let (filter, rest) ← parseOperations fuel first rest
      match rest with
      | .rparen :: rest => pure (filter, rest)
      | rest => .error (.unexpected rest.head?)) := rfl

/-! The round trip: a tree written in CQL parses back to itself. -/

theorem parseNameList_nameTokens {names : List String} (nonempty : names ≠ [])
    (rest : List CqlToken) :
    parseNameList (nameTokens names ++ .rparen :: rest) = .ok (names, rest) := by
  induction names with
  | nil => exact absurd rfl nonempty
  | cons name names ih =>
      cases names with
      | nil => rfl
      | cons next names =>
          rw [show nameTokens (name :: next :: names) = .name name :: .comma :: nameTokens (next :: names)
            from rfl, List.cons_append, List.cons_append, parseNameList_comma,
            ih (List.cons_ne_nil _ _)]
          rfl

theorem parseNames_nameTokens (names : List String) (rest : List CqlToken) :
    parseNames (nameTokens names ++ .rparen :: rest) = .ok (names, rest) := by
  match names with
  | [] => rfl
  | [name] => exact parseNameList_nameTokens (List.cons_ne_nil name []) rest
  | name :: next :: names =>
      exact parseNameList_nameTokens (List.cons_ne_nil name (next :: names)) rest

theorem parseFactor_tokens (tree : FilterTree String) (fuel : Nat) (rest : List CqlToken)
    (enough : tree.tokens.length < fuel) :
    parseFactor fuel (tree.tokens ++ rest) = .ok (tree, rest) := by
  induction tree generalizing fuel rest with
  | exact names | contains names =>
      obtain ⟨fuel, rfl⟩ : ∃ fuel', fuel = fuel' + 1 := ⟨fuel - 1, by omega⟩
      first
        | rw [show (FilterTree.exact names).tokens ++ rest =
            .exact :: .lparen :: (nameTokens names ++ .rparen :: rest) by simp [FilterTree.tokens],
            parseFactor_exact, parseNames_nameTokens]
        | rw [show (FilterTree.contains names).tokens ++ rest =
            .contains :: .lparen :: (nameTokens names ++ .rparen :: rest) by simp [FilterTree.tokens],
            parseFactor_contains, parseNames_nameTokens]
      rfl
  | not filter ih =>
      obtain ⟨fuel, rfl⟩ : ∃ fuel', fuel = fuel' + 1 := ⟨fuel - 1, by omega⟩
      simp only [FilterTree.tokens, List.length_cons] at enough
      rw [FilterTree.tokens, List.cons_append, parseFactor_not, ih fuel rest (by omega)]
      rfl
  | and left right ihLeft ihRight | or left right ihLeft ihRight =>
      simp only [FilterTree.tokens, List.length_cons, List.length_append, List.length_nil] at enough
      obtain ⟨fuel, rfl⟩ : ∃ fuel', fuel = fuel' + 1 + 1 + 1 := ⟨fuel - 3, by omega⟩
      first
        | rw [show (FilterTree.and left right).tokens ++ rest = .lparen :: (left.tokens ++
            CqlOperator.and.token :: (right.tokens ++ .rparen :: rest)) by simp [FilterTree.tokens,
              CqlOperator.token]]
        | rw [show (FilterTree.or left right).tokens ++ rest = .lparen :: (left.tokens ++
            CqlOperator.or.token :: (right.tokens ++ .rparen :: rest)) by simp [FilterTree.tokens,
              CqlOperator.token]]
      simp only [parseFactor_lparen, ihLeft (fuel + 1 + 1) _ (by omega), except_ok_bind,
        parseOperations_operator, ihRight (fuel + 1) _ (by omega),
        parseOperations_stop fuel _ (.rparen :: rest) (fun _ same => by cases same; rfl),
        CqlOperator.apply, except_pure]

/-- Every filter tree, written in CQL with each binary operation in parentheses, compiles back
to itself. -/
theorem parseCql_roundtrip (tree : FilterTree String) : parseCql tree.tokens = .ok tree := by
  have parsed := parseFactor_tokens tree _ [] (Nat.lt_succ_self _)
  rw [List.append_nil] at parsed
  simp only [parseCql, parseTerm, parsed, except_ok_bind,
    parseOperations_stop _ tree [] (fun _ absent => nomatch absent), except_pure]

/-! `&` and `|` without precedence: a flat sequence of factors is folded from the left. -/

theorem parseOperations_fold (operations : List (CqlOperator × FilterTree String))
    (left : FilterTree String) (fuel : Nat) (rest : List CqlToken)
    (stops : ∀ token ∈ rest.head?, CqlOperator.ofToken token = none)
    (enough : (operations.flatMap fun operation => operation.1.token :: operation.2.tokens).length <
      fuel) :
    parseOperations fuel left
        ((operations.flatMap fun operation => operation.1.token :: operation.2.tokens) ++ rest) =
      .ok (operations.foldl (fun left operation => operation.1.apply left operation.2) left,
        rest) := by
  induction operations generalizing left fuel with
  | nil =>
      obtain ⟨fuel, rfl⟩ : ∃ fuel', fuel = fuel' + 1 := ⟨fuel - 1, by omega⟩
      exact parseOperations_stop fuel left rest stops
  | cons operation operations ih =>
      obtain ⟨operator, factor⟩ := operation
      simp only [List.flatMap_cons, List.length_append, List.length_cons] at enough
      obtain ⟨fuel, rfl⟩ : ∃ fuel', fuel = fuel' + 1 := ⟨fuel - 1, by omega⟩
      rw [List.flatMap_cons, List.append_assoc, List.cons_append, parseOperations_operator,
        parseFactor_tokens factor fuel _ (by omega), except_ok_bind]
      exact ih _ fuel (by omega)

/-- A first factor followed by operators and factors compiles to the left fold of the operators:
`A & B | C` is `(A & B) | C`, and `A | B & C` is `(A | B) & C`. -/
theorem parseCql_fold (first : FilterTree String)
    (operations : List (CqlOperator × FilterTree String)) :
    parseCql (first.tokens ++
        operations.flatMap fun operation => operation.1.token :: operation.2.tokens) =
      .ok (operations.foldl (fun left operation => operation.1.apply left operation.2) first) := by
  have folded := parseOperations_fold operations first
    ((first.tokens ++ operations.flatMap fun operation =>
      operation.1.token :: operation.2.tokens).length + 1) []
    (fun _ absent => nomatch absent) (by simp only [List.length_append]; omega)
  rw [List.append_nil] at folded
  have parsedFirst := parseFactor_tokens first
    ((first.tokens ++ operations.flatMap fun operation =>
      operation.1.token :: operation.2.tokens).length + 1)
    (operations.flatMap fun operation => operation.1.token :: operation.2.tokens)
    (by simp only [List.length_append]; omega)
  simp only [parseCql, parseTerm, parsedFirst, except_ok_bind, folded, except_pure]

theorem parseCql_fold_documented :
    parseCql [.exact, .lparen, .name "A", .rparen, .andOp, .exact, .lparen, .name "B", .rparen,
        .orOp, .exact, .lparen, .name "C", .rparen, .andOp, .exact, .lparen, .name "D", .rparen] =
      .ok (.and (.or (.and (.exact ["A"]) (.exact ["B"])) (.exact ["C"])) (.exact ["D"])) :=
  parseCql_fold (.exact ["A"]) [(.and, .exact ["B"]), (.or, .exact ["C"]), (.and, .exact ["D"])]

/-! What one step of the parser can do, read off the definitions once. -/

theorem parseFactor_zero (tokens : List CqlToken) : parseFactor 0 tokens = .error .exhausted := rfl

theorem parseOperations_zero (left : FilterTree String) (tokens : List CqlToken) :
    parseOperations 0 left tokens = .error .exhausted := rfl

theorem parseNameList_eq_ok {tokens rest : List CqlToken} {names : List String}
    (parsed : parseNameList tokens = .ok (names, rest)) : rest.length < tokens.length := by
  induction tokens using parseNameList.induct generalizing names rest with
  | case1 name after ih =>
      rw [parseNameList_comma] at parsed
      obtain ⟨⟨names', middle⟩, inner, same⟩ := except_bind_eq_ok.mp parsed
      simp only [except_pure, Except.ok.injEq, Prod.mk.injEq] at same
      obtain ⟨rfl, rfl⟩ := same
      have shorter := ih inner
      simp only [List.length_cons]
      omega
  | case2 name after =>
      simp only [parseNameList, except_pure, Except.ok.injEq, Prod.mk.injEq] at parsed
      obtain ⟨rfl, rfl⟩ := parsed
      simp only [List.length_cons]
      omega
  | case3 name after notComma notRparen =>
      rw [parseNameList.eq_3 name after notComma notRparen] at parsed
      cases parsed
  | case4 tokens notComma notRparen notName =>
      rw [parseNameList.eq_4 tokens notComma notRparen notName] at parsed
      cases parsed

theorem parseNames_eq_ok {tokens rest : List CqlToken} {names : List String}
    (parsed : parseNames tokens = .ok (names, rest)) : rest.length < tokens.length := by
  unfold parseNames at parsed
  split at parsed
  · simp only [except_pure, Except.ok.injEq, Prod.mk.injEq] at parsed
    rw [← parsed.2, List.length_cons]
    exact Nat.lt_succ_self _
  · exact parseNameList_eq_ok parsed

theorem parseNameList_ne_exhausted (tokens : List CqlToken) :
    parseNameList tokens ≠ .error .exhausted := by
  induction tokens using parseNameList.induct with
  | case1 name after ih =>
      rw [parseNameList_comma]
      intro exhausted
      rcases except_bind_eq_error.mp exhausted with inner | ⟨_, -, returned⟩
      · exact ih inner
      · cases returned
  | case2 => exact fun exhausted => nomatch exhausted
  | case3 name after notComma notRparen =>
      rw [parseNameList.eq_3 name after notComma notRparen]
      exact fun exhausted => nomatch exhausted
  | case4 tokens notComma notRparen notName =>
      rw [parseNameList.eq_4 tokens notComma notRparen notName]
      exact fun exhausted => nomatch exhausted

theorem parseNames_ne_exhausted (tokens : List CqlToken) :
    parseNames tokens ≠ .error .exhausted := by
  unfold parseNames
  split
  · exact fun exhausted => nomatch exhausted
  · exact parseNameList_ne_exhausted _

theorem parseFactor_eq_ok {fuel : Nat} {tokens rest : List CqlToken} {tree : FilterTree String}
    (parsed : parseFactor (fuel + 1) tokens = .ok (tree, rest)) :
    (∃ after names, parseNames after = .ok (names, rest) ∧
      (tokens = .exact :: .lparen :: after ∧ tree = .exact names ∨
        tokens = .contains :: .lparen :: after ∧ tree = .contains names)) ∨
    (∃ after filter, tokens = .notOp :: after ∧ parseFactor fuel after = .ok (filter, rest) ∧
      tree = .not filter) ∨
    (∃ after first middle, tokens = .lparen :: after ∧
      parseFactor fuel after = .ok (first, middle) ∧
      parseOperations fuel first middle = .ok (tree, .rparen :: rest)) := by
  unfold parseFactor at parsed
  split at parsed
  · cases parsed
  · rename_i after _
    obtain ⟨⟨names, middle⟩, named, same⟩ := except_bind_eq_ok.mp parsed
    simp only [except_pure, Except.ok.injEq, Prod.mk.injEq] at same
    obtain ⟨rfl, rfl⟩ := same
    exact .inl ⟨after, names, named, .inl ⟨rfl, rfl⟩⟩
  · rename_i after _
    obtain ⟨⟨names, middle⟩, named, same⟩ := except_bind_eq_ok.mp parsed
    simp only [except_pure, Except.ok.injEq, Prod.mk.injEq] at same
    obtain ⟨rfl, rfl⟩ := same
    exact .inl ⟨after, names, named, .inr ⟨rfl, rfl⟩⟩
  · rename_i fuel' after same
    obtain rfl : fuel = fuel' := Nat.succ.inj same
    obtain ⟨⟨filter, middle⟩, inner, same⟩ := except_bind_eq_ok.mp parsed
    simp only [except_pure, Except.ok.injEq, Prod.mk.injEq] at same
    obtain ⟨rfl, rfl⟩ := same
    exact .inr (.inl ⟨after, filter, rfl, inner, rfl⟩)
  · rename_i fuel' after same
    obtain rfl : fuel = fuel' := Nat.succ.inj same
    obtain ⟨⟨first, middle⟩, firstParsed, same⟩ := except_bind_eq_ok.mp parsed
    obtain ⟨⟨filter, after'⟩, operationsParsed, closed⟩ := except_bind_eq_ok.mp same
    dsimp only at closed
    split at closed
    · simp only [except_pure, Except.ok.injEq, Prod.mk.injEq] at closed
      obtain ⟨rfl, rfl⟩ := closed
      exact .inr (.inr ⟨after, first, middle, rfl, firstParsed, operationsParsed⟩)
    · cases closed
  all_goals cases parsed

theorem parseOperations_eq_ok {fuel : Nat} {left tree : FilterTree String}
    {tokens rest : List CqlToken} (parsed : parseOperations (fuel + 1) left tokens = .ok (tree, rest)) :
    tree = left ∧ rest = tokens ∨
      ∃ token after operator right middle, tokens = token :: after ∧
        CqlOperator.ofToken token = some operator ∧ parseFactor fuel after = .ok (right, middle) ∧
        parseOperations fuel (operator.apply left right) middle = .ok (tree, rest) := by
  unfold parseOperations at parsed
  split at parsed
  · cases parsed
  · rename_i fuel' token after same
    obtain rfl : fuel = fuel' := Nat.succ.inj same
    split at parsed
    · rename_i operator isOperator
      obtain ⟨⟨right, middle⟩, rightParsed, same⟩ := except_bind_eq_ok.mp parsed
      exact .inr ⟨token, after, operator, right, middle, rfl, isOperator, rightParsed, same⟩
    · simp only [except_pure, Except.ok.injEq, Prod.mk.injEq] at parsed
      exact .inl ⟨parsed.1.symm, parsed.2.symm⟩
  · simp only [except_pure, Except.ok.injEq, Prod.mk.injEq] at parsed
    exact .inl ⟨parsed.1.symm, parsed.2.symm⟩

theorem parseFactor_eq_exhausted {fuel : Nat} {tokens : List CqlToken}
    (exhausted : parseFactor (fuel + 1) tokens = .error .exhausted) :
    ∃ after, after.length < tokens.length ∧
      (parseFactor fuel after = .error .exhausted ∨
        ∃ first middle, parseFactor fuel after = .ok (first, middle) ∧
          parseOperations fuel first middle = .error .exhausted) := by
  unfold parseFactor at exhausted
  split at exhausted
  · rename_i zero
    exact absurd zero (Nat.succ_ne_zero _)
  · rename_i after _
    rcases except_bind_eq_error.mp exhausted with named | ⟨_, -, returned⟩
    · exact absurd named (parseNames_ne_exhausted after)
    · cases returned
  · rename_i after _
    rcases except_bind_eq_error.mp exhausted with named | ⟨_, -, returned⟩
    · exact absurd named (parseNames_ne_exhausted after)
    · cases returned
  · rename_i fuel' after same
    obtain rfl : fuel = fuel' := Nat.succ.inj same
    rcases except_bind_eq_error.mp exhausted with inner | ⟨_, -, returned⟩
    · exact ⟨after, Nat.lt_succ_self _, .inl inner⟩
    · cases returned
  · rename_i fuel' after same
    obtain rfl : fuel = fuel' := Nat.succ.inj same
    rcases except_bind_eq_error.mp exhausted with inner | ⟨⟨first, middle⟩, firstParsed, rest⟩
    · exact ⟨after, Nat.lt_succ_self _, .inl inner⟩
    rcases except_bind_eq_error.mp rest with operationsExhausted | ⟨_, -, closed⟩
    · exact ⟨after, Nat.lt_succ_self _, .inr ⟨first, middle, firstParsed, operationsExhausted⟩⟩
    · dsimp only at closed
      split at closed <;> cases closed
  all_goals cases exhausted

theorem parseOperations_eq_exhausted {fuel : Nat} {left : FilterTree String}
    {tokens : List CqlToken} (exhausted : parseOperations (fuel + 1) left tokens = .error .exhausted) :
    ∃ (token : CqlToken) (after : List CqlToken) (operator : CqlOperator), tokens = token :: after ∧
      (parseFactor fuel after = .error .exhausted ∨
        ∃ right middle, parseFactor fuel after = .ok (right, middle) ∧
          parseOperations fuel (operator.apply left right) middle = .error .exhausted) := by
  unfold parseOperations at exhausted
  split at exhausted
  · rename_i zero
    exact absurd zero (Nat.succ_ne_zero _)
  · rename_i fuel' token after same
    obtain rfl : fuel = fuel' := Nat.succ.inj same
    split at exhausted
    · rename_i operator _
      rcases except_bind_eq_error.mp exhausted with inner | ⟨⟨right, middle⟩, rightParsed, rest⟩
      · exact ⟨token, after, operator, rfl, .inl inner⟩
      · exact ⟨token, after, operator, rfl, .inr ⟨right, middle, rightParsed, rest⟩⟩
    · cases exhausted
  · cases exhausted

/-! Every successful parse consumes input, so the fuel `length + 1` never runs out. -/

theorem parse_shrinks (fuel : Nat) :
    (∀ {tokens rest : List CqlToken} {tree : FilterTree String},
      parseFactor fuel tokens = .ok (tree, rest) → rest.length < tokens.length) ∧
    ∀ {left tree : FilterTree String} {tokens rest : List CqlToken},
      parseOperations fuel left tokens = .ok (tree, rest) → rest.length ≤ tokens.length := by
  induction fuel with
  | zero =>
      refine ⟨fun parsed => ?_, fun parsed => ?_⟩
      · cases (parseFactor_zero _).symm.trans parsed
      · cases (parseOperations_zero _ _).symm.trans parsed
  | succ fuel ih =>
      refine ⟨fun parsed => ?_, fun parsed => ?_⟩
      · rcases parseFactor_eq_ok parsed with ⟨after, names, named, ⟨rfl, -⟩ | ⟨rfl, -⟩⟩ |
          ⟨after, filter, rfl, inner, -⟩ | ⟨after, first, middle, rfl, firstParsed, operationsParsed⟩
        · have := parseNames_eq_ok named
          simp only [List.length_cons]
          omega
        · have := parseNames_eq_ok named
          simp only [List.length_cons]
          omega
        · have := ih.1 inner
          simp only [List.length_cons]
          omega
        · have := ih.1 firstParsed
          have := ih.2 operationsParsed
          simp only [List.length_cons] at *
          omega
      · rcases parseOperations_eq_ok parsed with ⟨-, rfl⟩ |
          ⟨token, after, operator, right, middle, rfl, -, rightParsed, operationsParsed⟩
        · exact le_refl _
        · have := ih.1 rightParsed
          have := ih.2 operationsParsed
          simp only [List.length_cons]
          omega

theorem parse_ne_exhausted (fuel : Nat) :
    (∀ tokens : List CqlToken, tokens.length < fuel → parseFactor fuel tokens ≠ .error .exhausted) ∧
      ∀ (left : FilterTree String) (tokens : List CqlToken), tokens.length < fuel →
        parseOperations fuel left tokens ≠ .error .exhausted := by
  induction fuel with
  | zero =>
      exact ⟨fun _ bound => absurd bound (Nat.not_lt_zero _),
        fun _ _ bound => absurd bound (Nat.not_lt_zero _)⟩
  | succ fuel ih =>
      refine ⟨fun tokens bound exhausted => ?_, fun left tokens bound exhausted => ?_⟩
      · obtain ⟨after, shorter, inner | ⟨first, middle, firstParsed, operationsExhausted⟩⟩ :=
          parseFactor_eq_exhausted exhausted
        · exact ih.1 after (by omega) inner
        · have := (parse_shrinks fuel).1 firstParsed
          exact ih.2 first middle (by omega) operationsExhausted
      · obtain ⟨token, after, operator, rfl, inner | ⟨right, middle, rightParsed, operationsExhausted⟩⟩ :=
          parseOperations_eq_exhausted exhausted
        · simp only [List.length_cons] at bound
          exact ih.1 after (by omega) inner
        · have := (parse_shrinks fuel).1 rightParsed
          simp only [List.length_cons] at bound
          exact ih.2 _ middle (by omega) operationsExhausted

theorem parseCql_ne_exhausted (tokens : List CqlToken) : parseCql tokens ≠ .error .exhausted := by
  intro exhausted
  unfold parseCql parseTerm at exhausted
  rcases except_bind_eq_error.mp exhausted with inner | ⟨_, -, closed⟩
  · rcases except_bind_eq_error.mp inner with factorExhausted |
      ⟨⟨first, middle⟩, firstParsed, operationsExhausted⟩
    · exact (parse_ne_exhausted _).1 tokens (Nat.lt_succ_self _) factorExhausted
    · have := (parse_shrinks _).1 firstParsed
      exact (parse_ne_exhausted _).2 first middle (by omega) operationsExhausted
  · dsimp only at closed
    split at closed <;> cases closed

/-! Resolution: the names of a parsed query are looked up left to right, and the first one
that is not registered is the error. -/

theorem mapM_resolveName_eq_ok (lookup : String → Option ComponentType) (names : List String)
    {components : List ComponentType} :
    names.mapM (resolveName lookup) = .ok components ↔ names.map lookup = components.map some := by
  induction names generalizing components with
  | nil => cases components <;> simp only [List.mapM_nil, except_pure, Except.ok.injEq, List.map_nil,
      List.map_cons, reduceCtorEq]
  | cons name names ih =>
      rw [List.mapM_cons]
      cases found : lookup name with
      | none =>
          cases components <;> simp only [resolveName, found, except_error_bind, reduceCtorEq,
            List.map_cons, List.map_nil, List.cons.injEq, false_and]
      | some componentType =>
          simp only [resolveName, found, except_pure, except_ok_bind, except_bind_eq_ok, ih,
            Except.ok.injEq, List.map_cons]
          cases components with
          | nil => simp
          | cons head tail =>
              simp only [List.cons.injEq, List.map_cons, Option.some.injEq]
              constructor
              · rintro ⟨_, mapped, rfl, rfl⟩
                exact ⟨rfl, mapped⟩
              · rintro ⟨rfl, mapped⟩
                exact ⟨tail, mapped, rfl, rfl⟩

theorem mapM_resolveName_eq_error (lookup : String → Option ComponentType) (names : List String)
    {error : CqlError} :
    names.mapM (resolveName lookup) = .error error ↔
      ∃ name, names.find? (fun name => (lookup name).isNone) = some name ∧
        error = .unknownComponent name := by
  induction names with
  | nil => simp only [List.mapM_nil, except_pure, reduceCtorEq, List.find?_nil, false_and, exists_false]
  | cons name names ih =>
      rw [List.mapM_cons]
      cases found : lookup name with
      | none =>
          simp only [resolveName, found, except_error_bind, Except.error.injEq, List.find?_cons,
            Option.isNone_none, Option.some.injEq, exists_eq_left']
          exact eq_comm
      | some componentType =>
          simp only [resolveName, found, except_pure, except_ok_bind, except_bind_eq_error, ih,
            List.find?_cons, Option.isNone_some, reduceCtorEq, and_false, exists_false, or_false]

theorem resolve_eq_ok (lookup : String → Option ComponentType) (tree : FilterTree String)
    {filter : FilterTree ComponentType} :
    tree.resolve lookup = .ok filter ↔ tree.map lookup = filter.map some := by
  induction tree generalizing filter with
  | exact names | contains names =>
      cases filter <;> simp [-List.mapM, FilterTree.resolve, FilterTree.map, except_map_eq_ok,
        mapM_resolveName_eq_ok]
  | not tree ih =>
      cases filter <;> simp [FilterTree.resolve, FilterTree.map, except_map_eq_ok, ih]
  | and left right ihLeft ihRight | or left right ihLeft ihRight =>
      cases filter <;> simp [FilterTree.resolve, FilterTree.map, except_bind_eq_ok, ihLeft, ihRight]

theorem resolve_eq_error (lookup : String → Option ComponentType) (tree : FilterTree String)
    {error : CqlError} :
    tree.resolve lookup = .error error ↔
      ∃ name, tree.leaves.find? (fun name => (lookup name).isNone) = some name ∧
        error = .unknownComponent name := by
  induction tree generalizing error with
  | exact names | contains names =>
      simp only [FilterTree.resolve, FilterTree.leaves, except_map_eq_error, mapM_resolveName_eq_error]
  | not tree ih => simp only [FilterTree.resolve, FilterTree.leaves, except_map_eq_error, ih]
  | and left right ihLeft ihRight | or left right ihLeft ihRight =>
      simp only [FilterTree.resolve, FilterTree.leaves, List.find?_append, except_bind_eq_error]
      cases resolved : left.resolve lookup with
      | error leftError =>
          obtain ⟨name, found, rfl⟩ := ihLeft.mp resolved
          simp [found, eq_comm]
      | ok left' =>
          have missing : left.leaves.find? (fun name => (lookup name).isNone) = none := by
            cases found : left.leaves.find? (fun name => (lookup name).isNone) with
            | none => rfl
            | some name =>
                have := (@ihLeft (.unknownComponent name)).mpr ⟨name, found, rfl⟩
                rw [resolved] at this
                cases this
          simp [missing, except_bind_eq_error, ihRight]

/-- On a query that parses, compilation succeeds exactly when every component name is
registered, each name then replaced by its component type; otherwise it fails on the first name,
left to right, that is not registered. -/
theorem compileCql_resolves (lookup : String → Option ComponentType) {tokens : List CqlToken}
    {tree : FilterTree String} (parsed : parseCql tokens = .ok tree) :
    (∀ filter, compileCql lookup tokens = .ok filter ↔ tree.map lookup = filter.map some) ∧
      ∀ error, compileCql lookup tokens = .error error ↔
        ∃ name, tree.leaves.find? (fun name => (lookup name).isNone) = some name ∧
          error = .unknownComponent name := by
  simp only [compileCql, parsed, except_ok_bind]
  exact ⟨fun _ => resolve_eq_ok lookup tree, fun _ => resolve_eq_error lookup tree⟩

/-- Compilation is total: on every token list it returns a filter, a syntax error or an unknown
component, and never runs out of fuel. -/
theorem compileCql_ne_exhausted (lookup : String → Option ComponentType) (tokens : List CqlToken) :
    compileCql lookup tokens ≠ .error .exhausted := by
  unfold compileCql
  cases parsed : parseCql tokens with
  | error error =>
      intro exhausted
      rw [except_error_bind, Except.error.injEq] at exhausted
      subst exhausted
      exact parseCql_ne_exhausted tokens parsed
  | ok tree =>
      intro exhausted
      obtain ⟨_, -, named⟩ := (resolve_eq_error lookup tree).mp exhausted
      cases named

theorem compileCql_resolves_unregistered :
    let tokens := [CqlToken.exact, .lparen, .name "Health", .comma, .name "Mana", .rparen]
    let lookup := fun name => if name = "Health" then some 0 else none
    parseCql tokens = .ok (.exact ["Health", "Mana"]) ∧
      compileCql lookup tokens = .error (.unknownComponent "Mana") ∧
      ((∀ filter, compileCql lookup tokens = .ok filter ↔
          (FilterTree.exact ["Health", "Mana"]).map lookup = filter.map some) ∧
        ∀ error, compileCql lookup tokens = .error error ↔
          ∃ name, (FilterTree.exact ["Health", "Mana"]).leaves.find?
            (fun name => (lookup name).isNone) = some name ∧ error = .unknownComponent name) :=
  ⟨rfl, rfl, compileCql_resolves _ rfl⟩

end WorldEngine
