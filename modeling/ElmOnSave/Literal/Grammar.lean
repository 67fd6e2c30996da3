import ElmOnSave.Literal.Peg

/-!
# The grammar of expressions

`grammar` spells expressions in tokens.  Literals use little of it; the rest is there because a text
that is no literal is refused differently when it is no expression either.  Square brackets are left
out: no text that is read holds one.

The rules whose names end in `Mistake` describe what is often written by mistake.  Mistakes in the
entries of a table are looked for at once, all others when the text is read again.
-/

namespace ElmOnSave.Literal

/-- The rules of the grammar. -/
inductive Rule where
  | whole
  | field
  | expressions
  | expression
  | plainExpression
  | yielding
  | starExpressions
  | starExpression
  | starNamedExpressions
  | starNamedExpression
  | assignment
  | namedExpression
  | disjunction
  | inversion
  | comparison
  | operation
  | factor
  | power
  | awaited
  | primary
  | atom
  | group
  | tuple
  | set
  | table
  | entries
  | entry
  | pair
  | setComprehension
  | generator
  | tableComprehension
  | clauses
  | clause
  | arguments
  | argumentList
  | keywordList
  | positionalArgument
  | starredArgument
  | keywordOrStarred
  | keywordOrDoubleStarred
  | targets
  | target
  | innerTarget
  | targetAtom
  | targetTuple
  | targetPrimary
  | lambda
  | parameters
  | parameterList
  | slashPlain
  | slashWithDefault
  | starParameters
  | doubleStarParameter
  | plainParameter
  | defaultParameter
  | anyParameter
  | parameterDefault
  | expressionMistake
  | callMistake
  | namedMistake
  | argumentsMistake
  | keywordMistake
  | comprehensionMistake
  | tableComprehensionMistake
  | targetMistake
  | groupMistake
  | entriesMistake
  | entryMistake
  | parametersMistake
  | starParametersMistake
  | doubleStarParameterMistake
deriving DecidableEq, Hashable, Inhabited

namespace Rule

/-- The words that are no names. -/
def keywords : List String :=
  ["False", "None", "True", "and", "as", "assert", "async", "await", "break", "class", "continue",
    "def", "del", "elif", "else", "except", "finally", "for", "from", "global", "if", "import",
    "in", "is", "lambda", "nonlocal", "not", "or", "pass", "raise", "return", "try", "while",
    "with", "yield"]

/-- The integer that a number without point and exponent spells. -/
def integerOf (text : List Char) : Except Complaint (List Expr) :=
  let digits := text.filter (· ≠ '_')
  let based := fun (base : Nat) =>
    .ok [Expr.integer (Text.ofDigitValues base ((digits.drop 2).map fun c =>
      (Text.hexValue? c).getD 0))]
  match digits with
  | '0' :: x :: _ =>
    match x.toLower with
    | 'x' => based 16
    | 'o' => based 8
    | 'b' => based 2
    | _ => .ok [Expr.integer (Text.ofDigits digits)]
  | _ =>
    if Decimal.digitLimit < digits.length then .error (.longInteger digits.length)
    else .ok [Expr.integer (Text.ofDigits digits)]

/-- What a number spells. -/
def numberOf (text : String) : Except Complaint (List Expr) :=
  let cs := text.toList
  if (cs.take 2).map Char.toLower = ['0', 'x'] then integerOf cs
  else if (cs.getLast?.map Char.toLower) = some 'j' then .ok [.imaginary]
  else if cs.any fun c => c == '.' || c.toLower == 'e' then .ok [.real]
  else integerOf cs

/-- A word or an operator. -/
def word (w : String) : Peg Rule :=
  .token fun t =>
    if (t.kind = .name ∨ t.kind = .operator) ∧ t.text = w then some (.ok []) else none

/-- A token of a kind. -/
def ofKind (k : TokenKind) : Peg Rule :=
  .token fun t => if t.kind = k then some (.ok []) else none

/-- A name. -/
def nameToken : Peg Rule :=
  .token fun t =>
    if t.kind = .name ∧ !keywords.contains t.text then some (.ok [.name t.text]) else none

/-- A number. -/
def numberToken : Peg Rule :=
  .token fun t => if t.kind = .number then some (numberOf t.text) else none

/-- A word that stands for an expression. -/
def constant (w : String) (e : Expr) : Peg Rule :=
  .build (fun _ => e) (word w)

/-- A word or operator between two parts. -/
def one (r : Rule) : Peg Rule := .rule r

/-- As often as possible, perhaps never. -/
def any (p : Peg Rule) : Peg Rule := .opt (.many p)

/-- At least one part, with commas between them. -/
def listed (p : Peg Rule) : Peg Rule := .seq [p, any (.seq [word ",", p])]

/-- One of several words. -/
def oneOf (ws : List String) : Peg Rule := .choice (ws.map word)

/-- An expression of which only the form matters. -/
def form (f : ExprForm) (ps : List (Peg Rule)) : Peg Rule :=
  .build (fun _ => .other f) (.seq ps)

/-- A mistake, with the fault that it is whatever was read. -/
def wrong (ps : List (Peg Rule)) (f : GrammarFault) : Peg Rule :=
  .seq (ps ++ [.refuse fun _ _ => some f])

/-- A mistake that depends on the first expression that was read. -/
def wrongBy (ps : List (Peg Rule)) (f : Expr → Option GrammarFault) : Peg Rule :=
  .seq (ps ++ [.refuse fun es _ => es.head?.bind f])

/-- Several expressions as one: a tuple if there is a comma. -/
def tupled (r : Rule) : Peg Rule :=
  .choice [
    .build .tuple (.seq [one r, .many (.seq [word ",", one r]), .opt (word ",")]),
    .build .tuple (.seq [one r, word ","]),
    one r]

/-- The first two items that were read. -/
def binary (f : Expr → Expr → Expr) (left : Expr) (es : List Expr) : Expr :=
  f left (es.headD .nothing)

/-- A step of a chain of operations. -/
def operator (w : String) (r : Rule) (f : Expr → Expr → Expr) :
    Peg Rule × (Expr → List Expr → Expr) :=
  (.seq [word w, one r], binary f)

/-- An operation without a value. -/
def plainOperation (_ _ : Expr) : Expr := .other .operation

/-- The arguments of a call that was read, apart from the call. -/
def asArguments (r : Rule) : Peg Rule := .build (.call .nothing) (one r)

/-- The number of arguments by position. -/
def positional : Expr → Nat
  | .call _ es => es.countP fun
    | .keyword _ | .keywords _ => false
    | _ => true
  | _ => 0

/-- Whether an argument spreads a table. -/
def spreadsKeywords : Expr → Bool
  | .call _ es => es.any fun
    | .keywords _ => true
    | _ => false
  | _ => false

/-- The fault of arguments that go on after keywords. -/
def afterKeywords (e : Expr) : Option GrammarFault :=
  some (if spreadsKeywords e then .positionalAfterUnpacked else .positionalAfterKeyword)

/-- Whether the name is one of two that were once followed by bare arguments. -/
def isBareCall : Expr → Option String
  | .name id => if id = "print" ∨ id = "exec" then some id else none
  | _ => none

/-- What stands between a name and `=` in an expression. -/
def noAssignment : Peg Rule := .without (oneOf ["=", ":="])

/-- An operator that compares, as the truth value that says whether it asks for membership, and what
is compared. -/
def compared (membership : Bool) (operator : Peg Rule) : Peg Rule :=
  .build (fun _ => .truth membership) (.seq [operator, one operation])

/-- Whether a comparison starts by asking for membership. -/
def asksMembership : Expr → Bool
  | .truth b => b
  | _ => false

/-- Expressions and what joins them. -/
def expressionBody : Rule → Option (Peg Rule)
  | whole => some (.seq [one expressions, any (ofKind .newline), ofKind .finish])
  | field => some (one starExpressions)
  | expressions => some (tupled expression)
  | expression => some (.choice [
      .mistake (one expressionMistake),
      .mistake (one callMistake),
      form .conditional
        [one disjunction, word "if", one disjunction, word "else", one expression],
      one disjunction,
      one lambda])
  | plainExpression => some (.quiet (.choice [
      form .conditional
        [one disjunction, word "if", one disjunction, word "else", one expression],
      one disjunction,
      one lambda]))
  | yielding => some (.choice [
      form .yielding [word "yield", word "from", one expression],
      form .yielding [word "yield", .opt (one starExpressions)]])
  | starExpressions => some (tupled starExpression)
  | starExpression => some (.choice [
      .build (fun es => .starred (es.headD .nothing)) (.seq [word "*", one operation]),
      one expression])
  | starNamedExpressions => some (.seq [listed (one starNamedExpression), .opt (word ",")])
  | starNamedExpression => some (.choice [
      .build (fun es => .starred (es.headD .nothing)) (.seq [word "*", one operation]),
      one namedExpression])
  | assignment => some (form .naming [nameToken, word ":=", .commit, one expression])
  | namedExpression => some (.choice [
      one assignment,
      .mistake (one namedMistake),
      .seq [one expression, .without (word ":=")]])
  | disjunction => some (.chain (one inversion)
      [operator "or" inversion plainOperation, operator "and" inversion plainOperation])
  | inversion => some (.choice [form .operation [word "not", one inversion], one comparison])
  | comparison => some (.choice [
      .build (fun es =>
          .comparison (es.headD .nothing) (asksMembership ((es.drop 1).headD .nothing)))
        (.seq [one operation, .many (.choice [
          compared false (oneOf ["==", "!=", "<=", "<", ">=", ">"]),
          compared false (.seq [word "not", word "in"]),
          compared true (word "in"),
          compared false (.seq [word "is", .opt (word "not")])])]),
      one operation])
  | operation => some (.chain (one factor)
      ([operator "+" factor .sum, operator "-" factor .difference] ++
        ["|", "^", "&", "<<", ">>", "*", "/", "//", "%", "@"].map fun w =>
          operator w factor plainOperation))
  | factor => some (.choice [
      .build (fun es => .plus (es.headD .nothing)) (.seq [word "+", one factor]),
      .build (fun es => .minus (es.headD .nothing)) (.seq [word "-", one factor]),
      form .operation [word "~", one factor],
      one power])
  | power => some (.choice [
      form .operation [one awaited, word "**", one factor],
      one awaited])
  | awaited => some (.choice [form .awaiting [word "await", one primary], one primary])
  | primary => some (.chain (one atom) [
      (.seq [word ".", nameToken], fun _ _ => .other .member),
      (one generator, fun f es => .call f es),
      (.seq [word "(", .opt (one arguments), word ")"], fun f es => .call f es)])
  | atom => some (.choice [
      nameToken,
      constant "True" (.truth true),
      constant "False" (.truth false),
      constant "None" .nothing,
      .strings,
      numberToken,
      .seq [.ahead (word "("), .choice [one tuple, one group, one generator]],
      .seq [.ahead (word "\x7b"),
        .choice [one table, one set, one tableComprehension, one setComprehension]],
      constant "..." .dots])
  | group => some (.choice [
      .seq [word "(", .choice [one yielding, one namedExpression], word ")"],
      .mistake (one groupMistake)])
  | tuple => some (.build .tuple (.seq [word "(",
      .opt (.seq [one starNamedExpression, word ",", .opt (one starNamedExpressions)]),
      word ")"]))
  | set => some (.build .set (.seq [word "\x7b", one starNamedExpressions, word "\x7d"]))
  | table => some (.choice [
      .build .table (.seq [word "\x7b", .opt (one entries), word "\x7d"]),
      .seq [word "\x7b", one entriesMistake, word "\x7d"]])
  | entries => some (.seq [listed (one entry), .opt (word ",")])
  | entry => some (.choice [
      .build (fun es => .spread (es.headD .nothing)) (.seq [word "**", one operation]),
      one pair])
  | pair => some (.build (fun es => .entry (es.headD .nothing) ((es.drop 1).headD .nothing))
      (.seq [one expression, word ":", one expression]))
  | _ => none

/-- Comprehensions, calls and targets. -/
def clauseBody : Rule → Option (Peg Rule)
  | setComprehension => some (.choice [
      form .setComprehension [word "\x7b", one namedExpression, one clauses, word "\x7d"],
      .mistake (one comprehensionMistake)])
  | generator => some (.choice [
      form .generator [word "(",
        .choice [one assignment, .seq [one expression, .without (word ":=")]],
        one clauses, word ")"],
      .mistake (one comprehensionMistake)])
  | tableComprehension => some (.choice [
      form .tableComprehension [word "\x7b", one pair, one clauses, word "\x7d"],
      .mistake (one tableComprehensionMistake)])
  | clauses => some (.many (one clause))
  | clause => some (.choice [
      .seq [word "async", word "for", one targets, word "in", .commit, one disjunction,
        any (.seq [word "if", one disjunction])],
      .seq [word "for", one targets, word "in", .commit, one disjunction,
        any (.seq [word "if", one disjunction])],
      .mistake (one targetMistake)])
  | arguments => some (.choice [
      .seq [one argumentList, .opt (word ","), .ahead (word ")")],
      .mistake (one argumentsMistake)])
  | argumentList => some (.choice [
      .seq [listed (one positionalArgument), .opt (.seq [word ",", one keywordList])],
      one keywordList])
  | positionalArgument => some (.choice [
      one starredArgument,
      .seq [.choice [one assignment, .seq [one expression, .without (word ":=")]],
        .without (word "=")]])
  | keywordList => some (.choice [
      .seq [listed (one keywordOrStarred), word ",", listed (one keywordOrDoubleStarred)],
      listed (one keywordOrStarred),
      listed (one keywordOrDoubleStarred)])
  | starredArgument => some (.choice [
      .build (fun es => .starred (es.headD .nothing)) (.seq [word "*", one expression]),
      wrong [word "*"] .strangeStar])
  | keywordOrStarred => some (.choice [
      .mistake (one keywordMistake),
      .build (fun es => .keyword ((es.drop 1).headD .nothing))
        (.seq [nameToken, word "=", one expression]),
      one starredArgument])
  | keywordOrDoubleStarred => some (.choice [
      .mistake (one keywordMistake),
      .build (fun es => .keyword ((es.drop 1).headD .nothing))
        (.seq [nameToken, word "=", one expression]),
      .build (fun es => .keywords (es.headD .nothing)) (.seq [word "**", one expression])])
  | targets => some (.choice [
      .seq [one target, .without (word ",")],
      .seq [one target, any (.seq [word ",", one target]), .opt (word ",")]])
  | target => some (.choice [
      .seq [word "*", .without (word "*"), one target],
      one innerTarget])
  | innerTarget => some (.choice [
      .seq [one targetPrimary, word ".", nameToken, .without (oneOf ["(", "."])],
      one targetAtom])
  | targetAtom => some (.choice [
      nameToken,
      .seq [word "(", one innerTarget, word ")"],
      .seq [word "(", .opt (one targetTuple), word ")"]])
  | targetTuple => some (.choice [
      .seq [one target, .many (.seq [word ",", one target]), .opt (word ",")],
      .seq [one target, word ","]])
  | targetPrimary => some (.chain (.seq [one atom, .ahead (oneOf ["(", "."])]) [
      (.seq [word ".", nameToken, .ahead (oneOf ["(", "."])], fun _ _ => .other .member),
      (.seq [one generator, .ahead (oneOf ["(", "."])], fun f es => .call f es),
      (.seq [word "(", .opt (one arguments), word ")", .ahead (oneOf ["(", "."])],
        fun f es => .call f es)])
  | _ => none

/-- Functions without a name. -/
def lambdaBody : Rule → Option (Peg Rule)
  | lambda => some
      (form .lambda [word "lambda", .opt (one parameters), word ":", one expression])
  | parameters => some (.choice [.mistake (one parametersMistake), one parameterList])
  | parameterList => some (.choice [
      .seq [one slashPlain, any (one plainParameter), any (one defaultParameter),
        .opt (one starParameters)],
      .seq [one slashWithDefault, any (one defaultParameter), .opt (one starParameters)],
      .seq [.many (one plainParameter), any (one defaultParameter), .opt (one starParameters)],
      .seq [.many (one defaultParameter), .opt (one starParameters)],
      one starParameters])
  | slashPlain => some (.seq [.many (one plainParameter), word "/", endOfParameter])
  | slashWithDefault => some
      (.seq [any (one plainParameter), .many (one defaultParameter), word "/", endOfParameter])
  | starParameters => some (.choice [
      .mistake (one starParametersMistake),
      .seq [word "*", one plainParameter, any (one anyParameter),
        .opt (one doubleStarParameter)],
      .seq [word "*", word ",", .many (one anyParameter), .opt (one doubleStarParameter)],
      one doubleStarParameter])
  | doubleStarParameter => some (.choice [
      .mistake (one doubleStarParameterMistake),
      .seq [word "**", one plainParameter]])
  | plainParameter => some (.seq [nameToken, endOfParameter])
  | defaultParameter => some (.seq [nameToken, one parameterDefault, endOfParameter])
  | anyParameter => some (.seq [nameToken, .opt (one parameterDefault), endOfParameter])
  | parameterDefault => some (.choice [
      .seq [word "=", one expression],
      .mistake (wrong [word "=", .ahead (oneOf [")", ","])] .defaultMissing)])
  | _ => none
where
  /-- The comma after a parameter or the colon after the last one. -/
  endOfParameter : Peg Rule := .choice [word ",", .ahead (word ":")]

/-- What is often written by mistake. -/
def mistakeBody : Rule → Option (Peg Rule)
  | expressionMistake => some (.choice [
      .seq [.without (.choice [.seq [nameToken, ofKind .string], oneOf ["_", "case", "match"]]),
        one disjunction, one plainExpression,
        .refuse fun es depth =>
          if (es.head?.bind isBareCall).isSome || depth == 0 then none else some .commaMissing],
      wrong [one disjunction, word "if", one disjunction, .without (oneOf ["else", ":"])]
        .elseMissing])
  | callMistake => some (wrongBy [nameToken, .without (word "("), one starExpressions]
      fun e => (isBareCall e).map .parenthesesMissing)
  | namedMistake => some (.choice [
      wrongBy [one expression, word ":=", one expression] fun e => some (.namedBy e.word),
      wrong [nameToken, word "=", one operation, noAssignment] .assignmentMeant,
      wrongBy [.without (.choice [one tuple, one generator, oneOf ["True", "None", "False"]]),
          one operation, word "=", one operation, noAssignment]
        fun e => some (.assignedHere e.word)])
  | argumentsMistake => some (.choice [
      wrong [.choice [
            .seq [listed (one positionalArgument), word ",", one keywordList],
            one keywordList],
          word ",", listed (.seq [one starredArgument, .without (word "=")])]
        .unpackedAfterUnpacked,
      wrong [one expression, one clauses, word ",",
        .opt (.choice [one argumentList, .seq [one expression, one clauses]])] .bareGenerator,
      wrong [nameToken, word "=", one expression, one clauses] .assignmentMeant,
      wrongBy [asArguments argumentList, one clauses]
        fun e => if positional e ≤ 1 then none else some .bareGenerator,
      wrong [one argumentList, word ",", one expression, one clauses] .bareGenerator,
      wrongBy [asArguments argumentList, word ",", one argumentList] afterKeywords])
  | keywordMistake => some (.choice [
      wrong [word "True", word "="] (.assigned "True"),
      wrong [word "False", word "="] (.assigned "False"),
      wrong [word "None", word "="] (.assigned "None"),
      wrong [nameToken, word "=", one expression, one clauses] .assignmentMeant,
      wrong [.without (.seq [nameToken, word "="]), one expression, word "="] .argumentAssigned])
  | comprehensionMistake => some (.choice [
      wrong [oneOf ["(", "\x7b"], one starredArgument, one clauses] .unpackedComprehension,
      wrong [word "\x7b", one starNamedExpression, word ",", one starNamedExpressions, one clauses]
        .bareTarget,
      wrong [word "\x7b", one starNamedExpression, word ",", one clauses] .bareTarget])
  | tableComprehensionMistake => some
      (wrong [word "\x7b", word "**", one operation, one clauses, word "\x7d"]
        .unpackedTableComprehension)
  | targetMistake => some (wrongBy [.opt (word "async"), word "for", one starExpressions]
      fun e => e.badTarget?.map fun b => .assigned b.word)
  | groupMistake => some (.choice [
      wrong [word "(", one starredArgument, word ")"] .starredHere,
      wrong [word "(", word "**", one expression, word ")"] .doubleStarredHere])
  | entriesMistake => some (.choice [
      .seq [listed (one entry), word ",", one entryMistake],
      wrong [one expression, word ":", word "*", one operation] .starredEntry,
      wrong [one expression, word ":", .ahead (oneOf ["\x7d", ","])] .entryMissing])
  | entryMistake => some (.choice [
      wrong [one expression, .without (word ":")] .colonMissing,
      wrong [one expression, word ":", word "*", one operation] .starredEntry,
      wrong [one expression, word ":", .ahead (oneOf ["\x7d", ","])] .entryMissing])
  | parametersMistake => some (.choice [
      wrong [word "/", word ","] .slashFirst,
      wrong [slashed, any (one anyParameter), word "/"] .slashTwice,
      wrong [.opt (one slashPlain), any (one plainParameter),
        .choice [one slashWithDefault, .many (one defaultParameter)], one plainParameter]
        .parameterAfterDefault,
      wrong [any (one plainParameter), word "(", listed nameToken, .opt (word ","), word ")"]
        .parenthesizedParameters,
      wrong [.opt slashed, any (one anyParameter), word "*",
        .choice [word ",", one plainParameter], any (one anyParameter), word "/"]
        .slashAfterStar,
      wrong [.many (one anyParameter), word "/", word "*"] .commaBetweenSlashAndStar])
  | starParametersMistake => some (.choice [
      wrong [word "*", .choice [word ":", .seq [word ",", oneOf [":", "**"]]]] .bareStar,
      wrong [word "*", nameToken, word "="] .defaultOfStarred,
      wrong [word "*", .choice [one plainParameter, word ","], any (one anyParameter), word "*",
        .choice [one plainParameter, word ","]] .starTwice])
  | doubleStarParameterMistake => some (.choice [
      wrong [word "**", nameToken, word "="] .defaultOfDoubleStarred,
      wrong [word "**", nameToken, word ",", nameToken] .parameterAfterDoubleStarred,
      wrong [word "**", nameToken, word ",", oneOf ["*", "**", "/"]]
        .parameterAfterDoubleStarred])
  | _ => none
where
  /-- Parameters up to a slash. -/
  slashed : Peg Rule := .choice [one slashPlain, one slashWithDefault]

/-- How a rule is spelled. -/
def body (r : Rule) : Peg Rule :=
  ((expressionBody r <|> clauseBody r) <|> (lambdaBody r <|> mistakeBody r)).getD (.seq [])

/-- Whether what a rule makes of a place is remembered. -/
def remembers : Rule → Bool
  | expression | starExpression | disjunction | inversion | operation | factor | awaited | primary
  | arguments | target | innerTarget | targetPrimary | namedMistake => true
  | _ => false

end Rule

/-- The grammar of expressions. -/
def grammar : Grammar Rule := ⟨Rule.body, Rule.remembers⟩

end ElmOnSave.Literal
