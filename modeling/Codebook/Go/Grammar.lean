import Codebook.Go.Form

/-!
# The grammar of Go

The forms of Go files.  They are meant for finding declarations in files that compile, so they ask
for little: names and types are not checked, statements may stand outside of functions, and no
package clause is needed.

Two rules of the language shape the forms.

* A line end ends a statement, but only where a statement may end.  In parentheses, or after an
  operator, it is nothing.  A form therefore knows whether it stands where a line end counts.
* A keyword is a keyword only where it may stand; elsewhere it is a name like any other.

And one of files: the end of the file ends a statement that ends in an expression.  After any other
statement there has to be a line end or a semicolon.

What is here: `Rule`, the names of the forms; `form`, what each of them says; and `topLevel`, a
whole file.
-/

set_option autoImplicit false

namespace Codebook.Go

open Form

/-! ## Keywords -/

/-- The keywords that may start a type. -/
def typeKeywords : List String := ["func", "struct", "map", "chan", "interface"]

/-- The keywords that may start an expression. -/
def operandKeywords : List String :=
  typeKeywords ++ ["nil", "true", "false", "iota", "new", "make"]

/-- The keywords that may start a statement and no expression. -/
def statementKeywords : List String :=
  ["const", "type", "var", "return", "go", "defer", "if", "for", "switch", "select", "fallthrough",
    "break", "continue", "goto"]

/-- Where a statement stands. -/
inductive Position where
  /-- Outside of functions. -/
  | file
  /-- In a block. -/
  | block
  /-- In a clause of a `switch` or `select`. -/
  | clause
deriving DecidableEq, Repr

/-- The keywords that may stand where a statement may start. -/
def Position.keywords : Position → List String
  | file => ["package", "import"]
  | block => []
  | clause => ["case", "default"]

/-! ## Contexts -/

/-- What is around an expression. -/
structure Context where
  /-- A line end ends it. -/
  line : Bool := false
  /-- A brace after a name starts a composite literal, and not a block. -/
  literal : Bool := true
  /-- It stands in the head of a `switch`, to which a type switch belongs. -/
  guard : Bool := false
  /-- It may be the whole of a simple statement, which `++`, `--` and `<-` end. -/
  statement : Bool := false
deriving DecidableEq, Repr

namespace Context

/-- An expression in brackets. -/
def inner : Context := {}

/-- An expression within a statement. -/
def ofStatement : Context := { line := true }

/-- The first expression of a statement. -/
def startOfStatement : Context := { line := true, statement := true }

/-- The first expression of the head of an `if` or `for`. -/
def head : Context := { literal := false, statement := true }

/-- The first expression of the head of a `switch`. -/
def switchHead : Context := { literal := false, guard := true, statement := true }

/-- A later expression of the head of a `switch`. -/
def switchRest : Context := { guard := true }

end Context

/-- The rules of the grammar. -/
inductive Rule where
  | topItem
  | topDeclaration
  | importSpec
  | consts (valued : Bool)
  | constSpec (valued : Bool)
  | vars (valued : Bool)
  | varSpec (valued : Bool)
  | values
  | typeDeclaration
  | typeSpec
  | typeParameters
  | type (line : Bool)
  | simpleType (line : Bool)
  | typeName (line : Bool)
  | typeArguments
  | typeElement (line : Bool)
  | result (line : Bool)
  | parameters
  | field
  | interfaceElement
  | block
  | statements (p : Position)
  | openStatement (p : Position)
  | closedStatement (p : Position)
  | simpleOpen (first rest : Context)
  | simple (first rest : Context)
  | ifStatement
  | forStatement
  | switchStatement
  | selectStatement
  | expression (c : Context)
  | unary (c : Context)
  | primary (c : Context)
  | operand (c : Context)
  | suffix (c : Context)
  | arguments
  | literalValue
  | element
deriving DecidableEq, Repr

namespace Rule

/-! ## Small forms -/

/-- A word that is not one of some keywords. -/
def name (ks : List String) : Form Rule := barring ks word

/-- A string. -/
def string : Form Rule := token (.any .string)

/-- The names of a declaration.  After the first of them a line end counts if `line` is set. -/
def names (line : Bool) : Form Rule := commas line word

/-- An expression. -/
def expr (c : Context) : Form Rule := rule (expression c)

/-- Some expressions. -/
def exprs (c : Context) : Form Rule := commas c.line (expr c)

/-- A type. -/
def typ (line : Bool) : Form Rule := rule (type line)

/-- The start of a labelled statement. -/
def labelled (p : Position) : Form Rule :=
  all [name (operandKeywords ++ statementKeywords ++ p.keywords), sameLine, symbol ":"]

/-- A statement. -/
def statement (p : Position) : Form Rule := alt (rule (openStatement p)) (rule (closedStatement p))

/-- `++` or `--`. -/
def step : Form Rule := symbols ["++", "--"]

/-- A simple statement in front of a semicolon, or nothing. -/
def initializer (first rest : Context) : Form Rule :=
  opt (seq (rule (simple first rest)) (symbol ";"))

/-- The operators that assign. -/
def assignment : Form Rule :=
  symbols [":=", "=", "*=", "/=", "%=", "<<=", ">>=", "&=", "&^=", "+=", "-=", "|=", "^="]

/-- The operators before an operand.  Two of them may be written as one symbol. -/
def prefixOperator : Form Rule :=
  symbols ["+", "-", "!", "^", "*", "&", "<-", "++", "--", "&&", "&^"]

/-- The operators between operands.  Where they end no statement, `++`, `--` and `<-` are an
operator each and another one before the next operand. -/
def infixOperator (c : Context) : Form Rule :=
  symbols (["||", "&&", "==", "!=", "<", "<=", ">", ">=", "+", "-", "|", "^", "*", "/", "%", "<<",
    ">>", "&", "&^"] ++ if c.statement then [] else ["++", "--", "<-"])

/-- The types that a composite literal may be written for without a name. -/
def literalType : Form Rule :=
  firstOf
    [all [symbol "[", symbol "]", typ false],
      all [symbol "[", symbol "...", symbol "]", typ false],
      all [symbol "[", expr .inner, symbol "]", typ false],
      all [keyword "map", symbol "[", typ false, symbol "]", typ false],
      seq (ahead (keyword "struct")) (rule (simpleType false))]

/-- The start of a type that is no name. -/
def startsType : Form Rule :=
  firstOf [keywords typeKeywords, symbol "[", symbol "~"]

/-- The fields of a structure, in braces. -/
def fields : Form Rule :=
  between "\x7b" "\x7d" (opt (separated terminator (rule field)))

/-! ## The rules -/

/-- Declarations, and what may stand beside them in a file. -/
def declarationForm : Rule → Form Rule
  | topItem =>
    firstOf
      [seq (rule topDeclaration) terminator,
        seq (rule (openStatement .file)) (alt terminator (ahead finish)),
        seq (rule (closedStatement .file)) terminator]
  | topDeclaration =>
    firstOf
      [node .package (seq (keyword "package") word),
        node .item (seq (keyword "import") (alt (rule importSpec)
          (between "(" ")" (opt (separated terminator (rule importSpec)))))),
        node .item (all [keyword "func",
          alt (seq word (opt (rule typeParameters))) (seq (rule parameters) word),
          rule parameters, rule (result true), opt (onLine true (rule block))])]
  | importSpec => alt (seq (alt (symbol ".") word) string) string
  | consts true => node .consts (seq (keyword "const") (rule (constSpec true)))
  | consts false =>
    node .consts (seq (keyword "const") (alt
      (between "(" ")" (many (seq
        (alt (rule (constSpec true)) (rule (constSpec false))) terminator)))
      (rule (constSpec false))))
  | constSpec true =>
    node .spec (all [names true, sameLine, opt (node .type (typ false)), symbol "=", rule values])
  | constSpec false => node .spec (names true)
  | vars true => node .vars (seq (keyword "var") (rule (varSpec true)))
  | vars false =>
    node .vars (seq (keyword "var") (alt
      (node .varList (between "(" ")" (many (seq
        (alt (rule (varSpec true)) (rule (varSpec false))) terminator))))
      (rule (varSpec false))))
  | varSpec true =>
    node .spec (all [names false, opt (seq (node .type (typ true)) sameLine), symbol "=",
      rule values])
  | varSpec false => node .spec (seq (names false) (node .type (typ true)))
  | values => commas true (node .value (expr .ofStatement))
  | typeDeclaration =>
    seq (keyword "type") (alt (between "(" ")" (many (seq (rule typeSpec) terminator)))
      (rule typeSpec))
  | typeSpec =>
    firstOf
      [all [word, rule typeParameters, opt (symbol "="), typ true],
        all [word, opt (symbol "="), typ true]]
  | _ => empty

/-- Types. -/
def typeForm : Rule → Form Rule
  | typeParameters =>
    between "[" "]" (separated (symbol ",") (seq (commas false word) (rule (typeElement false))))
  | type line => alt (between "(" ")" (typ false)) (rule (simpleType line))
  | simpleType line =>
    firstOf
      [seq (symbol "*") (typ line),
        all [symbol "[", symbol "]", typ line],
        all [symbol "[", expr .inner, symbol "]", typ line],
        all [keyword "map", symbol "[", typ false, symbol "]", typ line],
        all [keyword "chan", opt (symbol "<-"), typ line],
        all [symbol "<-", keyword "chan", typ line],
        all [keyword "func", rule parameters, rule (result line)],
        seq (keyword "struct") fields,
        seq (keyword "interface") (between "\x7b" "\x7d"
          (opt (separated terminator (rule interfaceElement)))),
        seq (symbol "~") (typ line),
        rule (typeName line)]
  | typeName line =>
    all [name typeKeywords, opt (onLine line (seq (symbol ".") word)),
      opt (onLine line (rule typeArguments))]
  | typeArguments => between "[" "]" (separated (symbol ",") (rule (typeElement false)))
  | typeElement line => seq (typ line) (many (seq (onLine line (symbol "|")) (typ line)))
  | result line => opt (onLine line (alt (rule parameters) (rule (simpleType line))))
  | parameters =>
    let parameter := firstOf
      [all [name typeKeywords, opt (symbol "..."), typ false],
        seq (opt (symbol "...")) (typ false)]
    between "(" ")" (seq (opt (commas false parameter)) (opt (symbol ",")))
  | field =>
    firstOf
      [all [opt (symbol "*"), rule (typeName true), opt (onLine true string),
          ahead (alt terminator (symbol "\x7d"))],
        all [commas true word, onLine true (typ true), opt (onLine true string)]]
  | interfaceElement =>
    alt (all [name typeKeywords, sameLine, rule parameters, rule (result true)])
      (rule (typeElement true))
  | _ => empty

/-- Statements. -/
def statementForm : Rule → Form Rule
  | block => between "\x7b" "\x7d" (rule (statements .block))
  | statements p =>
    firstOf
      [all [statement p, many (seq terminator (statement p)),
          opt (seq terminator (opt (labelled p)))],
        opt (labelled p)]
  | openStatement p =>
    firstOf
      [node .item (seq (labelled p) (rule (openStatement p))),
        rule (consts true),
        rule (vars true),
        node .item (seq (keyword "return") (opt (onLine true (exprs .ofStatement)))),
        node .item (seq (keywords ["go", "defer"]) (expr .ofStatement)),
        barring (statementKeywords ++ p.keywords) (seq (notAhead (labelled p))
          (node .item (rule (simpleOpen .startOfStatement .ofStatement))))]
  | closedStatement p =>
    firstOf
      [node .item (seq (labelled p) (rule (closedStatement p))),
        rule (consts false),
        rule (vars false),
        node .item (firstOf
          [rule typeDeclaration, rule ifStatement, rule forStatement, rule switchStatement,
            rule selectStatement, keyword "fallthrough",
            seq (keywords ["break", "continue"]) (opt (onLine true (name p.keywords))),
            seq (keyword "goto") word, rule block, symbol ";",
            barring (statementKeywords ++ p.keywords) (seq (notAhead (labelled p))
              (seq (expr .startOfStatement) (onLine true step)))])]
  | simpleOpen first rest =>
    seq (expr first) (firstOf
      [seq (onLine first.line (symbol "<-")) (expr rest),
        all [many (seq (onLine first.line (symbol ",")) (expr rest)),
          onLine first.line assignment, exprs rest],
        notAhead (onLine first.line step)])
  | simple first rest =>
    alt (rule (simpleOpen first rest)) (seq (expr first) (onLine first.line step))
  | ifStatement =>
    all [keyword "if", initializer .head .inner, expr .head, rule block,
      opt (onLine true (seq (keyword "else") (alt (rule block) (rule ifStatement))))]
  | forStatement =>
    let update : Context := { literal := false }
    let range := alt (seq (keyword "range") (expr update))
      (all [exprs .head, symbols [":=", "="], keyword "range", expr update])
    let clause := all [opt (rule (simple .head .inner)), symbol ";", opt (expr .inner), symbol ";",
      opt (rule (simple .head update))]
    seq (keyword "for") (firstOf
      [seq range (rule block),
        barring ["range"] (firstOf
          [seq clause (rule block), seq (expr .head) (rule block), rule block])])
  | switchStatement =>
    let default := all [keyword "default", symbol ":", rule (statements .clause)]
    let typeClause := alt
      (all [keyword "case", commas false (typ false), symbol ":", rule (statements .clause)])
      default
    let valueClause := alt
      (all [keyword "case", exprs .inner, symbol ":", rule (statements .clause)]) default
    let head := initializer .switchHead .switchRest
    seq (keyword "switch") (alt
      (all [head, opt (seq (exprs .switchHead) (symbol ":=")), expr .switchHead, symbol ".",
        symbol "(", keyword "type", symbol ")", between "\x7b" "\x7d" (many typeClause)])
      (all [head, opt (expr .switchHead), between "\x7b" "\x7d" (many valueClause)]))
  | selectStatement =>
    let body := rule (statements .clause)
    let first : Context := { statement := true }
    let clause := firstOf
      [all [keyword "case", expr first, symbol "<-", expr .inner, symbol ":", body],
        all [keyword "case", opt (seq (exprs first) (symbols [":=", "="])), expr .inner, symbol ":",
          body],
        all [keyword "default", symbol ":", body]]
    seq (keyword "select") (between "\x7b" "\x7d" (many clause))
  | _ => empty

/-- Expressions. -/
def expressionForm : Rule → Form Rule
  | expression c =>
    seq (rule (unary c)) (many (seq (onLine c.line (infixOperator c)) (rule (unary c))))
  | unary c => alt (seq prefixOperator (rule (unary c))) (rule (primary c))
  | primary c => seq (rule (operand c)) (many (onLine c.line (rule (suffix c))))
  | operand c =>
    let conversion := seq (symbol "(") (all [expr .inner, opt (symbol ","), symbol ")"])
    let opening := onLine c.line (symbol "(")
    let special := between "(" ")" (opt (all
      [typ false, many (seq (symbol ",") (expr .inner)), opt (symbol ",")]))
    firstOf
      [token (.any .number), token (.any .string), token (.any .rune),
        between "(" ")" (expr .inner),
        all [symbol "(", typ false, symbol ")", conversion],
        all [keyword "func", rule parameters, rule (result false), rule block],
        seq literalType (rule literalValue),
        all [ahead startsType, rule (simpleType false), conversion],
        keywords ["nil", "true", "false", "iota"],
        all [keywords ["new", "make"], ahead opening, special],
        seq (keywords ["new", "make"]) (notAhead opening),
        if c.literal then
          all [name operandKeywords, opt (onLine c.line (seq (symbol ".") word)),
            opt (onLine c.line (rule typeArguments)), onLine c.line (rule literalValue)]
        else notAhead empty,
        name operandKeywords]
  | suffix c =>
    firstOf
      [seq (symbol ".") word,
        all [symbol ".", symbol "(", barring (if c.guard then ["type"] else []) (typ false),
          symbol ")"],
        between "[" "]" (expr .inner),
        between "[" "]" (all [opt (expr .inner), symbol ":", opt (expr .inner)]),
        between "[" "]" (all
          [opt (expr .inner), symbol ":", expr .inner, symbol ":", expr .inner]),
        rule typeArguments,
        rule arguments]
  | arguments =>
    between "(" ")" (opt (separated (symbol ",") (seq (expr .inner) (opt (symbol "...")))))
  | literalValue =>
    between "\x7b" "\x7d" (seq (opt (commas false (rule element))) (opt (symbol ",")))
  | element =>
    let value := alt (rule literalValue) (expr .inner)
    seq value (opt (seq (symbol ":") value))
  | _ => empty

/-- What each rule says. -/
def form (r : Rule) : Form Rule :=
  match r with
  | topItem | topDeclaration | importSpec | consts _ | constSpec _ | vars _
  | varSpec _ | values | typeDeclaration | typeSpec => declarationForm r
  | typeParameters | type _ | simpleType _ | typeName _ | typeArguments | typeElement _ | result _
  | parameters | field | interfaceElement => typeForm r
  | block | statements _ | openStatement _ | closedStatement _ | simpleOpen _ _ | simple _ _
  | ifStatement | forStatement | switchStatement | selectStatement => statementForm r
  | expression _ | unary _ | primary _ | operand _ | suffix _ | arguments | literalValue
  | element => expressionForm r

/-- A whole file. -/
def topLevel : Form Rule :=
  all [many (rule topItem), opt (rule topDeclaration), finish]

end Rule

end Codebook.Go
