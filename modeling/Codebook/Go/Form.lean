import Codebook.Go.Token

/-!
# Forms

A grammar is given by *forms*: a form says what may stand at a place of a list of tokens.  Reading a
form takes the tokens that fit it off the front and gives back trees.  Of two alternatives the first
one that fits is taken, and a repetition takes as much as it can.

Comments may stand before every token.  Line ends may as well, where a form does not ask for them;
`sameLine` asks that there be none.  Comments become leaves of the trees, and those at the front of
what is marked as a node are put before the node.

What is here: `Tree`, `Form`, and `Form.read`.
-/

set_option autoImplicit false

namespace Codebook.Go

/-! ## Trees -/

/-- What a node is. -/
inductive Label where
  /-- The name of the package. -/
  | package
  /-- A declaration of constants. -/
  | consts
  /-- A declaration of variables. -/
  | vars
  /-- The specifications of variables in parentheses. -/
  | varList
  /-- Names with their type and their values. -/
  | spec
  /-- A type. -/
  | type
  /-- An expression that gives a value. -/
  | value
  /-- Another part of a file. -/
  | item
deriving DecidableEq, Repr

/-- What has been read: tokens, and the parts that are marked. -/
inductive Tree where
  | leaf (t : Token)
  | node (label : Label) (children : List Tree)

namespace Tree

mutual

/-- The tokens of a tree. -/
def tokens : Tree → List Token
  | leaf t => [t]
  | node _ children => forestTokens children

/-- The tokens of some trees. -/
def forestTokens : List Tree → List Token
  | [] => []
  | t :: ts => tokens t ++ forestTokens ts

end

/-- The row on which a tree starts. -/
def row (t : Tree) : Nat :=
  match t.tokens.head? with
  | some first => first.row
  | none => 0

/-- The row on which a tree ends. -/
def endRow (t : Tree) : Nat :=
  match t.tokens.getLast? with
  | some last => last.endRow
  | none => 0

/-- The comment that a tree is, if it is one. -/
def comment? : Tree → Option Token
  | leaf t => if t.isComment then some t else none
  | node _ _ => none

/-- Whether a tree is a comment. -/
def isComment (t : Tree) : Bool := t.comment?.isSome

/-- Whether a tree is the end of a line. -/
def isLineEnd : Tree → Bool
  | leaf t => t.isLineEnd
  | node _ _ => false

/-- Whether a tree is a part of its own, or a comment, and not punctuation. -/
def isNamed : Tree → Bool
  | leaf t => t.isComment
  | node _ _ => true

/-- Marks some trees as one node; comments at the front stay before it. -/
def mark (label : Label) (forest : List Tree) : List Tree :=
  forest.takeWhile isComment ++ [node label (forest.dropWhile isComment)]

end Tree

/-! ## Forms -/

/-- What a single token may be. -/
inductive Terminal where
  /-- Any token of a sort. -/
  | any (kind : TokenKind)
  /-- The token of a sort with a given text. -/
  | exact (kind : TokenKind) (text : String)
deriving DecidableEq, Repr

/-- Whether a token is what is asked for. -/
def Terminal.fits : Terminal → Token → Bool
  | any kind, t => t.kind == kind
  | exact kind text, t => t.kind == kind && t.text == text

/-- A form over the rules of a grammar. -/
inductive Form (R : Type) where
  /-- Nothing. -/
  | empty
  /-- One token. -/
  | token (t : Terminal)
  /-- What a rule says. -/
  | rule (r : R)
  /-- One thing after another. -/
  | seq (a b : Form R)
  /-- The first of two things that fits. -/
  | alt (a b : Form R)
  /-- Something as often as it fits. -/
  | many (a : Form R)
  /-- Something marked as a node. -/
  | node (label : Label) (a : Form R)
  /-- Nothing, with no line end before the next token. -/
  | sameLine
  /-- Nothing, before something. -/
  | ahead (a : Form R)
  /-- Nothing, where something does not fit. -/
  | notAhead (a : Form R)
  /-- The end of a statement: a line end, a semicolon, or a null character. -/
  | terminator
  /-- The end of the text. -/
  | finish

namespace Form

/-! ## Reading -/

/-- The comments before the next token, with the line ends among them passed over or not, and what
is left. -/
def skip (lineEnds : Bool) : List Token → List Tree × List Token
  | [] => ([], [])
  | t :: ts =>
    if t.isComment then
      let (comments, rest) := skip lineEnds ts
      (.leaf t :: comments, rest)
    else if t.isLineEnd && lineEnds then skip lineEnds ts
    else ([], t :: ts)

/-- Whether a token ends a statement. -/
def endsStatement (t : Token) : Bool :=
  t.isLineEnd || (t.kind == .symbol && (t.text == ";" || t.text == "\x00"))

/-- Takes one token that satisfies `p`. -/
def take (lineEnds : Bool) (p : Token → Bool) (ts : List Token) :
    Option (List Tree × List Token) :=
  match skip lineEnds ts with
  | (comments, t :: rest) => if p t then some (comments ++ [.leaf t], rest) else none
  | (_, []) => none

/-- Takes what fits a form, where the reading may go so deep at most. -/
def readWith {R : Type} (grammar : R → Form R) :
    Nat → Form R → List Token → Option (List Tree × List Token)
  | 0, _, _ => none
  | _ + 1, .empty, ts => some ([], ts)
  | _ + 1, .token t, ts => take true t.fits ts
  | n + 1, .rule r, ts => readWith grammar n (grammar r) ts
  | n + 1, .seq a b, ts =>
    match readWith grammar n a ts with
    | none => none
    | some (trees, rest) =>
      match readWith grammar n b rest with
      | none => none
      | some (more, rest) => some (trees ++ more, rest)
  | n + 1, .alt a b, ts =>
    match readWith grammar n a ts with
    | some r => some r
    | none => readWith grammar n b ts
  | n + 1, .many a, ts =>
    match readWith grammar n a ts with
    | none => some ([], ts)
    | some (trees, rest) =>
      if rest.length < ts.length then
        match readWith grammar n (.many a) rest with
        | none => none
        | some (more, rest) => some (trees ++ more, rest)
      else some ([], ts)
  | n + 1, .node label a, ts =>
    match readWith grammar n a ts with
    | none => none
    | some (trees, rest) => some (Tree.mark label trees, rest)
  | _ + 1, .sameLine, ts =>
    match (skip false ts).2 with
    | t :: _ => if t.isLineEnd then none else some ([], ts)
    | [] => some ([], ts)
  | n + 1, .ahead a, ts => (readWith grammar n a ts).map fun _ => ([], ts)
  | n + 1, .notAhead a, ts =>
    match readWith grammar n a ts with
    | some _ => none
    | none => some ([], ts)
  | _ + 1, .terminator, ts => take false endsStatement ts
  | _ + 1, .finish, ts =>
    match skip true ts with
    | (comments, []) => some (comments, [])
    | (_, _ :: _) => none

/-- How deep the reading of a list of tokens may go.  Between two tokens no grammar without left
recursion goes deeper than it has forms. -/
def depthFor (ts : List Token) : Nat := 256 * (ts.length + 4)

/-- Takes what fits a form off the front of a list of tokens. -/
def read {R : Type} (grammar : R → Form R) (f : Form R) (ts : List Token) :
    Option (List Tree × List Token) :=
  readWith grammar (depthFor ts) f ts

/-! ## Making forms -/

section Making

variable {R : Type}

/-- Several things, one after another. -/
def all : List (Form R) → Form R
  | [] => empty
  | [f] => f
  | f :: fs => seq f (all fs)

/-- The first of several things that fits; of none, nothing fits. -/
def firstOf : List (Form R) → Form R
  | [] => notAhead empty
  | [f] => f
  | f :: fs => alt f (firstOf fs)

/-- Something or nothing. -/
def opt (f : Form R) : Form R := alt f empty

/-- A keyword. -/
def keyword (s : String) : Form R := token (.exact .word s)

/-- A symbol. -/
def symbol (s : String) : Form R := token (.exact .symbol s)

/-- Any word. -/
def word : Form R := token (.any .word)

/-- One of several keywords. -/
def keywords : List String → Form R
  | [] => notAhead empty
  | [s] => keyword s
  | s :: ss => alt (keyword s) (keywords ss)

/-- A form that fits only if the next token is none of some keywords. -/
def barring (ks : List String) (f : Form R) : Form R := seq (notAhead (keywords ks)) f

/-- A form that, if `line` is set, fits only before the end of the line. -/
def onLine (line : Bool) (f : Form R) : Form R := if line then seq sameLine f else f

/-- One of several symbols. -/
def symbols : List String → Form R
  | [] => notAhead empty
  | [s] => symbol s
  | s :: ss => alt (symbol s) (symbols ss)

/-- Things separated by something, and the separator once more at the end or not. -/
def separated (separator f : Form R) : Form R :=
  all [f, many (seq separator f), opt separator]

/-- Things separated by commas, of which each has to be on the line of what is before it if `line`
is set. -/
def commas (line : Bool) (f : Form R) : Form R := seq f (many (seq (onLine line (symbol ",")) f))

/-- Things between parentheses or other brackets. -/
def between (opening closing : String) (f : Form R) : Form R :=
  all [symbol opening, f, symbol closing]

end Making

end Form

end Codebook.Go
