import DocFilter.Expr.Basic
import DocFilter.Token.Basic

/-!
# Phrases

The grammar of expressions as data: a phrase is a derivation of the grammar,
and its tokens are the words that it derives.

```text
expression := comparison (('&&' | '||') comparison)*
comparison := negated (('>' | '>=' | '==' | '<' | '<=' | '!=') negated)*
negated    := ('!' | '-') negated | atom suffix*
suffix     := '.' NAME ['(' arguments ')'] | '[' expression ']'
atom       := TEXT | NUMBER | NAME ['(' arguments ')'] | '(' expression ')' | '[' elements ']'
elements   := [expression (',' expression)*]
arguments  := [argument (',' argument)*]
argument   := NAME '=>' expression | expression
```

A phrase has a tree only if every call in it keeps to the table of functions
and methods.  Nothing in this file refers to the reader.
-/

namespace DocFilter.Grammar

/-! ## Derivations -/

/-- The kinds of phrases that stand for a JSON value. -/
inductive Level where
  | chain (tier : Tier)
  | negated
  | atom

/-- What the operators of a tier stand between. -/
def Level.operand : Tier → Level
  | .logical => .chain .comparison
  | .comparison => .negated

/-- The kinds of phrases. -/
inductive Category where
  | value (level : Level)
  /-- An operator of a tier and the operand behind it. -/
  | link (tier : Tier)
  | suffix
  | argument
  /-- Phrases with commas between them, or none. -/
  | items (item : Category)
  /-- A comma and the phrase behind it. -/
  | next (item : Category)
  /-- Any number of phrases. -/
  | many (part : Category)

/-- The kind of a whole expression. -/
abbrev Category.expression : Category := .value (.chain .logical)

/-- The signs that can stand before an operand. -/
inductive Sign where
  | exclamation
  | minus

/-- A derivation of the grammar. -/
inductive Phrase : Category → Type where
  | chain {tier : Tier}
      (first : Phrase (.value (.operand tier)))
        (links : Phrase (.many (.link tier))) :
      Phrase (.value (.chain tier))
  | link {tier : Tier}
      (op : BinaryOp) (tier_eq : op.tier = tier)
        (operand : Phrase (.value (.operand tier))) :
      Phrase (.link tier)
  | signed (sign : Sign) (operand : Phrase (.value .negated)) :
    Phrase (.value .negated)
  | accessor (atom : Phrase (.value .atom))
    (suffixes : Phrase (.many .suffix)) :
      Phrase (.value .negated)
  | property (label : String) : Phrase .suffix
  | method (callee : String) (arguments : Phrase (.items .argument)) :
    Phrase .suffix
  | key (inner : Phrase .expression) : Phrase .suffix
  | literal (value : Literal) : Phrase (.value .atom)
  | name (text : String) : Phrase (.value .atom)
  | call (callee : String) (arguments : Phrase (.items .argument)) :
    Phrase (.value .atom)
  | group (inner : Phrase .expression) : Phrase (.value .atom)
  | array (elements : Phrase (.items .expression)) : Phrase (.value .atom)
  | plain (body : Phrase .expression) : Phrase .argument
  | arrow (element : String) (body : Phrase .expression) : Phrase .argument
  | noItems {item : Category} : Phrase (.items item)
  | items {item : Category}
      (first : Phrase item) (others : Phrase (.many (.next item))) :
        Phrase (.items item)
  | next {item : Category} (phrase : Phrase item) : Phrase (.next item)
  | nil {part : Category} : Phrase (.many part)
  | cons {part : Category} (first : Phrase part)
    (others : Phrase (.many part)) :
      Phrase (.many part)

/-! ## Tokens -/

/-- The token of a sign. -/
def Sign.token : Sign → Token
  | .exclamation => .exclamation
  | .minus => .minus

/-- The operation that a sign stands for. -/
def Sign.op : Sign → UnaryOp
  | .exclamation => .not
  | .minus => .minus

/-- The tokens that a phrase derives. -/
def Phrase.tokens : {category : Category} → Phrase category → List Token
  | _, .chain first links => first.tokens ++ links.tokens
  | _, .link op _ operand => .operator op :: operand.tokens
  | _, .signed sign operand => sign.token :: operand.tokens
  | _, .accessor atom suffixes => atom.tokens ++ suffixes.tokens
  | _, .property label => [.dot, .name label]
  | _, .method callee arguments =>
    .dot :: .name callee :: .openParen :: (arguments.tokens ++ [.closeParen])
  | _, .key inner => .openBracket :: (inner.tokens ++ [.closeBracket])
  | _, .literal value => [.literal value]
  | _, .name text => [.name text]
  | _, .call callee arguments =>
    .name callee :: .openParen :: (arguments.tokens ++ [.closeParen])
  | _, .group inner => .openParen :: (inner.tokens ++ [.closeParen])
  | _, .array elements => .openBracket :: (elements.tokens ++ [.closeBracket])
  | _, .plain body => body.tokens
  | _, .arrow element body => .name element :: .arrow :: body.tokens
  | _, .noItems => []
  | _, .items first others => first.tokens ++ others.tokens
  | _, .next phrase => .comma :: phrase.tokens
  | _, .nil => []
  | _, .cons first others => first.tokens ++ others.tokens

/-! ## Trees -/

/-- What an argument of a call stands for. -/
inductive ArgumentTree where
  | plain (body : JsonExpr)
  | arrow (element : String) (body : JsonExpr)

/-- What the phrases of a kind stand for.  A suffix stands for a step from one
expression to another. -/
abbrev Category.Tree : Category → Type
  | .value _ => JsonExpr
  | .link _ => BinaryOp × JsonExpr
  | .suffix => JsonExpr → Option JsonExpr
  | .argument => ArgumentTree
  | .items item => List item.Tree
  | .next item => item.Tree
  | .many part => List part.Tree

/-- What the call of a function stands for: `like` and `glob` take two
expressions. -/
def functionTree? (name : String) : List ArgumentTree → Option JsonExpr
  | [.plain subject, .plain pattern] =>
    if name = "like" then
      some (.ofScalar (.matching .like subject.asScalar pattern.asScalar))
    else if name = "glob" then
      some (.ofScalar (.matching .glob subject.asScalar pattern.asScalar))
    else none
  | _ => none

/-- What the call of a method on an object stands for: `toLowerCase` and
`toUpperCase` take nothing, `includes` takes an expression, and `some` and
`every` take an arrow. -/
def methodTree? (object : JsonExpr) (name : String) :
    List ArgumentTree → Option JsonExpr
  | [] =>
    if name = "toLowerCase" then
      some (.ofScalar (.unary .lower object.asScalar))
    else if name = "toUpperCase" then
      some (.ofScalar (.unary .upper object.asScalar))
    else none
  | [.plain needle] =>
    if name = "includes" then
      some (.ofScalar (.includes object needle.asScalar)) else none
  | [.arrow element body] =>
    if name = "some" then
      some (.ofScalar (.quantified .any object element body.asScalar))
    else if name = "every" then
      some (.ofScalar (.quantified .all object element body.asScalar))
    else none
  | _ => none

/-- A property that is not called.  The property called `length` is the length
of the object. -/
def propertyTree (object : JsonExpr) (label : String) : JsonExpr :=
  if label = "length" then .ofScalar (.length object) else .path object [label]

/-- Two expressions with an operator between them. -/
def binaryTree (left : JsonExpr) (link : BinaryOp × JsonExpr) : JsonExpr :=
  .ofScalar (.binary link.1 left.asScalar link.2.asScalar)

/-- What a phrase stands for.  There is nothing if a call does not keep to the
tables. -/
def Phrase.tree? : {category : Category} → Phrase category →
    Option category.Tree
  | _, .chain first links => do
    let left ← first.tree?
    let links : List (BinaryOp × JsonExpr) ← links.tree?
    return links.foldl binaryTree left
  | _, .link op _ operand => do
    let operand ← operand.tree?
    return (op, operand)
  | _, .signed sign operand => do
    let operand : JsonExpr ← operand.tree?
    return JsonExpr.ofScalar (.unary sign.op operand.asScalar)
  | _, .accessor atom suffixes => do
    let object : JsonExpr ← atom.tree?
    let steps : List (JsonExpr → Option JsonExpr) ← suffixes.tree?
    steps.foldlM (fun object step => step object) object
  | _, .property label => some fun object => some (propertyTree object label)
  | _, .method callee arguments => do
    let arguments : List ArgumentTree ← arguments.tree?
    return fun object => methodTree? object callee arguments
  | _, .key inner => do
    let inner : JsonExpr ← inner.tree?
    return fun object => some (.item object inner.asScalar)
  | _, .literal value => some (JsonExpr.ofScalar (.literal value))
  | _, .name text => some (JsonExpr.name text)
  | _, .call callee arguments => do
    let arguments : List ArgumentTree ← arguments.tree?
    functionTree? callee arguments
  | _, .group inner => inner.tree?
  | _, .array elements => do
    let elements : List JsonExpr ← elements.tree?
    return JsonExpr.array elements
  | _, .plain body => do
    let body : JsonExpr ← body.tree?
    return ArgumentTree.plain body
  | _, .arrow element body => do
    let body : JsonExpr ← body.tree?
    return ArgumentTree.arrow element body
  | _, .noItems => some []
  | _, .items first others => do
    let first ← first.tree?
    let others ← others.tree?
    return first :: others
  | _, .next phrase => phrase.tree?
  | _, .nil => some []
  | _, .cons first others => do
    let first ← first.tree?
    let others ← others.tree?
    return first :: others

/-! ## Heights -/

/-- The height that is reached by a phrase together with something of height
`below`.  A link and a suffix are put on top of that and take one level;
everything else stands beside it. -/
def Phrase.heightOver : {category : Category} → Phrase category → Nat → Nat
  | _, .chain first links, below =>
    max below (links.heightOver (first.heightOver 0))
  | _, .link _ _ operand, below => operand.heightOver below + 1
  | _, .signed _ operand, below => max below (operand.heightOver 0 + 1)
  | _, .accessor atom suffixes, below =>
    max below (suffixes.heightOver (atom.heightOver 0) + 1)
  | _, .property _, below => below + 1
  | _, .method _ arguments, below => arguments.heightOver below + 1
  | _, .key inner, below => inner.heightOver below + 1
  | _, .literal _, below => below
  | _, .name _, below => below
  | _, .call _ arguments, below => arguments.heightOver below
  | _, .group inner, below => inner.heightOver below
  | _, .array elements, below => elements.heightOver below
  | _, .plain body, below => body.heightOver below
  | _, .arrow _ body, below => body.heightOver below
  | _, .noItems, below => below
  | _, .items first others, below => others.heightOver (first.heightOver below)
  | _, .next phrase, below => phrase.heightOver below
  | _, .nil, below => below
  | _, .cons first others, below => others.heightOver (first.heightOver below)

/-- The height of a phrase. -/
def Phrase.height {category : Category} (phrase : Phrase category) : Nat :=
  phrase.heightOver 0

end DocFilter.Grammar
