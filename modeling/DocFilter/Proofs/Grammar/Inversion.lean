import DocFilter.Proofs.Grammar.Phrase

/-!
# What trees are put together from

A phrase that has a tree has trees for all its parts, and its own tree is put
together from them.  There is one statement for each form of phrase that has
parts.
-/

namespace DocFilter.Grammar.Phrase

variable {tree : JsonExpr}

theorem tree?_chain_eq_some
    {tier : Tier} {first : Phrase (.value (.operand tier))}
    {links : Phrase (.many (.link tier))} :
    (chain first links).tree? = some tree ↔
      ∃ left, first.tree? = some left ∧ ∃ trees, links.tree? = some trees ∧
        trees.foldl binaryTree left = tree := by
  change (first.tree?.bind fun left => links.tree?.bind fun trees =>
    some (trees.foldl binaryTree left)) = some tree ↔ _
  simp only [Option.bind_eq_some_iff, Option.some.injEq]

theorem tree?_link_eq_some
    {tier : Tier} {op : BinaryOp} {htier : op.tier = tier}
    {operand : Phrase (.value (.operand tier))} {pair : BinaryOp × JsonExpr} :
    (link op htier operand).tree? = some pair ↔
      ∃ right, operand.tree? = some right ∧ (op, right) = pair := by
  change (operand.tree?.bind fun right => some (op, right)) = some pair ↔ _
  simp only [Option.bind_eq_some_iff, Option.some.injEq]

theorem tree?_signed_eq_some
    {sign : Sign} {operand : Phrase (.value .negated)} :
    (signed sign operand).tree? = some tree ↔
      ∃ inner : JsonExpr, operand.tree? = some inner ∧
        .ofScalar (.unary sign.op inner.asScalar) = tree := by
  change (operand.tree?.bind fun inner : JsonExpr =>
    some (JsonExpr.ofScalar (.unary sign.op inner.asScalar))) = some tree ↔ _
  simp only [Option.bind_eq_some_iff, Option.some.injEq]

theorem tree?_accessor_eq_some
    {atom : Phrase (.value .atom)} {suffixes : Phrase (.many .suffix)} :
    (accessor atom suffixes).tree? = some tree ↔
      ∃ object, atom.tree? = some object ∧
        ∃ steps, suffixes.tree? = some steps ∧
          steps.foldlM (fun object step => step object) object = some tree := by
  change (atom.tree?.bind fun object => suffixes.tree?.bind fun steps =>
    steps.foldlM (fun object step => step object) object) = some tree ↔ _
  simp only [Option.bind_eq_some_iff]

theorem tree?_method_eq_some
    {callee : String} {arguments : Phrase (.items .argument)}
    {step : JsonExpr → Option JsonExpr} :
    (method callee arguments).tree? = some step ↔
      ∃ trees, arguments.tree? = some trees ∧
        (fun object => methodTree? object callee trees) = step := by
  change (arguments.tree?.bind fun trees =>
    some fun object => methodTree? object callee trees) = some step ↔ _
  simp only [Option.bind_eq_some_iff, Option.some.injEq]

theorem tree?_key_eq_some
    {inner : Phrase .expression} {step : JsonExpr → Option JsonExpr} :
    (key inner).tree? = some step ↔
      ∃ place : JsonExpr, inner.tree? = some place ∧
        (fun object => some (.item object place.asScalar)) = step := by
  change (inner.tree?.bind fun place : JsonExpr =>
    some fun object => some (.item object place.asScalar)) = some step ↔ _
  simp only [Option.bind_eq_some_iff, Option.some.injEq]

theorem tree?_call_eq_some
    {callee : String} {arguments : Phrase (.items .argument)} :
    (call callee arguments).tree? = some tree ↔
      ∃ trees, arguments.tree? = some trees ∧
        functionTree? callee trees = some tree :=
  Option.bind_eq_some_iff

theorem tree?_array_eq_some {elements : Phrase (.items .expression)} :
    (array elements).tree? = some tree ↔
      ∃ trees, elements.tree? = some trees ∧ .array trees = tree := by
  change (elements.tree?.bind fun trees =>
    some (JsonExpr.array trees)) = some tree ↔ _
  simp only [Option.bind_eq_some_iff, Option.some.injEq]

theorem tree?_plain_eq_some
    {body : Phrase .expression} {argument : ArgumentTree} :
    (plain body).tree? = some argument ↔
      ∃ inner, body.tree? = some inner ∧ .plain inner = argument := by
  change (body.tree?.bind fun inner =>
    some (ArgumentTree.plain inner)) = some argument ↔ _
  simp only [Option.bind_eq_some_iff, Option.some.injEq]

theorem tree?_arrow_eq_some
    {element : String} {body : Phrase .expression} {argument : ArgumentTree} :
    (arrow element body).tree? = some argument ↔
      ∃ inner, body.tree? = some inner ∧ .arrow element inner = argument := by
  change (body.tree?.bind fun inner =>
    some (ArgumentTree.arrow element inner)) = some argument ↔ _
  simp only [Option.bind_eq_some_iff, Option.some.injEq]

theorem tree?_items_eq_some
    {item : Category} {first : Phrase item}
    {others : Phrase (.many (.next item))} {trees : List item.Tree} :
    (items first others).tree? = some trees ↔
      ∃ head, first.tree? = some head ∧ ∃ tail, others.tree? = some tail ∧
        head :: tail = trees := by
  change (first.tree?.bind fun head => others.tree?.bind fun tail =>
    some (head :: tail)) = some trees ↔ _
  simp only [Option.bind_eq_some_iff, Option.some.injEq]

theorem tree?_cons_eq_some
    {part : Category} {first : Phrase part} {others : Phrase (.many part)}
    {trees : List part.Tree} :
    (cons first others).tree? = some trees ↔
      ∃ head, first.tree? = some head ∧ ∃ tail, others.tree? = some tail ∧
        head :: tail = trees := by
  change (first.tree?.bind fun head => others.tree?.bind fun tail =>
    some (head :: tail)) = some trees ↔ _
  simp only [Option.bind_eq_some_iff, Option.some.injEq]

end DocFilter.Grammar.Phrase
