import NodeGen.Proofs.Source.Brackets

/-! Nested brackets. The counter takes a text exactly when its brackets come from the grammar of
nested pairs: there are none, or the first of them opens a pair around nested brackets and nested
brackets follow. What stands after open brackets is a row of such parts, with the closing bracket of
one open pair after each part but the last. -/

set_option autoImplicit false

namespace NodeGen.Source.TypeText

/-- The grammar of brackets that nest, with one constructor for each of its two rules. -/
inductive Nested : List Char → Prop
  | empty : Nested []
  | pair {inner rest : List Char} : Nested inner → Nested rest →
    Nested ('<' :: inner ++ '>' :: rest)

theorem Nested.append {first second : List Char} (nested : Nested first)
    (follows : Nested second) : Nested (first ++ second) := by
  induction nested with
  | empty => exact follows
  | @pair inner rest nested _ _ ih =>
    rw [List.append_assoc, List.cons_append]
    exact .pair nested ih

theorem closes_of_nested {text : List Char} (nested : Nested text) : closes 0 text = true := by
  induction nested with
  | empty => rfl
  | @pair inner rest _ _ inside after =>
    calc closes 0 ('<' :: inner ++ '>' :: rest)
        = closes (0 + 1) (inner ++ '>' :: rest) := by rw [List.cons_append, closes]
      _ = closes 1 ('>' :: rest) := closes_append inside 1 _
      _ = closes 0 rest := by rw [closes]
      _ = true := after

/-- The brackets of a text that closes `depth` pairs opened before it. -/
inductive Closing : Nat → List Char → Prop
  | settled {rest : List Char} : Nested rest → Closing 0 rest
  | close {depth : Nat} {inner rest : List Char} : Nested inner → Closing depth rest →
    Closing (depth + 1) (inner ++ '>' :: rest)

/-- The pair that a bracket opens joins the part after its end, whatever is still open there. -/
theorem Closing.opened {depth : Nat} {rest : List Char} (closing : Closing (depth + 1) rest) :
    Closing depth ('<' :: rest) := by
  cases closing with
  | @close _ inner after nested closing =>
    cases closing with
    | settled follows => exact .settled (.pair nested follows)
    | @close depth next last follows closing =>
      have regrouped : '<' :: (inner ++ '>' :: (next ++ '>' :: last)) =
          ('<' :: inner ++ '>' :: next) ++ '>' :: last := by simp
      rw [regrouped]
      exact .close (.pair nested follows) closing

theorem closing_of_closes {depth : Nat} {text : List Char} (closed : closes depth text = true) :
    Closing depth (brackets text) := by
  fun_induction closes depth text with
  | case1 depth =>
    obtain rfl : depth = 0 := by simpa using closed
    exact .settled .empty
  | case2 depth rest ih => exact (ih closed).opened
  | case3 rest => cases closed
  | case4 rest depth ih => exact .close .empty (ih closed)
  | case5 depth char rest notOpen notClose ih =>
    have plain : isBracket char = false := by simpa [isBracket] using ⟨notOpen, notClose⟩
    have erased : brackets (char :: rest) = brackets rest := by simp [brackets, plain]
    rw [erased]
    exact ih closed

theorem isBalanced_iff_nested {text : List Char} :
    isBalanced text = true ↔ Nested (brackets text) := by
  rw [isBalanced]
  constructor
  · intro closed
    cases closing_of_closes closed with
    | settled nested => exact nested
  · intro nested
    rw [← closes_brackets]
    exact closes_of_nested nested

/-- A text is balanced exactly when its brackets come from the grammar of nested pairs. It follows
that two balanced texts in a row are balanced, and a balanced text in a pair of brackets is. -/
theorem isBalanced_exact (text other : List Char) :
    (isBalanced text = true ↔ Nested (brackets text)) ∧
    (isBalanced text = true → isBalanced other = true → isBalanced (text ++ other) = true) ∧
    (isBalanced text = true → isBalanced ('<' :: text ++ ['>']) = true) := by
  refine ⟨isBalanced_iff_nested, fun first second => ?_, fun balanced => ?_⟩
  · rw [isBalanced_iff_nested] at first second ⊢
    rw [brackets_append]
    exact first.append second
  · rw [isBalanced_iff_nested] at balanced ⊢
    have wrapped : brackets ('<' :: text ++ ['>']) = '<' :: brackets text ++ ['>'] := by
      rw [brackets_append]
      rfl
    rw [wrapped]
    exact .pair balanced .empty

/-- Two generic types, one after the other and one inside a pair; brackets in the wrong order do not
nest, although there are as many of each. -/
theorem isBalanced_exact_genericTypes :
    Nested (brackets "Map<K, List<V>>".toList) ∧
      isBalanced ("Map<K, List<V>>".toList ++ "<int>".toList) = true ∧
      isBalanced ('<' :: "Map<K, List<V>>".toList ++ ['>']) = true ∧
      ¬Nested (brackets "a > b < c".toList) := by
  obtain ⟨nests, joins, wraps⟩ := isBalanced_exact "Map<K, List<V>>".toList "<int>".toList
  obtain ⟨ordered, -, -⟩ := isBalanced_exact "a > b < c".toList []
  exact ⟨nests.mp (by decide), joins (by decide) (by decide), wraps (by decide),
    mt ordered.mpr (by decide)⟩

end NodeGen.Source.TypeText
