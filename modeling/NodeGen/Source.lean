/-! Schemas as they are declared: base types, variants and fields in order, each field with the text
of its type. Names may repeat at every level. -/

set_option autoImplicit false

namespace NodeGen

namespace Source

structure Field where
  name : String
  typeText : String
  deriving DecidableEq, Repr

structure Variant where
  name : String
  fields : List Field
  deriving DecidableEq, Repr

structure BaseType where
  name : String
  variants : List Variant
  deriving DecidableEq, Repr

end Source

/-- What one run works on: where the output goes, what it imports, and the declared types. -/
structure Document where
  package : Option String
  imports : List String
  types : List Source.BaseType
  deriving DecidableEq, Repr

namespace Document

def empty : Document :=
  ⟨none, [], []⟩

/-- The first occurrence of each text, in order. -/
def distinct : List String → List String
  | [] => []
  | first :: rest => first :: (distinct rest).filter (· ≠ first)

theorem mem_distinct {text : String} {texts : List String} :
    text ∈ distinct texts ↔ text ∈ texts := by
  induction texts with
  | nil => simp [distinct]
  | cons first rest ih =>
    by_cases same : text = first <;> simp [distinct, same, ih]

theorem nodup_distinct (texts : List String) : (distinct texts).Nodup := by
  induction texts with
  | nil => simp [distinct]
  | cons first rest ih =>
    simp only [distinct, List.nodup_cons, List.mem_filter]
    exact ⟨by simp, ih.filter _⟩

/-- The first package that is present stays, imports are united, types are appended. -/
def merge (document other : Document) : Document where
  package := document.package <|> other.package
  imports := distinct (document.imports ++ other.imports)
  types := document.types ++ other.types

/-- More base types behind those that are declared. -/
def append (document : Document) (types : List Source.BaseType) : Document :=
  { document with types := document.types ++ types }

def addVariantToLast (variant : Source.Variant) :
    List Source.BaseType → Option (List Source.BaseType)
  | [] => none
  | [last] => some [{ last with variants := last.variants ++ [variant] }]
  | first :: rest => (addVariantToLast variant rest).map (first :: ·)

/-- One more variant of the base type declared last, if there is one. -/
def addVariant (document : Document) (variant : Source.Variant) : Option Document :=
  (addVariantToLast variant document.types).map fun types => { document with types }

end Document

end NodeGen
