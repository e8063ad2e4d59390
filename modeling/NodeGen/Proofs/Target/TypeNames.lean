import NodeGen.Proofs.Target.Scopes

/-! The names of the types that a unit declares. They are names of the schema as they stand, so a
word that the language keeps for itself can only be kept out by the check of the target. The check
for Java keeps all of them out; the one for Rust lets the words in small letters through. -/

set_option autoImplicit false

namespace NodeGen

def Name.hasCapital (name : String) : Bool :=
  name.toList.any Char.isUpper

namespace Target

open Outline

/-- Words that the language of the target reserves. -/
def words : Target → List String
  | .java _ _ => Java.keywords
  | .rust _ => Rust.keywords ++ Rust.pathKeywords

/-- The names of types in the outline of a unit, the constructors of an enum among them. -/
def typeNames : Target → BaseType → List Entry → List String
  | .java _ _, base, entries =>
    declared ["abstract class "] (within [] entries) ++
      declared ["interface ", "static class "] (within [Java.classHeader base] entries)
  | .rust _, base, entries =>
    declared ["pub enum ", "pub trait ", "pub struct "] (within [] entries) ++
      declared [""] (within [Rust.enumHeader base] entries)

theorem mem_typeNames (target : Target) {base : BaseType}
    (named : Name.isIdentifier base.name = true)
    (variants : ∀ variant ∈ base.variants, Name.isIdentifier variant.name = true) (name : String) :
    name ∈ target.typeNames base (ofSteps [] (target.steps base)) ↔
      name = base.name ∨ name = "Visitor" ∨ name ∈ base.variants.map (·.name) := by
  cases target with
  | java package imports =>
    rw [typeNames, steps, within_ofSteps_self, within_ofSteps_block,
      Java.declared_outer package imports named, Java.declared_inner package imports variants]
    simp
  | rust imports =>
    rw [typeNames, steps, within_ofSteps_self, within_ofSteps_block,
      Rust.declared_items imports named variants, Rust.declared_constructors imports variants]
    simp only [List.mem_append, List.mem_cons]
    tauto

/-- Of the words of the language, a declared type can only have one without a capital, and in Java
none at all. -/
theorem word_of_check {target : Target} {schema : Schema} (checked : target.check schema = .ok ())
    {base : BaseType} (member : base ∈ schema.baseTypes) {name : String}
    (declares : name = base.name ∨ name = "Visitor" ∨ name ∈ base.variants.map (·.name))
    (word : name ∈ target.words) :
    (∃ imports, target = .rust imports) ∧ Name.hasCapital name = false := by
  cases target with
  | java package imports =>
    have speakable := (Java.check_eq_ok_iff.mp checked).2 base member
    have notVisitor : "Visitor" ∉ Java.keywords := by decide
    exfalso
    obtain rfl | rfl | inVariants := declares
    · exact speakable.name word
    · exact notVisitor word
    · obtain ⟨variant, inside, rfl⟩ := List.mem_map.mp inVariants
      exact speakable.variants variant inside word
  | rust imports =>
    have free := (Rust.check_eq_ok_iff.mp checked).1 base member
    have small : ∀ word ∈ Rust.keywords ++ Rust.pathKeywords,
        word ∈ Rust.reserved ∨ Name.hasCapital word = false := by decide
    have notVisitor : "Visitor" ∉ Rust.keywords ++ Rust.pathKeywords := by decide
    refine ⟨⟨imports, rfl⟩, (small name word).resolve_left ?_⟩
    obtain rfl | rfl | inVariants := declares
    · exact free.1
    · exact absurd word notVisitor
    · obtain ⟨variant, inside, rfl⟩ := List.mem_map.mp inVariants
      exact free.2 variant inside

end Target

open Outline

/-- The types that a unit declares are those of its base type and of the variants, and the visitor.
A reserved word of the language is among them for Rust only, and then it is a word without a
capital. -/
theorem generate_typeNames {schema : Schema} {target : Target} {units : List CodeUnit}
    (generated : generate schema target = .ok units) :
    List.Forall₂ (fun base unit =>
        unit.source = Layout.render target.margin (target.steps base) ∧
        (schema.ScalarsUnbroken → target.Unbroken →
          read unit.source = ofSteps [] (target.steps base)) ∧
        ∀ name,
          (name ∈ target.typeNames base (ofSteps [] (target.steps base)) ↔
            name = base.name ∨ name = "Visitor" ∨ name ∈ base.variants.map (·.name)) ∧
          (name ∈ target.typeNames base (ofSteps [] (target.steps base)) → name ∈ target.words →
            (∃ imports, target = .rust imports) ∧ Name.hasCapital name = false))
      schema.baseTypes units := by
  obtain ⟨valid, checked, rfl⟩ := generate_eq_ok_iff.mp generated
  rw [List.forall₂_map_right_iff, List.forall₂_same]
  intro base member
  refine ⟨target.unitText_eq base, fun scalars copied => ?_, fun name => ?_⟩
  · exact Target.read_unitText copied (valid.readable scalars member)
  · have names := target.mem_typeNames (valid.identifiers base member)
      (fun variant inside => ((valid.bases base member).variants variant inside).identifier) name
    exact ⟨names, fun declares word => Target.word_of_check checked member (names.mp declares) word⟩

/-- Names that differ from words of the language in a capital only. -/
def capitalSchema : Schema :=
  ⟨[⟨"Type", [⟨"Match", [⟨"value", .base "Type"⟩]⟩, ⟨"While", []⟩]⟩]⟩

theorem generate_typeNames_capitalSchema :
    List.Forall₂ (fun base unit =>
        ∀ name ∈ (Target.rust []).typeNames base (read unit.source),
          name ∉ (Target.rust []).words)
      capitalSchema.baseTypes (capitalSchema.baseTypes.map (Target.rust []).unit) := by
  have capital : ∀ name ∈ ["Type", "Visitor", "Match", "While"],
      Name.hasCapital name = true := by decide
  have types := @generate_typeNames capitalSchema (.rust []) _ rfl
  rw [capitalSchema, List.map_singleton, List.forall₂_cons] at types ⊢
  obtain ⟨⟨-, outline, names⟩, -⟩ := types
  refine ⟨fun name declares word => ?_, .nil⟩
  have unbroken := outline (by simp [Schema.ScalarsUnbroken, TypeRef.ScalarsUnbroken])
    (by simp [Target.Unbroken])
  rw [unbroken] at declares
  have upper := capital name (by simpa using (names name).1.mp declares)
  rw [((names name).2 declares word).2] at upper
  cases upper

/-- Nothing but the reserved names keeps an identifier from being the name of a base type. -/
theorem Target.Rust.generate_lone {name : String} (identifier : Name.isIdentifier name = true)
    (free : name ∉ reserved) (imports : List String) :
    generate ⟨[⟨name, []⟩]⟩ (.rust imports) = .ok [(Target.rust imports).unit ⟨name, []⟩] := by
  have valid : Schema.Valid ⟨[⟨name, []⟩]⟩ :=
    ⟨by simpa using identifier, by simp, by simpa using ⟨by simp, by simp⟩⟩
  refine generate_eq_ok_iff.mpr ⟨valid, check_eq_ok_iff.mpr ⟨by simpa using free, by simp, ?_⟩, rfl⟩
  simpa using ⟨by simp, by simp⟩

/-- Every word of Rust without a capital is the name of a type in some unit. -/
theorem Target.Rust.exists_typeName_of_word {word : String}
    (known : word ∈ keywords ++ pathKeywords) (small : Name.hasCapital word = false)
    {imports : List String} (copied : ∀ name ∈ imports, NodeGen.Unbroken name) :
    ∃ unit, generate ⟨[⟨word, []⟩]⟩ (.rust imports) = .ok [unit] ∧
      word ∈ (Target.rust imports).typeNames ⟨word, []⟩ (read unit.source) := by
  have names : ∀ word ∈ keywords ++ pathKeywords, Name.isIdentifier word = true := by decide
  have capitals : ∀ name ∈ reserved, Name.hasCapital name = true := by decide
  have identifier := names word known
  have free : word ∉ reserved := by
    intro kept
    have upper := capitals word kept
    rw [small] at upper
    cases upper
  refine ⟨_, generate_lone identifier free imports, ?_⟩
  have outline := @Target.read_unitText (.rust imports) copied ⟨word, []⟩ ⟨identifier, by simp⟩
  rw [Target.unit, outline]
  exact (mem_typeNames (.rust imports) identifier (by simp) word).mpr (.inl rfl)

theorem typeNames_keyword :
    ∃ unit, generate ⟨[⟨"type", []⟩]⟩ (.rust []) = .ok [unit] ∧
      "type" ∈ (Target.rust []).typeNames ⟨"type", []⟩ (read unit.source) ∧
      "type" ∈ (Target.rust []).words := by
  obtain ⟨unit, generated, declares⟩ :=
    @Target.Rust.exists_typeName_of_word "type" (by decide) (by decide) [] (by simp)
  exact ⟨unit, generated, declares, by decide⟩

end NodeGen
