import NodeGen.Command.Run
import NodeGen.Query.Common
import NodeGen.Proofs.Checks
import Mathlib.Data.List.Induction

/-! Merging of several documents. It does not matter how documents that follow each other are
grouped on the way: the results of a query within a file and the files of a run make one sequence.
This holds whatever evaluates the queries. -/

set_option autoImplicit false

namespace NodeGen.Query

/-- The result is the text of the value. -/
def Gives (outcome : Except String String) (value : Json.Value) : Prop :=
  ∃ text, outcome = .ok text ∧ Json.parse text = .ok value

theorem results_eq_ok_iff {outcomes : List (Except String String)} {values : List Json.Value} :
    results outcomes = .ok values ↔ List.Forall₂ Gives outcomes values := by
  fun_induction results outcomes generalizing values with
  | case1 => simp
  | case2 details rest => simp [List.forall₂_cons_left_iff, Gives]
  | case3 text rest report refused => simp [List.forall₂_cons_left_iff, Gives, refused]
  | case4 text rest value parsed ih =>
    rw [Checks.map_eq_ok_iff, List.forall₂_cons_left_iff]
    constructor
    · rintro ⟨others, taken, rfl⟩
      exact ⟨value, others, ⟨text, rfl, parsed⟩, ih.mp taken, rfl⟩
    · rintro ⟨_, others, ⟨_, gave, parsedAlso⟩, related, rfl⟩
      obtain rfl := Except.ok.inj gave
      obtain rfl := Except.ok.inj (parsed.symm.trans parsedAlso)
      exact ⟨others, ih.mpr related, rfl⟩

/-- A query gives one value for each result, in order, and none if some result has no value. -/
theorem run_eq_ok_iff {evaluator : Evaluator} {filter : String} {input : Json.Value}
    {values : List Json.Value} :
    run evaluator filter input = .ok values ↔
      ∃ outcomes, evaluator filter input = .ok outcomes ∧ List.Forall₂ Gives outcomes values := by
  unfold run
  cases evaluator filter input with
  | error refusal => simp
  | ok outcomes => simp [results_eq_ok_iff]

end NodeGen.Query

namespace NodeGen.Document

section Imports

theorem distinct_append (front back : List String) :
    distinct (front ++ back) = distinct front ++ (distinct back).filter (· ∉ front) := by
  induction front with
  | nil => simp [distinct]
  | cons first rest ih =>
    rw [List.cons_append, distinct, ih, distinct, List.filter_append, List.filter_filter,
      List.cons_append]
    simp

/-- The library's list of first occurrences. -/
theorem distinct_eq_eraseDups (texts : List String) : distinct texts = texts.eraseDups := by
  induction texts using List.reverseRecOn with
  | nil => rfl
  | append_singleton texts last ih =>
    rw [distinct_append, List.eraseDups_append, ih]
    by_cases known : last ∈ texts <;>
      simp [distinct, List.removeAll, known, List.eraseDups_cons]

theorem distinct_of_nodup {texts : List String} (apart : texts.Nodup) : distinct texts = texts := by
  induction texts with
  | nil => rfl
  | cons first rest ih =>
    obtain ⟨fresh, others⟩ := List.nodup_cons.mp apart
    rw [distinct, ih others, List.filter_eq_self.mpr]
    intro text member
    have different : text ≠ first := by
      rintro rfl
      exact fresh member
    simpa using different

@[simp] theorem distinct_distinct (texts : List String) :
    distinct (distinct texts) = distinct texts :=
  distinct_of_nodup (nodup_distinct texts)

@[simp] theorem distinct_distinct_append (front back : List String) :
    distinct (distinct front ++ back) = distinct (front ++ back) := by
  simp [distinct_append, mem_distinct]

@[simp] theorem distinct_append_distinct (front back : List String) :
    distinct (front ++ distinct back) = distinct (front ++ back) := by
  simp [distinct_append]

end Imports

/-- Documents merged one after another, from the empty one on. -/
def mergeAll (documents : List Document) : Document :=
  documents.foldl merge .empty

theorem mergeAll_concat (documents : List Document) (last : Document) :
    mergeAll (documents ++ [last]) = (mergeAll documents).merge last := by
  rw [mergeAll, List.foldl_append]
  rfl

theorem mergeAll_eq (documents : List Document) :
    mergeAll documents =
      ⟨documents.findSome? (·.package), distinct (documents.flatMap (·.imports)),
        documents.flatMap (·.types)⟩ := by
  induction documents using List.reverseRecOn with
  | nil => rfl
  | append_singleton documents last ih =>
    rw [mergeAll_concat, ih, merge]
    simp [List.findSome?_append, List.flatMap_append]

theorem mergeAll_append (front back : List Document) :
    mergeAll (front ++ back) = (mergeAll front).merge (mergeAll back) := by
  simp [mergeAll_eq, merge, List.findSome?_append, List.flatMap_append]

theorem mergeAll_map_mergeAll (groups : List (List Document)) :
    mergeAll (groups.map mergeAll) = mergeAll groups.flatten := by
  induction groups using List.reverseRecOn with
  | nil => rfl
  | append_singleton groups last ih =>
    rw [List.map_append, List.map_singleton, mergeAll_concat, ih, List.flatten_append,
      List.flatten_singleton, mergeAll_append]

/-- The values that a selection takes from a file, in order. -/
def outputs (evaluator : Query.Evaluator) (tree : FileTree) (selection : Selection)
    (path : String) : Except LoadError (List Json.Value) := do
  let text ← (tree.read path).mapError (.read path)
  let value ← (Json.parse text).mapError (.parse path)
  let value ← selection.pointed path value
  selection.queried evaluator path value

theorem outputs_eq_ok_iff {evaluator : Query.Evaluator} {tree : FileTree} {selection : Selection}
    {filter : String} (asked : selection.query = some filter) {path : String}
    {values : List Json.Value} :
    outputs evaluator tree selection path = .ok values ↔
      ∃ text whole part outcomes, tree.read path = .ok text ∧ Json.parse text = .ok whole ∧
        selection.pointed path whole = .ok part ∧ evaluator filter part = .ok outcomes ∧
        List.Forall₂ Query.Gives outcomes values := by
  simp only [outputs, Selection.queried, asked, Checks.bind_eq_ok_iff, Checks.mapError_eq_ok_iff,
    Query.run_eq_ok_iff]
  constructor
  · rintro ⟨text, stored, whole, parsed, part, pointed, outcomes, gave, related⟩
    exact ⟨text, whole, part, outcomes, stored, parsed, pointed, gave, related⟩
  · rintro ⟨text, whole, part, outcomes, stored, parsed, pointed, gave, related⟩
    exact ⟨text, stored, whole, parsed, part, pointed, outcomes, gave, related⟩

theorem load_eq_mergeValues {selection : Selection} (narrowed : selection.isWhole = false)
    (evaluator : Query.Evaluator) (tree : FileTree) (path : String) :
    load evaluator tree selection path = (do
      let values ← outputs evaluator tree selection path
      mergeValues path .empty values) := by
  simp only [load, ofText, narrowed, outputs, bind_assoc, Bool.false_eq_true, if_false]

/-- A loop that takes one document after another and merges it into those before. -/
theorem loop_eq_ok_iff {Error Item : Type} {take : Item → Except Error Document}
    {loop : Document → List Item → Except Error Document}
    (stops : ∀ document, loop document [] = .ok document)
    (steps : ∀ document item rest, loop document (item :: rest) = (do
      let next ← take item
      loop (document.merge next) rest))
    {document result : Document} {items : List Item} :
    loop document items = .ok result ↔
      ∃ documents, List.Forall₂ (fun item next => take item = .ok next) items documents ∧
        documents.foldl merge document = result := by
  induction items generalizing document with
  | nil => simp [stops]
  | cons item rest ih =>
    simp only [steps, Checks.bind_eq_ok_iff, ih, List.forall₂_cons_left_iff]
    constructor
    · rintro ⟨next, taken, documents, others, folded⟩
      exact ⟨next :: documents, ⟨next, documents, taken, others, rfl⟩, folded⟩
    · rintro ⟨_, ⟨next, documents, taken, others, rfl⟩, folded⟩
      exact ⟨next, taken, documents, others, folded⟩

theorem mergeValues_eq_ok_iff {path : String} {result : Document} {values : List Json.Value} :
    mergeValues path .empty values = .ok result ↔
      ∃ documents, values.mapM ofValue = .ok documents ∧ mergeAll documents = result := by
  rw [@loop_eq_ok_iff _ _ (fun value => (ofValue value).mapError fun misfit =>
    .parse path misfit.report) (mergeValues path)]
  · simp only [Checks.mapError_eq_ok_iff, mergeAll, Checks.mapM_eq_ok_iff]
  · exact fun _ => rfl
  · intro document value rest
    rw [mergeValues]
    cases ofValue value <;> rfl

theorem loadAll_eq_ok_iff {evaluator : Query.Evaluator} {tree : FileTree} {selection : Selection}
    {result : Document} {paths : List String} :
    loadAll evaluator tree selection .empty paths = .ok result ↔
      ∃ documents, List.Forall₂ (fun path next => load evaluator tree selection path = .ok next)
          paths documents ∧
        mergeAll documents = result :=
  loop_eq_ok_iff (fun _ => rfl) (fun _ _ _ => rfl)

theorem mapM_flatten_eq_ok_iff {groups : List (List Json.Value)} {documents : List Document} :
    groups.flatten.mapM ofValue = .ok documents ↔
      ∃ results, List.Forall₂ (fun group result => group.mapM ofValue = .ok result) groups results ∧
        results.flatten = documents := by
  induction groups generalizing documents with
  | nil => simp [pure, Except.pure]
  | cons group rest ih =>
    simp only [List.flatten_cons, List.mapM_append, Checks.bind_eq_ok_iff, ih,
      List.forall₂_cons_left_iff]
    constructor
    · rintro ⟨result, here, _, ⟨results, others, rfl⟩, joined⟩
      exact ⟨result :: results, ⟨result, results, here, others, rfl⟩, Except.ok.inj joined⟩
    · rintro ⟨_, ⟨result, results, here, others, rfl⟩, rfl⟩
      exact ⟨result, here, results.flatten, ⟨results, others, rfl⟩, rfl⟩

section Narrowed

variable {evaluator : Query.Evaluator} {tree : FileTree} {selection : Selection}

theorem load_eq_ok_iff (narrowed : selection.isWhole = false) {path : String}
    {document : Document} :
    load evaluator tree selection path = .ok document ↔
      ∃ values documents, outputs evaluator tree selection path = .ok values ∧
        values.mapM ofValue = .ok documents ∧ mergeAll documents = document := by
  simp only [load_eq_mergeValues narrowed, Checks.bind_eq_ok_iff, mergeValues_eq_ok_iff]
  exact ⟨fun ⟨values, taken, documents, rest⟩ => ⟨values, documents, taken, rest⟩,
    fun ⟨values, documents, taken, rest⟩ => ⟨values, taken, documents, rest⟩⟩

theorem forall₂_load_iff (narrowed : selection.isWhole = false) {paths : List String}
    {documents : List Document} :
    List.Forall₂ (fun path next => load evaluator tree selection path = .ok next) paths documents ↔
      ∃ values groups,
        List.Forall₂ (fun path group => outputs evaluator tree selection path = .ok group)
          paths values ∧
        List.Forall₂ (fun group results => group.mapM ofValue = .ok results) values groups ∧
        groups.map mergeAll = documents := by
  induction paths generalizing documents with
  | nil => simp
  | cons path rest ih =>
    simp only [List.forall₂_cons_left_iff, ih]
    simp only [load_eq_ok_iff narrowed]
    constructor
    · rintro ⟨_, _, ⟨group, results, taken, fits, rfl⟩, ⟨values, groups, others, fit, rfl⟩, rfl⟩
      exact ⟨group :: values, results :: groups, ⟨group, values, taken, others, rfl⟩,
        .cons fits fit, rfl⟩
    · rintro ⟨_, _, ⟨group, values, taken, others, rfl⟩, fit, rfl⟩
      obtain ⟨results, groups, fits, rest, rfl⟩ := List.forall₂_cons_left_iff.mp fit
      exact ⟨_, _, ⟨group, results, taken, fits, rfl⟩, ⟨values, groups, others, rest, rfl⟩, rfl⟩

/-- All that the files of a run give makes one sequence. -/
theorem loadAll_narrowed_iff (narrowed : selection.isWhole = false) {paths : List String}
    {document : Document} :
    loadAll evaluator tree selection .empty paths = .ok document ↔
      ∃ values documents, paths.mapM (outputs evaluator tree selection) = .ok values ∧
        values.flatten.mapM ofValue = .ok documents ∧ mergeAll documents = document := by
  simp only [loadAll_eq_ok_iff, forall₂_load_iff narrowed, mapM_flatten_eq_ok_iff]
  constructor
  · rintro ⟨_, ⟨values, groups, taken, fit, rfl⟩, rfl⟩
    exact ⟨values, groups.flatten, Checks.mapM_eq_ok_iff.mpr taken, ⟨groups, fit, rfl⟩,
      (mergeAll_map_mergeAll groups).symm⟩
  · rintro ⟨values, _, taken, ⟨groups, fit, rfl⟩, rfl⟩
    exact ⟨_, ⟨values, groups, Checks.mapM_eq_ok_iff.mp taken, fit, rfl⟩,
      mergeAll_map_mergeAll groups⟩

theorem load_settings_iff {settings : InputSettings} (files : settings.builtin = none)
    (narrowed : settings.selection.isWhole = false) {document : Document} :
    settings.load evaluator tree = .ok document ↔
      ∃ paths values documents, resolvePatterns tree settings.inputs = .ok paths ∧
        paths.mapM (outputs evaluator tree settings.selection) = .ok values ∧
        values.flatten.mapM ofValue = .ok documents ∧ mergeAll documents = document := by
  simp only [InputSettings.load, files, Checks.bind_eq_ok_iff, loadAll_narrowed_iff narrowed]
  constructor
  · rintro ⟨paths, found, values, documents, rest⟩
    exact ⟨paths, values, documents, found, rest⟩
  · rintro ⟨paths, values, documents, found, rest⟩
    exact ⟨paths, found, values, documents, rest⟩

end Narrowed

/-- Merging knows documents by their order only, not by their groups, and neither does a run that
asks its files with a query: whatever evaluates it, what is loaded is one fold over all results. -/
theorem merging_keeps_order :
    (∀ documents, mergeAll documents =
      ⟨documents.findSome? (·.package), (documents.flatMap (·.imports)).eraseDups,
        documents.flatMap (·.types)⟩) ∧
    (∀ groups : List (List Document), mergeAll (groups.map mergeAll) = mergeAll groups.flatten) ∧
    (∀ front back, (mergeAll front).merge (mergeAll back) = mergeAll (front ++ back)) ∧
    ∀ (evaluator : Query.Evaluator) (settings : InputSettings) (tree : FileTree) (filter : String),
      settings.builtin = none → settings.query = some filter →
      (∀ path values, outputs evaluator tree settings.selection path = .ok values ↔
        ∃ text whole part outcomes, tree.read path = .ok text ∧ Json.parse text = .ok whole ∧
          settings.selection.pointed path whole = .ok part ∧
          evaluator filter part = .ok outcomes ∧ List.Forall₂ Query.Gives outcomes values) ∧
      (∀ document, settings.load evaluator tree = .ok document ↔
        ∃ paths values documents, resolvePatterns tree settings.inputs = .ok paths ∧
          paths.mapM (outputs evaluator tree settings.selection) = .ok values ∧
          values.flatten.mapM ofValue = .ok documents ∧ mergeAll documents = document) ∧
      ∀ paths, resolvePatterns tree settings.inputs = .ok paths →
        ∀ path ∈ paths, ∀ values, outputs evaluator tree settings.selection path = .ok values →
          ∀ value ∈ values, ∀ misfit, ofValue value = .error misfit →
            ∃ error, settings.load evaluator tree = .error error := by
  refine ⟨?_, mergeAll_map_mergeAll, fun front back => (mergeAll_append front back).symm, ?_⟩
  · intro documents
    rw [mergeAll_eq, distinct_eq_eraseDups]
  · intro evaluator settings tree filter files asked
    have narrowed : settings.selection.isWhole = false := by
      simp [InputSettings.selection, Selection.isWhole, asked]
    refine ⟨fun path values => outputs_eq_ok_iff asked,
      fun document => load_settings_iff files narrowed, ?_⟩
    intro paths found path member values taken value inside misfit refused
    cases loaded : settings.load evaluator tree with
    | error error => exact ⟨error, rfl⟩
    | ok document =>
      obtain ⟨others, groups, documents, foundAlso, takenAll, fit, -⟩ :=
        (load_settings_iff files narrowed).mp loaded
      obtain rfl : others = paths := Except.ok.inj (foundAlso.symm.trans found)
      obtain ⟨group, listed, takenHere⟩ :=
        (Checks.mapM_eq_ok_iff.mp takenAll).exists_right member
      obtain rfl : values = group := Except.ok.inj (taken.symm.trans takenHere)
      obtain ⟨next, -, fits⟩ := (Checks.mapM_eq_ok_iff.mp fit).exists_right
        (List.mem_flatten_of_mem listed inside)
      rw [refused] at fits
      cases fits

/-- Two files with three documents in them, and one where a document is missing. -/
def partsTree : FileTree :=
  ⟨[(⟨.above 0, ["a.json"]⟩,
      .file "[\x7b\"imports\":[\"x\",\"x\"]\x7d,\x7b\"package\":\"p\"\x7d]".toUTF8),
    (⟨.above 0, ["b.json"]⟩,
      .file "[[\"q\",[\"y\",\"x\"],\x7b\"E\":\x7b\x7d\x7d]]".toUTF8),
    (⟨.above 0, ["c.json"]⟩, .file "[[],true]".toUTF8)]⟩

def partsSettings (inputs : List String) : InputSettings :=
  ⟨none, none, some ".[]", inputs⟩

theorem merging_keeps_order_partsTree :
    (∃ paths values documents, resolvePatterns partsTree ["a.json", "b.json"] = .ok paths ∧
      paths.mapM (outputs Query.common partsTree ⟨none, some ".[]"⟩) = .ok values ∧
      values.flatten.mapM ofValue = .ok documents ∧
      mergeAll documents = ⟨some "p", ["x", "y"], [⟨"E", []⟩]⟩) ∧
    ∃ error, (partsSettings ["a.json", "c.json"]).load Query.common partsTree = .error error := by
  obtain ⟨-, -, -, runs⟩ := merging_keeps_order
  constructor
  · have loaded : (partsSettings ["a.json", "b.json"]).load Query.common partsTree =
        .ok ⟨some "p", ["x", "y"], [⟨"E", []⟩]⟩ := by decide +kernel
    exact ((runs Query.common (partsSettings _) partsTree ".[]" rfl rfl).2.1 _).mp loaded
  · have taken : outputs Query.common partsTree ⟨none, some ".[]"⟩ "c.json" =
        .ok [.array [], .bool true] := rfl
    exact (runs Query.common (partsSettings _) partsTree ".[]" rfl rfl).2.2 ["a.json", "c.json"] rfl
      "c.json" (by simp) _ taken (.bool true) (by simp) _ rfl

end NodeGen.Document
