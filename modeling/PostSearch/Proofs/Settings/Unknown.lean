import PostSearch.Libraries.Toml.Document
import PostSearch.Proofs.Settings.Variables

/-! # Names that are no settings

Entries of settings files and variables count if their names are known, and the names of actions and
of inner parts are known as well. Most of these are as good as ignored, since nothing reads what is
stored under them. But a value under the name of merging, or of taking over the environment, stands
in the place of an action that gathering has yet to carry out; sealed names are refused; and the text
of a variable is refused if a document gave its name a number and the text is no numeral.

Main statement: `map_value_load_declared` says that leaving out everything that names no field
changes what gathering comes to exactly where one of these is met. -/

namespace PostSearch.Settings

open Toml (Library)

variable {V : Type} [Library V] {name : String} {files files' : Files} {environment : Environment}
  {named : Option Path} {entries : Toml.Document V} {e : Error}

/-! ### Leaving names out -/

omit [Library V] in
/-- The entries of a document that name fields. -/
def declaredPart (d : Toml.Document V) : Toml.Document V :=
  d.filter fun x => isDeclared x.1

/-- The environment without variables that stand for settings and name no field. -/
def declaredVariables (environment : Environment) : Environment :=
  environment.filter fun v => (settingOf? v.1).all isDeclared

theorem settingTexts_declaredVariables (environment : Environment) :
    settingTexts (declaredVariables environment) =
      (settingTexts environment).filter fun x => isDeclared x.1 := by
  rw [settingTexts, declaredVariables, List.filterMap_filter, settingTexts, List.filter_filterMap]
  refine List.filterMap_congr fun v _ => ?_
  cases settingOf? v.1 with
  | none => rfl
  | some name => cases h : isDeclared name <;> simp [Option.filter, h]

/-! ### Documents without other names -/

variable (V) in
/-- In the second files every document that gathering may read has lost its entries that name no
field, as it does where the keys are left out of the file. -/
def IsPruned (files files' : Files) (named : Option Path) : Prop :=
  ∀ paths ∈ fileGroups named, ∀ path ∈ paths,
    documentAt? V files' path = (documentAt? V files path).map (Option.map declaredPart)

theorem firstDocument?_pruned : ∀ {paths : List Path}, (∀ path ∈ paths,
    documentAt? V files' path = (documentAt? V files path).map (Option.map declaredPart)) →
      firstDocument? V files' paths = (firstDocument? V files paths).map (Option.map declaredPart)
  | [], _ => rfl
  | path :: paths, h => by
      obtain ⟨hpath, hpaths⟩ := List.forall_mem_cons.1 h
      rw [firstDocument?, firstDocument?, hpath]
      rcases documentAt? V files path with e | _ | d
      · rfl
      · exact firstDocument?_pruned hpaths
      · rfl

theorem documents_pruned : ∀ {groups : List (List Path)}, (∀ paths ∈ groups, ∀ path ∈ paths,
    documentAt? V files' path = (documentAt? V files path).map (Option.map declaredPart)) →
      documents V files' groups =
        ((documents V files groups).1.map declaredPart, (documents V files groups).2)
  | [], _ => rfl
  | paths :: groups, h => by
      obtain ⟨hpaths, hgroups⟩ := List.forall_mem_cons.1 h
      have ih := documents_pruned hgroups
      rw [documents, documents, firstDocument?_pruned hpaths]
      rcases firstDocument? V files paths with e | _ | d
      · rfl
      · exact ih
      · change (declaredPart d :: (documents V files' groups).1, (documents V files' groups).2) = _
        rw [ih]
        rfl

omit [Library V] in
theorem isDeclared_of_mem_declaredParts (ds : List (Toml.Document V)) :
    ∀ d ∈ ds.map declaredPart, ∀ x ∈ d, isDeclared x.1 = true := by
  intro d hd x hx
  obtain ⟨d', -, rfl⟩ := List.mem_map.1 hd
  exact (List.mem_filter.1 hx).2

/-! ### Texts for declared names -/

theorem given?_declaredPart (h : isDeclared name = true) (entries : Toml.Document V) :
    given? (declaredPart entries) name = given? entries name :=
  congrArg (Option.or · _) (latest?_filter h entries)

theorem refusal?_declaredPart {x : String × String} (h : isDeclared x.1 = true) :
    refusal? (declaredPart entries) x = refusal? entries x := by
  rw [refusal?, refusal?, given?_declaredPart h]

theorem conversion?_declaredPart {x : String × String} (h : isDeclared x.1 = true) :
    conversion? (declaredPart entries) x = conversion? entries x := by
  rw [conversion?, conversion?, given?_declaredPart h]

theorem firstRefusal_declaredPart {xs : List (String × String)}
    (h : ∀ x ∈ xs, isDeclared x.1 = true) :
    firstRefusal (declaredPart entries) xs = firstRefusal entries xs := by
  rw [firstRefusal, firstRefusal, ← List.head?_filterMap, ← List.head?_filterMap]
  exact congrArg List.head? (List.filterMap_congr fun x hx => refusal?_declaredPart (h x hx))

theorem filter_conversion? (entries : Toml.Document V) (x : String × String) :
    (conversion? entries x).filter (fun y => isDeclared y.1) =
      if isDeclared x.1 then conversion? entries x else none := by
  cases hconversion : conversion? entries x with
  | none => split <;> rfl
  | some y =>
      rw [← conversion?_name hconversion]
      rfl

theorem declaredPart_conversions (entries : Toml.Document V) (xs : List (String × String)) :
    declaredPart (xs.filterMap (conversion? entries)) =
      (xs.filter fun x => isDeclared x.1).filterMap (conversion? (declaredPart entries)) := by
  rw [declaredPart, List.filter_filterMap, List.filterMap_filter]
  refine List.filterMap_congr fun x _ => ?_
  rw [filter_conversion?]
  by_cases hx : isDeclared x.1 = true
  · rw [if_pos hx, if_pos hx, conversion?_declaredPart hx]
  · rw [if_neg hx, if_neg hx]

/-! ### Reasons of failures -/

theorem not_isForeign_of_documentAt? {path : Path} (h : documentAt? V files path = .error e) :
    ¬ e.IsForeign := by
  rw [documentAt?] at h
  cases hread : files.read? path with
  | error e' =>
      rw [hread] at h
      cases h
      exact id
  | ok text? =>
      rw [hread] at h
      cases text? with
      | none => cases h
      | some text =>
          change ((Library.read text : Except Toml.Error (Toml.Document V)).mapError .file >>=
            fun d => pure (some d)) = .error e at h
          cases hparse : (Library.read text : Except Toml.Error (Toml.Document V)) with
          | error e' =>
              rw [hparse] at h
              cases h
              exact id
          | ok d =>
              rw [hparse] at h
              cases h

theorem not_isForeign_of_firstDocument? : ∀ {paths : List Path},
    firstDocument? V files paths = .error e → ¬ e.IsForeign
  | [], h => by cases h
  | path :: paths, h => by
      rw [firstDocument?] at h
      cases hpath : documentAt? V files path with
      | error e' =>
          rw [hpath] at h
          cases h
          exact not_isForeign_of_documentAt? hpath
      | ok d? =>
          rw [hpath] at h
          cases d? with
          | none => exact not_isForeign_of_firstDocument? h
          | some d => cases h

theorem not_isForeign_of_documents : ∀ {groups : List (List Path)},
    (documents V files groups).2 = some e → ¬ e.IsForeign
  | [], h => by cases h
  | paths :: groups, h => by
      rw [documents] at h
      cases hpaths : firstDocument? V files paths with
      | error e' =>
          rw [hpaths] at h
          cases h
          exact not_isForeign_of_firstDocument? hpaths
      | ok d? =>
          rw [hpaths] at h
          cases d? <;> exact not_isForeign_of_documents h

theorem not_isForeign_of_convert {r : Option V} {text : String}
    (h : (convert r text : Except Error V) = .error e) : ¬ e.IsForeign := by
  have hread : readAs (r.map Library.kindName) text = .error e := map_eq_error.1 h
  unfold readAs at hread
  split at hread
  · cases hread
  split at hread
  · split at hread
    · cases hread
    · cases hread
      exact id
  · cases hread

/-- A text for a field is refused for being no numeral. -/
theorem not_isForeign_of_firstRefusal {xs : List (String × String)}
    (h : ∀ x ∈ xs, isDeclared x.1 = true) (he : firstRefusal entries xs = some e) :
    ¬ e.IsForeign := by
  obtain ⟨x, hx, hrefusal⟩ := List.exists_of_findSome?_eq_some he
  rw [refusal?, if_neg (not_mem_sealedNames_of_isDeclared (h x hx))] at hrefusal
  split at hrefusal
  · cases hconvert : convert (given? entries x.1) x.2 with
    | ok v => simp only [hconvert, reduceCtorEq] at hrefusal
    | error e' =>
        simp only [hconvert] at hrefusal
        cases hrefusal
        exact not_isForeign_of_convert hconvert
  · cases hrefusal

/-! ### What is left out makes no difference -/

/-- Nothing that names no field stands in the way of gathering. -/
structure IsUndisturbed (V : Type) [Library V] (files : Files) (environment : Environment)
    (named : Option Path) : Prop where
  /-- No name is sealed, and only the last document has a value in the place of merging. -/
  orderly : IsOrderly (documents V files (fileGroups named)).1
  /-- No document has a value in the place of taking over the environment. -/
  free : (documents V files (fileGroups named)).2 = none →
    ∀ d ∈ (documents V files (fileGroups named)).1, ∀ x ∈ d, x.1 ≠ Action.applyEnvironment.name
  /-- The first text that is refused, if any, is refused for the reason that there would be without
  the texts for other names. -/
  refused : (documents V files (fileGroups named)).2 = none →
    firstRefusal (documents V files (fileGroups named)).1.flatten (settingTexts environment) =
      firstRefusal (documents V files (fileGroups named)).1.flatten
        (settingTexts (declaredVariables environment))

theorem isUndisturbed_iff {ds : List (Toml.Document V)} {fault : Option Error}
    (hread : documents V files (fileGroups named) = (ds, fault)) :
    IsUndisturbed V files environment named ↔ IsOrderly ds ∧ (fault = none →
      latest? Action.applyEnvironment.name ds.flatten = none ∧
        firstRefusal ds.flatten (settingTexts environment) =
          firstRefusal ds.flatten (settingTexts (declaredVariables environment))) := by
  constructor
  · intro h
    obtain ⟨horderly, hfree, hrefused⟩ := h
    rw [hread] at horderly hfree hrefused
    refine ⟨horderly, fun hfault => ⟨latest?_eq_none.2 fun x hx => ?_, hrefused hfault⟩⟩
    obtain ⟨d, hd, hx⟩ := List.mem_flatten.1 hx
    exact hfree hfault d hd x hx
  · rintro ⟨horderly, h⟩
    constructor <;> rw [hread]
    · exact horderly
    · intro hfault d hd x hx
      exact latest?_eq_none.1 (h hfault).1 x (List.mem_flatten.2 ⟨d, hd, hx⟩)
    · exact fun hfault => (h hfault).2

omit [Library V] in
theorem flatten_declaredParts (ds : List (Toml.Document V)) :
    (ds.map declaredPart).flatten = declaredPart ds.flatten :=
  List.filter_flatten.symm

theorem isDeclared_of_mem_texts {x : String × String}
    (hx : x ∈ settingTexts (declaredVariables environment)) : isDeclared x.1 = true := by
  rw [settingTexts_declaredVariables] at hx
  exact (List.mem_filter.1 hx).2

/-- Fields have the same last values without all that names no field. -/
theorem latest?_field_declaredPart (entries : Toml.Document V) (environment : Environment)
    (f : Field) :
    latest? f.name (declaredPart entries ++
        (settingTexts (declaredVariables environment)).filterMap
          (conversion? (declaredPart entries))) =
      latest? f.name (entries ++ (settingTexts environment).filterMap (conversion? entries)) := by
  rw [settingTexts_declaredVariables, ← declaredPart_conversions, declaredPart, declaredPart,
    ← List.filter_append]
  exact latest?_filter (isDeclared_iff.2 ⟨f, rfl⟩) _

theorem load_declared {ds : List (Toml.Document V)} {fault : Option Error}
    (hread : documents V files (fileGroups named) = (ds, fault))
    (hpruned : IsPruned V files files' named) :
    Comes (load files' (declaredVariables environment) named)
      (fault.or (firstRefusal ds.flatten (settingTexts (declaredVariables environment))))
      (declaredPart ds.flatten ++ (settingTexts (declaredVariables environment)).filterMap
        (conversion? (declaredPart ds.flatten))) := by
  have hread' : documents V files' (fileGroups named) = (ds.map declaredPart, fault) := by
    rw [documents_pruned hpruned, hread]
  have hcomes : Comes (load files' (declaredVariables environment) named) _ _ :=
    load_comes hread' (isOrderly_of_declared (isDeclared_of_mem_declaredParts ds)) fun _ =>
      latest?_action_of_declared (isDeclared_of_mem_declaredParts ds) .applyEnvironment
  rwa [flatten_declaredParts, firstRefusal_declaredPart fun x => isDeclared_of_mem_texts] at hcomes

theorem elim_eq_elim_iff {α : Type} {fault fault' : Option Error} {a : α} :
    fault.elim (.ok a) .error = (fault'.elim (.ok a) .error : Except Error α) ↔ fault = fault' := by
  cases fault <;> cases fault' <;> simp

/-- Gathering comes to the same without all that names no field if it is undisturbed, and only then,
unless some document has a table under the name of the contents, which replaces all that was stored. -/
theorem map_value_load_declared (hpruned : IsPruned V files files' named) :
    (IsUndisturbed V files environment named →
      (load (V := V) files environment named).map Settings.value =
        (load files' (declaredVariables environment) named).map Settings.value) ∧
    ((load (V := V) files environment named).map Settings.value =
        (load files' (declaredVariables environment) named).map Settings.value →
      IsUndisturbed V files environment named ∨
        ∃ d ∈ (documents V files (fileGroups named)).1, ∃ v, (contentsKey, v) ∈ d ∧
          (Library.entries? v).isSome) := by
  obtain ⟨ds, fault, hread⟩ : ∃ ds fault, documents V files (fileGroups named) = (ds, fault) :=
    ⟨_, _, rfl⟩
  rw [isUndisturbed_iff hread, hread]
  have hclean : Comes (load files' (declaredVariables environment) named) _ _ :=
    load_declared hread hpruned
  rw [hclean.map_value]
  simp only [latest?_field_declaredPart]
  by_cases hcomes : IsOrderly ds ∧
      (fault = none → latest? Action.applyEnvironment.name ds.flatten = none)
  · obtain ⟨horderly, hfree⟩ := hcomes
    have hload : Comes (load files environment named) _ _ := load_comes hread horderly hfree
    rw [hload.map_value, elim_eq_elim_iff]
    cases fault with
    | some e => simp [horderly]
    | none =>
        simp only [Option.none_or, true_imp_iff]
        exact ⟨fun h => h.2.2, fun h => .inl ⟨horderly, hfree rfl, h⟩⟩
  · refine ⟨fun h => absurd ⟨h.1, fun hfault => (h.2 hfault).1⟩ hcomes, fun h => .inr ?_⟩
    by_contra hcontents
    have hnone : ∀ d ∈ ds, ∀ v, (contentsKey, v) ∈ d → Library.entries? v = none :=
      fun d hd v hv => Option.not_isSome_iff_eq_none.1 fun hsome => hcontents ⟨d, hd, v, hv, hsome⟩
    obtain ⟨e, hload, hforeign⟩ : ∃ e, load files environment named = .error e ∧ e.IsForeign :=
      load_foreign hread hnone hcomes
    rw [hload] at h
    cases hown : fault.or
        (firstRefusal ds.flatten (settingTexts (declaredVariables environment))) with
    | none =>
        rw [hown] at h
        cases h
    | some e' =>
        rw [hown] at h
        cases h
        rcases Option.or_eq_some_iff.1 hown with rfl | ⟨-, hrefusal⟩
        · exact not_isForeign_of_documents (congrArg Prod.snd hread) hforeign
        · exact not_isForeign_of_firstRefusal (fun x => isDeclared_of_mem_texts) hrefusal hforeign

/-- Names of actions do no harm where nothing is merged any more. -/
theorem map_value_load_declared_late :
    let files := Files.ofList [(userFile, "default_limit = 5\nunknown = 1\n"),
      (localFile, "_merge = 1\nlog_level = \"INFO\"\n")]
    let files' := Files.ofList [(userFile, "default_limit = 5\n"),
      (localFile, "log_level = \"INFO\"\n")]
    let environment := [("FEEDSEARCH_LOAD", "x"), ("FEEDSEARCH_CONNECTION_TIMEOUT", "7")]
    IsPruned Datum files files' none ∧ IsUndisturbed Datum files environment none ∧
      (load (V := Datum) files environment none).map Settings.value =
        (load files' (declaredVariables environment) none).map Settings.value := by
  intro files files' environment
  have hpruned : IsPruned Datum files files' none := by
    unfold IsPruned
    decide +kernel
  have hundisturbed : IsUndisturbed Datum files environment none :=
    ⟨⟨by decide +kernel, by decide +kernel⟩, by decide +kernel, by decide +kernel⟩
  exact ⟨hpruned, hundisturbed, (map_value_load_declared hpruned).1 hundisturbed⟩

/-- A value under the name of merging, which names no field, makes gathering fail at the next
document. -/
theorem load_occupied :
    let files := Files.ofList [(userFile, "_merge = 1\n"), (localFile, "default_limit = 5\n")]
    let files' := Files.ofList [(userFile, ""), (localFile, "default_limit = 5\n")]
    IsPruned Datum files files' none ∧
      (load (V := Datum) files [] none).map Settings.value ≠
        (load files' (declaredVariables []) none).map Settings.value := by
  intro files files'
  have hfails : load (V := Datum) files [] none = .error (.occupied "int") := by decide +kernel
  have hloads : load files' (declaredVariables []) none =
      .ok ⟨[("default_limit", Datum.number 5)]⟩ := by
    decide +kernel
  refine ⟨?_, ?_⟩
  · unfold IsPruned
    decide +kernel
  · rw [hfails, hloads]
    exact nofun

end PostSearch.Settings
