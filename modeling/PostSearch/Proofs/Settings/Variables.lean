import PostSearch.Proofs.Settings.Documents

/-! # Variables that settings take over

The text of a variable becomes a value of the kind that it replaces, so that the kinds of settings
stay what the documents made them (`ReadsAlike`). Hence what a text comes to, and whether it is
refused, depends on the documents alone, and not on the variables in front of it (`conversion?`,
`refusal?`). What gathering settings comes to is then told from the documents and the texts: the
first refusal, or the last value under every name (`load_comes`). -/

namespace PostSearch.Settings

open Toml (Library)

variable {V : Type} [Library V] {s : Settings V} {files : Files} {environment : Environment}
  {named : Option Path} {entries conversions : Toml.Document V} {fault : Option Error}
  {x : Except Error (Settings V)}

/-- The run fails with the fault, or else comes to settings that hold the entries. -/
def Comes (x : Except Error (Settings V)) (fault : Option Error) (entries : Toml.Document V) :
    Prop :=
  match fault with
  | some e => x = .error e
  | none => ∃ t, x = .ok t ∧ Holds t entries

theorem Comes.map_value (h : Comes x fault entries) : x.map Settings.value =
    fault.elim (.ok fun f => (latest? f.name entries).getD (standardValue f)) .error := by
  cases fault with
  | some e =>
      rw [show x = .error e from h]
      rfl
  | none =>
      obtain ⟨t, rfl, ht⟩ := h
      exact congrArg Except.ok (funext ht.value)

/-! ### Kinds -/

/-- Texts come to the same in place of either value. -/
def ReadsAlike (r r' : Option V) : Prop :=
  ∀ text, (convert r text : Except Error V) = convert r' text

/-- A text becomes a datum of the kind that it is read as, or of one that is read alike. -/
theorem readAs_kindName {kind : Option String} {text : String} {d : Datum}
    (h : readAs kind text = .ok d) (text' : String) :
    readAs (some d.kindName) text' = readAs kind text' := by
  rw [readAs] at h
  by_cases hflag : kind = some flagKind
  · rw [if_pos hflag] at h
    cases h
    rw [hflag]
    rfl
  rw [if_neg hflag] at h
  by_cases hnumber : kind = some numberKind
  · rw [if_pos hnumber] at h
    rw [hnumber]
    cases hread : Numeral.readInt 10 text.toList with
    | error e => simp only [hread, reduceCtorEq] at h
    | ok n =>
        simp only [hread] at h
        cases h
        rfl
  · rw [if_neg hnumber] at h
    cases h
    have htext : some "str" ≠ some flagKind ∧ some "str" ≠ some numberKind := by decide
    change readAs (some "str") text' = _
    rw [readAs, if_neg htext.1, if_neg htext.2, readAs, if_neg hflag, if_neg hnumber]

theorem readsAlike_of_convert {r : Option V} {text : String} {v : V}
    (h : convert r text = .ok v) : ReadsAlike (some v) r := by
  intro text'
  obtain ⟨d, hd, rfl⟩ := map_eq_ok.1 h
  rw [convert, Option.map_some, Library.kindName_ofDatum, readAs_kindName hd, convert]

/-! ### Single texts -/

/-- The texts that variables give to settings. -/
def settingTexts (environment : Environment) : List (String × String) :=
  environment.filterMap fun v => (settingOf? v.1).map (·, v.2)

def mergeSetting (s : Settings V) (x : String × String) : Except Error (Settings V) :=
  if s.knows x.1 then do s.put x.1 (← convert (s.valueOf? x.1) x.2) else .ok s

/-- Why a text is refused, if it is. -/
def refusal? (entries : Toml.Document V) (x : String × String) : Option Error :=
  if x.1 ∈ sealedNames then some (if x.1 = referencesKey then .readOnly else .sealed)
  else if isKnown x.1 then
    match convert (given? entries x.1) x.2 with
    | .error e => some e
    | .ok _ => none
  else none

/-- What a text comes to, under its name. -/
def conversion? (entries : Toml.Document V) (x : String × String) : Option (String × V) :=
  if isKnown x.1 then
    match convert (given? entries x.1) x.2 with
    | .error _ => none
    | .ok v => some (x.1, v)
  else none

theorem conversion?_name {x : String × String} {y : String × V}
    (h : conversion? entries x = some y) : y.1 = x.1 := by
  unfold conversion? at h
  split at h
  · cases hconvert : convert (given? entries x.1) x.2 with
    | error e => simp only [hconvert, reduceCtorEq] at h
    | ok v =>
        simp only [hconvert] at h
        cases h
        rfl
  · cases h

theorem given?_concat (name : String) (entries : Toml.Document V) (key : String) (v : V) :
    given? (entries ++ [(key, v)]) name = if name = key then some v else given? entries name := by
  rw [given?, latest?_concat, given?]
  split <;> rfl

/-- What texts came to has the kinds that the entries have. -/
def KeepsKinds (entries conversions : Toml.Document V) : Prop :=
  ∀ name, ReadsAlike (given? (entries ++ conversions) name) (given? entries name)

theorem keepsKinds_nil (entries : Toml.Document V) : KeepsKinds entries [] := by
  intro name text
  rw [List.append_nil]

theorem KeepsKinds.concat (h : KeepsKinds entries conversions) (x : String × String) :
    KeepsKinds entries (conversions ++ (conversion? entries x).toList) := by
  rw [conversion?]
  split
  · cases hconvert : convert (given? entries x.1) x.2 with
    | error e => rwa [Option.toList_none, List.append_nil]
    | ok v =>
        intro name text
        rw [Option.toList_some, ← List.append_assoc, given?_concat]
        by_cases hname : name = x.1
        · rw [if_pos hname, hname]
          exact readsAlike_of_convert hconvert text
        · rw [if_neg hname]
          exact h name text
  · rwa [Option.toList_none, List.append_nil]

/-- A text is refused, or it adds what it comes to. -/
theorem Holds.mergeSetting (h : Holds s (entries ++ conversions))
    (hkinds : KeepsKinds entries conversions) (x : String × String) :
    Comes (s.mergeSetting x) (refusal? entries x)
      (entries ++ (conversions ++ (conversion? entries x).toList)) := by
  rw [Settings.mergeSetting, refusal?, conversion?, h.knows]
  by_cases hsealed : x.1 ∈ sealedNames
  · have hknown : ∀ name ∈ sealedNames, isKnown name = true := by decide
    have hnone : s.valueOf? x.1 = none := if_pos hsealed
    have htable : Library.entries? (Library.ofDatum (.text x.2) : V) = none :=
      Library.entries?_ofDatum _
    rw [if_pos hsealed, if_pos (hknown _ hsealed), hnone]
    change s.put x.1 (Library.ofDatum (.text x.2)) = _
    simp only [sealedNames, List.mem_cons, List.not_mem_nil, or_false] at hsealed
    rw [Settings.put, htable]
    rcases hsealed with hname | hname | hname <;> rw [hname] <;> rfl
  rw [if_neg hsealed]
  by_cases hknown : isKnown x.1 = true
  · rw [if_pos hknown, if_pos hknown, if_pos hknown, h.valueOf? hknown hsealed, hkinds x.1 x.2]
    cases convert (given? entries x.1) x.2 with
    | error e => rfl
    | ok v =>
        obtain ⟨t, ht, h⟩ := h.put hsealed hknown v
        rw [List.append_assoc] at h
        exact ⟨t, ht, h⟩
  · rw [if_neg hknown, if_neg hknown, if_neg hknown, Option.toList_none, List.append_nil]
    exact ⟨s, rfl, h⟩

/-! ### All texts -/

/-- The reason for which texts are refused: that of the first one that is. -/
def firstRefusal (entries : Toml.Document V) (xs : List (String × String)) : Option Error :=
  xs.findSome? (refusal? entries)

theorem Holds.foldlM_mergeSetting : ∀ (xs : List (String × String)) {s : Settings V}
    {conversions : Toml.Document V}, Holds s (entries ++ conversions) →
      KeepsKinds entries conversions →
        Comes (xs.foldlM Settings.mergeSetting s) (firstRefusal entries xs)
          (entries ++ (conversions ++ xs.filterMap (conversion? entries)))
  | [], s, conversions, h, _ => by
      rw [List.filterMap_nil, List.append_nil]
      exact ⟨s, rfl, h⟩
  | x :: xs, s, conversions, h, hkinds => by
      have hx := h.mergeSetting hkinds x
      rw [firstRefusal, List.findSome?_cons, List.foldlM_cons]
      cases hrefusal : refusal? entries x with
      | some e =>
          rw [hrefusal] at hx
          rw [show s.mergeSetting x = .error e from hx]
          rfl
      | none =>
          rw [hrefusal] at hx
          obtain ⟨t, ht, h⟩ := hx
          have hcons : (x :: xs).filterMap (conversion? entries) =
              (conversion? entries x).toList ++ xs.filterMap (conversion? entries) := by
            rw [List.filterMap_cons]
            cases conversion? entries x <;> rfl
          rw [ht, hcons, ← List.append_assoc conversions]
          exact h.foldlM_mergeSetting xs (hkinds.concat x)

theorem foldlM_mergeVariable (environment : Environment) (s : Settings V) :
    environment.foldlM (fun s (name, text) => s.mergeVariable name text) s =
      (settingTexts environment).foldlM mergeSetting s := by
  rw [settingTexts, List.foldlM_filterMap]
  refine congrArg (environment.foldlM · s) (funext fun s => funext fun v => ?_)
  obtain ⟨name, text⟩ := v
  change s.mergeVariable name text = _
  rw [mergeVariable]
  cases settingOf? name <;> rfl

/-- The environment is taken over if nothing stands in the place of that. -/
theorem Holds.applyEnvironment (h : Holds s entries)
    (hfree : latest? Action.applyEnvironment.name entries = none) (environment : Environment) :
    Comes (s.applyEnvironment environment) (firstRefusal entries (settingTexts environment))
      (entries ++ (settingTexts environment).filterMap (conversion? entries)) := by
  have hempty : Holds s (entries ++ []) := (List.append_nil entries).symm ▸ h
  rw [Settings.applyEnvironment, h.need, hfree]
  change Comes (environment.foldlM _ s) _ _
  rw [foldlM_mergeVariable]
  exact hempty.foldlM_mergeSetting (settingTexts environment) (keepsKinds_nil entries)

/-! ### All sources -/

/-- What gathering settings comes to if no action is in want of its place and no name is sealed. -/
theorem load_comes {ds : List (Toml.Document V)}
    (hread : documents V files (fileGroups named) = (ds, fault))
    (hds : IsOrderly ds)
    (hfree : fault = none → latest? Action.applyEnvironment.name ds.flatten = none) :
    Comes (load files environment named)
      (fault.or (firstRefusal ds.flatten (settingTexts environment)))
      (ds.flatten ++ (settingTexts environment).filterMap (conversion? ds.flatten)) := by
  obtain ⟨t, ht, h⟩ := foldlM_merge hds
  rw [load_eq, hread, ht]
  cases fault with
  | some e => rfl
  | none => exact h.applyEnvironment (hfree rfl) environment

/-- Otherwise gathering fails for a reason that settings by themselves never give. -/
theorem load_foreign {ds : List (Toml.Document V)}
    (hread : documents V files (fileGroups named) = (ds, fault))
    (hcontents : ∀ d ∈ ds, ∀ v, (contentsKey, v) ∈ d → Library.entries? v = none)
    (h : ¬ (IsOrderly ds ∧
      (fault = none → latest? Action.applyEnvironment.name ds.flatten = none))) :
    ∃ e, load (V := V) files environment named = .error e ∧ e.IsForeign := by
  rw [load_eq, hread]
  by_cases hds : IsOrderly ds
  · obtain ⟨rfl, htaken⟩ := Classical.not_imp.1 (not_and.1 h hds)
    obtain ⟨v, hv⟩ := Option.ne_none_iff_exists'.1 htaken
    obtain ⟨t, ht, hholds⟩ := foldlM_merge hds
    rw [ht]
    change ∃ e, t.applyEnvironment environment = .error e ∧ _
    rw [applyEnvironment, hholds.need, hv]
    exact ⟨.occupied (Library.kindName v), rfl, trivial⟩
  · obtain ⟨e, he, hforeign⟩ := foldlM_merge_foreign hcontents hds
    rw [he]
    exact ⟨e, rfl, hforeign⟩

end PostSearch.Settings
