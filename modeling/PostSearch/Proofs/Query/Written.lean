import PostSearch.Proofs.Unicode.Ascii
import PostSearch.Query.Parse
import PostSearch.Text.Json

/-! # Written queries

Queries as they are meant to be typed: text blocks, scopes, texts in a scope, and conditions with
lists of words. Words and phrases carry what makes them readable, so every written query can be put
into text (`render`), and every item of it stands for one token (`Item.token`).

Leaves of a group stand around pipes, groups around pluses, and items around spaces. -/

namespace PostSearch.Query.Written

open Unicode

/-- Lists that hold something. -/
abbrev NonemptyList (α : Type) := {xs : List α // xs ≠ []}

/-! ### Words and phrases -/

def isPlainChar (c : Char) : Bool :=
  c.isLower || c.isDigit

/-- A word of small letters and digits. -/
structure Word where
  chars : List Char
  ne_nil : chars ≠ []
  isPlain : ∀ c ∈ chars, isPlainChar c = true

/-- A printable character of ASCII that is no capital letter. -/
def isPhraseChar (c : Char) : Bool :=
  32 ≤ c.toNat && c.toNat < 127 && !c.isUpper

/-- A phrase that is neither blank nor a UUID. -/
structure Phrase where
  chars : List Char
  isPrintable : ∀ c ∈ chars, isPhraseChar c = true
  not_blank : ∃ c ∈ chars, c ≠ ' '
  not_uuid : Uuid.isCanonical chars = false

def Word.text (w : Word) : String :=
  String.ofList w.chars

def Phrase.text (p : Phrase) : String :=
  String.ofList p.chars

/-! ### Text blocks -/

/-- What a leaf says; the beginning of a word has `minStem` characters at least. -/
inductive Term (minStem : Int) where
  | word (w : Word)
  | stem (w : Word) (isLong : minStem ≤ w.chars.length)
  | phrase (p : Phrase)

/-- A term that is looked for, or excluded. -/
structure Leaf (minStem : Int) where
  excluded : Bool
  term : Term minStem

/-- Groups that follow each other, each of them any of its leaves. -/
abbrev Block (minStem : Int) := NonemptyList (NonemptyList (Leaf minStem))

variable {minStem : Int}

def Term.render : Term minStem → String
  | .word w => w.text
  | .stem w _ => w.text ++ "*"
  | .phrase p => Text.Json.quoteString p.text

def Leaf.render (l : Leaf minStem) : String :=
  exclusionMark l.excluded ++ l.term.render

def renderGroup (g : NonemptyList (Leaf minStem)) : String :=
  Text.joinWith " | " (g.val.map Leaf.render)

def renderBlock (b : Block minStem) : String :=
  Text.joinWith " + " (b.val.map renderGroup)

def Leaf.leaf (l : Leaf minStem) : Query.Leaf :=
  match l.term with
  | .word w => ⟨l.excluded, false, w.text⟩
  | .stem w _ => ⟨l.excluded, false, w.text ++ "*"⟩
  | .phrase p => ⟨l.excluded, true, p.text⟩

def groupOf (g : NonemptyList (Leaf minStem)) : Group :=
  g.val.map Leaf.leaf

/-! ### Items -/

/-- A part of a document that a scope is named for. -/
inductive Part where
  | posts
  | comments
deriving DecidableEq

def Part.scope : Part → Scope
  | .posts => .posts
  | .comments => .comments

def Part.name : Part → String
  | .posts => "in-body"
  | .comments => "in-comments"

/-- Operators on lists of words that make sense everywhere. -/
def listOperators : List Operator :=
  [.inMy, .inFeed, .commentedBy, .likedBy, .postBy, .textBy, .sentTo, .privacy]

/-- An item of a query. -/
inductive Item (minStem : Int) where
  | block (b : Block minStem)
  | scopeStart (part : Part)
  /-- Any of some words, in one scope. -/
  | inScope (part : Part) (words : NonemptyList Word)
  | condition (excluded : Bool) (operator : {o : Operator // o ∈ listOperators})
    (args : NonemptyList Word)

def renderArgs (words : NonemptyList Word) : String :=
  Text.joinWith "," (words.val.map Word.text)

def Item.render : Item minStem → String
  | .block b => renderBlock b
  | .scopeStart part => part.name ++ ":"
  | .inScope part words => part.name ++ ":" ++ renderArgs words
  | .condition excluded operator args =>
    exclusionMark excluded ++ operator.val.name ++ ":" ++ renderArgs args

def Item.token : Item minStem → Token
  | .block b => .sequence (b.val.map groupOf)
  | .scopeStart part => .scopeStart part.scope
  | .inScope part words => .inScope part.scope (words.val.map fun w => ⟨false, false, w.text⟩)
  | .condition excluded operator args =>
    .condition ⟨excluded, operator.val, args.val.map Word.text⟩

/-- A query as it is written. -/
def render (items : List (Item minStem)) : String :=
  Text.joinWith " " (items.map Item.render)

/-! ### Characters -/

/-- Words are made of letters and numerals, and of nothing that separates or marks them. -/
theorem isPlainChar_spec {c : Char} (h : isPlainChar c = true) :
    isAlphanumeric c = true ∧ isBlank c = false ∧ isPhraseChar c = true ∧
      c ∉ ['-', ':', '"', '*', ',', '|', '+'] := by
  have hascii : c.toNat < 128 := by
    rcases Bool.or_eq_true_iff.1 h with hletter | hdigit
    · have hlast := of_decide_eq_true (Bool.and_eq_true_iff.1 hletter).2
      exact Nat.lt_of_le_of_lt hlast (by decide)
    · have hlast := of_decide_eq_true (Bool.and_eq_true_iff.1 hdigit).2
      exact Nat.lt_of_le_of_lt hlast (by decide)
  have hall : ∀ c : Char, c.toNat < 128 → isPlainChar c = true →
      isAlphanumeric c = true ∧ isBlank c = false ∧ isPhraseChar c = true ∧
        c ∉ ['-', ':', '"', '*', ',', '|', '+'] :=
    forall_ascii (by decide +kernel)
  exact hall c hascii h

theorem isPhraseChar_iff {c : Char} :
    isPhraseChar c = true ↔ 32 ≤ c.toNat ∧ c.toNat < 127 ∧ c.isUpper = false := by
  simp only [isPhraseChar, Bool.and_eq_true, decide_eq_true_eq, Bool.not_eq_true', and_assoc]

theorem isBlank_of_phraseChar {c : Char} (h : isPhraseChar c = true) (hc : c ≠ ' ') :
    isBlank c = false := by
  have hall : ∀ c : Char, c.toNat < 128 → isPhraseChar c = true → c ≠ ' ' → isBlank c = false :=
    forall_ascii (by decide +kernel)
  exact hall c (Nat.lt_succ_of_lt (isPhraseChar_iff.1 h).2.1) h hc

/-! ### Normalisation -/

/-- Normalisation changes nothing in the text. -/
def IsSettled (s : String) : Prop :=
  ∀ c ∈ s.toList, isPhraseChar c = true

instance (s : String) : Decidable (IsSettled s) :=
  inferInstanceAs (Decidable (∀ c ∈ s.toList, isPhraseChar c = true))

theorem IsSettled.append {s t : String} (hs : IsSettled s) (ht : IsSettled t) :
    IsSettled (s ++ t) := by
  intro c hc
  rw [String.toList_append] at hc
  exact (List.mem_append.1 hc).elim (hs c) (ht c)

theorem isSettled_joinWith {sep : String} (hsep : IsSettled sep) : ∀ {ss : List String},
    (∀ s ∈ ss, IsSettled s) → IsSettled (Text.joinWith sep ss)
  | [], _ => by simp [IsSettled, Text.joinWith]
  | [s], h => h s List.mem_cons_self
  | s :: t :: ss, h => by
      obtain ⟨hs, ht⟩ := List.forall_mem_cons.1 h
      exact (hs.append hsep).append (isSettled_joinWith hsep ht)

theorem IsSettled.normalize {s : String} (h : IsSettled s) : normalize s.toList = s.toList := by
  refine normalize_ascii fun c hc => ?_
  obtain ⟨-, hlt, hlower⟩ := isPhraseChar_iff.1 (h c hc)
  exact ⟨by omega, hlower⟩

theorem Word.isSettled (w : Word) : IsSettled w.text := by
  intro c hc
  rw [Word.text, String.toList_ofList] at hc
  exact (isPlainChar_spec (w.isPlain c hc)).2.2.1

theorem isSettled_exclusionMark (excluded : Bool) : IsSettled (exclusionMark excluded) := by
  cases excluded <;> decide

/-- Of what phrases hold, only quotes and backslashes are escaped. -/
theorem escapeChar_phrase {c : Char} (h : isPhraseChar c = true) :
    Text.Json.escapeChar c = if c = '"' ∨ c = '\\' then ['\\', c] else [c] := by
  obtain ⟨h₁, h₂, -⟩ := isPhraseChar_iff.1 h
  have hcontrol : ∀ d : Char, d.toNat < 32 → c ≠ d := by
    rintro d hd rfl
    omega
  unfold Text.Json.escapeChar
  split
  · rfl
  · rw [if_neg (hcontrol _ (by decide)), if_neg (hcontrol _ (by decide)),
      if_neg (hcontrol _ (by decide)), if_neg (hcontrol _ (by decide)),
      if_neg (hcontrol _ (by decide)), if_pos ⟨h₁, h₂⟩]

theorem Phrase.isSettled (p : Phrase) : IsSettled (Text.Json.quoteString p.text) := by
  intro c hc
  simp only [Text.Json.quoteString, Phrase.text, String.toList_ofList, List.cons_append,
    List.mem_cons, List.mem_append, List.mem_flatMap, List.not_mem_nil, or_false] at hc
  rcases hc with rfl | ⟨d, hd, hc⟩ | rfl
  · decide
  · have hd' := p.isPrintable d hd
    rw [escapeChar_phrase hd'] at hc
    split at hc
    · simp only [List.mem_cons, List.not_mem_nil, or_false] at hc
      rcases hc with rfl | rfl
      · decide
      · exact hd'
    · exact List.mem_singleton.1 hc ▸ hd'
  · decide

theorem Leaf.isSettled (l : Leaf minStem) : IsSettled l.render := by
  refine (isSettled_exclusionMark l.excluded).append ?_
  cases l.term with
  | word w => exact w.isSettled
  | stem w _ => exact w.isSettled.append (by decide)
  | phrase p => exact p.isSettled

theorem isSettled_args (words : NonemptyList Word) : IsSettled (renderArgs words) := by
  refine isSettled_joinWith (by decide) fun s hs => ?_
  obtain ⟨w, -, rfl⟩ := List.mem_map.1 hs
  exact w.isSettled

theorem isSettled_block (b : Block minStem) : IsSettled (renderBlock b) := by
  refine isSettled_joinWith (by decide) fun s hs => ?_
  obtain ⟨g, -, rfl⟩ := List.mem_map.1 hs
  refine isSettled_joinWith (by decide) fun s hs => ?_
  obtain ⟨l, -, rfl⟩ := List.mem_map.1 hs
  exact l.isSettled

theorem Part.isSettled_name (p : Part) : IsSettled p.name := by
  cases p <;> decide

theorem isSettled_operator : ∀ o ∈ listOperators, IsSettled o.name := by
  decide

theorem Item.isSettled : ∀ i : Item minStem, IsSettled i.render
  | .block b => isSettled_block b
  | .scopeStart p => p.isSettled_name.append (by decide)
  | .inScope p words => (p.isSettled_name.append (by decide)).append (isSettled_args words)
  | .condition e o args =>
      (((isSettled_exclusionMark e).append (isSettled_operator _ o.property)).append
        (by decide)).append (isSettled_args args)

theorem isSettled_render (items : List (Item minStem)) : IsSettled (render items) := by
  refine isSettled_joinWith (by decide) fun s hs => ?_
  obtain ⟨i, -, rfl⟩ := List.mem_map.1 hs
  exact i.isSettled

end PostSearch.Query.Written
