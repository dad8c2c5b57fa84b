import PostSearch.Unicode.Alphanumeric
import PostSearch.Unicode.Blank

/-! # Lexemes

A query is cut into lexemes, with blanks skipped between them:

* `|` and `+`;
* `-? (name:)? "quoted text"`;
* `-? (name:)? word`, a word being everything up to the next blank.

A sign or a name is one only if something follows it, and a quotation only if it is closed;
otherwise it is part of a word. So every text is cut, and only blanks are lost. -/

namespace PostSearch.Query

open Unicode

/-- What a lexeme says after its sign and name. -/
inductive Body where
  /-- The text between the quotes, escapes still in it. -/
  | quoted (inner : List Char)
  | word (w : List Char)
deriving DecidableEq, Repr

/-- A lexeme of a query. -/
inductive Lexeme where
  | pipe
  | plus
  | term (excluded : Bool) (name : Option (List Char)) (body : Body)
deriving DecidableEq, Repr

/-! ### Lexemes as text -/

def Body.text : Body → List Char
  | .quoted inner => '"' :: inner ++ ['"']
  | .word w => w

def Lexeme.text : Lexeme → List Char
  | .pipe => ['|']
  | .plus => ['+']
  | .term excluded name body =>
    (if excluded then ['-'] else []) ++ (name.elim [] (· ++ [':'])) ++ body.text

/-! ### Scanning -/

def isNameChar (c : Char) : Bool :=
  isWordChar c || c == '-'

/-- The text up to the closing quote and what follows it. A backslash takes the next character with
it, which may be anything but a newline. -/
def closeQuote? : List Char → Option (List Char × List Char)
  | [] => none
  | '"' :: s => some ([], s)
  | ['\\'] => none
  | '\\' :: c :: s =>
    if c = '\n' then none
    else (closeQuote? s).map fun (inner, rest) => ('\\' :: c :: inner, rest)
  | c :: s => (closeQuote? s).map fun (inner, rest) => (c :: inner, rest)

/-- The word at the start of a text, which may be empty, and what follows it. -/
def takeWord (s : List Char) : List Char × List Char :=
  (s.takeWhile (!isBlank ·), s.dropWhile (!isBlank ·))

/-- A word at the start of a text, if there is one. -/
def word? (s : List Char) : Option (Body × List Char) :=
  match takeWord s with
  | ([], _) => none
  | (w, rest) => some (.word w, rest)

/-- A quotation or a word at the start of a text. -/
def body? (s : List Char) : Option (Body × List Char) :=
  match s with
  | '"' :: t =>
    match closeQuote? t with
    | some (inner, rest) => some (.quoted inner, rest)
    | none => word? s
  | _ => word? s

/-- A body that has no name. -/
def unnamed? (s : List Char) : Option ((Option (List Char) × Body) × List Char) :=
  (body? s).map fun (body, rest) => ((none, body), rest)

/-- A body with its name, if it has one. -/
def named? (s : List Char) : Option ((Option (List Char) × Body) × List Char) :=
  match s.takeWhile isNameChar, s.dropWhile isNameChar with
  | c :: name, ':' :: t =>
    match body? t with
    | some (body, rest) => some ((some (c :: name), body), rest)
    | none => unnamed? s
  | _, _ => unnamed? s

/-- A lexeme that is not a combinator and has, or has not, a sign. -/
def signed? (excluded : Bool) (s : List Char) : Option (Lexeme × List Char) :=
  (named? s).map fun (p, rest) => (.term excluded p.1 p.2, rest)

/-- A lexeme that is not a combinator. -/
def term? (s : List Char) : Option (Lexeme × List Char) :=
  match s with
  | '-' :: t =>
    match signed? true t with
    | some found => some found
    | none => signed? false s
  | _ => signed? false s

/-- The lexeme at the start of a text. -/
def lexeme? : List Char → Option (Lexeme × List Char)
  | '|' :: s => some (.pipe, s)
  | '+' :: s => some (.plus, s)
  | s => term? s

/-! ### Progress -/

/-- A scanner leaves less than it was given. -/
def Consumes {α : Type} (f : List Char → Option (α × List Char)) : Prop :=
  ∀ s a rest, f s = some (a, rest) → rest.length < s.length

theorem length_dropWhile_le (p : Char → Bool) (s : List Char) :
    (s.dropWhile p).length ≤ s.length :=
  (List.dropWhile_sublist p).length_le

theorem consumes_closeQuote : Consumes closeQuote? := by
  intro s
  fun_induction closeQuote? s with
  | case1 => simp
  | case2 s => rintro a rest h; simp only [Option.some.injEq, Prod.mk.injEq] at h; simp [h.2]
  | case3 => simp
  | case4 => simp
  | case5 c s _ ih =>
    rintro a rest h
    obtain ⟨⟨inner, r⟩, hr, he⟩ := Option.map_eq_some_iff.1 h
    simp only [Prod.mk.injEq] at he
    have := ih _ _ hr
    simp only [List.length_cons, ← he.2]
    omega
  | case6 c s _ _ _ ih =>
    rintro a rest h
    obtain ⟨⟨inner, r⟩, hr, he⟩ := Option.map_eq_some_iff.1 h
    simp only [Prod.mk.injEq] at he
    have := ih _ _ hr
    simp only [List.length_cons, ← he.2]
    omega

theorem takeWord_append (s : List Char) : (takeWord s).1 ++ (takeWord s).2 = s :=
  List.takeWhile_append_dropWhile

theorem consumes_map {α β : Type} {f : List Char → Option (α × List Char)} (hf : Consumes f)
    (g : α → β) : Consumes fun s => (f s).map fun (a, rest) => (g a, rest) := by
  intro s b rest h
  obtain ⟨⟨a, r⟩, hr, he⟩ := Option.map_eq_some_iff.1 h
  simp only [Prod.mk.injEq] at he
  exact he.2 ▸ hf _ _ _ hr

theorem consumes_word : Consumes word? := by
  intro s a rest h
  have hs := congrArg List.length (takeWord_append s)
  unfold word? at h
  split at h
  · simp at h
  · rename_i w r hne hw
    simp only [Option.some.injEq, Prod.mk.injEq] at h
    cases w with
    | nil => exact absurd rfl hne
    | cons c w =>
      simp only [hw, List.length_append, List.length_cons] at hs
      rw [← h.2]
      omega

theorem consumes_body : Consumes body? := by
  intro s a rest h
  unfold body? at h
  split at h
  · split at h
    · rename_i hq
      simp only [Option.some.injEq, Prod.mk.injEq] at h
      have := consumes_closeQuote _ _ _ hq
      simp only [List.length_cons, ← h.2]
      omega
    · exact consumes_word _ _ _ h
  · exact consumes_word _ _ _ h

theorem consumes_unnamed : Consumes unnamed? :=
  consumes_map consumes_body fun body => (none, body)

theorem consumes_named : Consumes named? := by
  intro s a rest h
  unfold named? at h
  split at h
  · rename_i hd
    split at h
    · rename_i hb
      simp only [Option.some.injEq, Prod.mk.injEq] at h
      have h1 := consumes_body _ _ _ hb
      have h2 := length_dropWhile_le isNameChar s
      rw [hd, List.length_cons] at h2
      rw [← h.2]
      omega
    · exact consumes_unnamed _ _ _ h
  · exact consumes_unnamed _ _ _ h

theorem consumes_signed (excluded : Bool) : Consumes (signed? excluded) :=
  consumes_map consumes_named fun p => Lexeme.term excluded p.1 p.2

theorem consumes_term : Consumes term? := by
  intro s a rest h
  unfold term? at h
  split at h
  · split at h
    · rename_i found hf
      have := consumes_signed true _ _ _ (hf.trans h)
      simp only [List.length_cons]
      omega
    · exact consumes_signed false _ _ _ h
  · exact consumes_signed false _ _ _ h

/-- Every lexeme takes at least one character. -/
theorem consumes_lexeme : Consumes lexeme? := by
  intro s a rest h
  unfold lexeme? at h
  split at h
  · simp only [Option.some.injEq, Prod.mk.injEq] at h
    simp [h.2]
  · simp only [Option.some.injEq, Prod.mk.injEq] at h
    simp [h.2]
  · exact consumes_term _ _ _ h

/-! ### The whole text -/

/-- The lexemes of a text, in order. -/
def lexemes (s : List Char) : List Lexeme :=
  match _h : lexeme? (s.dropWhile isBlank) with
  | none => []
  | some (l, rest) => l :: lexemes rest
termination_by s.length
decreasing_by
  exact Nat.lt_of_lt_of_le (consumes_lexeme _ _ _ _h) (length_dropWhile_le isBlank s)

end PostSearch.Query
