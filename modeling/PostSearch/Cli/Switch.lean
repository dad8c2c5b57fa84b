import PostSearch.Text.Split
import PostSearch.Unicode.Digit

/-! # Options on a command line

A word of a command line is an option if it starts with a hyphen and is neither a negative number
nor several words. Long options may be shortened as long as one option alone is meant; short ones
may be written together, and what they take may follow at once. After the word `--` nothing is an
option. -/

namespace PostSearch.Cli

open Text

/-- Why no command is carried out. -/
inductive Refusal where
  /-- The words make no sense. -/
  | misuse
  /-- Help is asked for instead. -/
  | help
deriving DecidableEq, Repr

/-- What an option does to the choices made so far. -/
inductive Effect (σ : Type) where
  | help
  | flag (set : σ → σ)
  /-- The option takes a word, which it may find unsuitable. Two hyphens attached to it stand for no
  word at all. -/
  | value (set : Option String → σ → Option σ)

/-- An option with its spellings, hyphens included. -/
structure Switch (σ : Type) where
  spellings : List String
  effect : Effect σ

/-- A word of the command line as some options see it. -/
inductive Word (σ : Type) where
  | plain
  /-- The word `--`. -/
  | dashes
  /-- An option under the spelling meant, with what is attached to it. -/
  | switch (s : Switch σ) (spelling : String) (attached : Option String)
  /-- An option that is none of them. -/
  | unknown

section words

variable {σ : Type} (options : List (Switch σ))

/-! ### Telling options from other words -/

/-- Every spelling with its option. -/
def spellings : List (String × Switch σ) :=
  options.flatMap fun o => o.spellings.map (·, o)

/-- The text is a hyphen before a decimal numeral, which may have a point. -/
def isNegativeNumber : List Char → Bool
  | '-' :: s =>
    let isDigit (c : Char) : Bool := (Unicode.digitValue? c).isSome
    let numeral := dropFinalNewline s
    match numeral.dropWhile isDigit with
    | [] => !numeral.isEmpty
    | '.' :: fraction => !fraction.isEmpty && fraction.all isDigit
    | _ => false
  | _ => false

/-- The text before the first equals sign and, if there is one, the text after it. -/
def cutAtEquals (s : List Char) : List Char × Option (List Char) :=
  match s.dropWhile (· ≠ '=') with
  | [] => (s, none)
  | _ :: after => (s.takeWhile (· ≠ '='), some after)

/-- The options that a word may be short for. -/
def candidates (word : List Char) : List (Word σ) :=
  match word with
  | '-' :: '-' :: _ =>
    let (start, attached) := cutAtEquals word
    (spellings options).filterMap fun (spelling, o) =>
      if start.isPrefixOf spelling.toList then
        some (.switch o spelling (attached.map String.ofList))
      else none
  | _ =>
    (spellings options).filterMap fun (spelling, o) =>
      if spelling.toList = word.take 2 then
        some (.switch o spelling (some (String.ofList (word.drop 2))))
      else if word.isPrefixOf spelling.toList then some (.switch o spelling none)
      else none

/-- What a word before `--` is; nothing if it may be short for several options. -/
def classify? (text : String) : Option (Word σ) :=
  let word := text.toList
  let (start, attached) := cutAtEquals word
  let spelled := (spellings options).lookup (String.ofList start)
  if word.head? ≠ some '-' then some .plain
  else match (spellings options).lookup text with
  | some o => some (.switch o text none)
  | none =>
    if word = ['-'] then some .plain
    else match spelled, attached with
    | some o, some value =>
      some (.switch o (String.ofList start) (some (String.ofList value)))
    | _, _ => match candidates options word with
      | [w] => some w
      | _ :: _ :: _ => none
      | [] => some (if isNegativeNumber word || word.contains ' ' then .plain else .unknown)

/-- The words with what they are; nothing if one may be short for several options. -/
def classifyAll? : List String → Option (List (String × Word σ))
  | [] => some []
  | "--" :: rest => some (("--", .dashes) :: rest.map (·, .plain))
  | text :: rest => do
    let w ← classify? options text
    return (text, w) :: (← classifyAll? rest)

/-! ### Carrying options out -/

/-- One thing to do for an option. -/
abbrev Step (σ : Type) := σ → Except Refusal σ

def plainStep : Effect σ → Step σ
  | .help => fun _ => .error .help
  | .flag set => fun choices => .ok (set choices)
  | .value _ => fun _ => .error .misuse

/-- Give an option the word it takes. -/
def valueStep (set : Option String → σ → Option σ) (word : Option String) : Step σ := fun choices =>
  match set word choices with
  | some choices => .ok choices
  | none => .error .misuse

/-- The word that is meant by what is attached to an option. -/
def attachedWord (text : List Char) : Option String :=
  if text = ['-', '-'] then none else some (String.ofList text)

/-- What is to be done for an option. -/
structure Plan (σ : Type) where
  steps : List (Step σ)
  /-- The option takes the next word. -/
  takesNext : Bool

/-- What an option does that nothing is attached to, `next` being the next word if that is plain. -/
def alone? (next : Option String) (o : Switch σ) : Option (Plan σ) :=
  match o.effect with
  | .value set => next.map fun word => ⟨[valueStep set (some word)], true⟩
  | effect => some ⟨[plainStep effect], false⟩

/-- What short options written together do, the list holding what is attached to the option at
hand. One that takes a word takes all of it; for others it starts with the letter of the next
option. -/
def together? (next : Option String) (o : Switch σ) : List Char → Option (Plan σ)
  | [] => none
  | c :: letters =>
    match o.effect with
    | .value set => some ⟨[valueStep set (attachedWord (c :: letters))], false⟩
    | effect => do
      let o' ← (spellings options).lookup (String.ofList ['-', c])
      let plan ← if letters = [] then alone? next o' else together? next o' letters
      return { plan with steps := plainStep effect :: plan.steps }

/-- What is to be done for an option. Nothing can be attached to an option that takes no word, but
for further letters to a single one. -/
def plan? (next : Option String) (o : Switch σ) (spelling : String) (attached : Option String) :
    Option (Plan σ) :=
  match attached, o.effect with
  | none, _ => alone? next o
  | some text, .value set => some ⟨[valueStep set (attachedWord text.toList)], false⟩
  | some text, _ =>
    if spelling.toList.take 2 = ['-', '-'] then none else together? options next o text.toList

/-- What was read of a command line. -/
structure Progress (σ : Type) where
  choices : σ
  /-- The word that the command takes. -/
  word : Option String
  /-- There were words that nothing takes. -/
  hasStrays : Bool

/-- Do what a plan says, step after step. -/
def Plan.carryOut (plan : Plan σ) (p : Progress σ) : Except Refusal (Progress σ) := do
  let choices ← plan.steps.foldlM (fun choices step => step choices) p.choices
  return { p with choices := choices }

/-- Carry out the options in front of the first other word; the words from there on are left. -/
def leading (p : Progress σ) : List (String × Word σ) →
    Except Refusal (Progress σ × List (String × Word σ))
  | (_, .switch o spelling attached) :: rest =>
    let next := match rest with
      | (word, .plain) :: _ => some word
      | _ => none
    match plan? options next o spelling attached with
    | none => .error .misuse
    | some plan => do
      let p ← plan.carryOut p
      match plan.takesNext, rest with
      | true, _ :: rest => leading p rest
      | _, rest => leading p rest
  | (_, .unknown) :: rest => leading { p with hasStrays := true } rest
  | words => .ok (p, words)

/-- The options and the word of a command that takes at most one. The word `--` next to it belongs
to it; all other words are strays. -/
def scan (takesWord : Bool) (p : Progress σ) : List (String × Word σ) → Except Refusal (Progress σ)
  | [] => .ok p
  | (_, .switch o spelling attached) :: rest =>
    let next := match rest with
      | (word, .plain) :: _ => some word
      | _ => none
    match plan? options next o spelling attached with
    | none => .error .misuse
    | some plan => do
      let p ← plan.carryOut p
      match plan.takesNext, rest with
      | true, _ :: rest => scan takesWord p rest
      | _, rest => scan takesWord p rest
  | (_, .unknown) :: rest => scan takesWord { p with hasStrays := true } rest
  | (word, .plain) :: rest =>
    if takesWord && p.word.isNone then
      match rest with
      | (_, .dashes) :: rest => scan takesWord { p with word := some word } rest
      | rest => scan takesWord { p with word := some word } rest
    else scan takesWord { p with hasStrays := true } rest
  | (_, .dashes) :: rest =>
    if takesWord && p.word.isNone then
      match rest with
      | (word, .plain) :: rest => scan takesWord { p with word := some word } rest
      | rest => scan takesWord p rest
    else scan takesWord { p with hasStrays := true } rest

end words

end PostSearch.Cli
