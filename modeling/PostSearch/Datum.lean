import PostSearch.Scalar
import PostSearch.Text.Split

/-! # Data

A datum is a value of any of the kinds that settings files, requests and answers hold. What a place
expects of it is asked for there: `number?` and `toInt` take it for a number, `literal` shows it in
messages. A yes counts as the number one and a no as zero. -/

namespace PostSearch

/-- A value of any kind; tables keep the order of their entries. -/
inductive Datum where
  | null
  | flag (b : Bool)
  | number (n : Int)
  | text (s : String)
  | list (items : List Datum)
  | table (entries : List (String × Datum))
deriving Repr

namespace Datum

/-! ### Equality -/

mutual

/-- Two data are the same. -/
def same : Datum → Datum → Bool
  | .null, .null => true
  | .flag a, .flag b => a == b
  | .number a, .number b => a == b
  | .text a, .text b => a == b
  | .list a, .list b => sameItems a b
  | .table a, .table b => sameEntries a b
  | _, _ => false

def sameItems : List Datum → List Datum → Bool
  | [], [] => true
  | a :: as, b :: bs => same a b && sameItems as bs
  | _, _ => false

def sameEntries : List (String × Datum) → List (String × Datum) → Bool
  | [], [] => true
  | (k, a) :: as, (l, b) :: bs => k == l && (same a b && sameEntries as bs)
  | _, _ => false

end

mutual

theorem same_iff : ∀ a b : Datum, same a b = true ↔ a = b
  | .null, b => by cases b <;> simp [same]
  | .flag _, b => by cases b <;> simp [same]
  | .number _, b => by cases b <;> simp [same]
  | .text _, b => by cases b <;> simp [same]
  | .list as, b => by
    cases b with
    | list bs => simp [same, sameItems_iff as bs]
    | _ => simp [same]
  | .table as, b => by
    cases b with
    | table bs => simp [same, sameEntries_iff as bs]
    | _ => simp [same]

theorem sameItems_iff : ∀ as bs : List Datum, sameItems as bs = true ↔ as = bs
  | [], bs => by cases bs <;> simp [sameItems]
  | a :: as, bs => by
    cases bs with
    | nil => simp [sameItems]
    | cons b bs => simp [sameItems, same_iff a b, sameItems_iff as bs]

theorem sameEntries_iff : ∀ as bs : List (String × Datum), sameEntries as bs = true ↔ as = bs
  | [], bs => by cases bs <;> simp [sameEntries]
  | (k, a) :: as, bs => by
    cases bs with
    | nil => simp [sameEntries]
    | cons b bs =>
      obtain ⟨l, b⟩ := b
      simp [sameEntries, same_iff a b, sameEntries_iff as bs, and_assoc]

end

instance : DecidableEq Datum := fun a b => decidable_of_iff _ (same_iff a b)

/-! ### Kinds -/

/-- Name of the kind, as messages show it. -/
def kindName : Datum → String
  | .null => "NoneType"
  | .flag _ => "bool"
  | .number _ => "int"
  | .text _ => "str"
  | .list _ => "list"
  | .table _ => "dict"

/-- A text or a number as a datum. -/
def ofScalar : Scalar → Datum
  | .text s => .text s
  | .number n => .number n

def texts (xs : List String) : Datum :=
  .list (xs.map .text)

def numbers (xs : List Int) : Datum :=
  .list (xs.map .number)

/-- The entries of a table. -/
def entries? : Datum → Option (List (String × Datum))
  | .table entries => some entries
  | _ => none

/-- The datum, or `default` if there is none. -/
def getD (d default : Datum) : Datum :=
  if d = .null then default else d

@[simp] theorem getD_number (n : Int) (default : Datum) : (number n).getD default = .number n := by
  simp [getD]

/-- The datum counts as nothing: there is nothing in it, or it is zero or a no. -/
def isVoid : Datum → Bool
  | .null => true
  | .flag b => !b
  | .number n => n == 0
  | .text s => s == ""
  | .list items => items.isEmpty
  | .table entries => entries.isEmpty

/-! ### Showing -/

mutual

/-- The datum as messages show it. -/
def shown : Datum → String
  | .null => "None"
  | .flag b => if b then "True" else "False"
  | .number n => String.ofList (Numeral.intDigits n)
  | .text s => String.ofList (Text.quote s.toList)
  | .list items => "[" ++ Text.joinWith ", " (shownItems items) ++ "]"
  | .table entries => "\x7b" ++ Text.joinWith ", " (shownEntries entries) ++ "\x7d"

def shownItems : List Datum → List String
  | [] => []
  | d :: ds => shown d :: shownItems ds

def shownEntries : List (String × Datum) → List String
  | [] => []
  | (key, d) :: rest =>
    (String.ofList (Text.quote key.toList) ++ ": " ++ shown d) :: shownEntries rest

end

mutual

/-- Some number in the datum is too large to be written. -/
def isOversized : Datum → Bool
  | .number n => Numeral.isTooLarge n
  | .list items => anyOversized items
  | .table entries => anyEntryOversized entries
  | _ => false

def anyOversized : List Datum → Bool
  | [] => false
  | d :: ds => isOversized d || anyOversized ds

def anyEntryOversized : List (String × Datum) → Bool
  | [] => false
  | (_, d) :: rest => isOversized d || anyEntryOversized rest

end

/-- The datum as messages show it, if it can be written. -/
def literal (d : Datum) : Except NumeralError String :=
  if d.isOversized then .error .tooLarge else .ok d.shown

/-- A text as it is, anything else as messages show it. -/
def plain : Datum → Except NumeralError String
  | .text s => .ok s
  | d => d.literal

/-! ### Numbers -/

/-- Why a datum is not taken for a number. -/
inductive Misfit where
  /-- Numbers do not compare with data of the kind. -/
  | incomparable (relation kind : String)
  /-- Data of the kind are no numbers. -/
  | noNumber (kind : String)
  | numeral (e : NumeralError)
deriving DecidableEq, Repr

def Misfit.message : Misfit → String
  | .incomparable relation kind =>
    "'" ++ relation ++ "' not supported between instances of 'int' and '" ++ kind ++ "'"
  | .noNumber kind =>
    "int() argument must be a string, a bytes-like object or a real number, not '" ++ kind ++ "'"
  | .numeral e => e.message

/-- The datum as a number, if it is of a kind that numbers compare with. -/
def number? : Datum → Option Int
  | .number n => some n
  | .flag b => some (if b then 1 else 0)
  | _ => none

/-- The datum as a number, or else as the numeral of one. -/
def toInt : Datum → Except Misfit Int
  | .text s => (Numeral.readInt 10 s.toList).mapError .numeral
  | .number n => .ok n
  | .flag b => .ok (if b then 1 else 0)
  | d => .error (.noNumber d.kindName)

end Datum

end PostSearch
